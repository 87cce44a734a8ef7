import Wmediumd.Netlink
import Wmediumd.Deliver

/-!
# The event loop

`main` registers the stations, the netlink client, the vhost-user server, the API socket and
the interference job, then loops: the scheduler fires the job due at the current time, and the
loop calls a handler for each ready file descriptor. Every handler runs to completion before
the next one starts. `Input` lists what can happen next and `wmediumdStep` is the handler it
runs; `Step` adds the conditions under which the environment can offer that input: a handler
is only called for a connected client of its kind, and the scheduler fires a pending job only
at its start time, with a clock that never goes back.
-/

namespace Wmediumd

/-- `wmediumd_vu_connected`: a new vhost-user client, added to `ctx->clients`. -/
def wmediumdVuConnected (ctx : Ctx) : Ctx :=
  let c := ctx.nextClient
  { ctx with nextClient := c + 1, clients := c :: ctx.clients,
             clientHeap := Function.update ctx.clientHeap c (some ⟨.vhostUser, true⟩) }

/-- `wmediumd_api_connected`: a new API client, with `client->list` initialised empty. -/
def wmediumdApiConnected (ctx : Ctx) : Ctx :=
  let c := ctx.nextClient
  { ctx with nextClient := c + 1,
             clientHeap := Function.update ctx.clientHeap c (some ⟨.apiSock, false⟩) }

/-- What `wmediumd_api_handler` got from its two reads: a whole request, or a failure (a short
header, `data_len > 1024 * 1024`, a failed `malloc` or a short payload). -/
inductive ApiRead
  | request (req : ApiRequest)
  | failed

/-- The `switch (hdr.type)` of `wmediumd_api_handler` for client `c`: the new state, the
messages sent on the way and the response. -/
def apiDispatch (m : Medium) (env : TxEnv) (ctx : Ctx) (c : ClientPtr) (client : Client) :
    ApiRequest → Except Fault (Ctx × List Out × WmediumdMessage)
  | .register =>
      if client.linked then .ok (ctx, [], .invalid)
      else .ok ({ ctx with clients := c :: ctx.clients,
                           clientHeap := Function.update ctx.clientHeap c
                             (some { client with linked := true }) }, [], .ack)
  | .unregister =>
      if client.linked then
        .ok ({ ctx with clients := ctx.clients.erase c,
                        clientHeap := Function.update ctx.clientHeap c
                          (some { client with linked := false }) }, [], .ack)
      else .ok (ctx, [], .invalid)
  | .netlink none => .ok (ctx, [], .invalid)
  | .netlink (some msg) => do
      let (ctx, outs) ← processMessages m env ctx msg c
      pure (ctx, outs, .ack)
  | .unknown _ => .ok (ctx, [], .invalid)

/-- `wmediumd_api_handler` for client `c`; `written` says whether the response header was
written whole. A failed read or write disconnects the client. -/
def wmediumdApiHandler (m : Medium) (env : TxEnv) (ctx : Ctx) (c : ClientPtr) (read : ApiRead)
    (written : Bool) : Except Fault (Ctx × List Out) :=
  match ctx.clientHeap c with
  | none => .error (.danglingClient c)
  | some client =>
      match read with
      | .failed => wmediumdRemoveClient ctx c
      | .request req => do
          let (ctx, outs, response) ← apiDispatch m env ctx c client req
          let outs := outs ++ [.apiResponse c req response]
          if written then pure (ctx, outs)
          else do
            let (ctx, removed) ← wmediumdRemoveClient ctx c
            pure (ctx, outs ++ removed)

/-- What a request does, in full: a netlink message goes to `_process_messages` and is
answered with an ACK; a `REGISTER` of an unlinked client links it and an `UNREGISTER` of a
linked one unlinks it, answered with an ACK; anything else changes nothing and is answered
INVALID. -/
theorem apiDispatch_cases {m : Medium} {env : TxEnv} {ctx mid : Ctx} {c : ClientPtr}
    {client : Client} {req : ApiRequest} {o : List Out} {r : WmediumdMessage}
    (h : apiDispatch m env ctx c client req = .ok (mid, o, r)) :
    (∃ msg, req = .netlink (some msg) ∧ processMessages m env ctx msg c = .ok (mid, o) ∧
        r = .ack) ∨
      (req = .register ∧ client.linked = false ∧ o = [] ∧ r = .ack ∧
        mid = { ctx with clients := c :: ctx.clients,
                         clientHeap := Function.update ctx.clientHeap c
                           (some { client with linked := true }) }) ∨
      (req = .unregister ∧ client.linked = true ∧ o = [] ∧ r = .ack ∧
        mid = { ctx with clients := ctx.clients.erase c,
                         clientHeap := Function.update ctx.clientHeap c
                           (some { client with linked := false }) }) ∨
      (mid = ctx ∧ o = [] ∧ r = .invalid) := by
  cases req with
  | netlink msg =>
      cases msg with
      | none =>
          cases h
          exact .inr (.inr (.inr ⟨rfl, rfl, rfl⟩))
      | some msg =>
          simp only [apiDispatch, bind_eq_ok, pure_eq_ok, Except.ok.injEq, Prod.mk.injEq] at h
          obtain ⟨⟨ctx₁, o₁⟩, hp, rfl, rfl, rfl⟩ := h
          exact .inl ⟨msg, rfl, hp, rfl⟩
  | unknown _ =>
      cases h
      exact .inr (.inr (.inr ⟨rfl, rfl, rfl⟩))
  | register =>
      simp only [apiDispatch] at h
      split at h <;> cases h
      · exact .inr (.inr (.inr ⟨rfl, rfl, rfl⟩))
      · exact .inr (.inl ⟨rfl, Bool.eq_false_iff.2 ‹_›, rfl, rfl, rfl⟩)
  | unregister =>
      simp only [apiDispatch] at h
      split at h <;> cases h
      · exact .inr (.inr (.inl ⟨rfl, ‹_›, rfl, rfl, rfl⟩))
      · exact .inr (.inr (.inr ⟨rfl, rfl, rfl⟩))

/-- What the API handler of a live client does: a failed read removes the client; a request is
dispatched and answered, and a response that could not be written removes the client after. -/
theorem wmediumdApiHandler_cases {m : Medium} {env : TxEnv} {ctx ctx' : Ctx} {c : ClientPtr}
    {read : ApiRead} {written : Bool} {outs : List Out}
    (h : wmediumdApiHandler m env ctx c read written = .ok (ctx', outs)) :
    ∃ client, ctx.clientHeap c = some client ∧
      ((read = .failed ∧ wmediumdRemoveClient ctx c = .ok (ctx', outs)) ∨
        ∃ req mid o r, read = .request req ∧ apiDispatch m env ctx c client req = .ok (mid, o, r) ∧
          ((written = true ∧ ctx' = mid ∧ outs = o ++ [.apiResponse c req r]) ∨
            (written = false ∧ ∃ removed, wmediumdRemoveClient mid c = .ok (ctx', removed) ∧
              outs = o ++ [.apiResponse c req r] ++ removed))) := by
  unfold wmediumdApiHandler at h
  split at h
  · cases h
  · rename_i client hc
    refine ⟨client, hc, ?_⟩
    cases read with
    | failed => exact .inl ⟨rfl, h⟩
    | request req =>
        simp only [bind_eq_ok] at h
        obtain ⟨⟨mid, o, r⟩, hd, h⟩ := h
        refine .inr ⟨req, mid, o, r, rfl, hd, ?_⟩
        cases written with
        | true =>
            simp only [if_true, pure_eq_ok, Except.ok.injEq, Prod.mk.injEq] at h
            exact .inl ⟨rfl, h.1.symm, h.2.symm⟩
        | false =>
            simp only [Bool.false_eq_true, if_false, bind_eq_ok, pure_eq_ok, Except.ok.injEq,
              Prod.mk.injEq] at h
            obtain ⟨⟨ctx₁, removed⟩, hr, rfl, rfl⟩ := h
            exact .inr ⟨rfl, removed, hr, rfl⟩

/-- `wmediumd_intf_update` as a job: the matrix update, `job->start += 10000` and the job put
back into the scheduler. -/
def wmediumdIntfUpdateJob (ctx : Ctx) : Ctx :=
  { ctx with intf := ctx.intf.map (wmediumdIntfUpdate ctx.stations.length),
             intfStart := ctx.intfStart + 10000, sched := ctx.sched ++ [.intfUpdate] }

/-- What can happen next. -/
inductive Input
  /-- `process_messages_cb`: a message from the kernel, on `ctx->nl_client`. -/
  | netlinkMessage (msg : NlMsg) (env : TxEnv)
  | vhostUserConnected
  /-- `wmediumd_vu_handle`; `none` is a buffer `nlmsg_ok` rejects. -/
  | vhostUserMessage (client : ClientPtr) (msg : Option NlMsg) (env : TxEnv)
  | vhostUserDisconnected (client : ClientPtr)
  | apiConnected
  | apiMessage (client : ClientPtr) (read : ApiRead) (written : Bool) (env : TxEnv)
  /-- The scheduler takes `job` off its list and runs its callback. -/
  | jobFired (job : Job) (env : RxEnv)
  /-- The scheduler's clock moves to `t`. -/
  | timePasses (t : Nat)

/-- When the environment can offer an input. -/
def Enabled (ctx : Ctx) : Input → Prop
  | .netlinkMessage _ _ => ctx.nlClient.isSome
  | .vhostUserConnected => True
  | .vhostUserMessage c _ _ => ∃ linked, ctx.clientHeap c = some ⟨.vhostUser, linked⟩
  | .vhostUserDisconnected c => ∃ linked, ctx.clientHeap c = some ⟨.vhostUser, linked⟩
  | .apiConnected => True
  | .apiMessage c _ _ _ => ∃ linked, ctx.clientHeap c = some ⟨.apiSock, linked⟩
  | .jobFired j _ => j ∈ ctx.sched ∧ ctx.jobStart j = some ctx.now
  | .timePasses t => ctx.now ≤ t

/-- The handler an input runs. -/
def wmediumdStep (m : Medium) (ctx : Ctx) : Input → Except Fault (Ctx × List Out)
  | .netlinkMessage msg env =>
      match ctx.nlClient with
      | some c => processMessages m env ctx msg c
      | none => .ok (ctx, [])
  | .vhostUserConnected => .ok (wmediumdVuConnected ctx, [])
  | .vhostUserMessage c msg env =>
      match msg with
      | some msg => processMessages m env ctx msg c
      | none => .ok (ctx, [])
  | .vhostUserDisconnected c => wmediumdRemoveClient ctx c
  | .apiConnected => .ok (wmediumdApiConnected ctx, [])
  | .apiMessage c read written env => wmediumdApiHandler m env ctx c read written
  | .jobFired j env =>
      let ctx := { ctx with sched := ctx.sched.erase j }
      match j with
      | .frame p => wmediumdDeliverFrame m env ctx p
      | .intfUpdate => .ok (wmediumdIntfUpdateJob ctx, [])
  | .timePasses t => .ok ({ ctx with now := t }, [])

/-- One handler run: the input was offered and its handler returned. -/
def Step (m : Medium) (ctx : Ctx) (input : Input) (outs : List Out) (ctx' : Ctx) : Prop :=
  Enabled ctx input ∧ wmediumdStep m ctx input = .ok (ctx', outs)

/-- A run from `ctx₀`, with everything it sent and recorded, in order. -/
inductive Run (m : Medium) (ctx₀ : Ctx) : List Out → Ctx → Prop
  | refl : Run m ctx₀ [] ctx₀
  | step {log : List Out} {ctx ctx' : Ctx} {input : Input} {outs : List Out} :
      Run m ctx₀ log ctx → Step m ctx input outs ctx' → Run m ctx₀ (log ++ outs) ctx'

/-- The state `main` enters its loop with: the stations of `ifaces.ids` in order, each with its
address as hardware address and empty queues; the interference matrix and its job when
interference is on; and the netlink client, in `ctx->clients`, when netlink is used. -/
def initCtx (ids : List MacAddr) (interference useNetlink : Bool) : Ctx where
  stations := ids.enum.map fun ia => ⟨ia.1, ia.2, ia.2, none, stationInitQueues⟩
  frames := fun _ => none
  nextFrame := 0
  sched := if interference then [.intfUpdate] else []
  now := 0
  intfStart := 10000
  intf := if interference then some fun _ => ⟨0, 0, 0⟩ else none
  clients := if useNetlink then [0] else []
  clientHeap := if useNetlink then Function.update (fun _ => none) 0 (some ⟨.netlink, true⟩)
    else fun _ => none
  nextClient := 1
  nlClient := if useNetlink then some 0 else none

/-- The states a run of `main` reaches. -/
def Reachable (m : Medium) (ids : List MacAddr) (interference useNetlink : Bool) (ctx : Ctx) :
    Prop :=
  ∃ log, Run m (initCtx ids interference useNetlink) log ctx

instance (ctx : Ctx) : (input : Input) → Decidable (Enabled ctx input)
  | .netlinkMessage _ _ => inferInstanceAs (Decidable (ctx.nlClient.isSome = true))
  | .vhostUserConnected | .apiConnected => isTrue trivial
  | .vhostUserMessage c _ _ | .vhostUserDisconnected c =>
      inferInstanceAs (Decidable (∃ linked, ctx.clientHeap c = some ⟨.vhostUser, linked⟩))
  | .apiMessage c _ _ _ =>
      inferInstanceAs (Decidable (∃ linked, ctx.clientHeap c = some ⟨.apiSock, linked⟩))
  | .jobFired j _ => inferInstanceAs (Decidable (j ∈ ctx.sched ∧ ctx.jobStart j = some ctx.now))
  | .timePasses t => inferInstanceAs (Decidable (ctx.now ≤ t))

/-- The handler a step ran: `_process_messages` for a message of a client,
`wmediumd_remove_client` for a disconnection, the API handler, or the delivery of the frame whose
job fired. Every other step sends nothing, keeps the stations, and changes the interference
matrix only by `wmediumd_intf_update`. -/
theorem step_handler {m : Medium} {ctx ctx' : Ctx} {input : Input} {outs : List Out}
    (hs : Step m ctx input outs ctx') :
    (∃ env msg c, processMessages m env ctx msg c = .ok (ctx', outs)) ∨
      (∃ c, wmediumdRemoveClient ctx c = .ok (ctx', outs)) ∨
      (∃ env c read written, wmediumdApiHandler m env ctx c read written = .ok (ctx', outs)) ∨
      (∃ p env, input = .jobFired (.frame p) env ∧
        wmediumdDeliverFrame m env { ctx with sched := ctx.sched.erase (.frame p) } p =
          .ok (ctx', outs)) ∨
      (outs = [] ∧ ctx'.stations = ctx.stations ∧
        (ctx'.intf = ctx.intf ∨ ctx'.intf = ctx.intf.map (wmediumdIntfUpdate ctx.stations.length))) := by
  obtain ⟨-, h⟩ := hs
  cases input with
  | netlinkMessage msg env =>
      simp only [wmediumdStep] at h
      split at h
      · exact .inl ⟨env, msg, _, h⟩
      · cases h
        exact .inr (.inr (.inr (.inr ⟨rfl, rfl, .inl rfl⟩)))
  | vhostUserMessage c msg env =>
      cases msg with
      | some msg => exact .inl ⟨env, msg, c, h⟩
      | none =>
          cases h
          exact .inr (.inr (.inr (.inr ⟨rfl, rfl, .inl rfl⟩)))
  | vhostUserDisconnected c => exact .inr (.inl ⟨c, h⟩)
  | apiMessage c read written env => exact .inr (.inr (.inl ⟨env, c, read, written, h⟩))
  | jobFired j env =>
      cases j with
      | frame p => exact .inr (.inr (.inr (.inl ⟨p, env, rfl, h⟩)))
      | intfUpdate =>
          cases h
          exact .inr (.inr (.inr (.inr ⟨rfl, rfl, .inr rfl⟩)))
  | vhostUserConnected | apiConnected | timePasses _ =>
      cases h
      exact .inr (.inr (.inr (.inr ⟨rfl, rfl, .inl rfl⟩)))

/-! ## Sample inputs

Two stations `addrA` and `addrB`, the frames the kernel submits for them, and links and draws for
the runs of the later modules.
-/

/-- Two station addresses for the runs below. -/
def addrA : MacAddr := ⟨[2, 0, 0, 0, 0, 0], rfl⟩
def addrB : MacAddr := ⟨[2, 0, 0, 0, 1, 0], rfl⟩

/-- A `HWSIM_CMD_FRAME` message from the radio `hwaddr` with the attributes the kernel sends:
the frame, the flags, the rate table and a zero cookie. -/
def frameMessage (hwaddr : MacAddr) (data txInfo flags : Bytes) : NlMsg :=
  ⟨hwsimCmdFrame, [(.addrTransmitter, hwaddr.octets), (.frame, data), (.flags, flags),
    (.txInfo, txInfo), (.cookie, List.replicate 8 0)]⟩

/-- The 16 bytes `_process_messages` requires: frame control, duration, `addr1`, `addr2`. -/
def shortHeader (fc0 fc1 : UInt8) (dst src : MacAddr) : Bytes :=
  [fc0, fc1, 0, 0] ++ dst.octets ++ src.octets

/-- The error-probability link model with no loss on any link, and 1 Mb/s for every rate. -/
def perfectMedium : Medium := ⟨.errorProbMatrix fun _ => 0, fun _ _ => 10, fun _ _ _ _ => 0⟩

/-- The draws of `queue_frame`: `drand48()` gives 1/2, no interference offset, and `fading`. -/
def txDraws (fading : Int) : TxEnv := ⟨fun _ => mkRat 1 2, 0, fading⟩

/-- The draws of `wmediumd_deliver_frame`: no fading, no interference offset, 1/2. -/
def rxQuiet : RxEnv := ⟨fun _ => 0, fun _ => 0, fun _ => mkRat 1 2⟩

/-- A data frame from `src` to `dst` with one MRR row of one attempt at rate index 0. -/
def dataFrame (src dst : MacAddr) : NlMsg :=
  frameMessage src (shortHeader 0x08 0 dst src) [0, 1] [0, 0, 0, 0]

/-- A run that queues, delivers and cancels frames. A vhost-user client (1) connects; the kernel
(0) sends a frame from `addrA` to `addrB` and client 1 one from `addrB` to `addrA`, each taking
378 µs, so frame 1 starts after frame 0. Frame 0 is delivered at 378 µs: its copy goes to
client 1, which `addrB` is bound to, and its status to the kernel. The kernel sends frame 2;
client 1 disconnects, which cancels frame 1 and unbinds `addrB`; frame 2 is delivered at
1134 µs, and its copy goes to `ctx->clients`. Last the kernel sends frame 3 from `addrB`, which
stays queued. -/
theorem sample_run : ∃ f₀ ac₀ f₁ ac₁ msg₀ r₀ f₂ ac₂ msg₂ r₂ f₃ ac₃ ctx,
    Run perfectMedium (initCtx [addrA, addrB] false true)
      [.queued 0 f₀ ac₀ 0, .queued 1 f₁ ac₁ 0, .rx 0 1 msg₀ [1], .txStatus 0 0 r₀,
        .queued 2 f₂ ac₂ 378, .cancelled 1, .rx 2 1 msg₂ [0], .txStatus 2 0 r₂,
        .queued 3 f₃ ac₃ 1134] ctx ∧
      f₀.start = 378 ∧ f₁.start = 756 ∧ f₂.start = 1134 ∧ ctx.frames 3 = some f₃ := by
  have r₁ := Run.step (@Run.refl perfectMedium (initCtx [addrA, addrB] false true))
    (show Step _ _ .vhostUserConnected _ _ from ⟨trivial, rfl⟩)
  have r₂ := r₁.step
    (show Step _ _ (.netlinkMessage (dataFrame addrA addrB) (txDraws 0)) _ _ from ⟨rfl, rfl⟩)
  have r₃ := r₂.step (show Step _ _ (.vhostUserMessage 1 (some (dataFrame addrB addrA))
    (txDraws 0)) _ _ from ⟨⟨true, rfl⟩, rfl⟩)
  have r₄ := r₃.step (show Step _ _ (.timePasses 378) _ _ from ⟨Nat.zero_le _, rfl⟩)
  have r₅ := r₄.step (show Step _ _ (.jobFired (.frame 0) rxQuiet) _ _ from ⟨⟨by decide, rfl⟩, rfl⟩)
  have r₆ := r₅.step
    (show Step _ _ (.netlinkMessage (dataFrame addrA addrB) (txDraws 0)) _ _ from ⟨rfl, rfl⟩)
  have r₇ := r₆.step (show Step _ _ (.vhostUserDisconnected 1) _ _ from ⟨⟨true, rfl⟩, rfl⟩)
  have r₈ := r₇.step (show Step _ _ (.timePasses 1134) _ _ from ⟨Nat.le_of_ble_eq_true rfl, rfl⟩)
  have r₉ := r₈.step (show Step _ _ (.jobFired (.frame 2) rxQuiet) _ _ from ⟨⟨by decide, rfl⟩, rfl⟩)
  have r₁₀ := r₉.step
    (show Step _ _ (.netlinkMessage (dataFrame addrB addrA) (txDraws 0)) _ _ from ⟨rfl, rfl⟩)
  exact ⟨_, _, _, _, _, _, _, _, _, _, _, _, _, r₁₀, rfl, rfl, rfl, rfl⟩

/-! ## Inputs the code does not survive -/

/-- From the initial state, a 10-byte `HWSIM_ATTR_TX_INFO` gives `tx_rates_count = 5`, and the
MRR walk reads row 4 of the 4-row table. -/
theorem step_long_tx_info (m : Medium) (env : TxEnv) :
    let input := Input.netlinkMessage
      (frameMessage addrA (shortHeader 0x08 0 addrB addrA) (List.replicate 10 0) [0, 0, 0, 0]) env
    Enabled (initCtx [addrA, addrB] false true) input ∧
      wmediumdStep m (initCtx [addrA, addrB] false true) input = .error (.txRatesOverrun 4) :=
  ⟨rfl, rfl⟩

/-- From the initial state, a 16-byte QoS data frame passes the length check, and its
classification reads the QoS-control octet at offset 24. -/
theorem step_short_qos_data (m : Medium) (env : TxEnv) :
    let input := Input.netlinkMessage
      (frameMessage addrA (shortHeader 0x88 0 addrB addrA) [] [0, 0, 0, 0]) env
    Enabled (initCtx [addrA, addrB] false true) input ∧
      wmediumdStep m (initCtx [addrA, addrB] false true) input = .error (.frameOverread 24) :=
  ⟨rfl, rfl⟩

end Wmediumd
