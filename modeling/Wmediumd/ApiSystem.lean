import Wmediumd.ApiSocket
import Wmediumd.Clients

/-!
# An API client inside wmediumd

The connection of `Wmediumd.ApiSocket` as wmediumd runs it. A handler run on the client's socket
is the step of `Input.apiMessage` whose read is what `apiHandlerRead` takes from the stream, and
the response the connection receives is the header that step wrote. Every other input is a step
of wmediumd that leaves the connection alone, except that `wmediumd_send_to_client` pushes to the
client each copy and transmit status the step sends it, and blocks after each push until its
read of the ACK returns. The model takes a step of wmediumd at once and then lets it push its
messages one by one, each followed by its read back; the client writes whenever it likes.

Every run of the system is a run of wmediumd and, on the connection, a run of `ApiConn.step`
with enabled events, the response of each handler run being an ACK or an INVALID.
-/

namespace Wmediumd

/-- Whether `wmediumd_send_to_client` writes `o` to client `c`: a copy that `c` is among the
recipients of, or a transmit status for `c`. -/
def Out.pushedTo (c : ClientPtr) : Out → Bool
  | .rx _ _ _ rs => rs.contains c
  | .txStatus _ c' _ => c' == c
  | _ => false

/-- The response header the handler wrote to `c` among `outs`; INVALID when it wrote none. -/
def responseTo (c : ClientPtr) : List Out → WmediumdMessage
  | [] => .invalid
  | .apiResponse c' _ r :: outs => if c' = c then r else responseTo c outs
  | _ :: outs => responseTo c outs

/-- The API client whose socket an input runs the handler of. -/
def Input.apiClient : Input → Option ClientPtr
  | .apiMessage c _ _ _ => some c
  | _ => none

theorem responseTo_ghost_append (c : ClientPtr) (rest : List Out) :
    ∀ l : List Out, (∀ o ∈ l, o.isGhost = true) → responseTo c (l ++ rest) = responseTo c rest
  | [], _ => rfl
  | o :: l, h => by
    have hg := h o (List.mem_cons_self o l)
    have ih := responseTo_ghost_append c rest l fun o' h' => h o' (List.mem_cons_of_mem o h')
    cases o with
    | queued | cancelled => exact ih
    | txStatus | rx | apiResponse => cases hg

/-- The dispatch answers every request it returns from with an ACK or an INVALID. -/
theorem apiDispatch_response {m : Medium} {env : TxEnv} {ctx mid : Ctx} {c : ClientPtr}
    {client : Client} {req : ApiRequest} {o : List Out} {r : WmediumdMessage}
    (h : apiDispatch m env ctx c client req = .ok (mid, o, r)) : r = .ack ∨ r = .invalid := by
  rcases apiDispatch_cases h with ⟨-, -, -, rfl⟩ | ⟨-, -, -, rfl, -⟩ | ⟨-, -, -, rfl, -⟩ |
    ⟨-, -, rfl⟩
  · exact .inl rfl
  · exact .inl rfl
  · exact .inl rfl
  · exact .inr rfl

/-- A handler run on the socket of `c` writes it an ACK or an INVALID, or nothing after a failed
read; either way the response it is read as is an ACK or an INVALID. -/
theorem wmediumdApiHandler_response {m : Medium} {env : TxEnv} {ctx ctx' : Ctx} {c : ClientPtr}
    {read : ApiRead} {written : Bool} {outs : List Out}
    (h : wmediumdApiHandler m env ctx c read written = .ok (ctx', outs)) :
    responseTo c outs = .ack ∨ responseTo c outs = .invalid := by
  obtain ⟨client, hcl, ⟨-, hr⟩ | ⟨req, mid, o, r, -, hd, hw⟩⟩ := wmediumdApiHandler_cases h
  · have hg := (wmediumdRemoveClient_clientHeap hr).2.2
    rw [← List.append_nil outs, responseTo_ghost_append c [] outs hg]
    exact .inr rfl
  · have ho := (apiDispatch_clientHeap hcl hd).2.2.2
    have hresp : responseTo c (o ++ [.apiResponse c req r] ++ ([] : List Out)) = r := by
      rw [List.append_assoc, responseTo_ghost_append c _ o ho]
      simp [responseTo]
    rcases hw with ⟨-, -, rfl⟩ | ⟨-, removed, hrm, rfl⟩
    · rw [← List.append_nil (o ++ _), hresp]
      exact apiDispatch_response hd
    · rw [List.append_assoc, responseTo_ghost_append c _ o ho, List.singleton_append]
      simpa [responseTo] using apiDispatch_response hd

/-- wmediumd and API client `c`: the state of wmediumd, the connection, and what the step of
wmediumd in progress has still to push to `c`. -/
structure ApiSys where
  ctx : Ctx
  conn : ApiConn
  pending : List Out

section System

variable (m : Medium) (nlmsgConvert : Bytes → Option NlMsg) (c : ClientPtr)

/-- One step of the system, labelled by the event it makes on the connection: the client writes
a request or an ACK; wmediumd, neither blocked nor pushing, runs the handler of an input that is
not on the client's socket; it runs `wmediumd_api_handler` on the client's socket; it pushes the
next message of its step; or its read back returns. -/
inductive ApiSysStep : ApiSys → Option ApiEvent → ApiSys → Prop
  | request {sys : ApiSys} {type : UInt32} {data : Bytes} :
      (ApiEvent.request type data).Enabled sys.conn →
      ApiSysStep sys (some (.request type data))
        { sys with conn := sys.conn.step nlmsgConvert (.request type data) }
  | ack {sys : ApiSys} : ApiEvent.ack.Enabled sys.conn →
      ApiSysStep sys (some .ack) { sys with conn := sys.conn.step nlmsgConvert .ack }
  | run {sys : ApiSys} {input : Input} {outs : List Out} {ctx' : Ctx} :
      sys.pending = [] → sys.conn.waiting = false → input.apiClient ≠ some c →
      Step m sys.ctx input outs ctx' →
      ApiSysStep sys none ⟨ctx', sys.conn, outs.filter (Out.pushedTo c)⟩
  | handle {sys : ApiSys} {k₁ k₂ : Nat} {written : Bool} {env : TxEnv} {outs : List Out}
      {ctx' : Ctx} : sys.pending = [] → sys.conn.Readable k₁ k₂ →
      Step m sys.ctx
        (.apiMessage c (apiHandlerRead nlmsgConvert sys.conn.up k₁ k₂).1 written env) outs ctx' →
      ApiSysStep sys (some (.handle k₁ k₂ written (responseTo c outs)))
        ⟨ctx', sys.conn.step nlmsgConvert (.handle k₁ k₂ written (responseTo c outs)),
          outs.filter (Out.pushedTo c)⟩
  | push {sys : ApiSys} {o : Out} {rest : List Out} : sys.pending = o :: rest →
      (ApiEvent.push o).Enabled sys.conn →
      ApiSysStep sys (some (.push o)) ⟨sys.ctx, sys.conn.step nlmsgConvert (.push o), rest⟩
  | readBack {sys : ApiSys} {k : Nat} : (ApiEvent.readBack k).Enabled sys.conn →
      ApiSysStep sys (some (.readBack k))
        { sys with conn := sys.conn.step nlmsgConvert (.readBack k) }

/-- The systems reached from the moment `wmediumd_api_connected` accepted `c` in a state a run
of wmediumd reached, by steps that `allowed` admits. -/
inductive ApiSysReach (ids : List MacAddr) (interference useNetlink : Bool)
    (allowed : ApiSys → Option ApiEvent → Prop) : ApiSys → Prop
  | connect {ctx ctx' : Ctx} : Reachable m ids interference useNetlink ctx → ctx.nextClient = c →
      Step m ctx .apiConnected [] ctx' →
      ApiSysReach ids interference useNetlink allowed ⟨ctx', .init, []⟩
  | step {sys sys' : ApiSys} {ev : Option ApiEvent} :
      ApiSysReach ids interference useNetlink allowed sys →
      ApiSysStep m nlmsgConvert c sys ev sys' → allowed sys ev →
      ApiSysReach ids interference useNetlink allowed sys'

variable {m nlmsgConvert c}

/-- A step of the system is a step of wmediumd or leaves its state alone. -/
theorem ApiSysStep.ctx_step {sys sys' : ApiSys} {ev : Option ApiEvent}
    (h : ApiSysStep m nlmsgConvert c sys ev sys') :
    sys'.ctx = sys.ctx ∨ ∃ input outs, Step m sys.ctx input outs sys'.ctx := by
  cases h with
  | run _ _ _ hs => exact .inr ⟨_, _, hs⟩
  | handle _ _ hs => exact .inr ⟨_, _, hs⟩
  | _ => exact .inl rfl

/-- A step of the system makes its event on the connection, which that event's conditions allow,
or leaves the connection alone. -/
theorem ApiSysStep.conn_step {sys sys' : ApiSys} {ev : Option ApiEvent}
    (h : ApiSysStep m nlmsgConvert c sys ev sys') :
    match ev with
    | none => sys'.conn = sys.conn
    | some e => e.Enabled sys.conn ∧ sys'.conn = sys.conn.step nlmsgConvert e := by
  cases h with
  | request he => exact ⟨he, rfl⟩
  | ack he => exact ⟨he, rfl⟩
  | run => rfl
  | handle _ hr hs => exact ⟨⟨hr, wmediumdApiHandler_response hs.2⟩, rfl⟩
  | push _ he => exact ⟨he, rfl⟩
  | readBack he => exact ⟨he, rfl⟩

/-- The state of wmediumd in every reachable system is one a run of wmediumd reaches. -/
theorem ApiSysReach.reachable {ids : List MacAddr} {interference useNetlink : Bool}
    {allowed : ApiSys → Option ApiEvent → Prop} {sys : ApiSys}
    (h : ApiSysReach m nlmsgConvert c ids interference useNetlink allowed sys) :
    Reachable m ids interference useNetlink sys.ctx := by
  induction h with
  | connect hr _ hs =>
      obtain ⟨log, hrun⟩ := hr
      exact ⟨_, hrun.step hs⟩
  | step _ hs _ ih =>
      rcases hs.ctx_step with heq | ⟨input, outs, hs'⟩
      · exact heq ▸ ih
      · obtain ⟨log, hrun⟩ := ih
        exact ⟨_, hrun.step hs'⟩

/-- The connection in every system reached by steps whose events `allowed` admits is one
`ApiConn.step` reaches by such events. -/
theorem ApiSysReach.apiReach {ids : List MacAddr} {interference useNetlink : Bool}
    {allowed : ApiConn → ApiEvent → Prop} {sys : ApiSys}
    (h : ApiSysReach m nlmsgConvert c ids interference useNetlink
      (fun sys ev => ∀ e, ev = some e → allowed sys.conn e) sys) :
    ApiReach nlmsgConvert allowed sys.conn := by
  induction h with
  | connect => exact .init
  | @step sys sys' ev _ hs ha ih =>
      have hc := hs.conn_step
      cases ev with
      | none => exact hc ▸ ih
      | some e => exact hc.2 ▸ .step ih hc.1 (ha e rfl)

end System

/-! ## Lock-step use -/

/-- On every lock-step run of wmediumd with an API client, wmediumd's state is one its runs
reach; the client stays connected; `wmediumd_api_handler` has handled the client's requests in
order, answered each with exactly one ACK or INVALID header and left the requests it has not
reached whole in the stream; and the read back of every push of a copy or a transmit status has
read the client's ACK. -/
theorem api_lockstep_in_order {m : Medium} {nlmsgConvert : Bytes → Option NlMsg} {c : ClientPtr}
    {ids : List MacAddr} {interference useNetlink : Bool} {sys : ApiSys}
    (h : ApiSysReach m nlmsgConvert c ids interference useNetlink
      (fun sys ev => ∀ e, ev = some e → LockStep sys.conn e) sys) :
    Reachable m ids interference useNetlink sys.ctx ∧ sys.conn.connected = true ∧
      sys.conn.handled = (sys.conn.sent.take sys.conn.handled.length).map
        (fun req => .request (decodeRequest nlmsgConvert req.1 req.2)) ∧
      sys.conn.down.countP ApiDown.isResponse = sys.conn.handled.length ∧
      (∀ r, ApiDown.response r ∈ sys.conn.down → r = .ack ∨ r = .invalid) ∧
      (∀ b ∈ sys.conn.readBack, b = ackBytes) ∧
      (sys.conn.waiting = false →
        sys.conn.up = (sys.conn.sent.drop sys.conn.handled.length).flatMap requestBytes) :=
  ⟨h.reachable, h.apiReach.lockstep_in_order⟩

/-- Client 1 connects to wmediumd with the kernel and stations `addrA` and `addrB`, and
registers; the kernel sends a frame from `addrA` to `addrB`, which no client is bound to, and
its copy is pushed to client 1, which acknowledges it. -/
theorem api_lockstep_in_order_sample :
    ∃ sys, ApiSysReach perfectMedium (fun _ => none) 1 [addrA, addrB] false true
        (fun sys ev => ∀ e, ev = some e → LockStep sys.conn e) sys ∧
      sys.conn.handled = [.request .register] ∧ sys.conn.readBack = [ackBytes] ∧
      Reachable perfectMedium [addrA, addrB] false true sys.ctx ∧ sys.conn.connected = true ∧
      sys.conn.handled = (sys.conn.sent.take sys.conn.handled.length).map
        (fun req => .request (decodeRequest (fun _ => none) req.1 req.2)) ∧
      sys.conn.down.countP ApiDown.isResponse = sys.conn.handled.length ∧
      (∀ r, ApiDown.response r ∈ sys.conn.down → r = .ack ∨ r = .invalid) ∧
      (∀ b ∈ sys.conn.readBack, b = ackBytes) ∧
      (sys.conn.waiting = false →
        sys.conn.up = (sys.conn.sent.drop sys.conn.handled.length).flatMap requestBytes) := by
  have r₀ := @ApiSysReach.connect perfectMedium (fun _ => none) 1 [addrA, addrB] false true
    (fun sys ev => ∀ e, ev = some e → LockStep sys.conn e) _ _ ⟨[], .refl⟩ rfl ⟨trivial, rfl⟩
  have r₁ := r₀.step (@ApiSysStep.request _ _ _ _ 2 [] rfl) (by rintro _ ⟨⟩; exact ⟨rfl, by decide⟩)
  have r₂ := r₁.step (@ApiSysStep.handle _ _ _ _ 8 0 true (txDraws 0) _ _ rfl
    (by unfold ApiConn.Readable; decide) ⟨⟨false, rfl⟩, rfl⟩) (by rintro _ ⟨⟩; exact ⟨rfl, rfl, rfl⟩)
  have r₃ := r₂.step (@ApiSysStep.run _ _ _ _
    (.netlinkMessage (dataFrame addrA addrB) (txDraws 0)) _ _ rfl rfl nofun
    ⟨rfl, rfl⟩) (by rintro _ ⟨⟩)
  have r₄ := r₃.step (@ApiSysStep.run _ _ _ _ (.timePasses 378) _ _ rfl rfl
    nofun ⟨Nat.zero_le _, rfl⟩) (by rintro _ ⟨⟩)
  have r₅ := r₄.step (@ApiSysStep.run _ _ _ _ (.jobFired (.frame 0) rxQuiet) _ _ rfl rfl
    nofun ⟨⟨by decide, rfl⟩, rfl⟩) (by rintro _ ⟨⟩)
  have r₆ := r₅.step (ApiSysStep.push rfl ⟨rfl, rfl⟩) (by rintro _ ⟨⟩; rfl)
  have r₇ := r₆.step (ApiSysStep.ack ⟨rfl, by decide⟩) (by rintro _ ⟨⟩; trivial)
  have r₈ := r₇.step (@ApiSysStep.readBack _ _ _ _ 8 ⟨rfl, by decide, by decide⟩)
    (by rintro _ ⟨⟩; rfl)
  exact ⟨_, r₈, rfl, rfl, api_lockstep_in_order r₈⟩

/-! ## A request in flight during a push -/

/-- The same client registers and gets the copy pushed, but writes an `UNREGISTER` before its
ACK: the read back of the push takes the request's header for the ACK, and the handler then
reads the ACK as a request of type ACK, answered INVALID. The `UNREGISTER` is never handled and
the client stays in `ctx->clients`. A request header that arrives in two reads disconnects the
client instead, and wmediumd frees it. -/
theorem api_push_reads_request :
    (∃ sys, ApiSysReach perfectMedium (fun _ => none) 1 [addrA, addrB] false true
        (fun _ _ => True) sys ∧
      sys.conn.sent =
        [(WmediumdMessage.register.value, []), (WmediumdMessage.unregister.value, [])] ∧
      sys.conn.readBack = [requestBytes (WmediumdMessage.unregister.value, [])] ∧
      sys.conn.handled = [.request .register, .request (.unknown WmediumdMessage.ack.value)] ∧
      1 ∈ sys.ctx.clients) ∧
    ∃ sys, ApiSysReach perfectMedium (fun _ => none) 1 [addrA, addrB] false true
        (fun _ _ => True) sys ∧
      sys.conn.sent = [(WmediumdMessage.register.value, [])] ∧ sys.conn.handled = [.failed] ∧
      sys.conn.connected = false ∧ sys.ctx.clientHeap 1 = none := by
  have r₀ := @ApiSysReach.connect perfectMedium (fun _ => none) 1 [addrA, addrB] false true
    (fun _ _ => True) _ _ ⟨[], .refl⟩ rfl ⟨trivial, rfl⟩
  have r₁ := r₀.step (@ApiSysStep.request _ _ _ _ 2 [] rfl) trivial
  refine ⟨?_, _, r₁.step (@ApiSysStep.handle _ _ _ _ 4 0 true (txDraws 0) _ _ rfl
    (by unfold ApiConn.Readable; decide) ⟨⟨false, rfl⟩, rfl⟩) trivial, rfl, rfl, rfl, rfl⟩
  have r₂ := r₁.step (@ApiSysStep.handle _ _ _ _ 8 0 true (txDraws 0) _ _ rfl
    (by unfold ApiConn.Readable; decide) ⟨⟨false, rfl⟩, rfl⟩) trivial
  have r₃ := r₂.step (@ApiSysStep.run _ _ _ _
    (.netlinkMessage (dataFrame addrA addrB) (txDraws 0)) _ _ rfl rfl nofun
    ⟨rfl, rfl⟩) trivial
  have r₄ := r₃.step (@ApiSysStep.run _ _ _ _ (.timePasses 378) _ _ rfl rfl
    nofun ⟨Nat.zero_le _, rfl⟩) trivial
  have r₅ := r₄.step (@ApiSysStep.run _ _ _ _ (.jobFired (.frame 0) rxQuiet) _ _ rfl rfl
    nofun ⟨⟨by decide, rfl⟩, rfl⟩) trivial
  have r₆ := r₅.step (ApiSysStep.push rfl ⟨rfl, rfl⟩) trivial
  -- the client writes its request while the push waits for the ACK
  have r₇ := r₆.step (@ApiSysStep.request _ _ _ _ 3 [] rfl) trivial
  have r₈ := r₇.step (@ApiSysStep.readBack _ _ _ _ 8 ⟨rfl, by decide, by decide⟩) trivial
  have r₉ := r₈.step (ApiSysStep.ack ⟨rfl, by decide⟩) trivial
  have r₁₀ := r₉.step (@ApiSysStep.handle _ _ _ _ 8 0 true (txDraws 0) _ _ rfl
    (by unfold ApiConn.Readable; decide) ⟨⟨true, rfl⟩, rfl⟩) trivial
  exact ⟨_, r₁₀, rfl, rfl, rfl, by decide⟩

end Wmediumd
