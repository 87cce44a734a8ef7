import Wmediumd.Mrr

/-!
# Delivery, transmit status and client removal

`wmediumd_deliver_frame` runs when a frame's job fires: it unlinks the frame, fans an
acknowledged frame out to its receivers (every other station for a multicast destination, the
stations with the destination address otherwise), records interference, reports the transmit
status to the frame's `src` client and frees the frame. `wmediumd_remove_client` clears every
station binding to a client, unlinks and deschedules every queued frame whose `src` is that
client, and frees the client.
-/

namespace Wmediumd

/-- The clients `send_cloned_frame_msg` writes to: the receiver's bound client, or every client
of `ctx->clients`. -/
def clonedRecipients (ctx : Ctx) (dst : Station) : List ClientPtr :=
  match dst.client with
  | some c => [c]
  | none => ctx.clients

/-- `getpagesize()` on the hosts wmediumd runs on: the buffer libnl-3's `nlmsg_alloc` gives a
message. -/
def nlmsgDefaultSize : Nat := 4096

/-- `NLA_ALIGN`: a length rounded up to a multiple of 4. -/
def nlaAlign (len : Nat) : Nat := (len + 3) / 4 * 4

/-- `nla_put` of libnl-3 on a message of `len` bytes: the attribute adds its 4-byte header and
its payload, padded to 4 bytes, and fails when the message would outgrow its buffer. -/
def nlaPut (len attrLen : Nat) : Option Nat :=
  let tlen := nlaAlign len + nlaAlign (4 + attrLen)
  if tlen ≤ nlmsgDefaultSize then some tlen else none

/-- The length of the message `send_cloned_frame_msg` builds for a frame of `dataLen` bytes, or
`none` when one of its `nla_put` calls fails. After `genlmsg_put` the netlink and generic netlink
headers take 20 bytes; then come the receiver address, the frame and three `u32` attributes. -/
def clonedMsgLen (dataLen : Nat) : Option Nat := do
  let len ← nlaPut 20 ethAlen
  let len ← nlaPut len dataLen
  let len ← nlaPut len 4
  let len ← nlaPut len 4
  nlaPut len 4

theorem nlaPut_eq_some {len attrLen t : Nat} :
    nlaPut len attrLen = some t ↔
      t = nlaAlign len + nlaAlign (4 + attrLen) ∧ t ≤ nlmsgDefaultSize := by
  unfold nlaPut
  dsimp only
  split <;> simp_all [eq_comm]

/-- The message of a frame fits its buffer exactly when the frame has at most 4036 bytes. -/
theorem clonedMsgLen_isSome (dataLen : Nat) :
    (clonedMsgLen dataLen).isSome = decide (dataLen ≤ 4036) := by
  rw [Bool.eq_iff_iff, decide_eq_true_iff, Option.isSome_iff_exists]
  simp only [clonedMsgLen, Option.bind_eq_bind, Option.bind_eq_some, nlaPut_eq_some, nlaAlign,
    nlmsgDefaultSize, ethAlen, and_assoc, exists_eq_left, exists_and_left, exists_eq_right_right,
    exists_eq_right]
  omega

/-- `send_cloned_frame_msg` for frame `p` at station `k`. Its `rate_idx` and `signal` arguments
are not used: the message carries `HWSIM_ATTR_RX_RATE` 1 and `HWSIM_ATTR_SIGNAL` -50. A message
that does not fit its buffer is freed unsent, and the call writes to no client. -/
def sendClonedFrameMsg (ctx : Ctx) (p : FramePtr) (k : Nat) (dst : Station) (data : Bytes)
    (freq : UInt32) : Out :=
  .rx p k ⟨dst.hwaddr, data, 1, freq, -50⟩
    (if (clonedMsgLen data.length).isSome then clonedRecipients ctx dst else [])

/-- A copy of a frame of more than 4036 bytes is written to no client. -/
theorem sendClonedFrameMsg_of_long {ctx : Ctx} {p : FramePtr} {k : Nat} {dst : Station}
    {data : Bytes} {freq : UInt32} (h : 4036 < data.length) :
    sendClonedFrameMsg ctx p k dst data freq = .rx p k ⟨dst.hwaddr, data, 1, freq, -50⟩ [] := by
  simp [sendClonedFrameMsg, clonedMsgLen_isSome, Nat.not_le.2 h]

/-- `send_tx_info_frame_nl`: the report copies `tx_rates_count` rows of `frame->tx_rates` and is
written to `frame->src`. -/
def sendTxInfoFrameNl (ctx : Ctx) (p : FramePtr) (frame : Frame) : Except Fault Out :=
  match ctx.stations[frame.sender]? with
  | none => .error (.danglingStation frame.sender)
  | some sender => do
      let txInfo ← (List.range frame.txRatesCount).mapM (txRateAt frame.txRates)
      match frame.src with
      | none => .error .nullClient
      | some client =>
          pure (.txStatus p client ⟨sender.hwaddr, frame.flags, frame.signal, txInfo, frame.cookie⟩)

/-- The randomness of one delivery, by receiver position: `ctx->get_fading_signal(ctx)`, the
interference offset and the `drand48()` of the multicast reception test. -/
structure RxEnv where
  fading : Nat → Int
  interference : Nat → Nat
  draws : Nat → ℚ

/-- One pass of the receiver loop of `wmediumd_deliver_frame`, at station `k`, on the
interference matrix and the messages sent so far. -/
def deliverTo (m : Medium) (env : RxEnv) (ctx : Ctx) (p : FramePtr) (frame : Frame)
    (sender : Station) (dest : MacAddr) (acc : Option (Nat → IntfInfo) × List Out) (k : Nat)
    (station : Station) : Option (Nat → IntfInfo) × List Out :=
  let n := ctx.stations.length
  if sender.addr = station.addr then acc
  else if isMulticastEtherAddr dest then
    let snr := getLinkSnr m n sender station + env.fading k
    let signal := snr + noiseLevel
    if signal < ccaThreshold then acc
    else
      let (intf, recorded) := setInterferenceDuration n acc.1 sender.index frame.duration signal
      if recorded then (intf, acc.2)
      else
        let snr := snr - signalOffsetByInterference intf (env.interference k)
        let errorProb := getErrorProb m n snr (frame.txRates ⟨0, by decide⟩).idx frame.freq
          frame.data.length sender (some station)
        if env.draws k ≤ errorProb then (intf, acc.2)
        else (intf, acc.2 ++ [sendClonedFrameMsg ctx p k station frame.data frame.freq])
  else if dest = station.addr then
    let (intf, recorded) := setInterferenceDuration n acc.1 sender.index frame.duration frame.signal
    if recorded then (intf, acc.2)
    else (intf, acc.2 ++ [sendClonedFrameMsg ctx p k station frame.data frame.freq])
  else acc

/-- The `if (frame->flags & HWSIM_TX_STAT_ACK)` of `wmediumd_deliver_frame`: the receiver loop
for an acknowledged frame, the sender's interference alone otherwise. -/
def deliverFanOut (m : Medium) (env : RxEnv) (ctx : Ctx) (p : FramePtr) (frame : Frame)
    (sender : Station) (dest : MacAddr) : Option (Nat → IntfInfo) × List Out :=
  if frame.flags &&& hwsimTxStatAck ≠ 0 then
    ctx.stations.enum.foldl (fun acc ks => deliverTo m env ctx p frame sender dest acc ks.1 ks.2)
      (ctx.intf, [])
  else
    ((setInterferenceDuration ctx.stations.length ctx.intf sender.index frame.duration
      frame.signal).1, [])

/-- `wmediumd_deliver_frame` for the frame at `p`, whose job the scheduler has just taken. -/
def wmediumdDeliverFrame (m : Medium) (env : RxEnv) (ctx : Ctx) (p : FramePtr) :
    Except Fault (Ctx × List Out) :=
  match ctx.frames p with
  | none => .error (.danglingFrame p)
  | some frame =>
      match ctx.stations[frame.sender]? with
      | none => .error (.danglingStation frame.sender)
      | some sender => do
          let dest ← frameAddr frame.data 4
          let ctx := { ctx with stations := ctx.stations.map (·.unlink p) }
          let fanOut := deliverFanOut m env ctx p frame sender dest
          let report ← sendTxInfoFrameNl ctx p frame
          pure ({ ctx with intf := fanOut.1, frames := Function.update ctx.frames p none },
            fanOut.2 ++ [report])

/-- Every frame pointer in the station queues, station by station and queue by queue. -/
def queuedFrames (stations : List Station) : List FramePtr :=
  stations.flatMap fun st => (List.finRange 4).flatMap fun ac => (st.queues ac).frames

theorem mem_queuedFrames {l : List Station} {q : FramePtr} :
    q ∈ queuedFrames l ↔ ∃ k ac, q ∈ queueOf l k ac := by
  simp only [queuedFrames, List.mem_flatMap, List.mem_finRange, true_and, queueOf]
  constructor
  · rintro ⟨st, hst, ac, hq⟩
    obtain ⟨k, hk, rfl⟩ := List.getElem_of_mem hst
    exact ⟨k, ac, by simpa [List.getElem?_eq_getElem hk] using hq⟩
  · rintro ⟨k, ac, hq⟩
    cases hk : l[k]? with
    | none => simp [hk] at hq
    | some st => exact ⟨st, List.getElem?_mem hk, ac, by simpa [hk] using hq⟩

/-- `frame->src == client` for the frame at `q`. -/
def fromClient (ctx : Ctx) (c : ClientPtr) (q : FramePtr) : Bool :=
  (ctx.frames q).any (·.src = some c)

/-- The frames `wmediumd_remove_client` unlinks, in the order its loops visit them. -/
def removedFrames (ctx : Ctx) (c : ClientPtr) : List FramePtr :=
  (queuedFrames ctx.stations).filter (fromClient ctx c)

/-- `wmediumd_remove_client(ctx, client)`. -/
def wmediumdRemoveClient (ctx : Ctx) (c : ClientPtr) : Except Fault (Ctx × List Out) :=
  match ctx.clientHeap c with
  | none => .error (.danglingClient c)
  | some client =>
      let removed := removedFrames ctx c
      let ctx' : Ctx :=
        { ctx with
          stations := (ctx.stations.map (·.unbind c)).map (·.dropFrames (fromClient ctx c)),
          sched := ctx.sched.filter fun j => match j with
            | .frame q => q ∉ removed
            | .intfUpdate => true,
          frames := fun q => if q ∈ removed then none else ctx.frames q,
          clients := if client.linked then ctx.clients.erase c else ctx.clients,
          clientHeap := Function.update ctx.clientHeap c none }
      .ok (ctx', removed.map .cancelled)

/-! ## What delivery and removal do -/

/-- What `wmediumd_remove_client` does to a live client, in full. -/
theorem wmediumdRemoveClient_eq {ctx ctx' : Ctx} {c : ClientPtr} {outs : List Out}
    (h : wmediumdRemoveClient ctx c = .ok (ctx', outs)) :
    ∃ client, ctx.clientHeap c = some client ∧
      ctx' = { ctx with
        stations := (ctx.stations.map (·.unbind c)).map (·.dropFrames (fromClient ctx c)),
        sched := ctx.sched.filter fun j => match j with
          | .frame q => q ∉ removedFrames ctx c
          | .intfUpdate => true,
        frames := fun q => if q ∈ removedFrames ctx c then none else ctx.frames q,
        clients := if client.linked then ctx.clients.erase c else ctx.clients,
        clientHeap := Function.update ctx.clientHeap c none } ∧
      outs = (removedFrames ctx c).map .cancelled := by
  unfold wmediumdRemoveClient at h
  split at h
  · cases h
  · rename_i client hc
    simp only [Except.ok.injEq, Prod.mk.injEq] at h
    exact ⟨client, hc, h.1.symm, h.2.symm⟩

theorem sendTxInfoFrameNl_eq {ctx : Ctx} {p : FramePtr} {frame : Frame} {o : Out}
    (h : sendTxInfoFrameNl ctx p frame = .ok o) :
    ∃ client report, frame.src = some client ∧ o = .txStatus p client report ∧
      report.flags = frame.flags ∧ report.cookie = frame.cookie := by
  unfold sendTxInfoFrameNl at h
  split at h
  · cases h
  · simp only [bind_eq_ok] at h
    obtain ⟨txInfo, -, h⟩ := h
    split at h
    · cases h
    · rename_i client hsrc
      exact ⟨client, _, hsrc, (Except.ok.inj h).symm, rfl, rfl⟩

/-- The outcomes of one pass of the receiver loop: it leaves the accumulator alone, or it passes
the frame, at some signal, through `set_interference_duration` and sends no copy or one copy, to
that station. -/
theorem deliverTo_cases {m : Medium} {env : RxEnv} {ctx : Ctx} {p : FramePtr} {frame : Frame}
    {sender : Station} {dest : MacAddr} (acc : Option (Nat → IntfInfo) × List Out) (k : Nat)
    (st : Station) :
    ∃ signal, deliverTo m env ctx p frame sender dest acc k st ∈
      [acc,
        ((setInterferenceDuration ctx.stations.length acc.1 sender.index frame.duration signal).1,
          acc.2),
        ((setInterferenceDuration ctx.stations.length acc.1 sender.index frame.duration signal).1,
          acc.2 ++ [sendClonedFrameMsg ctx p k st frame.data frame.freq])] := by
  unfold deliverTo
  dsimp only
  by_cases hs : sender.addr = st.addr
  · exact ⟨0, by rw [if_pos hs]; exact List.mem_cons_self _ _⟩
  rw [if_neg hs]
  by_cases hm : isMulticastEtherAddr dest = true
  · rw [if_pos hm]
    by_cases hc :
        getLinkSnr m ctx.stations.length sender st + env.fading k + noiseLevel < ccaThreshold
    · exact ⟨0, by rw [if_pos hc]; exact List.mem_cons_self _ _⟩
    rw [if_neg hc]
    refine ⟨getLinkSnr m ctx.stations.length sender st + env.fading k + noiseLevel, ?_⟩
    split
    · simp
    · split <;> simp
  · rw [if_neg hm]
    split
    · exact ⟨frame.signal, by split <;> simp⟩
    · exact ⟨0, List.mem_cons_self _ _⟩

/-- One pass of the receiver loop sends at most one copy, to that station. -/
theorem deliverTo_snd {m : Medium} {env : RxEnv} {ctx : Ctx} {p : FramePtr} {frame : Frame}
    {sender : Station} {dest : MacAddr} (acc : Option (Nat → IntfInfo) × List Out) (k : Nat)
    (st : Station) :
    (deliverTo m env ctx p frame sender dest acc k st).2 = acc.2 ∨
      (deliverTo m env ctx p frame sender dest acc k st).2 =
        acc.2 ++ [sendClonedFrameMsg ctx p k st frame.data frame.freq] := by
  obtain ⟨signal, h⟩ := @deliverTo_cases m env ctx p frame sender dest acc k st
  simp only [List.mem_cons, List.mem_singleton, List.not_mem_nil, or_false] at h
  rcases h with h | h | h <;> rw [h]
  exacts [.inl rfl, .inl rfl, .inr rfl]

/-- Everything the fan-out sends is `send_cloned_frame_msg` of frame `p` at some station. -/
theorem deliverFanOut_outs {m : Medium} {env : RxEnv} {ctx : Ctx} {p : FramePtr}
    {frame : Frame} {sender : Station} {dest : MacAddr} :
    ∀ o ∈ (deliverFanOut m env ctx p frame sender dest).2, ∃ k st, ctx.stations[k]? = some st ∧
      o = sendClonedFrameMsg ctx p k st frame.data frame.freq := by
  have fold : ∀ (l : List (Nat × Station)) (acc : Option (Nat → IntfInfo) × List Out),
      (∀ ks ∈ l, ctx.stations[ks.1]? = some ks.2) →
      ∀ o ∈ (l.foldl (fun acc ks => deliverTo m env ctx p frame sender dest acc ks.1 ks.2) acc).2,
        o ∈ acc.2 ∨ ∃ k st, ctx.stations[k]? = some st ∧
          o = sendClonedFrameMsg ctx p k st frame.data frame.freq := by
    intro l
    induction l with
    | nil => exact fun acc _ o ho => .inl ho
    | cons ks l ih =>
        intro acc hl o ho
        rcases ih _ (fun ks' h => hl ks' (List.mem_cons_of_mem _ h)) o ho with ho | ho
        · rcases deliverTo_snd acc ks.1 ks.2 with h | h <;> rw [h] at ho
          · exact .inl ho
          · rcases List.mem_append.1 ho with ho | ho
            · exact .inl ho
            · exact .inr ⟨_, _, hl ks (List.mem_cons_self _ _), List.mem_singleton.1 ho⟩
        · exact .inr ho
  unfold deliverFanOut
  split
  · intro o ho
    simpa using fold _ _ (fun ks h => List.mem_enum_iff_getElem?.1 h) o ho
  · simp

/-- The one thing `wmediumd_deliver_frame` does to the queues and the heap: it unlinks and frees
frame `p`; it sends received copies of `p`, each addressed as `send_cloned_frame_msg` addresses
it for its station, then one transmit status to `p`'s `src`, with the frame's flags and
cookie. -/
theorem wmediumdDeliverFrame_spec {m : Medium} {env : RxEnv} {ctx ctx' : Ctx} {p : FramePtr}
    {outs : List Out} (h : wmediumdDeliverFrame m env ctx p = .ok (ctx', outs)) :
    ∃ frame intf rxs client report, ctx.frames p = some frame ∧ frame.src = some client ∧
      report.flags = frame.flags ∧ report.cookie = frame.cookie ∧
      (∀ o ∈ rxs, ∃ k st, ctx.stations[k]? = some st ∧
        o = .rx p k ⟨st.hwaddr, frame.data, 1, frame.freq, -50⟩
          (if (clonedMsgLen frame.data.length).isSome then clonedRecipients ctx st else [])) ∧
      (∃ sender dest, ctx.stations[frame.sender]? = some sender ∧
        intf = (deliverFanOut m env { ctx with stations := ctx.stations.map (·.unlink p) } p frame
          sender dest).1) ∧
      ctx' = { ctx with stations := ctx.stations.map (·.unlink p), intf := intf,
                        frames := Function.update ctx.frames p none } ∧
      outs = rxs ++ [.txStatus p client report] := by
  unfold wmediumdDeliverFrame at h
  split at h
  · cases h
  · rename_i frame hframe
    split at h
    · cases h
    · rename_i sender hsender
      simp only [bind_eq_ok, pure_eq_ok, Except.ok.injEq, Prod.mk.injEq] at h
      obtain ⟨dest, -, report, hreport, rfl, rfl⟩ := h
      obtain ⟨client, r, hsrc, rfl, hflags, hcookie⟩ := sendTxInfoFrameNl_eq hreport
      refine ⟨frame, _, _, client, r, hframe, hsrc, hflags, hcookie, fun o ho => ?_,
        ⟨sender, dest, hsender, rfl⟩, rfl, rfl⟩
      obtain ⟨k, st, hk, rfl⟩ := deliverFanOut_outs o ho
      simp only [List.getElem?_map, Option.map_eq_some'] at hk
      obtain ⟨st, hk, rfl⟩ := hk
      exact ⟨k, st, hk, rfl⟩

/-- With its frame, sender and destination known, a delivery leaves the interference matrix of
the receiver loop and sends the loop's copies, then the transmit status. -/
theorem wmediumdDeliverFrame_fanOut {m : Medium} {env : RxEnv} {ctx ctx' : Ctx} {p : FramePtr}
    {outs : List Out} {frame : Frame} {sender : Station} {dest : MacAddr}
    (h : wmediumdDeliverFrame m env ctx p = .ok (ctx', outs)) (hf : ctx.frames p = some frame)
    (hsender : ctx.stations[frame.sender]? = some sender) (hdest : frameAddr frame.data 4 = .ok dest) :
    let fanOut := deliverFanOut m env { ctx with stations := ctx.stations.map (·.unlink p) } p frame
      sender dest
    ctx'.intf = fanOut.1 ∧ ∃ client report, outs = fanOut.2 ++ [.txStatus p client report] := by
  simp only [wmediumdDeliverFrame, hf, hsender, hdest, ok_bind, bind_eq_ok, pure_eq_ok,
    Except.ok.injEq, Prod.mk.injEq] at h
  obtain ⟨report, hreport, rfl, rfl⟩ := h
  obtain ⟨client, r, -, rfl, -⟩ := sendTxInfoFrameNl_eq hreport
  exact ⟨rfl, client, r, rfl⟩

end Wmediumd
