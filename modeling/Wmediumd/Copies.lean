import Wmediumd.Outcome
import Wmediumd.Diagonal

/-!
# The copies a frame is delivered as

When a frame's job fires, `wmediumd_deliver_frame` walks the stations once, in list order, and
sends at most one copy of the frame to each (`send_cloned_frame_msg`): never to a station with the
sender's address, and for a unicast frame only to stations with its `addr1`; and it walks them only
when the frame's flags carry `HWSIM_TX_STAT_ACK`. The copies of one delivery are therefore a
sublist of the enumerated stations (`deliverFanOut_copies`).

Over a run, a frame's job fires at most once, in the same step as its transmit status, so each
station receives at most one copy of each frame, and every copy matches the record `queue_frame`
left for the frame: acknowledged, with its bytes and frequency, to a station whose address in
`ifaces.ids` differs from the sender's.
-/

namespace Wmediumd

/-- A copy of frame `q` for station `k`. -/
def Out.isRxOf (q : FramePtr) (k : Nat) : Out → Bool
  | .rx p j _ _ => p == q && j == k
  | _ => false

theorem Out.isRxOf_of_isGhost {o : Out} (h : o.isGhost = true) (q : FramePtr) (k : Nat) :
    o.isRxOf q k = false := by
  cases o <;> first | rfl | cases h

/-! ## One delivery -/

section FanOut

variable {m : Medium} {env : RxEnv} {ctx : Ctx} {p : FramePtr} {frame : Frame} {sender : Station}
  {dest : MacAddr}

/-- The pass at one station sends nothing, or one copy to a station that does not have the
sender's address and, for a unicast frame, has its destination address. -/
theorem deliverTo_copy (acc : Option (Nat → IntfInfo) × List Out) (k : Nat) (st : Station) :
    (deliverTo m env ctx p frame sender dest acc k st).2 = acc.2 ∨
      (sender.addr ≠ st.addr ∧ (isMulticastEtherAddr dest = false → dest = st.addr) ∧
        (deliverTo m env ctx p frame sender dest acc k st).2 =
          acc.2 ++ [sendClonedFrameMsg ctx p k st frame.data frame.freq]) := by
  rcases deliverTo_snd acc k st with h | h
  · exact .inl h
  · have hsent : deliverTo m env ctx p frame sender dest acc k st ≠ acc := fun he => by
      rw [he] at h
      simp at h
    refine .inr ⟨fun hs => hsent (by simp [deliverTo, hs]), fun hm => ?_, h⟩
    by_contra hd
    by_cases hs : sender.addr = st.addr
    · exact hsent (by simp [deliverTo, hs])
    · exact hsent (by simp [deliverTo, hs, hm, hd])

/-- The receiver loop over stations `l` sends one copy for each of a sublist of `l`, in order. -/
theorem foldl_deliverTo_copies (l : List (Nat × Station))
    (acc : Option (Nat → IntfInfo) × List Out) :
    ∃ sub : List (Nat × Station), sub.Sublist l ∧
      (∀ ks ∈ sub, sender.addr ≠ ks.2.addr ∧ (isMulticastEtherAddr dest = false → dest = ks.2.addr)) ∧
      (l.foldl (fun acc ks => deliverTo m env ctx p frame sender dest acc ks.1 ks.2) acc).2 =
        acc.2 ++ sub.map fun ks => sendClonedFrameMsg ctx p ks.1 ks.2 frame.data frame.freq := by
  induction l generalizing acc with
  | nil => exact ⟨[], .slnil, by simp, by simp⟩
  | cons ks l ih =>
      obtain ⟨sub, hsub, hok, heq⟩ := ih (deliverTo m env ctx p frame sender dest acc ks.1 ks.2)
      rw [List.foldl_cons, heq]
      rcases deliverTo_copy acc ks.1 ks.2 with h | ⟨hs, hd, h⟩
      · exact ⟨sub, hsub.cons ks, hok, by rw [h]⟩
      · exact ⟨ks :: sub, hsub.cons₂ ks, List.forall_mem_cons.2 ⟨⟨hs, hd⟩, hok⟩, by simp [h]⟩

/-- The copies of one fan-out: one for each of a sublist of the enumerated stations, each to a
station without the sender's address and, for a unicast frame, with its destination address; and
none unless the frame is acknowledged. -/
theorem deliverFanOut_copies :
    ∃ sub : List (Nat × Station), sub.Sublist ctx.stations.enum ∧
      (∀ ks ∈ sub, frame.flags &&& hwsimTxStatAck ≠ 0 ∧ sender.addr ≠ ks.2.addr ∧
        (isMulticastEtherAddr dest = false → dest = ks.2.addr)) ∧
      (deliverFanOut m env ctx p frame sender dest).2 =
        sub.map fun ks => sendClonedFrameMsg ctx p ks.1 ks.2 frame.data frame.freq := by
  unfold deliverFanOut
  split
  · rename_i hack
    obtain ⟨sub, hsub, hok, heq⟩ :=
      @foldl_deliverTo_copies m env ctx p frame sender dest ctx.stations.enum (ctx.intf, [])
    exact ⟨sub, hsub, fun ks h => ⟨hack, hok ks h⟩, by simpa using heq⟩
  · exact ⟨[], List.nil_sublist _, by simp, rfl⟩

/-- A fan-out sends at most one copy of its frame to each station, and no copy of another frame. -/
theorem deliverFanOut_once (q : FramePtr) (k : Nat) :
    (deliverFanOut m env ctx p frame sender dest).2.countP (Out.isRxOf q k) ≤
      if q = p then 1 else 0 := by
  obtain ⟨sub, hsub, -, heq⟩ := @deliverFanOut_copies m env ctx p frame sender dest
  rw [heq, List.countP_map]
  split
  · subst q
    have hnd : (sub.map Prod.fst).Nodup :=
      ((List.enum_map_fst ctx.stations).symm ▸ List.nodup_range _).sublist (hsub.map _)
    calc sub.countP (Out.isRxOf p k ∘ fun ks => sendClonedFrameMsg ctx p ks.1 ks.2 frame.data
            frame.freq)
        = sub.countP ((· == k) ∘ Prod.fst) := by
          congr 1
          funext ks
          simp [sendClonedFrameMsg, Out.isRxOf]
      _ = (sub.map Prod.fst).count k := by rw [List.count, List.countP_map]
      _ ≤ 1 := by
          rw [List.count_eq_of_nodup hnd]
          split <;> omega
  · rename_i hq
    exact Nat.le_of_eq (List.countP_eq_zero.2 fun ks _ => by
      simp [sendClonedFrameMsg, Out.isRxOf, Ne.symm hq])

/-- Each copy of a fan-out is one for a station without the sender's address and, for a unicast
frame, with its destination address, of an acknowledged frame. -/
theorem deliverFanOut_mem {o : Out} (ho : o ∈ (deliverFanOut m env ctx p frame sender dest).2) :
    ∃ k st, ctx.stations[k]? = some st ∧ frame.flags &&& hwsimTxStatAck ≠ 0 ∧
      sender.addr ≠ st.addr ∧ (isMulticastEtherAddr dest = false → dest = st.addr) ∧
      o = sendClonedFrameMsg ctx p k st frame.data frame.freq := by
  obtain ⟨sub, hsub, hok, heq⟩ := @deliverFanOut_copies m env ctx p frame sender dest
  rw [heq] at ho
  obtain ⟨ks, hks, rfl⟩ := List.mem_map.1 ho
  obtain ⟨hack, hs, hd⟩ := hok ks hks
  exact ⟨ks.1, ks.2, List.mem_enum_iff_getElem?.1 (hsub.subset hks), hack, hs, hd, rfl⟩

end FanOut

/-- Copy `msg` of frame `q` for station `k`, as a delivery in `ctx` sends it: the frame is queued
and acknowledged, station `k` does not have the sender's address and, for a unicast frame, has
its destination address, and the copy carries the frame's bytes and frequency. -/
def Copied (ctx : Ctx) (q : FramePtr) (k : Nat) (msg : RxMessage) : Prop :=
  ∃ f sender st, ctx.Queued q ∧ ctx.frames q = some f ∧ ctx.stations[f.sender]? = some sender ∧
    ctx.stations[k]? = some st ∧ f.flags &&& hwsimTxStatAck ≠ 0 ∧ st.addr ≠ sender.addr ∧
    (∀ dest, frameAddr f.data 4 = .ok dest → isMulticastEtherAddr dest = false → st.addr = dest) ∧
    msg.data = f.data ∧ msg.freq = f.freq

/-- What one step sends as copies: each is a copy of a queued frame as `Copied` says, and no step
sends more copies of a frame to one station than it reports outcomes of the frame. -/
structure StepCopies (ctx : Ctx) (outs : List Out) : Prop where
  copied : ∀ q k msg rs, Out.rx q k msg rs ∈ outs → Copied ctx q k msg
  once : ∀ q k, outs.countP (Out.isRxOf q k) ≤ outs.countP (Out.isOutcomeOf q)

section Steps

variable {m : Medium} {ctx ctx' : Ctx} {input : Input} {outs : List Out}

theorem StepCopies.of_quiet (h : ∀ o ∈ outs, o.isGhost = true ∨ ∃ c req r, o = .apiResponse c req r) :
    StepCopies ctx outs := by
  have hno : ∀ o ∈ outs, ∀ q k, o.isRxOf q k = false := fun o ho q k => by
    rcases h o ho with hg | ⟨c, req, r, rfl⟩
    · exact Out.isRxOf_of_isGhost hg q k
    · rfl
  refine ⟨fun q k msg rs ho => ?_, fun q k => ?_⟩
  · simpa [Out.isRxOf] using hno _ ho q k
  · rw [List.countP_eq_zero.2 fun o ho => by simp [hno o ho q k]]
    exact Nat.zero_le _

/-- Outside the firing of a frame's job, a step only records `queue_frame` and
`wmediumd_remove_client` and answers API requests. -/
theorem step_quiet (hs : Step m ctx input outs ctx') :
    (∃ p env, input = .jobFired (.frame p) env) ∨
      ∀ o ∈ outs, o.isGhost = true ∨ ∃ c req r, o = .apiResponse c req r := by
  have ghost : ∀ {l : List Out}, (∀ o ∈ l, o.isGhost = true) →
      ∀ o ∈ l, o.isGhost = true ∨ ∃ c req r, o = .apiResponse c req r :=
    fun hl o ho => .inl (hl o ho)
  rcases step_handler hs with ⟨env, msg, c, h⟩ | ⟨c, h⟩ | ⟨env, c, read, written, h⟩ |
    ⟨p, env, rfl, -⟩ | ⟨rfl, -⟩
  · exact .inr (ghost (processMessages_clientHeap h).2.2.2)
  · exact .inr (ghost (wmediumdRemoveClient_clientHeap h).2.2)
  · obtain ⟨client, hcl, ⟨-, hrm⟩ | ⟨req, mid, o, r, -, hd, hw⟩⟩ := wmediumdApiHandler_cases h
    · exact .inr (ghost (wmediumdRemoveClient_clientHeap hrm).2.2)
    · have hgo := (apiDispatch_clientHeap hcl hd).2.2.2
      have hresp : ∀ o' ∈ o ++ [.apiResponse c req r],
          o'.isGhost = true ∨ ∃ c req r, o' = .apiResponse c req r := fun o' ho' => by
        rcases List.mem_append.1 ho' with ho' | ho'
        · exact .inl (hgo o' ho')
        · exact .inr ⟨c, req, r, List.mem_singleton.1 ho'⟩
      rcases hw with ⟨-, -, rfl⟩ | ⟨-, removed, hrm, rfl⟩
      · exact .inr hresp
      · refine .inr fun o' ho' => ?_
        rcases List.mem_append.1 ho' with ho' | ho'
        · exact hresp o' ho'
        · exact .inl ((wmediumdRemoveClient_clientHeap hrm).2.2 o' ho')
  · exact .inl ⟨p, env, rfl⟩
  · exact .inr fun _ h => nomatch h

/-- The firing of frame `p`'s job sends copies of `p` only, each as `Copied` says and at most one
for each station, and one transmit status of `p`. -/
theorem StepCopies.deliverFrame (hi : QueueInv ctx) {env : RxEnv} {p : FramePtr}
    (hp : Job.frame p ∈ ctx.sched)
    (h : wmediumdDeliverFrame m env { ctx with sched := ctx.sched.erase (.frame p) } p =
      .ok (ctx', outs)) : StepCopies ctx outs := by
  have hqp := (hi.job_iff_queued p).1 hp
  simp only [wmediumdDeliverFrame] at h
  split at h
  · cases h
  rename_i frame hf
  split at h
  · cases h
  rename_i sender hsd
  simp only [bind_eq_ok, pure_eq_ok, Except.ok.injEq, Prod.mk.injEq] at h
  obtain ⟨dest, hdest, report, hreport, -, rfl⟩ := h
  obtain ⟨client, r, -, rfl, -, -⟩ := sendTxInfoFrameNl_eq hreport
  refine ⟨fun q k msg rs ho => ?_, fun q k => ?_⟩
  · rcases List.mem_append.1 ho with ho | ho
    · obtain ⟨k', st, hk, hack, hne, hd, he⟩ := deliverFanOut_mem ho
      simp only [sendClonedFrameMsg, Out.rx.injEq] at he
      obtain ⟨rfl, rfl, rfl, -⟩ := he
      simp only [List.getElem?_map, Option.map_eq_some'] at hk
      obtain ⟨st, hk, rfl⟩ := hk
      refine ⟨frame, sender, st, hqp, hf, hsd, hk, hack, Ne.symm hne, fun d hd' hm => ?_, rfl, rfl⟩
      obtain rfl := Except.ok.inj (hdest.symm.trans hd')
      exact (hd hm).symm
    · simp at ho
  · rw [List.countP_append, List.countP_append]
    refine Nat.le_trans (Nat.add_le_add_right (deliverFanOut_once q k) _) ?_
    by_cases hq : q = p
    · simp [hq, Out.isRxOf]
    · simp [hq, Ne.symm hq, Out.isRxOf]

/-- Every step sends its copies as `Copied` says, at most one of a frame to a station, and only
in the step that reports the frame's outcome. -/
theorem step_copies (hi : QueueInv ctx) (hs : Step m ctx input outs ctx') : StepCopies ctx outs := by
  rcases step_quiet hs with ⟨p, env, rfl⟩ | hq
  · exact .deliverFrame hi hs.1.1 hs.2
  · exact .of_quiet hq

end Steps

/-! ## Runs -/

/-- A log that records frame `q` as queued holds a record of it. -/
theorem exists_queued_of_countP {log : List Out} {q : FramePtr}
    (h : 0 < log.countP (Out.isQueuedOf q)) : ∃ f ac n, Out.queued q f ac n ∈ log := by
  obtain ⟨o, ho, hq⟩ := List.countP_pos_iff.1 h
  cases o with
  | queued p f ac n =>
      obtain rfl : p = q := beq_iff_eq.1 hq
      exact ⟨f, ac, n, ho⟩
  | _ => cases hq

/-- Copy `msg` for station `k` matches record `f`, with the stations' addresses `ids`: the frame
is acknowledged, station `k` exists and its address is not the sender's, the copy carries the
frame's bytes and frequency, and a unicast frame goes to a station with its destination
address. -/
def CopyOk (ids : List MacAddr) (f : Frame) (k : Nat) (msg : RxMessage) : Prop :=
  f.flags &&& hwsimTxStatAck ≠ 0 ∧ k < ids.length ∧ ids[k]? ≠ ids[f.sender]? ∧
    msg.data = f.data ∧ msg.freq = f.freq ∧
    ∀ dest, frameAddr f.data 4 = .ok dest → isMulticastEtherAddr dest = false → ids[k]? = some dest

/-- The copies of a log: no more copies of a frame to one station than outcomes of the frame,
each of a recorded frame and matching its record. -/
structure CopiesLog (ids : List MacAddr) (log : List Out) : Prop where
  once : ∀ q k, log.countP (Out.isRxOf q k) ≤ log.countP (Out.isOutcomeOf q)
  recorded : ∀ q k msg rs, Out.rx q k msg rs ∈ log → ∃ f ac n, Out.queued q f ac n ∈ log
  sound : ∀ q f ac n k msg rs, Out.queued q f ac n ∈ log → Out.rx q k msg rs ∈ log →
    CopyOk ids f k msg

section Runs

variable {m : Medium} {ids : List MacAddr} {interference useNetlink : Bool} {log : List Out}
  {ctx ctx' : Ctx} {input : Input} {outs : List Out}

theorem CopiesLog.step (hi : QueueInv ctx) (hst : Settled log ctx) (hrt : Routed log ctx)
    (hids : ctx.stations.map Station.addr = ids) (hc : CopiesLog ids log)
    (hs : Step m ctx input outs ctx') : CopiesLog ids (log ++ outs) := by
  have hsc := step_copies hi hs
  obtain ⟨gone, hch, -⟩ := step_changes hi hs
  -- a frame this step records is the fresh one, younger than every frame copied so far
  have young : ∀ q f ac n, Out.queued q f ac n ∈ outs → ctx.nextFrame ≤ q := fun q f ac n hq =>
    ((hch.records q).2.2 (List.countP_pos_iff.2 ⟨_, hq, by simp⟩)).1.ge
  have hnow : ∀ q k msg rs, Out.rx q k msg rs ∈ outs → q < ctx.nextFrame := fun q k msg rs ho =>
    let ⟨_, _, _, hqd, _⟩ := hsc.copied q k msg rs ho
    hi.lt_nextFrame hqd
  have hbefore : ∀ q k msg rs, Out.rx q k msg rs ∈ log → q < ctx.nextFrame := fun q k msg rs ho =>
    hst.lt_nextFrame_of_outcome (Nat.lt_of_lt_of_le
      (List.countP_pos_iff.2 ⟨_, ho, by simp [Out.isRxOf]⟩) (hc.once q k))
  refine ⟨fun q k => ?_, fun q k msg rs ho => ?_, fun q f ac n k msg rs hq ho => ?_⟩
  · rw [List.countP_append, List.countP_append]
    exact Nat.add_le_add (hc.once q k) (hsc.once q k)
  · rcases List.mem_append.1 ho with ho | ho
    · obtain ⟨f, ac, n, h⟩ := hc.recorded q k msg rs ho
      exact ⟨f, ac, n, List.mem_append_left _ h⟩
    · obtain ⟨_, _, _, hqd, -⟩ := hsc.copied q k msg rs ho
      have hb := hst.balance q
      rw [if_pos hqd] at hb
      obtain ⟨f, ac, n, h⟩ :=
        exists_queued_of_countP (show 0 < log.countP (Out.isQueuedOf q) by omega)
      exact ⟨f, ac, n, List.mem_append_left _ h⟩
  · rcases List.mem_append.1 hq with hq | hq
    · rcases List.mem_append.1 ho with ho | ho
      · exact hc.sound q f ac n k msg rs hq ho
      · -- copied in this step: the record is the frame the step delivered
        obtain ⟨f', sender, st, hqd, hf', hsd, hk, hack, hne, hd, hdata, hfreq⟩ :=
          hsc.copied q k msg rs ho
        obtain rfl : f' = f := Option.some.inj (hf'.symm.trans ((hrt.recorded q f ac n hq).2 hqd))
        have hk' : ids[k]? = some st.addr := by rw [← hids, List.getElem?_map, hk]; rfl
        have hs' : ids[f'.sender]? = some sender.addr := by rw [← hids, List.getElem?_map, hsd]; rfl
        refine ⟨hack, (List.getElem?_eq_some_iff.1 hk').1, ?_, hdata, hfreq, fun d hd' hm => ?_⟩
        · rw [hk', hs']
          exact fun h => hne (Option.some.inj h)
        · rw [hk', hd d hd' hm]
    · rcases List.mem_append.1 ho with ho | ho
      · exact absurd (young q f ac n hq) (Nat.not_le.2 (hbefore q k msg rs ho))
      · exact absurd (young q f ac n hq) (Nat.not_le.2 (hnow q k msg rs ho))

theorem run_copies (hrun : Run m (initCtx ids interference useNetlink) log ctx) :
    CopiesLog ids log := by
  induction hrun with
  | refl => exact ⟨fun _ _ => by simp, fun _ _ _ _ h => (List.not_mem_nil _ h).elim,
      fun _ _ _ _ _ _ _ h => (List.not_mem_nil _ h).elim⟩
  | step hrun' hs ih =>
      have hids := (map_addr_of_shape (run_shape hrun')).trans
        (by simp [initCtx, Function.comp_def] : (initCtx ids interference useNetlink).stations.map
          Station.addr = ids)
      exact ih.step (QueueInv.reachable ⟨_, hrun'⟩) (run_reports hrun').1 (run_routed hrun') hids hs

/-- Along every run, each station receives at most one copy of each frame; every copy is of a
frame `queue_frame` recorded, and matches its record: the frame was acknowledged, the copy carries
its bytes and frequency, and it went to a station whose address in `ifaces.ids` is not the
sender's and, for a unicast frame, is its destination address. -/
theorem frame_copied_once (hrun : Run m (initCtx ids interference useNetlink) log ctx) :
    (∀ p k, log.countP (Out.isRxOf p k) ≤ 1) ∧
      (∀ p k msg rs, Out.rx p k msg rs ∈ log → ∃ f ac n, Out.queued p f ac n ∈ log) ∧
      ∀ p f ac n k msg rs, Out.queued p f ac n ∈ log → Out.rx p k msg rs ∈ log →
        f.flags &&& hwsimTxStatAck ≠ 0 ∧ k < ids.length ∧ ids[k]? ≠ ids[f.sender]? ∧
        msg.data = f.data ∧ msg.freq = f.freq ∧
        ∀ dest, frameAddr f.data 4 = .ok dest → isMulticastEtherAddr dest = false →
          ids[k]? = some dest := by
  have hc := run_copies hrun
  have hst := (run_reports hrun).1
  exact ⟨fun p k => (hc.once p k).trans
    (((Nat.le_add_right _ _).trans_eq (hst.balance p)).trans (hst.once p)), hc.recorded, hc.sound⟩

/-- The kernel submits a data frame from `addrA` to `addrB` with one attempt, the clock moves to
its start and its job fires: `addrB` receives a copy. -/
theorem acked_frame_copied_once :
    ∃ log ctx, Run perfectMedium (initCtx [addrA, addrB] false true) log ctx ∧
      (∃ msg rs, Out.rx 0 1 msg rs ∈ log) ∧
      (∀ p k, log.countP (Out.isRxOf p k) ≤ 1) ∧
      (∀ p k msg rs, Out.rx p k msg rs ∈ log → ∃ f ac n, Out.queued p f ac n ∈ log) ∧
      ∀ p f ac n k msg rs, Out.queued p f ac n ∈ log → Out.rx p k msg rs ∈ log →
        f.flags &&& hwsimTxStatAck ≠ 0 ∧ k < [addrA, addrB].length ∧
        [addrA, addrB][k]? ≠ [addrA, addrB][f.sender]? ∧ msg.data = f.data ∧ msg.freq = f.freq ∧
        ∀ dest, frameAddr f.data 4 = .ok dest → isMulticastEtherAddr dest = false →
          [addrA, addrB][k]? = some dest := by
  obtain ⟨log, ctx, hrun, hrx⟩ : ∃ log ctx, Run perfectMedium (initCtx [addrA, addrB] false true)
      log ctx ∧ ∃ msg rs, Out.rx 0 1 msg rs ∈ log :=
    ⟨_, _, .step (.step (.step .refl
      (show Step _ _ (.netlinkMessage (frameMessage addrA (shortHeader 0x08 0 addrB addrA) [0, 1]
        [0, 0, 0, 0]) (txDraws 0)) _ _ from ⟨rfl, rfl⟩))
      (show Step _ _ (.timePasses _) _ _ from ⟨Nat.zero_le _, rfl⟩))
      (show Step _ _ (.jobFired (.frame 0) rxQuiet) _ _ from ⟨⟨by decide, rfl⟩, rfl⟩),
      _, _, List.mem_append_right _ (List.mem_cons_self _ _)⟩
  exact ⟨log, ctx, hrun, hrx, frame_copied_once hrun⟩

end Runs

end Wmediumd
