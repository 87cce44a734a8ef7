import Wmediumd.Report

/-!
# What becomes of every queued frame

A frame `queue_frame` accepts ends in one of two ways: its job fires and
`wmediumd_deliver_frame` sends its transmit status, or `wmediumd_remove_client` cancels it with
its client. Over the log of a run this is a conservation law: for each frame pointer, the
outcomes plus one while the frame is still queued equal the records of `queue_frame`, a pointer
is recorded at most once, and no outcome comes before the record.

The scheduler fires a job only when the clock reads its start, and the clock never goes back, so
the transmit statuses leave in the order of the frames' start times. With the start-time order
in which `queue_frame` places frames, no frame is reported before an earlier one of equal or
higher priority unless it takes no airtime.
-/

namespace Wmediumd

/-- The outcome of frame `q`: its transmit status or its cancellation. -/
def Out.isOutcomeOf (q : FramePtr) : Out → Bool
  | .txStatus p _ _ => p == q
  | .cancelled p => p == q
  | _ => false

/-- The record `queue_frame` leaves for frame `q`. -/
def Out.isQueuedOf (q : FramePtr) : Out → Bool
  | .queued p .. => p == q
  | _ => false

@[simp] theorem Out.isOutcomeOf_txStatus (q p : FramePtr) (c : ClientPtr) (r : TxReport) :
    (Out.txStatus p c r).isOutcomeOf q = (p == q) := rfl
@[simp] theorem Out.isOutcomeOf_cancelled (q p : FramePtr) :
    (Out.cancelled p).isOutcomeOf q = (p == q) := rfl
@[simp] theorem Out.isOutcomeOf_queued (q p : FramePtr) (f : Frame) (ac : AcNumber) (n : Nat) :
    (Out.queued p f ac n).isOutcomeOf q = false := rfl
@[simp] theorem Out.isOutcomeOf_rx (q p : FramePtr) (k : Nat) (msg : RxMessage)
    (rs : List ClientPtr) : (Out.rx p k msg rs).isOutcomeOf q = false := rfl
@[simp] theorem Out.isOutcomeOf_apiResponse (q : FramePtr) (c : ClientPtr) (req : ApiRequest)
    (r : WmediumdMessage) : (Out.apiResponse c req r).isOutcomeOf q = false := rfl
@[simp] theorem Out.isQueuedOf_queued (q p : FramePtr) (f : Frame) (ac : AcNumber) (n : Nat) :
    (Out.queued p f ac n).isQueuedOf q = (p == q) := rfl
@[simp] theorem Out.isQueuedOf_txStatus (q p : FramePtr) (c : ClientPtr) (r : TxReport) :
    (Out.txStatus p c r).isQueuedOf q = false := rfl
@[simp] theorem Out.isQueuedOf_cancelled (q p : FramePtr) :
    (Out.cancelled p).isQueuedOf q = false := rfl
@[simp] theorem Out.isQueuedOf_rx (q p : FramePtr) (k : Nat) (msg : RxMessage)
    (rs : List ClientPtr) : (Out.rx p k msg rs).isQueuedOf q = false := rfl
@[simp] theorem Out.isQueuedOf_apiResponse (q : FramePtr) (c : ClientPtr) (req : ApiRequest)
    (r : WmediumdMessage) : (Out.apiResponse c req r).isQueuedOf q = false := rfl

instance (ctx : Ctx) (q : FramePtr) : Decidable (ctx.Queued q) :=
  decidable_of_iff _ mem_queuedFrames

/-- The frames of the stations' queues, visited as `wmediumd_remove_client` visits them, are
distinct when every queue is and no frame is in two queues. -/
theorem nodup_queuedFrames : ∀ {l : List Station}, (∀ k ac, (queueOf l k ac).Nodup) →
    (∀ p k ac k' ac', p ∈ queueOf l k ac → p ∈ queueOf l k' ac' → k' = k ∧ ac' = ac) →
    (queuedFrames l).Nodup
  | [], _, _ => List.nodup_nil
  | st :: l, hnd, huniq => by
    have h0 : ∀ ac, queueOf (st :: l) 0 ac = (st.queues ac).frames := fun _ => by simp [queueOf]
    have hs : ∀ k ac, queueOf (st :: l) (k + 1) ac = queueOf l k ac := fun _ _ => by
      simp [queueOf]
    simp only [queuedFrames, List.flatMap_cons]
    refine List.nodup_append.2 ⟨List.nodup_flatMap.2 ⟨fun ac _ => h0 ac ▸ hnd 0 ac, ?_⟩,
      nodup_queuedFrames (fun k ac => hs k ac ▸ hnd (k + 1) ac) fun p k ac k' ac' h₁ h₂ => ?_,
      fun p h₁ h₂ => ?_⟩
    · refine (List.nodup_finRange 4).imp fun hne p h₁ h₂ => hne ?_
      exact (huniq p 0 _ 0 _ (h0 _ ▸ h₁) (h0 _ ▸ h₂)).2.symm
    · obtain ⟨hk, hac⟩ := huniq p (k + 1) ac (k' + 1) ac' (hs k ac ▸ h₁) (hs k' ac' ▸ h₂)
      exact ⟨Nat.succ.inj hk, hac⟩
    · obtain ⟨ac, -, h₁⟩ := List.mem_flatMap.1 h₁
      obtain ⟨k, ac', h₂⟩ := mem_queuedFrames.1 h₂
      exact absurd (huniq p 0 ac (k + 1) ac' (h0 ac ▸ h₁) (hs k ac' ▸ h₂)).1 (Nat.succ_ne_zero k)

theorem QueueInv.nodup_removedFrames {ctx : Ctx} (hi : QueueInv ctx) (c : ClientPtr) :
    (removedFrames ctx c).Nodup :=
  (nodup_queuedFrames (hi.queue_nodup) fun _ _ _ _ _ h₁ h₂ => hi.queue_unique h₁ h₂).filter _


/-! ## What one handler run reports -/

/-- A handler run keeps the books of the frames: for each frame, the outcomes it reports plus one
if the frame is queued after it equal one if the frame was queued before it plus the records
it makes; and at no point of `outs` has it reported an outcome of a frame neither queued before
it nor recorded earlier in `outs`. -/
structure Conserves (ctx ctx' : Ctx) (outs : List Out) : Prop where
  balance : ∀ q, outs.countP (Out.isOutcomeOf q) + (if ctx'.Queued q then 1 else 0) =
    (if ctx.Queued q then 1 else 0) + outs.countP (Out.isQueuedOf q)
  causal : ∀ q j, (outs.take j).countP (Out.isOutcomeOf q) ≤
    (if ctx.Queued q then 1 else 0) + (outs.take j).countP (Out.isQueuedOf q)

namespace Conserves

variable {ctx mid ctx' : Ctx} {outs : List Out}

theorem append {o₁ o₂ : List Out} (h₁ : Conserves ctx mid o₁) (h₂ : Conserves mid ctx' o₂) :
    Conserves ctx ctx' (o₁ ++ o₂) := by
  refine ⟨fun q => ?_, fun q j => ?_⟩
  · have := h₁.balance q
    have := h₂.balance q
    rw [List.countP_append, List.countP_append]
    omega
  · by_cases hj : j ≤ o₁.length
    · rw [List.take_append_of_le_length hj]
      exact h₁.causal q j
    · rw [List.take_append_eq_append_take, List.take_of_length_le (by omega),
        List.countP_append, List.countP_append]
      have := h₁.balance q
      have := h₂.causal q (j - o₁.length)
      omega

/-- A run that leaves the queues as they were and reports no outcome and no record. -/
theorem quiet (hq : ctx'.queue = ctx.queue)
    (ho : ∀ o ∈ outs, ∀ q, o.isOutcomeOf q = false ∧ o.isQueuedOf q = false) :
    Conserves ctx ctx' outs := by
  have hout : ∀ l, l ⊆ outs → ∀ q, l.countP (Out.isOutcomeOf q) = 0 ∧
      l.countP (Out.isQueuedOf q) = 0 := fun l hl q =>
    ⟨List.countP_eq_zero.2 fun o h => by simp [(ho o (hl h) q).1],
      List.countP_eq_zero.2 fun o h => by simp [(ho o (hl h) q).2]⟩
  have hQ : ∀ q, ctx'.Queued q ↔ ctx.Queued q := fun q => by simp only [Ctx.Queued, hq]
  refine ⟨fun q => ?_, fun q j => ?_⟩
  · rw [(hout outs (List.Subset.refl _) q).1, (hout outs (List.Subset.refl _) q).2]
    simp only [hQ]
    omega
  · rw [(hout _ (List.take_subset j outs) q).1]
    exact Nat.zero_le _

/-- `queue_frame` records the fresh frame it appends, and reports no outcome. -/
theorem of_appends (hi : QueueInv ctx) {k : Nat} {ac : AcNumber} {f : Frame}
    (ha : Appends ctx ctx' k ac f) (n : Nat) :
    Conserves ctx ctx' [.queued ctx.nextFrame f ac n] := by
  have hfresh : ¬ ctx.Queued ctx.nextFrame := fun h => Nat.lt_irrefl _ (hi.lt_nextFrame h)
  refine ⟨fun q => ?_, fun q j => ?_⟩
  · by_cases hq : q = ctx.nextFrame
    · subst hq
      simp [(ha.queued_iff _).2 (.inr rfl), hfresh]
    · have : ctx'.Queued q ↔ ctx.Queued q := by simp [ha.queued_iff, hq]
      simp [this, Ne.symm hq]
  · cases j <;> simp

/-- A removal reports one outcome for each frame it removes and none for another, and no
record. -/
theorem of_removes {gone : FramePtr → Bool} (hr : Removes ctx ctx' gone)
    (hout : ∀ q, outs.countP (Out.isOutcomeOf q) = if gone q then 1 else 0)
    (hrec : ∀ q, outs.countP (Out.isQueuedOf q) = 0) : Conserves ctx ctx' outs := by
  refine ⟨fun q => ?_, fun q j => ?_⟩
  · have hQ := hr.queued_iff q
    rw [hout, hrec]
    cases hg : gone q
    · by_cases h : ctx.Queued q <;> simp_all
    · have := hr.gone_queued q hg
      simp_all
  · have hle := (List.take_sublist j outs).countP_le (Out.isOutcomeOf q)
    rw [hout] at hle
    cases hg : gone q
    · simp only [hg, Bool.false_eq_true, if_false] at hle
      omega
    · simp only [hr.gone_queued q hg, if_true]
      simp only [hg, if_true] at hle
      omega

end Conserves

section Handlers

variable {m : Medium} {ctx ctx' : Ctx} {outs : List Out}

theorem Out.not_txStatus_of_isGhost {o : Out} (h : o.isGhost = true) (q : FramePtr)
    (c : ClientPtr) (r : TxReport) : o ≠ .txStatus q c r := by
  rintro rfl
  cases h

/-- `_process_messages` records at most the frame it queues, and reports nothing. -/
theorem Conserves.processMessages (hi : QueueInv ctx) {env : TxEnv} {msg : NlMsg}
    {c : ClientPtr} (h : Wmediumd.processMessages m env ctx msg c = .ok (ctx', outs)) :
    Conserves ctx ctx' outs := by
  rcases processMessages_appends h with ⟨rfl, rfl⟩ | ⟨k, ac, f, ha, rfl⟩
  · exact .quiet rfl fun _ h => nomatch h
  · exact .of_appends hi ha _

/-- `wmediumd_remove_client` reports one cancellation for each frame it removes. -/
theorem Conserves.removeClient (hi : QueueInv ctx) {c : ClientPtr}
    (h : wmediumdRemoveClient ctx c = .ok (ctx', outs)) : Conserves ctx ctx' outs := by
  obtain ⟨hr, rfl⟩ := wmediumdRemoveClient_removes h
  refine .of_removes hr (fun q => ?_) fun q => ?_
  · rw [List.countP_map]
    have : (Out.isOutcomeOf q ∘ Out.cancelled) = (· == q) := rfl
    rw [this, ← List.count, List.count_eq_of_nodup (hi.nodup_removedFrames c)]
    simp
  · rw [List.countP_map]
    exact List.countP_eq_zero.2 fun _ _ => Bool.false_ne_true

/-- Delivery reports the transmit status of the frame whose job fired, at its start time, and
nothing else. -/
theorem StepReports.deliverFrame (hi : QueueInv ctx) {env : RxEnv} {p : FramePtr}
    (hen : Enabled ctx (.jobFired (.frame p) env))
    (h : wmediumdDeliverFrame m env { ctx with sched := ctx.sched.erase (.frame p) } p =
      .ok (ctx', outs)) :
    Conserves ctx ctx' outs ∧ ∀ q c r, Out.txStatus q c r ∈ outs →
      q = p ∧ ∃ f, ctx.frames q = some f ∧ f.start = ctx.now := by
  obtain ⟨hr, -, -⟩ := wmediumdDeliverFrame_removes hi hen.1 h
  obtain ⟨frame, -, rxs, client, report, hf, -, -, -, hrxs, -, -, rfl⟩ :=
    wmediumdDeliverFrame_spec h
  have hrx : ∀ o ∈ rxs, ∀ q, o.isOutcomeOf q = false ∧ o.isQueuedOf q = false ∧
      ∀ c r, o ≠ .txStatus q c r := fun o ho q => by
    obtain ⟨k, st, -, rfl⟩ := hrxs o ho
    exact ⟨rfl, rfl, fun _ _ h => nomatch h⟩
  refine ⟨.of_removes hr (fun q => ?_) fun q => ?_, fun q c r ho => ?_⟩
  · rw [List.countP_append, List.countP_eq_zero.2 fun o ho => by simp [(hrx o ho q).1]]
    by_cases hq : q = p
    · simp [hq]
    · simp [hq, Ne.symm hq]
  · rw [List.countP_append, List.countP_eq_zero.2 fun o ho => by simp [(hrx o ho q).2.1]]
    rfl
  · rcases List.mem_append.1 ho with ho | ho
    · exact absurd rfl ((hrx _ ho q).2.2 c r)
    · obtain ⟨rfl, -, -⟩ := Out.txStatus.inj (List.mem_singleton.1 ho)
      obtain ⟨f', hf', hstart⟩ := Option.map_eq_some'.1 hen.2
      exact ⟨rfl, f', hf', hstart⟩

end Handlers

/-- What one step reports: it keeps the books of the frames, and a transmit status is sent only
by the firing of the frame's own job, at the frame's start time. -/
structure StepReports (ctx : Ctx) (input : Input) (outs : List Out) (ctx' : Ctx) : Prop where
  conserves : Conserves ctx ctx' outs
  status : ∀ q c r, Out.txStatus q c r ∈ outs →
    (∃ env, input = .jobFired (.frame q) env) ∧ ∃ f, ctx.frames q = some f ∧ f.start = ctx.now

namespace StepReports

variable {ctx ctx' : Ctx} {input : Input} {outs : List Out}

/-- A step whose outputs are records of `queue_frame` and `wmediumd_remove_client` and API
responses sends no transmit status. -/
theorem of_quiet (hc : Conserves ctx ctx' outs)
    (ho : ∀ o ∈ outs, ∀ q c r, o ≠ .txStatus q c r) : StepReports ctx input outs ctx' :=
  ⟨hc, fun q c r h => absurd rfl (ho _ h q c r)⟩

theorem of_ghost (hc : Conserves ctx ctx' outs) (ho : ∀ o ∈ outs, o.isGhost = true) :
    StepReports ctx input outs ctx' :=
  of_quiet hc fun o h => Out.not_txStatus_of_isGhost (ho o h)

end StepReports

theorem step_reports {m : Medium} {ctx ctx' : Ctx} {input : Input} {outs : List Out}
    (hi : QueueInv ctx) (hs : Step m ctx input outs ctx') : StepReports ctx input outs ctx' := by
  rcases step_handler hs with ⟨env, msg, c, h⟩ | ⟨c, h⟩ | ⟨env, c, read, written, h⟩ |
    ⟨p, env, rfl, h⟩ | ⟨rfl, hst, -⟩
  · exact .of_ghost (.processMessages hi h) (processMessages_clientHeap h).2.2.2
  · exact .of_ghost (.removeClient hi h) (wmediumdRemoveClient_clientHeap h).2.2
  · obtain ⟨client, hcl, ⟨rfl, hrm⟩ | ⟨req, mid, o, r, rfl, hd, hw⟩⟩ := wmediumdApiHandler_cases h
    · exact .of_ghost (.removeClient hi hrm) (wmediumdRemoveClient_clientHeap hrm).2.2
    · have hmid : Conserves ctx mid o := by
        rcases apiDispatch_changes hd with ⟨hr, rfl⟩ | ⟨k, ac, f, ha, rfl⟩
        · exact .of_removes hr (fun _ => rfl) fun _ => rfl
        · exact .of_appends hi ha _
      have hresp : Conserves mid mid [.apiResponse c req r] :=
        .quiet rfl fun o ho q => by simp [List.mem_singleton.1 ho]
      have hgo := (apiDispatch_clientHeap hcl hd).2.2.2
      have hquiet : ∀ o' ∈ o ++ [.apiResponse c req r], ∀ q c r, o' ≠ .txStatus q c r := by
        intro o' ho' q c' r'
        rcases List.mem_append.1 ho' with ho' | ho'
        · exact Out.not_txStatus_of_isGhost (hgo o' ho') q c' r'
        · rw [List.mem_singleton.1 ho']
          exact fun h => nomatch h
      rcases hw with ⟨rfl, rfl, rfl⟩ | ⟨rfl, removed, hrm, rfl⟩
      · exact .of_quiet (hmid.append hresp) hquiet
      · have hmi : QueueInv mid := by
          rcases apiDispatch_changes hd with ⟨hr, rfl⟩ | ⟨k, ac, f, ha, rfl⟩
          · exact hi.removes hr
          · exact hi.append ha
        refine .of_quiet ((hmid.append hresp).append (.removeClient hmi hrm)) fun o' ho' => ?_
        rcases List.mem_append.1 ho' with ho' | ho'
        · exact hquiet o' ho'
        · exact Out.not_txStatus_of_isGhost ((wmediumdRemoveClient_clientHeap hrm).2.2 o' ho')
  · obtain ⟨hc, hst⟩ := StepReports.deliverFrame hi hs.1 h
    exact ⟨hc, fun q c r ho => by
      obtain ⟨rfl, hf⟩ := hst q c r ho
      exact ⟨⟨env, rfl⟩, hf⟩⟩
  · exact .of_quiet (.quiet (congrArg queueOf hst) fun _ h => nomatch h) fun _ h => nomatch h

/-! ## Runs -/

theorem two_le_countP {α : Type} {p : α → Bool} {l : List α} {a b : Nat} {x y : α} (hab : a < b)
    (ha : l[a]? = some x) (hb : l[b]? = some y) (hx : p x = true) (hy : p y = true) :
    2 ≤ l.countP p := by
  have h₁ : 0 < (l.take b).countP p :=
    List.countP_pos_iff.2 ⟨x, List.mem_iff_getElem?.2 ⟨a, by rw [List.getElem?_take_of_lt hab, ha]⟩, hx⟩
  have h₂ : 0 < (l.drop b).countP p :=
    List.countP_pos_iff.2 ⟨y, List.mem_iff_getElem?.2 ⟨0, by rw [List.getElem?_drop, Nat.add_zero, hb]⟩,
      hy⟩
  rw [← List.take_append_drop b l, List.countP_append]
  omega

theorem Out.isQueued_of_isQueuedOf {o : Out} {q : FramePtr} (h : o.isQueuedOf q = true) :
    o.isQueued = true := by
  cases o <;> first | rfl | cases h

/-- A step records at most the fresh frame, and then hands out the next pointer. -/
theorem Changes.records {ctx ctx' : Ctx} {outs : List Out} {gone : FramePtr → Bool}
    (h : Changes ctx ctx' outs gone) (q : FramePtr) :
    outs.countP (Out.isQueuedOf q) ≤ 1 ∧ ctx.nextFrame ≤ ctx'.nextFrame ∧
      (0 < outs.countP (Out.isQueuedOf q) → q = ctx.nextFrame ∧ ctx.nextFrame < ctx'.nextFrame) := by
  have none : ∀ l : List Out, (∀ o ∈ l, o.isQueued = false) → l.countP (Out.isQueuedOf q) = 0 :=
    fun l hl => List.countP_eq_zero.2 fun o ho hq => by
      simpa [hl o ho] using Out.isQueued_of_isQueuedOf hq
  rcases h with ⟨hr, hq⟩ | ⟨mid, k, ac, f, rest, ha, hr, rfl, hq, -⟩
  · rw [none outs hq, hr.nextFrame]
    exact ⟨Nat.zero_le _, le_rfl, fun h => absurd h (Nat.lt_irrefl 0)⟩
  · rw [List.countP_cons, none rest hq, hr.nextFrame, ha.nextFrame]
    by_cases hn : ctx.nextFrame = q
    · simp [hn]
    · simp [hn]

/-- What the log of a run says about each frame pointer `q`: its outcomes plus one while it is
queued are its records; it has at most one record, and none from the next pointer the allocator
hands out on; and no prefix of the log has more outcomes of `q` than records. -/
structure Settled (log : List Out) (ctx : Ctx) : Prop where
  balance : ∀ q, log.countP (Out.isOutcomeOf q) + (if ctx.Queued q then 1 else 0) =
    log.countP (Out.isQueuedOf q)
  once : ∀ q, log.countP (Out.isQueuedOf q) ≤ 1
  fresh : ∀ q, ctx.nextFrame ≤ q → log.countP (Out.isQueuedOf q) = 0
  causal : ∀ q k, (log.take k).countP (Out.isOutcomeOf q) ≤ (log.take k).countP (Out.isQueuedOf q)

namespace Settled

variable {m : Medium} {log : List Out} {ctx ctx' : Ctx} {input : Input} {outs : List Out}

theorem init (ids : List MacAddr) (interference useNetlink : Bool) :
    Settled [] (initCtx ids interference useNetlink) := by
  have hq : ∀ q, ¬ (initCtx ids interference useNetlink).Queued q := fun q ⟨k, ac, h⟩ => by
    rw [initCtx_queue] at h
    cases h
  refine ⟨fun q => ?_, fun _ => Nat.zero_le _, fun _ _ => rfl, fun _ _ => ?_⟩
  · simp [hq q]
  · simp

/-- A frame with an outcome in the log was allocated. -/
theorem lt_nextFrame_of_outcome (hst : Settled log ctx) {q : FramePtr}
    (h : 0 < log.countP (Out.isOutcomeOf q)) : q < ctx.nextFrame := by
  by_contra hle
  have := hst.balance q
  have := hst.fresh q (Nat.le_of_not_lt hle)
  omega

theorem step (hi : QueueInv ctx) (hst : Settled log ctx) (hs : Step m ctx input outs ctx') :
    Settled (log ++ outs) ctx' := by
  obtain ⟨gone, hc, -⟩ := step_changes hi hs
  have hcons := (step_reports hi hs).conserves
  refine ⟨fun q => ?_, fun q => ?_, fun q hq => ?_, fun q k => ?_⟩
  · have := hst.balance q
    have := hcons.balance q
    rw [List.countP_append, List.countP_append]
    omega
  · obtain ⟨h₁, -, h₃⟩ := hc.records q
    rw [List.countP_append]
    by_cases h0 : outs.countP (Out.isQueuedOf q) = 0
    · have := hst.once q
      omega
    · have := hst.fresh q (h₃ (Nat.pos_of_ne_zero h0)).1.ge
      omega
  · obtain ⟨-, h₂, h₃⟩ := hc.records q
    rw [List.countP_append, hst.fresh q (Nat.le_trans h₂ hq), Nat.zero_add]
    by_contra h0
    obtain ⟨rfl, hlt⟩ := h₃ (Nat.pos_of_ne_zero h0)
    exact Nat.lt_irrefl _ (Nat.lt_of_lt_of_le hlt hq)
  · rw [List.take_append_eq_append_take, List.countP_append, List.countP_append]
    have := hst.causal q k
    by_cases hk : k ≤ log.length
    · rw [Nat.sub_eq_zero_of_le hk, List.take_zero, List.countP_nil, List.countP_nil]
      exact this
    · rw [List.take_of_length_le (by omega)] at this ⊢
      have := hst.balance q
      have := hcons.causal q (k - log.length)
      omega

end Settled

/-- The transmit statuses of a log against the records of their frames: every record's airtime
ends at its start; each status was sent at its frame's start time, which the clock has reached;
and the statuses were sent in the order of those start times. -/
structure ReportOrder (log : List Out) (ctx : Ctx) : Prop where
  airtime : ∀ p f ac n, Out.queued p f ac n ∈ log → f.duration ≤ f.start
  reached : ∀ q c r f ac n, Out.txStatus q c r ∈ log → Out.queued q f ac n ∈ log →
    f.start ≤ ctx.now
  ordered : ∀ (a b : Nat) (p q : FramePtr) (cp cq : ClientPtr) (rp rq : TxReport)
    (fp fq : Frame) (acp acq : AcNumber) (np nq : Nat), a < b →
    log[a]? = some (Out.txStatus p cp rp) → log[b]? = some (Out.txStatus q cq rq) →
    Out.queued p fp acp np ∈ log → Out.queued q fq acq nq ∈ log → fp.start ≤ fq.start

namespace ReportOrder

variable {m : Medium} {log : List Out} {ctx ctx' : Ctx} {input : Input} {outs : List Out}

theorem init : ReportOrder [] ctx :=
  ⟨fun _ _ _ _ h => (List.not_mem_nil _ h).elim, fun _ _ _ _ _ _ h => (List.not_mem_nil _ h).elim,
    fun _ _ _ _ _ _ _ _ _ _ _ _ _ _ _ h => by simp at h⟩

theorem step (hi : QueueInv ctx) (hst : Settled log ctx) (hrt : Routed log ctx)
    (ho : ReportOrder log ctx) (hs : Step m ctx input outs ctx') :
    ReportOrder (log ++ outs) ctx' := by
  obtain ⟨gone, hc, -⟩ := step_changes hi hs
  have hrep := step_reports hi hs
  -- a record made by the step is of the fresh frame
  have hfresh : ∀ q f ac n, Out.queued q f ac n ∈ outs → q = ctx.nextFrame := fun q f ac n h =>
    ((hc.records q).2.2 (List.countP_pos_iff.2 ⟨_, h, by simp⟩)).1
  -- a frame the log reports on was allocated before the step
  have hold : ∀ q c r, Out.txStatus q c r ∈ log → q < ctx.nextFrame := fun q c r h =>
    hst.lt_nextFrame_of_outcome (List.countP_pos_iff.2 ⟨_, h, by simp⟩)
  have hrec : ∀ q c r f ac n, Out.txStatus q c r ∈ log → Out.queued q f ac n ∈ log ++ outs →
      Out.queued q f ac n ∈ log := fun q c r f ac n h hr =>
    (List.mem_append.1 hr).resolve_right fun hr' =>
      Nat.lt_irrefl _ (hfresh q f ac n hr' ▸ hold q c r h)
  -- the status a step sends is of a queued frame whose start the clock reads
  have hnew : ∀ q c r f ac n, Out.txStatus q c r ∈ outs → Out.queued q f ac n ∈ log ++ outs →
      Out.queued q f ac n ∈ log ∧ ctx.Queued q ∧ f.start = ctx.now := by
    intro q c r f ac n h hr
    obtain ⟨⟨env, rfl⟩, f', hf', hstart⟩ := hrep.status q c r h
    have hq : ctx.Queued q := (hi.job_iff_queued q).1 hs.1.1
    have hr' : Out.queued q f ac n ∈ log := (List.mem_append.1 hr).resolve_right fun hr' =>
      Nat.lt_irrefl _ (hfresh q f ac n hr' ▸ hi.lt_nextFrame hq)
    obtain rfl := Option.some.inj (((hrt.recorded q f ac n hr').2 hq).symm.trans hf')
    exact ⟨hr', hq, hstart⟩
  have hnow := hc.now_le
  refine ⟨fun p f ac n h => ?_, fun q c r f ac n h hr => ?_, fun a b p q cp cq rp rq fp fq
    acp acq np nq hab ha hb hp hq => ?_⟩
  · rcases List.mem_append.1 h with h | h
    · exact ho.airtime p f ac n h
    · obtain ⟨l, hl⟩ := List.mem_iff_getElem?.1 h
      obtain ⟨-, -, -, mid, rest, ha, -⟩ := hc.queued_entry hl
      rw [ha.start]
      exact Nat.le_add_left _ _
  · rcases List.mem_append.1 h with h | h
    · exact Nat.le_trans (ho.reached q c r f ac n h (hrec q c r f ac n h hr)) hnow
    · rw [(hnew q c r f ac n h hr).2.2]
      exact hnow
  · by_cases hb' : b < log.length
    · rw [List.getElem?_append_left (Nat.lt_trans hab hb')] at ha
      rw [List.getElem?_append_left hb'] at hb
      exact ho.ordered a b p q cp cq rp rq fp fq acp acq np nq hab ha hb
        (hrec p cp rp fp acp np (List.getElem?_mem ha) hp)
        (hrec q cq rq fq acq nq (List.getElem?_mem hb) hq)
    · obtain ⟨l, rfl⟩ := Nat.exists_eq_add_of_le (Nat.le_of_not_lt hb')
      rw [getElem?_append_length] at hb
      have hbq := hnew q cq rq fq acq nq (List.getElem?_mem hb) hq
      by_cases ha' : a < log.length
      · rw [List.getElem?_append_left ha'] at ha
        rw [hbq.2.2]
        exact ho.reached p cp rp fp acp np (List.getElem?_mem ha)
          (hrec p cp rp fp acp np (List.getElem?_mem ha) hp)
      · -- two statuses in one step are of the one frame whose job fired, which has one outcome
        obtain ⟨k, rfl⟩ := Nat.exists_eq_add_of_le (Nat.le_of_not_lt ha')
        rw [getElem?_append_length] at ha
        obtain ⟨⟨env, rfl⟩, -⟩ := hrep.status p cp rp (List.getElem?_mem ha)
        obtain ⟨⟨env', he⟩, -⟩ := hrep.status q cq rq (List.getElem?_mem hb)
        obtain rfl : p = q := by cases he; rfl
        have h2 := two_le_countP (p := Out.isOutcomeOf p) (by omega : k < l) ha hb (by simp)
          (by simp)
        have hbal := hrep.conserves.balance p
        have hrec0 : outs.countP (Out.isQueuedOf p) = 0 := by
          by_contra h0
          have := ((hc.records p).2.2 (Nat.pos_of_ne_zero h0)).1
          exact Nat.lt_irrefl _ (this ▸ hi.lt_nextFrame hbq.2.1)
        rw [if_pos hbq.2.1, hrec0] at hbal
        omega

end ReportOrder

section Runs

variable {m : Medium} {ids : List MacAddr} {interference useNetlink : Bool} {log : List Out}
  {ctx : Ctx}

/-- What every run from the initial state keeps: the books of the frames, the order of the
transmit statuses, and the start-time order of the frames it queued. -/
theorem run_reports (hrun : Run m (initCtx ids interference useNetlink) log ctx) :
    Settled log ctx ∧ ReportOrder log ctx ∧ StartsOrdered log := by
  have key : QueueInv ctx ∧ Settled log ctx ∧ ReportOrder log ctx ∧ StartSorted ctx ∧
      Tracked log ctx ∧ StartsOrdered log := by
    induction hrun with
    | refl =>
        refine ⟨.init ids interference useNetlink, .init ids interference useNetlink, .init,
          fun k ac => ?_, fun i _ _ _ _ h => ?_, fun i _ _ _ _ _ _ _ _ _ _ h => ?_⟩
        · rw [initCtx_queue]
          exact List.Pairwise.nil
        · cases h
        · cases h
    | step hrun' hs ih =>
        obtain ⟨hi, hst, ho, hsorted, ht, hso⟩ := ih
        obtain ⟨gone, hc, -⟩ := step_changes hi hs
        exact ⟨hc.queueInv hi, hst.step hi hs, ho.step hi hst (run_routed hrun') hs,
          hc.startSorted hi hsorted, ht.step hi hs, hso.step hi hsorted ht hs⟩
  exact ⟨key.2.1, key.2.2.1, key.2.2.2.2.2⟩

/-- Along every run, every frame pointer is recorded as queued at most once; a frame has exactly
one outcome, its transmit status or its cancellation, once it has left the queues, and none
while it is queued or if it was never queued; and in no prefix of the log do the outcomes of a
frame outnumber its records. -/
theorem frame_outcome_once (hrun : Run m (initCtx ids interference useNetlink) log ctx)
    (q : FramePtr) :
    log.countP (Out.isQueuedOf q) ≤ 1 ∧
      log.countP (Out.isOutcomeOf q) + (if ctx.Queued q then 1 else 0) =
        log.countP (Out.isQueuedOf q) ∧
      ∀ k, (log.take k).countP (Out.isOutcomeOf q) ≤ (log.take k).countP (Out.isQueuedOf q) :=
  let hst := (run_reports hrun).1
  ⟨hst.once q, hst.balance q, hst.causal q⟩

/-- The kernel submits a frame from `addrA` with an empty rate table, and its job fires at once:
the run records it and reports its status. -/
theorem frameFromA_delivered :
    ∃ f ac r ctx, Run perfectMedium (initCtx [addrA, addrB] false true)
      ([] ++ [.queued 0 f ac 0] ++ [.txStatus 0 0 r]) ctx :=
  ⟨_, _, _, _, .step (.step .refl
    (show Step _ _ (.netlinkMessage frameFromA (txDraws 0)) _ _ from ⟨rfl, rfl⟩))
    (show Step _ _ (.jobFired (.frame 0) rxQuiet) _ _ from ⟨⟨by decide, rfl⟩, rfl⟩)⟩

theorem delivered_frame_outcome_once :
    ∃ log ctx, Run perfectMedium (initCtx [addrA, addrB] false true) log ctx ∧
      log.countP (Out.isQueuedOf 0) ≤ 1 ∧
      log.countP (Out.isOutcomeOf 0) + (if ctx.Queued 0 then 1 else 0) =
        log.countP (Out.isQueuedOf 0) ∧
      ∀ k, (log.take k).countP (Out.isOutcomeOf 0) ≤ (log.take k).countP (Out.isQueuedOf 0) := by
  obtain ⟨_, _, _, ctx, hrun⟩ := frameFromA_delivered
  exact ⟨_, ctx, hrun, frame_outcome_once hrun 0⟩

/-- Along every run, the transmit statuses are sent in the order of their frames' start times;
so a frame queued after one of equal or higher priority is never reported before it, unless it
takes no airtime and starts when the other does. -/
theorem reports_in_start_order (hrun : Run m (initCtx ids interference useNetlink) log ctx) :
    (∀ (a b : Nat) (p q : FramePtr) (cp cq : ClientPtr) (rp rq : TxReport) (fp fq : Frame)
      (acp acq : AcNumber) (np nq : Nat), a < b →
      log[a]? = some (Out.txStatus p cp rp) → log[b]? = some (Out.txStatus q cq rq) →
      Out.queued p fp acp np ∈ log → Out.queued q fq acq nq ∈ log → fp.start ≤ fq.start) ∧
    ∀ (i j a b : Nat) (pf pg : FramePtr) (f g : Frame) (acf acg : AcNumber) (nf ng : Nat)
      (cf cg : ClientPtr) (rf rg : TxReport), i < j →
      log[i]? = some (Out.queued pf f acf nf) → log[j]? = some (Out.queued pg g acg ng) →
      acf ≤ acg → log[a]? = some (Out.txStatus pf cf rf) →
      log[b]? = some (Out.txStatus pg cg rg) → b < a → g.duration = 0 ∧ g.start = f.start := by
  obtain ⟨hst, ho, hso⟩ := run_reports hrun
  refine ⟨ho.ordered, fun i j a b pf pg f g acf acg nf ng cf cg rf rg hij hf hg hac ha hb hba => ?_⟩
  have hfg := ho.ordered b a pg pf cg cf rg rf g f acg acf ng nf hba hb ha
    (List.getElem?_mem hg) (List.getElem?_mem hf)
  -- a frame with a transmit status has no cancellation
  have hnc : ∀ l, i < l → l < j → log[l]? ≠ some (.cancelled pf) := by
    intro l _ _ hl
    have hone : log.countP (Out.isOutcomeOf pf) ≤ 1 := by
      have := hst.balance pf
      have := hst.once pf
      omega
    have hla : l ≠ a := fun h => by rw [h, ha] at hl; cases hl
    rcases Nat.lt_or_gt_of_ne hla with hla | hla
    · have := two_le_countP hla hl ha (p := Out.isOutcomeOf pf) (by simp) (by simp)
      omega
    · have := two_le_countP hla ha hl (p := Out.isOutcomeOf pf) (by simp) (by simp)
      omega
  have hord := (hso i j pf f acf nf pg g acg ng hij hf hg hac hnc).1
  have hair := ho.airtime pg g acg ng (List.getElem?_mem hg)
  omega

/-- The order along `sample_run`, which reports frame 0, started at 378 µs, before frame 2,
started at 1134 µs. -/
theorem delivered_reports_in_start_order :
    ∃ log ctx f₀ ac₀ r₀ f₂ ac₂ r₂, Run perfectMedium (initCtx [addrA, addrB] false true) log ctx ∧
    Out.queued 0 f₀ ac₀ 0 ∈ log ∧ Out.queued 2 f₂ ac₂ 378 ∈ log ∧ Out.txStatus 0 0 r₀ ∈ log ∧
    Out.txStatus 2 0 r₂ ∈ log ∧ f₀.start < f₂.start ∧
    (∀ (a b : Nat) (p q : FramePtr) (cp cq : ClientPtr) (rp rq : TxReport) (fp fq : Frame)
      (acp acq : AcNumber) (np nq : Nat), a < b →
      log[a]? = some (Out.txStatus p cp rp) → log[b]? = some (Out.txStatus q cq rq) →
      Out.queued p fp acp np ∈ log → Out.queued q fq acq nq ∈ log → fp.start ≤ fq.start) ∧
    ∀ (i j a b : Nat) (pf pg : FramePtr) (f g : Frame) (acf acg : AcNumber) (nf ng : Nat)
      (cf cg : ClientPtr) (rf rg : TxReport), i < j →
      log[i]? = some (Out.queued pf f acf nf) → log[j]? = some (Out.queued pg g acg ng) →
      acf ≤ acg → log[a]? = some (Out.txStatus pf cf rf) →
      log[b]? = some (Out.txStatus pg cg rg) → b < a → g.duration = 0 ∧ g.start = f.start := by
  obtain ⟨f₀, ac₀, _, _, _, r₀, f₂, ac₂, _, r₂, _, _, ctx, hrun, h₀, -, h₂, -⟩ := sample_run
  exact ⟨_, ctx, f₀, ac₀, r₀, f₂, ac₂, r₂, hrun, by simp, by simp, by simp, by simp, by omega,
    reports_in_start_order hrun⟩

end Runs

end Wmediumd
