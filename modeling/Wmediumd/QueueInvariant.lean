import Wmediumd.Loop

/-!
# Every queued frame sits in one queue and has one job

`QueueInv` is the discipline that `queue_frame`, `wmediumd_deliver_frame` and
`wmediumd_remove_client` keep between them: the station queues hold each frame at most once,
a queued frame is in queue `frame_select_queue_80211(frame)` of its sender, the frames in the
queues are exactly those with a pending job, and the allocator's next pointer is fresh.

Each handler changes the frames in one of two ways, `Appends` (a fresh frame at a queue tail,
with its job) or `Removes` (the frames a predicate selects leave their queues and the
scheduler, the others keep their place and record); the API handler may do the first and then
the second. `QueueInv` is preserved by both, so it holds in every reachable state.
-/

namespace Wmediumd

/-- The queue and job discipline of the engine. -/
structure QueueInv (ctx : Ctx) : Prop where
  queue_nodup : ∀ k ac, (ctx.queue k ac).Nodup
  queued_frame : ∀ k ac p, p ∈ ctx.queue k ac →
    ∃ f, ctx.frames p = some f ∧ f.sender = k ∧ frameSelectQueue80211 f.data = .ok ac
  sched_nodup : ctx.sched.Nodup
  job_iff_queued : ∀ p, Job.frame p ∈ ctx.sched ↔ ctx.Queued p
  fresh : ∀ p, ctx.nextFrame ≤ p → ctx.frames p = none

/-- `queue_frame`'s change to the frames: the fresh frame `f` at the tail of queue `ac` of
station `k`, with its job. -/
structure Appends (ctx ctx' : Ctx) (k : Nat) (ac : AcNumber) (f : Frame) : Prop where
  queue : ∀ k' ac', ctx'.queue k' ac' =
    if k' = k ∧ ac' = ac then ctx.queue k ac ++ [ctx.nextFrame] else ctx.queue k' ac'
  frames : ctx'.frames = Function.update ctx.frames ctx.nextFrame (some f)
  sched : ctx'.sched = ctx.sched ++ [.frame ctx.nextFrame]
  nextFrame : ctx'.nextFrame = ctx.nextFrame + 1
  sender : f.sender = k
  select : frameSelectQueue80211 f.data = .ok ac
  start : f.start = queueTarget ctx ac + f.duration
  now : ctx'.now = ctx.now

/-- The change of delivery and client removal: the queued frames `gone` selects leave their
queues and the scheduler; every other frame keeps its place in its queue, its record and its
job; the clock does not go back. -/
structure Removes (ctx ctx' : Ctx) (gone : FramePtr → Bool) : Prop where
  queue : ∀ k ac, ctx'.queue k ac = (ctx.queue k ac).filter fun q => !gone q
  sched : ∀ q, Job.frame q ∈ ctx'.sched ↔ Job.frame q ∈ ctx.sched ∧ gone q = false
  sched_nodup : ctx.sched.Nodup → ctx'.sched.Nodup
  frames : ∀ q, gone q = false → ctx'.frames q = ctx.frames q
  gone_queued : ∀ q, gone q = true → ctx.Queued q
  nextFrame : ctx'.nextFrame = ctx.nextFrame
  now_le : ctx.now ≤ ctx'.now

/-- After an append, the queued frames are the old ones and the fresh one. -/
theorem Appends.queued_iff {ctx ctx' : Ctx} {k : Nat} {ac : AcNumber} {f : Frame}
    (ha : Appends ctx ctx' k ac f) (q : FramePtr) :
    ctx'.Queued q ↔ ctx.Queued q ∨ q = ctx.nextFrame := by
  constructor
  · rintro ⟨k', ac', hq⟩
    rw [ha.queue] at hq
    split_ifs at hq with h
    · rcases List.mem_append.1 hq with hq | hq
      · exact .inl ⟨k, ac, hq⟩
      · exact .inr (List.mem_singleton.1 hq)
    · exact .inl ⟨k', ac', hq⟩
  · rintro (⟨k', ac', hq⟩ | rfl)
    · by_cases h : k' = k ∧ ac' = ac
      · obtain ⟨rfl, rfl⟩ := h
        exact ⟨k', ac', by simp [ha.queue, hq]⟩
      · exact ⟨k', ac', by simp only [ha.queue, h, if_false]; exact hq⟩
    · exact ⟨k, ac, by simp [ha.queue]⟩

/-- After a removal, the queued frames are the old ones `gone` does not select. -/
theorem Removes.queued_iff {ctx ctx' : Ctx} {gone : FramePtr → Bool} (hr : Removes ctx ctx' gone)
    (q : FramePtr) : ctx'.Queued q ↔ ctx.Queued q ∧ gone q = false := by
  simp only [Ctx.Queued, hr.queue, List.mem_filter, Bool.not_eq_true']
  constructor
  · rintro ⟨k, ac, hq, hg⟩
    exact ⟨⟨k, ac, hq⟩, hg⟩
  · rintro ⟨⟨k, ac, hq⟩, hg⟩
    exact ⟨k, ac, hq, hg⟩

namespace QueueInv

variable {ctx ctx' : Ctx}

theorem not_mem_of_fresh (hi : QueueInv ctx) {p : FramePtr} (hp : ctx.nextFrame ≤ p) (k : Nat)
    (ac : AcNumber) : p ∉ ctx.queue k ac := fun hmem => by
  obtain ⟨f, hf, -⟩ := hi.queued_frame k ac p hmem
  simp [hi.fresh p hp] at hf

theorem lt_nextFrame (hi : QueueInv ctx) {p : FramePtr} (hq : ctx.Queued p) : p < ctx.nextFrame := by
  obtain ⟨k, ac, hmem⟩ := hq
  by_contra hle
  exact hi.not_mem_of_fresh (Nat.le_of_not_lt hle) k ac hmem

/-- A queued frame is in exactly one queue: that of its sender, for its access category. -/
theorem queue_unique (hi : QueueInv ctx) {p : FramePtr} {k k' : Nat} {ac ac' : AcNumber}
    (h₁ : p ∈ ctx.queue k ac) (h₂ : p ∈ ctx.queue k' ac') : k' = k ∧ ac' = ac := by
  obtain ⟨f, hf, hs, ha⟩ := hi.queued_frame k ac p h₁
  obtain ⟨f', hf', hs', ha'⟩ := hi.queued_frame k' ac' p h₂
  obtain rfl : f' = f := Option.some.inj (hf'.symm.trans hf)
  exact ⟨hs'.symm.trans hs, Except.ok.inj (ha'.symm.trans ha)⟩

theorem append (hi : QueueInv ctx) {k : Nat} {ac : AcNumber} {f : Frame}
    (ha : Appends ctx ctx' k ac f) : QueueInv ctx' := by
  have hnew := hi.not_mem_of_fresh (le_refl ctx.nextFrame)
  have hold : ∀ {q k' ac'}, q ∈ ctx.queue k' ac' → q ≠ ctx.nextFrame :=
    fun hq h => hnew _ _ (h ▸ hq)
  refine ⟨fun k' ac' => ?_, fun k' ac' q hq => ?_, ?_, fun q => ?_, fun q hq => ?_⟩
  · rw [ha.queue]
    split_ifs with h
    · exact List.nodup_append.2 ⟨hi.queue_nodup k ac, List.nodup_singleton _,
        List.disjoint_singleton.2 (hnew k ac)⟩
    · exact hi.queue_nodup k' ac'
  · rw [ha.queue] at hq
    rw [ha.frames]
    split_ifs at hq with h
    · obtain ⟨rfl, rfl⟩ := h
      rcases List.mem_append.1 hq with hq | hq
      · rw [Function.update_noteq (hold hq)]
        exact hi.queued_frame _ _ q hq
      · rw [List.mem_singleton.1 hq, Function.update_same]
        exact ⟨f, rfl, ha.sender, ha.select⟩
    · rw [Function.update_noteq (hold hq)]
      exact hi.queued_frame _ _ q hq
  · rw [ha.sched]
    refine List.nodup_append.2 ⟨hi.sched_nodup, List.nodup_singleton _, ?_⟩
    refine List.disjoint_singleton.2 fun hmem => ?_
    obtain ⟨k', ac', hq⟩ := (hi.job_iff_queued _).1 hmem
    exact hnew k' ac' hq
  · rw [ha.sched, List.mem_append, hi.job_iff_queued, ha.queued_iff]
    simp
  · rw [ha.nextFrame] at hq
    rw [ha.frames, Function.update_noteq (Nat.ne_of_gt hq)]
    exact hi.fresh q (Nat.le_of_succ_le hq)

theorem removes (hi : QueueInv ctx) {gone : FramePtr → Bool} (hr : Removes ctx ctx' gone) :
    QueueInv ctx' := by
  refine ⟨fun k ac => ?_, fun k ac q hq => ?_, hr.sched_nodup hi.sched_nodup, fun q => ?_,
    fun q hq => ?_⟩
  · rw [hr.queue]
    exact (hi.queue_nodup k ac).filter _
  · rw [hr.queue, List.mem_filter, Bool.not_eq_true'] at hq
    rw [hr.frames q hq.2]
    exact hi.queued_frame k ac q hq.1
  · rw [hr.sched, hi.job_iff_queued, hr.queued_iff]
  · rw [hr.nextFrame] at hq
    cases hg : gone q
    · rw [hr.frames q hg]
      exact hi.fresh q hq
    · exact absurd (hi.lt_nextFrame (hr.gone_queued q hg)) (Nat.not_lt.2 hq)

end QueueInv

namespace Removes

variable {ctx mid ctx' : Ctx}

/-- A handler that leaves the frames, the queues and the frame jobs as they were. -/
theorem of_untouched (hst : ctx'.queue = ctx.queue) (hf : ctx'.frames = ctx.frames)
    (hs : ∀ q, Job.frame q ∈ ctx'.sched ↔ Job.frame q ∈ ctx.sched)
    (hnd : ctx.sched.Nodup → ctx'.sched.Nodup) (hn : ctx'.nextFrame = ctx.nextFrame)
    (hnow : ctx.now ≤ ctx'.now) : Removes ctx ctx' fun _ => false where
  queue k ac := by simp [hst]
  sched q := by simp [hs]
  sched_nodup := hnd
  frames q _ := by rw [hf]
  gone_queued q h := by cases h
  nextFrame := hn
  now_le := hnow

/-- A handler that changes neither the stations, the heap of frames nor the scheduler. -/
theorem of_same (hst : ctx'.stations = ctx.stations) (hf : ctx'.frames = ctx.frames)
    (hs : ctx'.sched = ctx.sched) (hn : ctx'.nextFrame = ctx.nextFrame)
    (hnow : ctx.now ≤ ctx'.now) : Removes ctx ctx' fun _ => false :=
  of_untouched (by funext k ac; simp only [Ctx.queue, hst]) hf (by simp [hs]) (by rw [hs]; exact id)
    hn hnow

theorem refl (ctx : Ctx) : Removes ctx ctx fun _ => false :=
  of_same rfl rfl rfl rfl (Nat.le_refl _)

theorem trans {g₁ g₂ : FramePtr → Bool} (h₁ : Removes ctx mid g₁) (h₂ : Removes mid ctx' g₂) :
    Removes ctx ctx' fun q => g₁ q || g₂ q where
  queue k ac := by
    rw [h₂.queue, h₁.queue, List.filter_filter]
    congr 1
    funext q
    cases g₁ q <;> cases g₂ q <;> rfl
  sched q := by rw [h₂.sched, h₁.sched, Bool.or_eq_false_iff, and_assoc]
  sched_nodup h := h₂.sched_nodup (h₁.sched_nodup h)
  frames q h := by
    rw [Bool.or_eq_false_iff] at h
    rw [h₂.frames q h.2, h₁.frames q h.1]
  gone_queued q h := by
    cases h₁q : g₁ q
    · obtain ⟨k, ac, hq⟩ := h₂.gone_queued q (by simpa [h₁q] using h)
      rw [h₁.queue] at hq
      exact ⟨k, ac, (List.mem_filter.1 hq).1⟩
    · exact h₁.gone_queued q h₁q
  nextFrame := h₂.nextFrame.trans h₁.nextFrame
  now_le := Nat.le_trans h₁.now_le h₂.now_le

/-- A removed frame is in no queue and has no job afterwards. -/
theorem not_queued {gone : FramePtr → Bool} (hr : Removes ctx ctx' gone) {q : FramePtr}
    (hg : gone q = true) : ¬ ctx'.Queued q ∧ Job.frame q ∉ ctx'.sched := by
  refine ⟨fun ⟨k, ac, hq⟩ => ?_, fun hj => ?_⟩
  · rw [hr.queue, List.mem_filter, hg] at hq
    exact Bool.false_ne_true hq.2
  · rw [hr.sched, hg] at hj
    exact absurd hj.2 (by decide)

end Removes

/-! ## Steps -/

/-- The ghost record of a `queue_frame`. -/
def Out.isQueued : Out → Bool
  | .queued .. => true
  | _ => false

/-- The transmit status of frame `q`. -/
def Out.isTxStatusOf (q : FramePtr) : Out → Bool
  | .txStatus p _ _ => p == q
  | _ => false

@[simp] theorem Out.isQueued_queued (p : FramePtr) (f : Frame) (ac : AcNumber) (n : Nat) :
    (Out.queued p f ac n).isQueued = true := rfl
@[simp] theorem Out.isQueued_cancelled (p : FramePtr) : (Out.cancelled p).isQueued = false := rfl
@[simp] theorem Out.isQueued_apiResponse (c : ClientPtr) (req : ApiRequest) (r : WmediumdMessage) :
    (Out.apiResponse c req r).isQueued = false := rfl
@[simp] theorem Out.isTxStatusOf_txStatus (q p : FramePtr) (c : ClientPtr) (r : TxReport) :
    (Out.txStatus p c r).isTxStatusOf q = (p == q) := rfl
@[simp] theorem Out.isTxStatusOf_queued (q p : FramePtr) (f : Frame) (ac : AcNumber) (n : Nat) :
    (Out.queued p f ac n).isTxStatusOf q = false := rfl
@[simp] theorem Out.isTxStatusOf_cancelled (q p : FramePtr) :
    (Out.cancelled p).isTxStatusOf q = false := rfl
@[simp] theorem Out.isTxStatusOf_apiResponse (q : FramePtr) (c : ClientPtr) (req : ApiRequest)
    (r : WmediumdMessage) : (Out.apiResponse c req r).isTxStatusOf q = false := rfl

/-- The two shapes of a handler run: it removes frames and queues none; or it queues one frame,
recorded first, and may then remove frames, the new one among them only with a cancellation
after its record (the API handler queues a frame, then may remove its client). -/
def Changes (ctx ctx' : Ctx) (outs : List Out) (gone : FramePtr → Bool) : Prop :=
  (Removes ctx ctx' gone ∧ ∀ o ∈ outs, o.isQueued = false) ∨
    ∃ mid k ac f rest, Appends ctx mid k ac f ∧ Removes mid ctx' gone ∧
      outs = .queued ctx.nextFrame f ac ctx.now :: rest ∧ (∀ o ∈ rest, o.isQueued = false) ∧
      (gone ctx.nextFrame = true → Out.cancelled ctx.nextFrame ∈ rest)

theorem Changes.queueInv {ctx ctx' : Ctx} {outs : List Out} {gone : FramePtr → Bool}
    (hi : QueueInv ctx) (h : Changes ctx ctx' outs gone) : QueueInv ctx' := by
  rcases h with ⟨hr, -⟩ | ⟨mid, k, ac, f, rest, ha, hr, -⟩
  · exact hi.removes hr
  · exact (hi.append ha).removes hr

/-- What a step does to the frames queued before it: those `gone` selects leave their queue and
the scheduler; the others keep their place, their record and their job; at most the fresh frame
joins, at a queue tail. -/
structure Evolves (ctx ctx' : Ctx) (gone : FramePtr → Bool) : Prop where
  queue : ∀ k ac, ∃ new, ctx'.queue k ac = (ctx.queue k ac).filter (fun q => !gone q) ++ new ∧
    (new = [] ∨ new = [ctx.nextFrame])
  kept : ∀ q, ctx.Queued q → gone q = false →
    ctx'.frames q = ctx.frames q ∧ Job.frame q ∈ ctx'.sched
  left : ∀ q, gone q = true → ¬ ctx'.Queued q ∧ Job.frame q ∉ ctx'.sched

theorem Changes.evolves {ctx ctx' : Ctx} {outs : List Out} {gone : FramePtr → Bool}
    (hi : QueueInv ctx) (h : Changes ctx ctx' outs gone) : Evolves ctx ctx' gone := by
  rcases h with ⟨hr, -⟩ | ⟨mid, k, ac, f, rest, ha, hr, -⟩
  · refine ⟨fun k ac => ⟨[], by rw [hr.queue, List.append_nil], .inl rfl⟩, fun q hq hg => ?_,
      fun q hg => hr.not_queued hg⟩
    exact ⟨hr.frames q hg, (hr.sched q).2 ⟨(hi.job_iff_queued q).2 hq, hg⟩⟩
  · refine ⟨fun k' ac' => ?_, fun q hq hg => ?_, fun q hg => hr.not_queued hg⟩
    · rw [hr.queue, ha.queue]
      split_ifs with h
      · obtain ⟨rfl, rfl⟩ := h
        rw [List.filter_append]
        exact ⟨_, rfl, by cases gone ctx.nextFrame <;> simp⟩
      · exact ⟨[], (List.append_nil _).symm, .inl rfl⟩
    · have hne : q ≠ ctx.nextFrame := Nat.ne_of_lt (hi.lt_nextFrame hq)
      refine ⟨by rw [hr.frames q hg, ha.frames, Function.update_noteq hne], (hr.sched q).2 ⟨?_, hg⟩⟩
      rw [ha.sched]
      exact List.mem_append_left _ ((hi.job_iff_queued q).2 hq)

/-! ## The handlers -/

section Handlers

variable {m : Medium} {ctx mid ctx' : Ctx} {outs : List Out}

/-- The state `_process_messages` leaves after queueing `f` for station `k` is an append. -/
theorem Appends.bind_enqueue {k : Nat} {st : Station} (hw : MacAddr) (client : ClientPtr)
    {ac : AcNumber} {f : Frame} (hst : ctx.stations[k]? = some st) (hs : f.sender = k)
    (hac : frameSelectQueue80211 f.data = .ok ac)
    (hstart : f.start = queueTarget ctx ac + f.duration) :
    Appends ctx { ctx with
      stations := ctx.stations.set k ((st.bind hw client).enqueue ac ctx.nextFrame),
      frames := Function.update ctx.frames ctx.nextFrame (some f),
      sched := ctx.sched ++ [.frame ctx.nextFrame], nextFrame := ctx.nextFrame + 1 } k ac f := by
  refine ⟨fun k' ac' => ?_, rfl, rfl, rfl, hs, hac, hstart, rfl⟩
  have hb : (ctx.stations.set k (st.bind hw client))[k]? = some (st.bind hw client) := by
    simp [(List.getElem?_eq_some_iff.1 hst).1]
  show queueOf (ctx.stations.set k ((st.bind hw client).enqueue ac ctx.nextFrame)) k' ac' = _
  rw [← List.set_set (st.bind hw client), queueOf_set_enqueue hb, queueOf_set_bind hst]
  rfl

theorem processMessages_appends {env : TxEnv} {msg : NlMsg} {client : ClientPtr}
    (h : processMessages m env ctx msg client = .ok (ctx', outs)) :
    (ctx' = ctx ∧ outs = []) ∨
      ∃ k ac f, Appends ctx ctx' k ac f ∧ outs = [.queued ctx.nextFrame f ac ctx.now] := by
  rcases processMessages_queued h with h | ⟨k, st, hw, ac, f, hst, -, hs, hac, -, hstart, rfl, rfl⟩
  · exact .inl h
  · exact .inr ⟨k, ac, f, Appends.bind_enqueue hw client hst hs hac hstart, rfl⟩

/-- A request handled by `apiDispatch` appends at most one frame and removes none. -/
theorem apiDispatch_changes {env : TxEnv} {c : ClientPtr} {client : Client} {req : ApiRequest}
    {o : List Out} {r : WmediumdMessage} (h : apiDispatch m env ctx c client req = .ok (mid, o, r)) :
    (Removes ctx mid (fun _ => false) ∧ o = []) ∨
      ∃ k ac f, Appends ctx mid k ac f ∧ o = [.queued ctx.nextFrame f ac ctx.now] := by
  rcases apiDispatch_cases h with ⟨msg, -, hp, -⟩ | ⟨-, -, rfl, -, rfl⟩ | ⟨-, -, rfl, -, rfl⟩ |
    ⟨rfl, rfl, -⟩
  · rcases processMessages_appends hp with ⟨rfl, rfl⟩ | ha
    · exact .inl ⟨Removes.refl _, rfl⟩
    · exact .inr ha
  all_goals exact .inl ⟨Removes.of_same rfl rfl rfl rfl (Nat.le_refl _), rfl⟩

/-- A run of `_process_messages` has one of the two shapes, and removes nothing. -/
theorem processMessages_changes {env : TxEnv} {msg : NlMsg} {client : ClientPtr}
    (h : processMessages m env ctx msg client = .ok (ctx', outs)) :
    Changes ctx ctx' outs fun _ => false := by
  rcases processMessages_appends h with ⟨rfl, rfl⟩ | ⟨k, ac, f, ha, rfl⟩
  · exact .inl ⟨Removes.refl ctx', by simp⟩
  · exact .inr ⟨ctx', k, ac, f, [], ha, Removes.refl ctx', rfl, by simp, by simp⟩

/-- Delivery removes exactly the delivered frame and reports its status once. -/
theorem wmediumdDeliverFrame_removes {env : RxEnv} {p : FramePtr} (hi : QueueInv ctx)
    (hp : Job.frame p ∈ ctx.sched)
    (h : wmediumdDeliverFrame m env { ctx with sched := ctx.sched.erase (.frame p) } p =
      .ok (ctx', outs)) :
    Removes ctx ctx' (· == p) ∧ (∀ o ∈ outs, o.isQueued = false) ∧
      outs.countP (Out.isTxStatusOf p) = 1 := by
  obtain ⟨frame, intf, rxs, client, report, -, -, -, -, hrxs, -, rfl, rfl⟩ :=
    wmediumdDeliverFrame_spec h
  have hrx : ∀ o ∈ rxs, o.isQueued = false ∧ o.isTxStatusOf p = false := fun o ho => by
    obtain ⟨k, st, -, rfl⟩ := hrxs o ho
    exact ⟨rfl, rfl⟩
  refine ⟨⟨fun k ac => ?_, fun q => ?_, fun hnd => hnd.erase _, fun q hq => ?_, fun q hq => ?_,
    rfl, Nat.le_refl _⟩, fun o ho => ?_, ?_⟩
  · show queueOf (ctx.stations.map (·.unlink p)) k ac = _
    rw [queueOf_map_unlink]
    exact (hi.queue_nodup k ac).erase_eq_filter p
  · show Job.frame q ∈ ctx.sched.erase (.frame p) ↔ _
    rw [hi.sched_nodup.mem_erase_iff]
    simp [and_comm]
  · exact Function.update_noteq (by simpa using hq) _ _
  · obtain rfl : q = p := by simpa using hq
    exact (hi.job_iff_queued q).1 hp
  · rcases List.mem_append.1 ho with ho | ho
    · exact (hrx o ho).1
    · rw [List.mem_singleton.1 ho]
      rfl
  · rw [List.countP_append, List.countP_eq_zero.2 fun o ho => by simp [(hrx o ho).2]]
    simp

/-- Removing client `c` removes exactly the queued frames whose `src` is `c`, and records their
cancellation. -/
theorem wmediumdRemoveClient_removes {c : ClientPtr}
    (h : wmediumdRemoveClient ctx c = .ok (ctx', outs)) :
    Removes ctx ctx' (fun q => decide (q ∈ removedFrames ctx c)) ∧
      outs = (removedFrames ctx c).map .cancelled := by
  obtain ⟨client, -, rfl, rfl⟩ := wmediumdRemoveClient_eq h
  refine ⟨⟨fun k ac => ?_, fun q => ?_, fun hnd => hnd.filter _, fun q hq => ?_, fun q hq => ?_,
    rfl, Nat.le_refl _⟩, rfl⟩
  · show queueOf ((ctx.stations.map (·.unbind c)).map (·.dropFrames (fromClient ctx c))) k ac = _
    rw [queueOf_map_dropFrames, queueOf_map_unbind]
    refine List.filter_congr fun q hq => ?_
    have : q ∈ queuedFrames ctx.stations := mem_queuedFrames.2 ⟨k, ac, hq⟩
    simp [removedFrames, this]
  · simp
  · simp only [decide_eq_false_iff_not] at hq
    simp [hq]
  · simp only [decide_eq_true_eq, removedFrames, List.mem_filter] at hq
    exact mem_queuedFrames.1 hq.1

end Handlers

/-! ## How a frame leaves -/

/-- The inputs that make `wmediumd_remove_client` run for client `c`: a vhost-user disconnect, a
failed API read, or an API response that could not be written. -/
def RemovesClient (c : ClientPtr) : Input → Prop
  | .vhostUserDisconnected c' => c' = c
  | .apiMessage c' read written _ => c' = c ∧ (read = .failed ∨ written = false)
  | _ => False

/-- How a queued frame `q` may leave in one step: its own job fires and the delivery sends its
transmit status exactly once, or the removal of its `src` client cancels it without a status. -/
def LeavesBy (ctx : Ctx) (input : Input) (outs : List Out) (q : FramePtr) : Prop :=
  (∃ env, input = .jobFired (.frame q) env ∧ outs.countP (Out.isTxStatusOf q) = 1) ∨
    ∃ f c, ctx.frames q = some f ∧ f.src = some c ∧ RemovesClient c input ∧
      Out.cancelled q ∈ outs ∧ outs.countP (Out.isTxStatusOf q) = 0

/-- A frame that `wmediumd_remove_client` unlinks from `mid`, where it has its record of
`ctx`, leaves by the removal of its `src` client. -/
theorem leavesBy_removal {ctx mid : Ctx} {input : Input} {c : ClientPtr} {q : FramePtr}
    (hin : RemovesClient c input) (hq : q ∈ removedFrames mid c)
    (hf : mid.frames q = ctx.frames q) (pre : List Out)
    (hpre : pre.countP (Out.isTxStatusOf q) = 0) :
    LeavesBy ctx input (pre ++ (removedFrames mid c).map .cancelled) q := by
  have hc : Out.cancelled q ∈ pre ++ (removedFrames mid c).map .cancelled :=
    List.mem_append_right _ (List.mem_map_of_mem _ hq)
  have hfrom := (List.mem_filter.1 hq).2
  unfold fromClient at hfrom
  cases hfq : mid.frames q with
  | none => simp [hfq] at hfrom
  | some f =>
      simp only [hfq, Option.any_some, decide_eq_true_eq] at hfrom
      refine .inr ⟨f, c, hf ▸ hfq, hfrom, hin, hc, ?_⟩
      rw [List.countP_append, hpre, List.countP_map]
      simp [Function.comp_def]

/-- A step that ends with `wmediumd_remove_client` on `mid`, reached from `ctx` without queueing
or removing a frame and after outputs `pre` that neither queue nor report one, removes the frames
of the client, each by the removal. -/
theorem changes_of_removeClient {ctx mid ctx' : Ctx} {input : Input} {c : ClientPtr}
    {outs removed : List Out} (hin : RemovesClient c input) (hr₀ : Removes ctx mid fun _ => false)
    (pre : List Out) (hpre : ∀ o ∈ pre, o.isQueued = false ∧ ∀ q, o.isTxStatusOf q = false)
    (h : wmediumdRemoveClient mid c = .ok (ctx', removed)) (houts : outs = pre ++ removed) :
    ∃ gone, Changes ctx ctx' outs gone ∧
      ∀ q, ctx.Queued q → gone q = true → LeavesBy ctx input outs q := by
  obtain ⟨hr, rfl⟩ := wmediumdRemoveClient_removes h
  subst houts
  refine ⟨_, .inl ⟨hr₀.trans hr, fun o ho => ?_⟩, fun q _ hg => leavesBy_removal hin
    (by simpa using hg) (hr₀.frames q rfl) pre (List.countP_eq_zero.2 fun o ho => ?_)⟩
  · rcases List.mem_append.1 ho with ho | ho
    · exact (hpre o ho).1
    · obtain ⟨q, -, rfl⟩ := List.mem_map.1 ho
      rfl
  · simp [hpre o ho]

/-! ## Runs -/

section Runs

variable {m : Medium}

/-- What one step does to the queued frames, and how each frame it removes leaves. -/
theorem step_changes {ctx ctx' : Ctx} {input : Input} {outs : List Out} (hi : QueueInv ctx)
    (hs : Step m ctx input outs ctx') :
    ∃ gone, Changes ctx ctx' outs gone ∧
      ∀ q, ctx.Queued q → gone q = true → LeavesBy ctx input outs q := by
  have keeps : Changes ctx ctx' outs (fun _ => false) → ∃ gone, Changes ctx ctx' outs gone ∧
      ∀ q, ctx.Queued q → gone q = true → LeavesBy ctx input outs q :=
    fun h => ⟨_, h, fun q _ hg => by cases hg⟩
  have same : Removes ctx ctx' (fun _ => false) → outs = [] → ∃ gone,
      Changes ctx ctx' outs gone ∧ ∀ q, ctx.Queued q → gone q = true → LeavesBy ctx input outs q :=
    fun hr ho => keeps (.inl ⟨hr, by simp [ho]⟩)
  obtain ⟨hen, h⟩ := hs
  cases input with
  | netlinkMessage msg env =>
      simp only [wmediumdStep] at h
      split at h
      · exact keeps (processMessages_changes h)
      · cases h
        exact same (Removes.refl ctx) rfl
  | vhostUserConnected =>
      cases h
      exact same (Removes.of_same rfl rfl rfl rfl (Nat.le_refl _)) rfl
  | vhostUserMessage c msg env =>
      cases msg with
      | some msg => exact keeps (processMessages_changes h)
      | none =>
          cases h
          exact same (Removes.refl ctx) rfl
  | vhostUserDisconnected c =>
      exact changes_of_removeClient rfl (Removes.refl ctx) [] (fun _ h => nomatch h) h rfl
  | apiConnected =>
      cases h
      exact same (Removes.of_same rfl rfl rfl rfl (Nat.le_refl _)) rfl
  | apiMessage c read written env =>
      obtain ⟨client, -, ⟨rfl, hrm⟩ | ⟨req, mid, o, r, rfl, hd, hw⟩⟩ := wmediumdApiHandler_cases h
      · exact changes_of_removeClient ⟨rfl, .inl rfl⟩ (Removes.refl ctx) [] (fun _ h => nomatch h)
          hrm rfl
      · rcases hw with ⟨rfl, rfl, rfl⟩ | ⟨rfl, removed, hrm, rfl⟩
        · rcases apiDispatch_changes hd with ⟨hr, rfl⟩ | ⟨k, ac, f, ha, rfl⟩
          · exact keeps (.inl ⟨hr, by simp⟩)
          · exact keeps (.inr ⟨_, k, ac, f, _, ha, Removes.refl _, rfl, by simp,
              by simp⟩)
        · rcases apiDispatch_changes hd with ⟨hr₀, rfl⟩ | ⟨k, ac, f, ha, rfl⟩
          · exact changes_of_removeClient ⟨rfl, .inr rfl⟩ hr₀ _
              (by simp) hrm rfl
          · obtain ⟨hr, rfl⟩ := wmediumdRemoveClient_removes hrm
            refine ⟨_, .inr ⟨mid, k, ac, f, _, ha, hr, rfl, by simp,
              fun hg => ?_⟩, fun q hq hg => ?_⟩
            · exact List.mem_cons_of_mem _ (List.mem_map_of_mem _ (by simpa using hg))
            · have hne : q ≠ ctx.nextFrame := Nat.ne_of_lt (hi.lt_nextFrame hq)
              exact leavesBy_removal
                (show RemovesClient c (.apiMessage c (.request req) false env) from ⟨rfl, .inr rfl⟩)
                (by simpa using hg) (by rw [ha.frames, Function.update_noteq hne]) _
                (by simp)
  | jobFired j env =>
      cases j with
      | frame p =>
          obtain ⟨hr, hq, hcount⟩ := wmediumdDeliverFrame_removes hi hen.1 h
          refine ⟨_, .inl ⟨hr, hq⟩, fun q _ hg => ?_⟩
          obtain rfl : q = p := by simpa using hg
          exact .inl ⟨env, rfl, hcount⟩
      | intfUpdate =>
          cases h
          refine same (Removes.of_untouched rfl rfl (fun q => ?_) (fun hnd => ?_) rfl
            (Nat.le_refl _)) rfl
          · simp [wmediumdIntfUpdateJob, List.mem_erase_of_ne]
          · exact List.nodup_append.2 ⟨hnd.erase _, List.nodup_singleton _,
              List.disjoint_singleton.2 hnd.not_mem_erase⟩
  | timePasses t =>
      cases h
      exact same (Removes.of_same rfl rfl rfl rfl hen) rfl

theorem initCtx_queue (ids : List MacAddr) (interference useNetlink : Bool) (k : Nat)
    (ac : AcNumber) : (initCtx ids interference useNetlink).queue k ac = [] := by
  simp only [Ctx.queue, queueOf, initCtx, List.getElem?_map]
  cases ids.enum[k]? <;> simp

theorem QueueInv.init (ids : List MacAddr) (interference useNetlink : Bool) :
    QueueInv (initCtx ids interference useNetlink) where
  queue_nodup k ac := by
    rw [initCtx_queue]
    exact List.nodup_nil
  queued_frame k ac p hp := by simp [initCtx_queue] at hp
  sched_nodup := by
    unfold initCtx
    split <;> simp
  job_iff_queued p := by
    simp only [Ctx.Queued, initCtx_queue, List.not_mem_nil, exists_const, iff_false]
    unfold initCtx
    split <;> simp
  fresh _ _ := rfl

theorem QueueInv.reachable {ids : List MacAddr} {interference useNetlink : Bool} {ctx : Ctx}
    (h : Reachable m ids interference useNetlink ctx) : QueueInv ctx := by
  obtain ⟨log, hrun⟩ := h
  induction hrun with
  | refl => exact QueueInv.init ids interference useNetlink
  | step _ hs ih =>
      obtain ⟨gone, hc, -⟩ := step_changes ih hs
      exact hc.queueInv ih

/-- In every reachable state the queue discipline holds and a queued frame is in one queue
only; and every step keeps each queued frame it does not remove in its place with its record and
its job, while each frame it removes leaves by its own delivery, which reports its status once,
or by the removal of its `src` client, which reports nothing. -/
theorem reachable_queue_discipline {ids : List MacAddr} {interference useNetlink : Bool}
    {ctx : Ctx} (h : Reachable m ids interference useNetlink ctx) :
    QueueInv ctx ∧
      (∀ p k ac k' ac', p ∈ ctx.queue k ac → p ∈ ctx.queue k' ac' → k' = k ∧ ac' = ac) ∧
      ∀ input outs ctx', Step m ctx input outs ctx' →
        ∃ gone, Evolves ctx ctx' gone ∧
          ∀ q, ctx.Queued q → gone q = true → LeavesBy ctx input outs q := by
  have hi := QueueInv.reachable h
  refine ⟨hi, fun p k ac k' ac' h₁ h₂ => hi.queue_unique h₁ h₂, fun input outs ctx' hs => ?_⟩
  obtain ⟨gone, hc, hl⟩ := step_changes hi hs
  exact ⟨gone, hc.evolves hi, hl⟩

/-- The discipline at the end of `sample_run`, which queued four frames, delivered two, cancelled
one and still holds frame 3. -/
theorem reachable_queue_discipline_sample :
    ∃ log ctx f, Run perfectMedium (initCtx [addrA, addrB] false true) log ctx ∧
      Out.cancelled 1 ∈ log ∧ ctx.frames 3 = some f ∧ QueueInv ctx ∧
      (∀ p k ac k' ac', p ∈ ctx.queue k ac → p ∈ ctx.queue k' ac' → k' = k ∧ ac' = ac) ∧
      ∀ input outs ctx', Step perfectMedium ctx input outs ctx' →
        ∃ gone, Evolves ctx ctx' gone ∧
          ∀ q, ctx.Queued q → gone q = true → LeavesBy ctx input outs q := by
  obtain ⟨_, _, _, _, _, _, _, _, _, _, f, _, ctx, hrun, -, -, -, h3⟩ := sample_run
  exact ⟨_, ctx, f, hrun, by simp, h3, reachable_queue_discipline ⟨_, hrun⟩⟩

end Runs

end Wmediumd
