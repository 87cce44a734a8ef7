import Wmediumd.QueueInvariant

/-!
# Delivery times

`queue_frame` starts a frame's airtime at the latest start of the queue tails of equal or higher
priority, and no earlier than the current time. The scheduler fires a job at its start time and
its clock never goes back (`Enabled`). Hence every queue is ordered by start time, and a frame
queued after another of equal or higher priority that is still pending starts its airtime no
earlier than that frame's delivery.

The second fact is about the log of a run: frame `f` is earlier than `g` when its `queued`
record comes first, and it is pending when no `cancelled` record of it stands in between.
-/

namespace Wmediumd

/-- `frame->job.start` of the frame at `p`. -/
def Ctx.startOf (ctx : Ctx) (p : FramePtr) : Nat := ((ctx.frames p).map Frame.start).getD 0

/-- Every queue is ordered by start time, in enqueue order. -/
def StartSorted (ctx : Ctx) : Prop :=
  ∀ k ac, (ctx.queue k ac).Pairwise fun p q => ctx.startOf p ≤ ctx.startOf q

/-! ## The target of `queue_frame` -/

theorem le_foldl {α : Type} {f : Nat → α → Nat} (hf : ∀ t a, t ≤ f t a) (l : List α) (t : Nat) :
    t ≤ l.foldl f t := by
  induction l generalizing t with
  | nil => exact Nat.le_refl t
  | cons a l ih => exact Nat.le_trans (hf t a) (ih (f t a))

theorem le_foldl_of_mem {α : Type} {f : Nat → α → Nat} (hf : ∀ t a, t ≤ f t a) {v : Nat} {a : α}
    (hv : ∀ t, v ≤ f t a) {l : List α} (ha : a ∈ l) (t : Nat) : v ≤ l.foldl f t := by
  induction l generalizing t with
  | nil => cases ha
  | cons b l ih =>
      rcases List.mem_cons.1 ha with rfl | ha
      · exact Nat.le_trans (hv t) (le_foldl hf l _)
      · exact ih ha (f t b)

private theorem le_stationsFold (frames : FramePtr → Option Frame) (stations : List Station)
    (i : AcNumber) (t : Nat) :
    t ≤ stations.foldl (fun target st => max target (tailStart frames (st.queues i))) t :=
  le_foldl (fun _ _ => Nat.le_max_left _ _) stations t

private theorem tailStart_le_stationsFold (frames : FramePtr → Option Frame)
    {stations : List Station} {st : Station} (hst : st ∈ stations) (i : AcNumber) (t : Nat) :
    tailStart frames (st.queues i) ≤
      stations.foldl (fun target st => max target (tailStart frames (st.queues i))) t :=
  le_foldl_of_mem (f := fun target st => max target (tailStart frames (st.queues i)))
    (fun _ _ => Nat.le_max_left _ _) (fun _ => Nat.le_max_right _ _) hst t

theorem now_le_queueTarget (ctx : Ctx) (ac : AcNumber) : ctx.now ≤ queueTarget ctx ac :=
  le_foldl (fun t i => le_stationsFold ctx.frames ctx.stations i t) _ ctx.now

theorem tailStart_le_queueTarget {ctx : Ctx} {st : Station} (hst : st ∈ ctx.stations)
    {i ac : AcNumber} (hi : i ≤ ac) : tailStart ctx.frames (st.queues i) ≤ queueTarget ctx ac :=
  le_foldl_of_mem (fun t i => le_stationsFold ctx.frames ctx.stations i t)
    (fun t => tailStart_le_stationsFold ctx.frames hst i t)
    (List.mem_filter.2 ⟨List.mem_finRange i, by simpa using hi⟩) ctx.now

/-- In a queue ordered by start time, the tail starts last. -/
theorem startOf_le_tailStart {ctx : Ctx} {queue : Wqueue}
    (hs : queue.frames.Pairwise fun p q => ctx.startOf p ≤ ctx.startOf q) {p : FramePtr}
    (hp : p ∈ queue.frames) : ctx.startOf p ≤ tailStart ctx.frames queue := by
  unfold tailStart
  rcases List.eq_nil_or_concat queue.frames with h | ⟨l, t, h⟩
  · rw [h] at hp
    cases hp
  · rw [h, List.concat_eq_append] at hs hp
    rw [h, List.concat_eq_append, List.getLast?_concat]
    rcases List.mem_append.1 hp with hp | hp
    · exact (List.pairwise_append.1 hs).2.2 p hp t (List.mem_singleton_self t)
    · rw [List.mem_singleton.1 hp]
      exact Nat.le_refl _

/-- The target of `queue_frame` for class `ac` is past the start of every frame queued for an
equal or higher priority. -/
theorem startOf_le_queueTarget {ctx : Ctx} (hs : StartSorted ctx) {p : FramePtr} {k : Nat}
    {i ac : AcNumber} (hp : p ∈ ctx.queue k i) (hi : i ≤ ac) :
    ctx.startOf p ≤ queueTarget ctx ac := by
  cases hk : ctx.stations[k]? with
  | none => simp [Ctx.queue, queueOf, hk] at hp
  | some st =>
      have hq : (st.queues i).frames = ctx.queue k i := by simp [Ctx.queue, queueOf, hk]
      rw [← hq] at hp
      exact Nat.le_trans (startOf_le_tailStart (hq ▸ hs k i) hp)
        (tailStart_le_queueTarget (List.getElem?_mem hk) hi)

/-! ## Steps keep the queues ordered -/

section Sorted

variable {ctx mid ctx' : Ctx}

theorem StartSorted.removes {gone : FramePtr → Bool} (hs : StartSorted ctx)
    (hr : Removes ctx ctx' gone) : StartSorted ctx' := by
  intro k ac
  rw [hr.queue]
  have key : ∀ p ∈ (ctx.queue k ac).filter (fun q => !gone q), ctx'.startOf p = ctx.startOf p :=
    fun p hp => by
      rw [List.mem_filter, Bool.not_eq_true'] at hp
      simp only [Ctx.startOf, hr.frames p hp.2]
  exact ((hs k ac).filter _).imp_of_mem fun ha hb h => by rw [key _ ha, key _ hb]; exact h

theorem StartSorted.append {k : Nat} {ac : AcNumber} {f : Frame} (hi : QueueInv ctx)
    (hs : StartSorted ctx) (ha : Appends ctx mid k ac f) : StartSorted mid := by
  have key : ∀ {p k' ac'}, p ∈ ctx.queue k' ac' → mid.startOf p = ctx.startOf p := fun hp => by
    simp only [Ctx.startOf, ha.frames,
      Function.update_noteq (Nat.ne_of_lt (hi.lt_nextFrame ⟨_, _, hp⟩))]
  have old : ∀ k' ac', (ctx.queue k' ac').Pairwise fun p q => mid.startOf p ≤ mid.startOf q :=
    fun k' ac' => (hs k' ac').imp_of_mem fun hp hq h => by rw [key hp, key hq]; exact h
  intro k' ac'
  rw [ha.queue]
  split_ifs with h
  · refine List.pairwise_append.2 ⟨old k ac, List.pairwise_singleton _ _, fun p hp q hq => ?_⟩
    rw [List.mem_singleton.1 hq, key hp]
    calc ctx.startOf p ≤ queueTarget ctx ac := startOf_le_queueTarget hs hp (Nat.le_refl _)
      _ ≤ f.start := by rw [ha.start]; exact Nat.le_add_right _ _
      _ = mid.startOf ctx.nextFrame := by simp [Ctx.startOf, ha.frames]
  · exact old k' ac'

theorem Changes.startSorted {outs : List Out} {gone : FramePtr → Bool} (hi : QueueInv ctx)
    (hs : StartSorted ctx) (h : Changes ctx ctx' outs gone) : StartSorted ctx' := by
  rcases h with ⟨hr, -⟩ | ⟨mid, k, ac, f, rest, ha, hr, -⟩
  · exact hs.removes hr
  · exact (hs.append hi ha).removes hr

theorem Changes.now_le {outs : List Out} {gone : FramePtr → Bool}
    (h : Changes ctx ctx' outs gone) : ctx.now ≤ ctx'.now := by
  rcases h with ⟨hr, -⟩ | ⟨mid, k, ac, f, rest, ha, hr, -⟩
  · exact hr.now_le
  · exact ha.now ▸ hr.now_le

/-- The only `queued` record of a step is its first output, for the frame it appended. -/
theorem Changes.queued_entry {outs : List Out} {gone : FramePtr → Bool}
    (h : Changes ctx ctx' outs gone) {l : Nat} {p : FramePtr} {f : Frame} {ac : AcNumber} {n : Nat}
    (he : outs[l]? = some (.queued p f ac n)) :
    l = 0 ∧ p = ctx.nextFrame ∧ n = ctx.now ∧ ∃ mid rest, Appends ctx mid f.sender ac f ∧
      Removes mid ctx' gone ∧ outs = .queued p f ac n :: rest ∧
      (gone p = true → Out.cancelled p ∈ rest) := by
  rcases h with ⟨-, hq⟩ | ⟨mid, k, ac', f', rest, ha, hr, rfl, hq, hc⟩
  · have := hq _ (List.getElem?_mem he)
    simp at this
  · cases l with
    | zero =>
        simp only [List.getElem?_cons_zero, Option.some.injEq, Out.queued.injEq] at he
        obtain ⟨rfl, rfl, rfl, rfl⟩ := he
        exact ⟨rfl, rfl, rfl, mid, rest, ha.sender ▸ ha, hr, rfl, hc⟩
    | succ l =>
        rw [List.getElem?_cons_succ] at he
        have := hq _ (List.getElem?_mem he)
        simp at this

end Sorted

/-! ## Runs -/

/-- Every frame the log records as queued, and not as cancelled since, is still in the queue it
was put in with its record, or its start time has passed. -/
def Tracked (log : List Out) (ctx : Ctx) : Prop :=
  ∀ (i : Nat) (p : FramePtr) (f : Frame) (ac : AcNumber) (n : Nat),
    log[i]? = some (.queued p f ac n) →
    (∀ l, i < l → log[l]? ≠ some (.cancelled p)) →
    (ctx.frames p = some f ∧ p ∈ ctx.queue f.sender ac) ∨ f.start ≤ ctx.now

/-- For every frame `g` the log records as queued and every earlier frame `f` of an equal or
higher priority not cancelled in between, `g`'s airtime starts after `f`'s delivery and after the
time `g` was queued. -/
def StartsOrdered (log : List Out) : Prop :=
  ∀ (i j : Nat) (pf : FramePtr) (f : Frame) (acf : AcNumber) (nf : Nat) (pg : FramePtr) (g : Frame)
    (acg : AcNumber) (ng : Nat), i < j → log[i]? = some (.queued pf f acf nf) →
    log[j]? = some (.queued pg g acg ng) → acf ≤ acg →
    (∀ l, i < l → l < j → log[l]? ≠ some (.cancelled pf)) →
    f.start ≤ g.start - g.duration ∧ ng ≤ g.start - g.duration

theorem getElem?_append_length {α : Type} (log outs : List α) (l : Nat) :
    (log ++ outs)[log.length + l]? = outs[l]? := by
  rw [List.getElem?_append_right (Nat.le_add_right _ _), Nat.add_sub_cancel_left]

/-- A frame not cancelled after position `i` of `log ++ outs` is cancelled neither in `log` after
`i` nor in `outs`. -/
theorem not_cancelled_append {log outs : List Out} {i : Nat} {p : FramePtr} (hi : i < log.length)
    (hnc : ∀ l, i < l → (log ++ outs)[l]? ≠ some (.cancelled p)) :
    (∀ l, i < l → log[l]? ≠ some (.cancelled p)) ∧ Out.cancelled p ∉ outs := by
  refine ⟨fun l hl => ?_, fun hc => ?_⟩
  · by_cases hlen : l < log.length
    · rw [← List.getElem?_append_left hlen]
      exact hnc l hl
    · rw [List.getElem?_eq_none (Nat.le_of_not_lt hlen)]
      exact Option.noConfusion
  · obtain ⟨l, hl⟩ := List.mem_iff_getElem?.1 hc
    exact hnc (log.length + l) (by omega) (by rw [getElem?_append_length, hl])

section Runs

variable {m : Medium} {log : List Out} {ctx ctx' : Ctx} {input : Input} {outs : List Out}

theorem Tracked.step (hi : QueueInv ctx) (ht : Tracked log ctx) (hs : Step m ctx input outs ctx') :
    Tracked (log ++ outs) ctx' := by
  obtain ⟨gone, hc, hl⟩ := step_changes hi hs
  have hev := hc.evolves hi
  intro i p f ac n he hnc
  by_cases hlen : i < log.length
  · rw [List.getElem?_append_left hlen] at he
    obtain ⟨hnc, hnout⟩ := not_cancelled_append hlen hnc
    rcases ht i p f ac n he hnc with ⟨hf, hq⟩ | hle
    · cases hg : gone p
      · obtain ⟨k', ac', hq'⟩ : ctx.Queued p := ⟨_, _, hq⟩
        refine .inl ⟨(hev.kept p ⟨_, _, hq⟩ hg).1.trans hf, ?_⟩
        obtain ⟨new, hnew, -⟩ := hev.queue f.sender ac
        rw [hnew]
        exact List.mem_append_left _ (List.mem_filter.2 ⟨hq, by simp [hg]⟩)
      · rcases hl p ⟨_, _, hq⟩ hg with ⟨env, rfl, -⟩ | ⟨-, -, -, -, -, hcan, -⟩
        · obtain ⟨fd, hfd, hstart⟩ := Option.map_eq_some'.1 hs.1.2
          rw [hf, Option.some.injEq] at hfd
          exact .inr (hfd ▸ hstart ▸ hc.now_le)
        · exact absurd hcan hnout
    · exact .inr (Nat.le_trans hle hc.now_le)
  · obtain ⟨l, rfl⟩ := Nat.exists_eq_add_of_le (Nat.le_of_not_lt hlen)
    rw [getElem?_append_length] at he
    obtain ⟨rfl, rfl, rfl, mid, rest, ha, hr, rfl, hcan⟩ := hc.queued_entry he
    cases hg : gone ctx.nextFrame
    · refine .inl ⟨by rw [hr.frames _ hg, ha.frames, Function.update_same], ?_⟩
      rw [hr.queue, ha.queue, if_pos ⟨rfl, rfl⟩]
      exact List.mem_filter.2 ⟨List.mem_append_right _ (List.mem_singleton_self _), by simp [hg]⟩
    · obtain ⟨l, hl⟩ := List.mem_iff_getElem?.1 (hcan hg)
      have hidx : log.length + 0 + 1 + l = log.length + (l + 1) := by omega
      exact absurd (by rw [hidx, getElem?_append_length, List.getElem?_cons_succ]; exact hl)
        (hnc (log.length + 0 + 1 + l) (by omega))

theorem StartsOrdered.step (hi : QueueInv ctx) (hs₀ : StartSorted ctx) (ht : Tracked log ctx)
    (ho : StartsOrdered log) (hs : Step m ctx input outs ctx') : StartsOrdered (log ++ outs) := by
  obtain ⟨gone, hc, -⟩ := step_changes hi hs
  intro i j pf f acf nf pg g acg ng hij hf hg hac hnc
  by_cases hj : j < log.length
  · rw [List.getElem?_append_left (Nat.lt_trans hij hj)] at hf
    rw [List.getElem?_append_left hj] at hg
    exact ho i j pf f acf nf pg g acg ng hij hf hg hac fun l hil hlj => by
      rw [← List.getElem?_append_left (Nat.lt_trans hlj hj)]
      exact hnc l hil hlj
  · obtain ⟨l, rfl⟩ := Nat.exists_eq_add_of_le (Nat.le_of_not_lt hj)
    rw [getElem?_append_length] at hg
    obtain ⟨rfl, rfl, rfl, mid, rest, ha, -⟩ := hc.queued_entry hg
    have hi' : i < log.length := by omega
    rw [List.getElem?_append_left hi'] at hf
    have htarget : g.start - g.duration = queueTarget ctx acg := by rw [ha.start]; omega
    rw [htarget]
    refine ⟨?_, now_le_queueTarget ctx acg⟩
    have hnc' : ∀ l, i < l → log[l]? ≠ some (.cancelled pf) := fun l hl => by
      by_cases hlen : l < log.length
      · rw [← List.getElem?_append_left hlen]
        exact hnc l hl (by omega)
      · rw [List.getElem?_eq_none (Nat.le_of_not_lt hlen)]
        exact Option.noConfusion
    rcases ht i pf f acf nf hf hnc' with ⟨hfp, hq⟩ | hle
    · have := startOf_le_queueTarget hs₀ hq hac
      simpa [Ctx.startOf, hfp] using this
    · exact Nat.le_trans hle (now_le_queueTarget ctx acg)

/-- Along every run from the initial state, each frame queued later in an equal or lower priority
class starts its airtime after the delivery of each earlier frame not cancelled in between, and
after the time it was queued; and every queue is ordered by start time. -/
theorem run_start_order {ids : List MacAddr} {interference useNetlink : Bool}
    (hrun : Run m (initCtx ids interference useNetlink) log ctx) :
    StartsOrdered log ∧ StartSorted ctx := by
  have key : QueueInv ctx ∧ StartSorted ctx ∧ Tracked log ctx ∧ StartsOrdered log := by
    induction hrun with
    | refl =>
        refine ⟨QueueInv.init ids interference useNetlink, fun k ac => ?_, fun i _ _ _ _ h => ?_,
          fun i _ _ _ _ _ _ _ _ _ _ h => ?_⟩
        · rw [initCtx_queue]
          exact List.Pairwise.nil
        · cases h
        · cases h
    | step _ hs ih =>
        obtain ⟨hi, hsorted, ht, ho⟩ := ih
        obtain ⟨gone, hc, -⟩ := step_changes hi hs
        exact ⟨hc.queueInv hi, hc.startSorted hi hsorted, ht.step hi hs,
          ho.step hi hsorted ht hs⟩
  exact ⟨key.2.2.2, key.2.1⟩

/-- The order along `sample_run`: frame 1, queued while frame 0 was pending, starts 378 µs
after it, one airtime later, and frame 2 after frame 1. -/
theorem run_start_order_sample :
    ∃ log ctx, Run perfectMedium (initCtx [addrA, addrB] false true) log ctx ∧
      Out.cancelled 1 ∈ log ∧ StartsOrdered log ∧ StartSorted ctx := by
  obtain ⟨_, _, _, _, _, _, _, _, _, _, _, _, ctx, hrun, -⟩ := sample_run
  exact ⟨_, ctx, hrun, by simp, run_start_order hrun⟩

end Runs

end Wmediumd
