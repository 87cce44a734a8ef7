import Wmediumd.Ack

/-!
# The MRR walk against its description

The walk of `queue_frame`, as described: the attempts are the slots of the rate table, row by
row up to the first row with `idx < 0`, `count` slots a row; the walk stops at the first
acknowledged attempt; `send_time` adds up the airtime of the attempts made and, when an ACK is
expected, their ACK time and the backoff of each attempt after the first of its row, with `cw`
going from `cw_min` to `min (2 * cw + 1) cw_max` after each backoff.

`mrrReference` is that description, a closed formula over the list of slots. The two loops of the
code are compared with it in two steps: the nested loops give one loop over the slots
(`mrrWalk_eq_slotWalk`), and that loop gives the formula (`slotWalk_eq_reference`).
-/

namespace Wmediumd

/-! ## The description -/

/-- Modelled from the spec: one attempt slot, attempt `attempt` of row `row`, at the row's rate
index. -/
structure Slot where
  row : Nat
  attempt : Nat
  idx : Int
  deriving DecidableEq, Repr

/-- Modelled from the spec: the slots of the rows from row `i` on, `count` slots a row, up to the
first row with `idx < 0`. -/
def mrrSlots (i : Nat) : List HwsimTxRate → List Slot
  | [] => []
  | r :: rows =>
      if r.idx < 0 then []
      else (List.range r.count).map (fun j => ⟨i, j, r.idx⟩) ++ mrrSlots (i + 1) rows

/-- Modelled from the spec: the position of the first element `x`, at position `t`, with
`ok t x`. -/
def firstHit {α : Type} (ok : Nat → α → Bool) : List α → Option Nat
  | [] => none
  | x :: xs => if ok 0 x then some 0 else (firstHit (fun t => ok (t + 1)) xs).map (· + 1)

/-- Modelled from the spec: attempt `t` at slot `s` is acknowledged: the frame expects no ACK, or
the draw exceeds the row's `error_prob`. Attempt `t` compares with draw `choice + t`, or with
draw `choice` throughout when the random value is fixed. -/
def attemptAcked (a : Attempts) (errorProb : Int → ℚ) (choice t : Nat) (s : Slot) : Bool :=
  a.noack || decide (errorProb s.idx < a.draws (if a.fixed then choice else choice + t))

/-- Modelled from the spec: one backoff of the contention window. -/
def cwBackoff (cwMax cw : Nat) : Nat := min (2 * cw + 1) cwMax

/-- Modelled from the spec: what the walk ends with. -/
structure WalkSpec where
  sendTime : Nat
  cw : Nat
  acked : Option Slot

/-- Modelled from the spec: the walk over `slots` from `send_time`, `cw` and the draw of `w`:
the attempts made are the slots up to the first acknowledged one (all of them if none is); for a
frame that expects an ACK each has a backoff when it is not the first of its row. -/
def mrrReference (a : Attempts) (row : Int → Nat × ℚ) (slots : List Slot) (w : Walk) :
    WalkSpec :=
  let hit := firstHit (attemptAcked a (fun idx => (row idx).2) w.choice) slots
  let made := slots.take ((hit.map (· + 1)).getD slots.length)
  let backoffs := if a.noack then 0 else (made.filter fun s => decide (0 < s.attempt)).length
  { sendTime := w.sendTime + (made.map fun s => (row s.idx).1).sum +
      (if a.noack then 0
       else made.length * a.ackTime +
        ((List.range backoffs).map fun k => (cwBackoff a.cwMax)^[k] w.cw * slotTime / 2).sum)
    cw := (cwBackoff a.cwMax)^[backoffs] w.cw
    acked := hit.bind (slots[·]?) }

/-! ## One loop over the slots -/

/-- The two loops of `queue_frame` with the row boundaries taken out: one loop over the slots. -/
def slotWalk (a : Attempts) (row : Int → Nat × ℚ) : List Slot → Walk → Walk × Option Slot
  | [], w => (w, none)
  | s :: slots, w =>
      let w := { w with sendTime := w.sendTime + (row s.idx).1 }
      if a.noack then (w, some s)
      else
        let w := if 0 < s.attempt then
            { w with sendTime := w.sendTime + w.cw * slotTime / 2, cw := min (2 * w.cw + 1) a.cwMax }
          else w
        let w := { w with sendTime := w.sendTime + a.ackTime }
        if (row s.idx).2 < a.draws w.choice then (w, some s)
        else slotWalk a row slots (if a.fixed then w else { w with choice := w.choice + 1 })

/-- The walk after attempt `j` of its row of a frame that expects an ACK: the airtime `txTime`, a
backoff when the attempt is not the first of its row, and the ACK time. -/
def Walk.attempt (a : Attempts) (txTime j : Nat) (w : Walk) : Walk where
  sendTime := w.sendTime + txTime + (if 0 < j then w.cw * slotTime / 2 else 0) + a.ackTime
  cw := if 0 < j then cwBackoff a.cwMax w.cw else w.cw
  choice := w.choice

/-- The draw for the next attempt after a failed one. -/
def Walk.redraw (a : Attempts) (w : Walk) : Walk :=
  if a.fixed then w else { w with choice := w.choice + 1 }

@[simp] theorem Walk.redraw_sendTime (a : Attempts) (w : Walk) :
    (w.redraw a).sendTime = w.sendTime := by
  unfold Walk.redraw; split <;> rfl

@[simp] theorem Walk.redraw_cw (a : Attempts) (w : Walk) : (w.redraw a).cw = w.cw := by
  unfold Walk.redraw; split <;> rfl

theorem Walk.redraw_choice (a : Attempts) (w : Walk) :
    (w.redraw a).choice = if a.fixed then w.choice else w.choice + 1 := by
  unfold Walk.redraw; split <;> rfl

/-- How the outer loop ended, as the acknowledged row and attempt. -/
def WalkEnd.ackedAt : WalkEnd → Option (Nat × Nat)
  | .acked row attempt => some (row, attempt)
  | _ => none

/-! ## The nested loops are the loop over the slots -/

section Loops

variable {a : Attempts} {row : Int → Nat × ℚ} {s : Slot} {slots : List Slot} {w : Walk}

theorem mrrRow_succ_noack (hn : a.noack = true) (txTime : Nat) (errorProb : ℚ) (count j : Nat) :
    mrrRow a txTime errorProb (count + 1) j w =
      ({ w with sendTime := w.sendTime + txTime }, some j) := by
  simp [mrrRow, hn]

theorem mrrRow_succ (hn : a.noack = false) (txTime : Nat) (errorProb : ℚ) (count j : Nat) :
    mrrRow a txTime errorProb (count + 1) j w =
      if errorProb < a.draws w.choice then (w.attempt a txTime j, some j)
      else mrrRow a txTime errorProb count (j + 1) ((w.attempt a txTime j).redraw a) := by
  by_cases hj : 0 < j <;>
    simp only [mrrRow, hn, hj, Walk.attempt, Walk.redraw, Bool.false_eq_true, ↓reduceIte] <;> rfl

theorem slotWalk_cons_noack (hn : a.noack = true) :
    slotWalk a row (s :: slots) w = ({ w with sendTime := w.sendTime + (row s.idx).1 }, some s) := by
  simp [slotWalk, hn]

theorem slotWalk_cons (hn : a.noack = false) :
    slotWalk a row (s :: slots) w =
      if (row s.idx).2 < a.draws w.choice then (w.attempt a (row s.idx).1 s.attempt, some s)
      else slotWalk a row slots ((w.attempt a (row s.idx).1 s.attempt).redraw a) := by
  by_cases hj : 0 < s.attempt <;>
    simp only [slotWalk, hn, hj, Walk.attempt, Walk.redraw, Bool.false_eq_true, ↓reduceIte] <;> rfl

/-- The acknowledged slot is one of the slots. -/
theorem slotWalk_mem {w' : Walk} (h : slotWalk a row slots w = (w', some s)) : s ∈ slots := by
  induction slots generalizing w with
  | nil => simp [slotWalk] at h
  | cons s' slots ih =>
      cases hn : a.noack
      · rw [slotWalk_cons hn] at h
        split at h
        · cases h; exact List.mem_cons_self _ _
        · exact List.mem_cons_of_mem _ (ih h)
      · rw [slotWalk_cons_noack hn] at h
        cases h; exact List.mem_cons_self _ _

theorem slotWalk_append (l₁ l₂ : List Slot) (w : Walk) :
    slotWalk a row (l₁ ++ l₂) w =
      match slotWalk a row l₁ w with
      | (w', some s) => (w', some s)
      | (w', none) => slotWalk a row l₂ w' := by
  induction l₁ generalizing w with
  | nil => rfl
  | cons s l₁ ih =>
      cases hn : a.noack
      · simp only [List.cons_append, slotWalk_cons hn]
        by_cases hd : (row s.idx).2 < a.draws w.choice
        · simp only [if_pos hd]
        · simp only [if_neg hd, ih]
      · simp [slotWalk_cons_noack hn]

/-- The attempts of one row are its slots. -/
theorem mrrRow_eq_slotWalk (i : Nat) (idx : Int) (count j : Nat) (w : Walk) :
    mrrRow a (row idx).1 (row idx).2 count j w =
      ((slotWalk a row ((List.range' j count).map fun j => ⟨i, j, idx⟩) w).1,
        (slotWalk a row ((List.range' j count).map fun j => ⟨i, j, idx⟩) w).2.map Slot.attempt) := by
  induction count generalizing j w with
  | zero => rfl
  | succ count ih =>
      rw [List.range'_succ, List.map_cons]
      cases hn : a.noack
      · rw [mrrRow_succ hn, slotWalk_cons hn]
        by_cases hd : (row idx).2 < a.draws w.choice
        · simp only [if_pos hd, Option.map_some']
        · simp only [if_neg hd, ih]
      · simp [mrrRow_succ_noack hn, slotWalk_cons_noack hn]

/-- The two loops of `queue_frame` over rows that are all inside the table are the loop over their
slots. -/
theorem mrrWalk_eq_slotWalk (rows : List HwsimTxRate) (i : Nat) (w : Walk) :
    ∃ e, mrrWalk a row (rows.map .ok) i w = .ok ((slotWalk a row (mrrSlots i rows) w).1, e) ∧
      e.ackedAt = (slotWalk a row (mrrSlots i rows) w).2.map fun s => (s.row, s.attempt) := by
  induction rows generalizing i w with
  | nil => exact ⟨.exhausted, rfl, rfl⟩
  | cons r rows ih =>
      by_cases hr : r.idx < 0
      · exact ⟨.noMoreRates, by simp [mrrWalk, mrrSlots, hr, slotWalk],
          by simp [mrrSlots, hr, slotWalk, WalkEnd.ackedAt]⟩
      · simp only [List.map_cons, mrrWalk, ok_bind, if_neg hr, mrrSlots, mrrRow_eq_slotWalk i,
          ← List.range_eq_range', slotWalk_append]
        cases h : slotWalk a row ((List.range r.count).map fun j => ⟨i, j, r.idx⟩) w with
        | mk w' res =>
            cases res with
            | none => exact ih (i + 1) w'
            | some s =>
                obtain ⟨j, -, rfl⟩ := List.mem_map.1 (slotWalk_mem h)
                exact ⟨.acked i j, rfl, rfl⟩

end Loops

/-! ## The loop over the slots is the description -/

section Reference

variable {a : Attempts} {row : Int → Nat × ℚ} {s : Slot} {slots : List Slot} {w : Walk}

/-- The backoffs of `b + 1` attempts: the first at `cw`, the others from the window after it. -/
theorem sum_backoffs_succ (cwMax b cw : Nat) :
    ((List.range (b + 1)).map fun k => (cwBackoff cwMax)^[k] cw * slotTime / 2).sum =
      cw * slotTime / 2 +
        ((List.range b).map fun k => (cwBackoff cwMax)^[k] (cwBackoff cwMax cw) * slotTime / 2).sum := by
  simp [List.range_succ_eq_map, Function.iterate_succ_apply, Function.comp_def]

/-- After a failed attempt the next one draws the next value, or the same when it is fixed. -/
theorem attemptAcked_succ (c : Nat) (errorProb : Int → ℚ) :
    (fun t => attemptAcked a errorProb c (t + 1)) =
      attemptAcked a errorProb (if a.fixed then c else c + 1) := by
  funext t s
  cases hf : a.fixed <;> simp [attemptAcked, hf, Nat.add_right_comm, Nat.add_assoc]

theorem mrrReference_nil : mrrReference a row [] w = ⟨w.sendTime, w.cw, none⟩ := by
  simp [mrrReference, firstHit]

theorem mrrReference_cons_noack (hn : a.noack = true) :
    mrrReference a row (s :: slots) w = ⟨w.sendTime + (row s.idx).1, w.cw, some s⟩ := by
  simp [mrrReference, firstHit, attemptAcked, hn]

theorem mrrReference_cons_acked (hn : a.noack = false) (hd : (row s.idx).2 < a.draws w.choice) :
    mrrReference a row (s :: slots) w =
      ⟨(w.attempt a (row s.idx).1 s.attempt).sendTime, (w.attempt a (row s.idx).1 s.attempt).cw,
        some s⟩ := by
  by_cases hj : 0 < s.attempt <;>
    simp [mrrReference, firstHit, attemptAcked, hn, hd, hj, Walk.attempt, List.range_succ]
  omega

/-- A failed first attempt leaves the description of the other slots, from the walk after it. -/
theorem mrrReference_cons_miss (hn : a.noack = false) (hd : ¬ (row s.idx).2 < a.draws w.choice) :
    mrrReference a row (s :: slots) w =
      mrrReference a row slots ((w.attempt a (row s.idx).1 s.attempt).redraw a) := by
  have h0 : attemptAcked a (fun idx => (row idx).2) w.choice 0 s = false := by
    simp [attemptAcked, hn, hd]
  unfold mrrReference
  simp only [firstHit, h0, attemptAcked_succ, Walk.redraw_choice, Walk.attempt, hn,
    Bool.false_eq_true, ↓reduceIte]
  generalize firstHit _ slots = hit
  have hmade : (s :: slots).take (((hit.map (· + 1)).map (· + 1)).getD (s :: slots).length) =
      s :: slots.take ((hit.map (· + 1)).getD slots.length) := by
    cases hit <;> rfl
  have hacked : ((hit.map (· + 1)).bind fun k => (s :: slots)[k]?) = hit.bind (slots[·]?) := by
    cases hit <;> simp
  rw [hmade, hacked]
  generalize slots.take _ = made
  by_cases hj : 0 < s.attempt <;>
    simp [hj, List.filter_cons, sum_backoffs_succ, Walk.attempt, Function.iterate_succ_apply,
      Nat.succ_mul] <;> omega

/-- The loop over the slots ends as the description says. -/
theorem slotWalk_eq_reference (slots : List Slot) (w : Walk) :
    (slotWalk a row slots w).1.sendTime = (mrrReference a row slots w).sendTime ∧
      (slotWalk a row slots w).1.cw = (mrrReference a row slots w).cw ∧
      (slotWalk a row slots w).2 = (mrrReference a row slots w).acked := by
  induction slots generalizing w with
  | nil => simp [slotWalk, mrrReference_nil]
  | cons s slots ih =>
      cases hn : a.noack
      · rw [slotWalk_cons hn]
        by_cases hd : (row s.idx).2 < a.draws w.choice
        · simp [hd, mrrReference_cons_acked hn hd]
        · rw [if_neg hd, mrrReference_cons_miss hn hd]
          exact ih _
      · simp [slotWalk_cons_noack hn, mrrReference_cons_noack hn]

/-- With `cw_min ≤ cw_max`, every window of the walk lies between the two. -/
theorem cwBackoff_iterate_mem {cwMin cwMax : Nat} (h : cwMin ≤ cwMax) (k : Nat) :
    cwMin ≤ (cwBackoff cwMax)^[k] cwMin ∧ (cwBackoff cwMax)^[k] cwMin ≤ cwMax := by
  induction k with
  | zero => exact ⟨le_rfl, h⟩
  | succ k ih =>
      rw [Function.iterate_succ_apply']
      generalize (cwBackoff cwMax)^[k] cwMin = cw at ih
      unfold cwBackoff
      omega

end Reference

/-! ## The walk of a frame -/

/-- `frame->tx_rates[0..tx_rates_count)`, for a count within the table. -/
def frameRows (frame : Frame) : List HwsimTxRate :=
  ((List.finRange ieee80211TxMaxRates).map frame.txRates).take frame.txRatesCount

theorem txRateAt_range {frame : Frame} (hc : frame.txRatesCount ≤ ieee80211TxMaxRates) :
    (List.range frame.txRatesCount).map (txRateAt frame.txRates) = (frameRows frame).map .ok := by
  apply List.ext_getElem
  · simpa [frameRows] using hc
  · intro n h₁ _
    have hn : n < ieee80211TxMaxRates := by simp at h₁; omega
    simp [frameRows, txRateAt, hn]

/-- What `queue_frame` stores of the walk, for a table within bounds: `frame->duration` is the
described `send_time`, and `HWSIM_TX_STAT_ACK` is set exactly when an attempt was
acknowledged. -/
theorem queueFrameMrr_reference {m : Medium} {env : TxEnv} {ctx : Ctx} {station : Station}
    {ac : AcNumber} {frame sent : Frame} (hc : frame.txRatesCount ≤ ieee80211TxMaxRates)
    (h : queueFrameMrr m env ctx station ac frame = .ok sent) :
    ∃ dest mgmt, frameAddr frame.data 4 = .ok dest ∧ frameIsMgmt frame.data = .ok mgmt ∧
      let deststa := queueFrameDeststa ctx dest
      let ref := mrrReference ⟨mgmt || isMulticastEtherAddr dest, useFixedRandomValue m,
          pktDuration 14 (m.indexToRate 0 frame.freq) + sifs, (station.queues ac).cwMax, env.draws⟩
        (fun idx => (difs + pktDuration frame.data.length (m.indexToRate idx frame.freq),
          getErrorProb m ctx.stations.length (queueFrameSnr m env ctx station deststa) idx
            frame.freq frame.data.length station deststa))
        (mrrSlots 0 (frameRows frame)) ⟨0, (station.queues ac).cwMin, 0⟩
      sent.duration = ref.sendTime ∧
        sent.flags = if ref.acked.isSome then frame.flags ||| hwsimTxStatAck else frame.flags := by
  obtain ⟨dest, mgmt, w, stop, _, hd, hm, hw, rfl⟩ := queueFrameMrr_walk h
  rw [txRateAt_range hc] at hw
  obtain ⟨e, he, hack⟩ := mrrWalk_eq_slotWalk (frameRows frame) 0 ⟨0, (station.queues ac).cwMin, 0⟩
  rw [he, Except.ok.injEq, Prod.mk.injEq] at hw
  obtain ⟨rfl, rfl⟩ := hw
  have hacked := congrArg Option.isSome hack
  rw [(slotWalk_eq_reference _ _).2.2, Option.isSome_map'] at hacked
  refine ⟨dest, mgmt, hd, hm, (slotWalk_eq_reference _ _).1, ?_⟩
  rw [← hacked]
  cases e <;> rfl

/-- The walk of `queue_frame` is the described one. For every no-ack flag, randomness mode, ACK
time, queue and sequence of draws, every rate table within bounds and every airtime and error
probability by rate index, the loops end with the described `send_time`, `cw` and acknowledged
attempt; every window lies in `[cw_min, cw_max]`; and the frame `queue_frame` stores carries
that `send_time`, with `HWSIM_TX_STAT_ACK` exactly when an attempt was acknowledged. -/
theorem mrr_walk_is_reference :
    (∀ (a : Attempts) (row : Int → Nat × ℚ) (rows : List HwsimTxRate) (cwMin : Nat),
      let ref := mrrReference a row (mrrSlots 0 rows) ⟨0, cwMin, 0⟩
      ∃ w e, mrrWalk a row (rows.map .ok) 0 ⟨0, cwMin, 0⟩ = .ok (w, e) ∧
        w.sendTime = ref.sendTime ∧ w.cw = ref.cw ∧
        e.ackedAt = ref.acked.map fun s => (s.row, s.attempt)) ∧
    (∀ cwMin cwMax k, cwMin ≤ cwMax →
      cwMin ≤ (cwBackoff cwMax)^[k] cwMin ∧ (cwBackoff cwMax)^[k] cwMin ≤ cwMax) ∧
    (∀ (m : Medium) (env : TxEnv) (ctx : Ctx) (station : Station) (ac : AcNumber)
      (frame sent : Frame), frame.txRatesCount ≤ ieee80211TxMaxRates →
      queueFrameMrr m env ctx station ac frame = .ok sent →
      ∃ dest mgmt, frameAddr frame.data 4 = .ok dest ∧ frameIsMgmt frame.data = .ok mgmt ∧
        let deststa := queueFrameDeststa ctx dest
        let ref := mrrReference ⟨mgmt || isMulticastEtherAddr dest, useFixedRandomValue m,
            pktDuration 14 (m.indexToRate 0 frame.freq) + sifs, (station.queues ac).cwMax,
            env.draws⟩
          (fun idx => (difs + pktDuration frame.data.length (m.indexToRate idx frame.freq),
            getErrorProb m ctx.stations.length (queueFrameSnr m env ctx station deststa) idx
              frame.freq frame.data.length station deststa))
          (mrrSlots 0 (frameRows frame)) ⟨0, (station.queues ac).cwMin, 0⟩
        sent.duration = ref.sendTime ∧
          sent.flags = if ref.acked.isSome then frame.flags ||| hwsimTxStatAck else frame.flags) := by
  refine ⟨fun a row rows cwMin => ?_, fun _ _ k h => cwBackoff_iterate_mem h k,
    fun _ _ _ _ _ _ _ hc h => queueFrameMrr_reference hc h⟩
  obtain ⟨e, he, hack⟩ := @mrrWalk_eq_slotWalk a row rows 0 ⟨0, cwMin, 0⟩
  obtain ⟨hs, hcw, ha⟩ := @slotWalk_eq_reference a row (mrrSlots 0 rows) ⟨0, cwMin, 0⟩
  exact ⟨_, e, he, hs, hcw, by rw [hack, ha]⟩

/-- A data frame from `addrA` to `addrB` with one row of two attempts at rate index 0. -/
def airFrame : Frame :=
  ⟨shortHeader 0x08 0 addrB addrA, 0, 0, 2412, 0, none, fun _ => ⟨0, 2⟩, 1, 0, 0, 0⟩

/-- A best-effort frame of 16 bytes at 1 Mb/s with one row of eight attempts, all lost, takes
eight times airtime and ACK time and the backoffs 67, 139, 283, 571, 1147, 2299 and 4603 µs:
12133 µs. `airFrame`, sent from `addrA` on links that lose nothing, is acknowledged at its first
attempt, after 378 µs. -/
theorem mrr_walk_is_reference_sample :
    (∃ w e, mrrWalk ⟨false, false, 172, 1023, fun _ => mkRat 1 2⟩ (fun _ => (206, 1))
        [.ok ⟨0, 8⟩] 0 ⟨0, 15, 0⟩ = .ok (w, e) ∧ w.sendTime = 12133 ∧ e.ackedAt = none) ∧
    ∃ st sent, (initCtx [addrA, addrB] false true).stations[0]? = some st ∧
      queueFrameMrr perfectMedium (txDraws 0) (initCtx [addrA, addrB] false true) st 2 airFrame =
        .ok sent ∧ sent.duration = 378 ∧ sent.flags = hwsimTxStatAck := by
  obtain ⟨w, e, hw, hs, -, ha⟩ := mrr_walk_is_reference.1
    ⟨false, false, 172, 1023, fun _ => mkRat 1 2⟩ (fun _ => (206, 1)) [⟨0, 8⟩] 15
  refine ⟨⟨w, e, hw, hs.trans rfl, ha.trans rfl⟩, ⟨0, addrA, addrA, none, stationInitQueues⟩, ?_⟩
  obtain ⟨sent, hq⟩ : ∃ sent, queueFrameMrr perfectMedium (txDraws 0)
      (initCtx [addrA, addrB] false true) ⟨0, addrA, addrA, none, stationInitQueues⟩ 2 airFrame =
        .ok sent := ⟨_, rfl⟩
  obtain ⟨dest, mgmt, hd, hm, hdur, hflags⟩ :=
    mrr_walk_is_reference.2.2 _ _ _ _ _ _ _ (by decide) hq
  obtain rfl : dest = addrB :=
    Except.ok.inj (hd.symm.trans (show frameAddr airFrame.data 4 = .ok addrB from rfl))
  obtain rfl : mgmt = false :=
    Except.ok.inj (hm.symm.trans (show frameIsMgmt airFrame.data = .ok false from rfl))
  exact ⟨sent, rfl, hq, hdur.trans rfl, hflags.trans rfl⟩

/-- A management frame (`fc0 = 0x00`) with an empty `HWSIM_ATTR_TX_INFO`, so
`tx_rates_count = 0`. -/
def emptyTableFrame : NlMsg := frameMessage addrA (shortHeader 0x00 0 addrB addrA) [] [0, 0, 0, 0]

/-- A no-ack frame whose table has no slot makes no attempt: it is queued with `send_time = 0`
and without `HWSIM_TX_STAT_ACK`. -/
theorem noack_frame_without_slots_unacked :
    ∃ f ac ctx, Step perfectMedium (initCtx [addrA, addrB] false true)
        (.netlinkMessage emptyTableFrame (txDraws 0)) [.queued 0 f ac 0] ctx ∧
      f.duration = 0 ∧ f.flags &&& hwsimTxStatAck = 0 :=
  ⟨_, _, _, ⟨rfl, rfl⟩, rfl, rfl⟩

end Wmediumd
