import Wmediumd.Interference
import Wmediumd.MrrReference

/-!
# The `int` arithmetic of `queue_frame`

`div_round`, `pkt_duration` and the walk of `queue_frame` compute on `int`: `ack_time_usec`, the
airtime `difs + pkt_duration(...)` of an attempt, `send_time` and `cw`. The rest of the model
computes them on `Nat`. Here every C operation of that arithmetic is evaluated on `Int` and is
`none` where C leaves it undefined: a result outside `INT_MIN..INT_MAX`, a division by zero, a
left shift of a negative value.

For a frame of at most 65535 bytes, a table of at most `IEEE80211_TX_MAX_RATES` rows of at most 255
attempts each, rates from 10 to 535560156 (units of 100 kb/s) and the contention windows of
`station_init_queues`, every operation stays in range and the `int` walk computes what the `Nat`
walk computes, so `frame->duration` is its `send_time`. At 535560157 the rate is too fast:
`div_round` overflows for a frame of 65535 bytes.

`retries` is counted in the loop and read nowhere; it is left out. `target` is a `uint64_t`, and
the model's clock a `Nat`: `frame->duration` being an `int`, `target + send_time` wraps only for a
target within `INT_MAX` of 2^64.
-/

namespace Wmediumd

/-! ## `int` operations -/

def intMin : Int := -2147483648

def intMax : Int := 2147483647

/-- The result of an `int` operation: the value when it is in range, `none` otherwise. -/
def intOf (x : Int) : Option Int :=
  if intMin ≤ x ∧ x ≤ intMax then some x else none

/-- `a / b` on `int`, rounding toward zero; `none` for a zero divisor. -/
def intDiv (a b : Int) : Option Int :=
  if b = 0 then none else intOf (a.tdiv b)

/-- `a << 1` on `int`, undefined for a negative `a`. -/
def intShl1 (a : Int) : Option Int :=
  if 0 ≤ a then intOf (2 * a) else none

/-- `div_round(a, b)`: `(a + b - 1) / b`. -/
def divRoundInt (a b : Int) : Option Int := do
  let s ← intOf (a + b)
  let s ← intOf (s - 1)
  intDiv s b

/-- `pkt_duration(len, rate)`, grouped as C parses it:
`(16 + 4) + 4 * div_round(((16 + 8 * len) + 6) * 10, 4 * rate)`. -/
def pktDurationInt (len rate : Int) : Option Int := do
  let x ← intOf (8 * len)
  let x ← intOf (16 + x)
  let x ← intOf (x + 6)
  let x ← intOf (x * 10)
  let b ← intOf (4 * rate)
  let d ← divRoundInt x b
  let d ← intOf (4 * d)
  intOf (16 + 4 + d)

/-! ## The walk on `int` -/

/-- The loop variables `send_time` and `cw` as `int`s, and the draw `choice` holds. -/
structure WalkInt where
  sendTime : Int
  cw : Int
  choice : Nat
  deriving DecidableEq

@[simps]
def Walk.toInt (w : Walk) : WalkInt := ⟨w.sendTime, w.cw, w.choice⟩

/-- What stays fixed during the walk, with `ack_time_usec` and `queue->cw_max` as `int`s. -/
structure AttemptsInt where
  noack : Bool
  fixed : Bool
  ackTime : Int
  cwMax : Int
  draws : Nat → ℚ

@[simps]
def Attempts.toInt (a : Attempts) : AttemptsInt := ⟨a.noack, a.fixed, a.ackTime, a.cwMax, a.draws⟩

/-- The backoff of every attempt after the first: `send_time += (cw * slot_time) / 2`, then
`cw = (cw << 1) + 1`, capped at `queue->cw_max`. -/
def backoffInt (a : AttemptsInt) (w : WalkInt) : Option WalkInt := do
  let b ← intOf (w.cw * slotTime)
  let sendTime ← intOf (w.sendTime + (← intDiv b 2))
  let cw ← intOf ((← intShl1 w.cw) + 1)
  pure { w with sendTime := sendTime, cw := if cw > a.cwMax then a.cwMax else cw }

/-- `mrrRow` on `int`; `txTime` is `difs + pkt_duration(...)`, which C evaluates at each
attempt. -/
def mrrRowInt (a : AttemptsInt) (txTime : Option Int) (errorProb : ℚ) :
    Nat → Nat → WalkInt → Option (WalkInt × Option Nat)
  | 0, _, w => some (w, none)
  | count + 1, j, w => do
      let t ← txTime
      let w := { w with sendTime := ← intOf (w.sendTime + t) }
      if a.noack then return (w, some j)
      let w ← if 0 < j then backoffInt a w else pure w
      let w := { w with sendTime := ← intOf (w.sendTime + a.ackTime) }
      if errorProb < a.draws w.choice then return (w, some j)
      mrrRowInt a txTime errorProb count (j + 1)
        (if a.fixed then w else { w with choice := w.choice + 1 })

/-- `mrrWalk` on `int`, over the rows `frame->tx_rates[0..tx_rates_count)`; `row` gives, for a
rate index, the airtime of an attempt on `int` and `error_prob`. -/
def mrrWalkInt (a : AttemptsInt) (row : Int → Option Int × ℚ) :
    List HwsimTxRate → Nat → WalkInt → Option (WalkInt × WalkEnd)
  | [], _, w => some (w, .exhausted)
  | rate :: rows, i, w =>
      if rate.idx < 0 then some (w, .noMoreRates)
      else do
        match ← mrrRowInt a (row rate.idx).1 (row rate.idx).2 rate.count 0 w with
        | (w, some j) => some (w, .acked i j)
        | (w, none) => mrrWalkInt a row rows (i + 1) w

/-- The `int` arithmetic of `queue_frame` for a frame sent from `queue`: `ack_time_usec`, then
the walk from `send_time = 0` and `cw = queue->cw_min`. `noack`, `use_fixed_random_value`, the
draws and `error_prob` by rate index are those `queueFrameMrr` uses. -/
def queueFrameWalkInt (m : Medium) (noack fixed : Bool) (draws : Nat → ℚ) (errorProb : Int → ℚ)
    (queue : Wqueue) (frame : Frame) : Option (WalkInt × WalkEnd) := do
  let ackTime ← intOf ((← pktDurationInt 14 (m.indexToRate 0 frame.freq)) + sifs)
  let row := fun idx : Int =>
    ((pktDurationInt frame.data.length (m.indexToRate idx frame.freq)).bind
      fun d => intOf (difs + d), errorProb idx)
  mrrWalkInt ⟨noack, fixed, ackTime, queue.cwMax, draws⟩ row (frameRows frame) 0
    ⟨0, queue.cwMin, 0⟩

/-! ## In range -/

theorem intOf_of_le {x : Int} (h₀ : 0 ≤ x) (h : x ≤ 2147483647) : intOf x = some x := by
  unfold intOf intMin intMax
  rw [if_pos (by omega)]

theorem intOf_bind {α : Type} {x : Int} (h₀ : 0 ≤ x) (h : x ≤ 2147483647) (f : Int → Option α) :
    (intOf x).bind f = f x := by
  rw [intOf_of_le h₀ h, Option.some_bind]

theorem intDiv_natCast (a b : Nat) (hb : 0 < b) (h : a / b ≤ 2147483647) :
    intDiv a b = some ((a / b : Nat) : Int) := by
  unfold intDiv
  rw [if_neg (by omega), ← Int.ofNat_tdiv, intOf_of_le (Int.natCast_nonneg _) (by exact_mod_cast h)]

theorem divRound_le {a b c : Nat} (ha : 0 < a) (hcb : c ≤ b) (hc : 0 < c) :
    divRound a b ≤ (a - 1) / c + 1 := by
  unfold divRound
  rw [show a + b - 1 = (a - 1) + b by omega, Nat.add_div_right _ (by omega)]
  have := Nat.div_le_div_left (a := a - 1) hcb hc
  omega

theorem pktDuration_le {len rate : Nat} (hrate : 10 ≤ rate) :
    pktDuration len rate ≤ 20 + 4 * (((16 + 8 * len + 6) * 10 - 1) / 40 + 1) := by
  have := divRound_le (a := (16 + 8 * len + 6) * 10) (b := 4 * rate) (c := 40) (by omega)
    (by omega) (by omega)
  unfold pktDuration
  omega

theorem pktDurationInt_eq {len rate : Nat} (hlen : len ≤ 65535) (hrate : 10 ≤ rate)
    (hfast : rate ≤ 535560156) :
    pktDurationInt len rate = some ((pktDuration len rate : Nat) : Int) := by
  have hd := @pktDuration_le len rate hrate
  unfold pktDuration at hd ⊢
  have hdiv : intDiv ((16 + 8 * len + 6) * 10 + 4 * rate - 1) (4 * rate) =
      some ((divRound ((16 + 8 * len + 6) * 10) (4 * rate) : Nat) : Int) := by
    rw [show ((16 + 8 * len + 6) * 10 + 4 * rate - 1 : Int) =
      (((16 + 8 * len + 6) * 10 + 4 * rate - 1 : Nat) : Int) by omega]
    exact intDiv_natCast _ (4 * rate) (by omega) (by unfold divRound at hd; omega)
  simp only [pktDurationInt, divRoundInt, Option.bind_eq_bind]
  rw [intOf_bind (x := 8 * len) (by omega) (by omega),
    intOf_bind (x := 16 + 8 * len) (by omega) (by omega),
    intOf_bind (x := 16 + 8 * len + 6) (by omega) (by omega),
    intOf_bind (x := (16 + 8 * len + 6) * 10) (by omega) (by omega),
    intOf_bind (x := 4 * rate) (by omega) (by omega),
    intOf_bind (x := (16 + 8 * len + 6) * 10 + 4 * rate) (by omega) (by omega),
    intOf_bind (x := (16 + 8 * len + 6) * 10 + 4 * rate - 1) (by omega) (by omega), hdiv,
    Option.some_bind, intOf_bind (by omega) (by omega), intOf_of_le (by omega) (by omega)]
  push_cast
  rfl

theorem intShl1_of_le {x : Int} (h₀ : 0 ≤ x) (h : 2 * x ≤ 2147483647) :
    intShl1 x = some (2 * x) := by
  unfold intShl1
  rw [if_pos h₀, intOf_of_le (by omega) h]

theorem intDiv_two {x : Int} (h₀ : 0 ≤ x) (h : x ≤ 2147483647) : intDiv x 2 = some (x / 2) := by
  unfold intDiv
  rw [if_neg (by decide), Int.tdiv_eq_ediv h₀ (by decide), intOf_of_le (by omega) (by omega)]

section Row

variable {a : Attempts} {t j : Nat} {w : Walk}

theorem backoffInt_eq {s : Int} {c ch : Nat} (hs : 0 ≤ s) (hcw : c ≤ a.cwMax)
    (hmax : a.cwMax ≤ 1023) (hb : s + c * 9 / 2 ≤ 2147483647) :
    backoffInt a.toInt ⟨s, c, ch⟩ = some ⟨s + (c * slotTime / 2 : Nat), cwBackoff a.cwMax c, ch⟩ := by
  simp only [backoffInt, Attempts.toInt, Option.bind_eq_bind, slotTime]
  rw [intOf_bind (by omega) (by omega), intDiv_two (by omega) (by omega), Option.some_bind,
    intOf_bind (by omega) (by omega), intShl1_of_le (by omega) (by omega), Option.some_bind,
    intOf_bind (by omega) (by omega)]
  simp only [cwBackoff, Option.pure_def, Option.some.injEq, WalkInt.mk.injEq, true_and, and_true]
  constructor
  · omega
  · split_ifs <;> omega

theorem mrrRowInt_succ_noack (hn : a.noack = true) (hb : w.sendTime + t ≤ 2147483647) (e : ℚ)
    (count : Nat) :
    mrrRowInt a.toInt (some t) e (count + 1) j w.toInt =
      some ({ w with sendTime := w.sendTime + t }.toInt, some j) := by
  simp (disch := omega) only [mrrRowInt, Attempts.toInt, Walk.toInt, hn, Option.bind_eq_bind,
    ↓reduceIte, intOf_bind, Option.some_bind]
  push_cast
  rfl

theorem mrrRowInt_succ (hn : a.noack = false) (hcw : w.cw ≤ a.cwMax) (hmax : a.cwMax ≤ 1023)
    (hb : (w.attempt a t j).sendTime ≤ 2147483647) (e : ℚ) (count : Nat) :
    mrrRowInt a.toInt (some t) e (count + 1) j w.toInt =
      if e < a.draws w.choice then some ((w.attempt a t j).toInt, some j)
      else mrrRowInt a.toInt (some t) e count (j + 1) ((w.attempt a t j).redraw a).toInt := by
  simp only [Walk.attempt, slotTime] at hb
  simp only [mrrRowInt, Walk.toInt, Option.bind_eq_bind, Option.some_bind, Attempts.toInt_noack,
    Attempts.toInt_fixed, Attempts.toInt_ackTime, Attempts.toInt_draws, hn, Bool.false_eq_true,
    ↓reduceIte, Option.pure_def]
  rw [intOf_bind (by omega) (by omega)]
  by_cases hj : 0 < j
  · simp only [hj, ↓reduceIte] at hb ⊢
    rw [backoffInt_eq (by omega) hcw hmax (by omega), Option.some_bind]
    dsimp only [slotTime]
    rw [intOf_bind (by omega) (by omega)]
    cases hf : a.fixed <;>
      simp only [Walk.attempt, Walk.redraw, hj, hf, ↓reduceIte, Walk.toInt, Int.natCast_add,
        slotTime, Bool.false_eq_true]
  · simp only [hj, ↓reduceIte, Option.some_bind, Nat.add_zero] at hb ⊢
    rw [intOf_bind (by omega) (by omega)]
    cases hf : a.fixed <;>
      simp only [Walk.attempt, Walk.redraw, hj, hf, ↓reduceIte, Walk.toInt, Int.natCast_add,
        Bool.false_eq_true, Nat.add_zero]

/-- The most one attempt adds to `send_time`: its airtime, the longest backoff and the ACK
time. -/
def attemptMax (a : Attempts) (txTime : Nat) : Nat :=
  txTime + a.cwMax * slotTime / 2 + a.ackTime

theorem attempt_le (hcw : w.cw ≤ a.cwMax) :
    (w.attempt a t j).sendTime ≤ w.sendTime + attemptMax a t ∧ (w.attempt a t j).cw ≤ a.cwMax := by
  dsimp only [Walk.attempt, attemptMax, cwBackoff, slotTime]
  constructor <;> split_ifs <;> omega

/-- The inner loop on `int` computes what it computes on `Nat`, while `send_time` has room for
every attempt left. -/
theorem mrrRowInt_eq (hmax : a.cwMax ≤ 1023) (e : ℚ) : ∀ (count j : Nat) (w : Walk),
    w.cw ≤ a.cwMax → w.sendTime + count * attemptMax a t ≤ 2147483647 →
      mrrRowInt a.toInt (some t) e count j w.toInt =
          some ((mrrRow a t e count j w).1.toInt, (mrrRow a t e count j w).2) ∧
        (mrrRow a t e count j w).1.sendTime ≤ w.sendTime + count * attemptMax a t ∧
        (mrrRow a t e count j w).1.cw ≤ a.cwMax
  | 0, _, w, hcw, _ => by simp [mrrRowInt, mrrRow, hcw]
  | count + 1, j, w, hcw, hb => by
    have hstep := Nat.add_one_mul count (attemptMax a t)
    obtain ⟨hsend, hcw'⟩ := attempt_le (t := t) (j := j) hcw
    cases hn : a.noack
    · rw [mrrRowInt_succ hn hcw hmax (by omega) e count, mrrRow_succ hn]
      split_ifs with he
      · exact ⟨rfl, by dsimp only; omega, hcw'⟩
      · obtain ⟨hrow, hle, hcw''⟩ := mrrRowInt_eq hmax e count (j + 1) ((w.attempt a t j).redraw a)
          (by simpa using hcw') (by simp only [Walk.redraw_sendTime]; omega)
        exact ⟨hrow, by simp only [Walk.redraw_sendTime] at hle; omega, hcw''⟩
    · have ht : t ≤ attemptMax a t := by unfold attemptMax; omega
      rw [mrrRowInt_succ_noack hn (by omega) e count, mrrRow_succ_noack hn]
      exact ⟨rfl, by simp only; omega, hcw⟩

end Row

theorem attemptMax_mono (a : Attempts) {t T : Nat} (h : t ≤ T) : attemptMax a t ≤ attemptMax a T := by
  unfold attemptMax; omega

/-- The outer loop on `int` computes what it computes on `Nat`, and ends with `send_time` in
range, while `send_time` has room for every attempt of the rows left. -/
theorem mrrWalkInt_eq {a : Attempts} (hmax : a.cwMax ≤ 1023) {row : Int → Nat × ℚ}
    {rowInt : Int → Option Int × ℚ}
    (hrow : ∀ idx, rowInt idx = (some ((row idx).1 : Int), (row idx).2))
    {T : Nat} (hT : ∀ idx, (row idx).1 ≤ T) :
    ∀ (rows : List HwsimTxRate) (i : Nat) (w : Walk), w.cw ≤ a.cwMax →
      w.sendTime + (rows.map HwsimTxRate.count).sum * attemptMax a T ≤ 2147483647 →
      ∃ w' e, mrrWalk a row (rows.map .ok) i w = .ok (w', e) ∧
        mrrWalkInt a.toInt rowInt rows i w.toInt = some (w'.toInt, e) ∧ w'.sendTime ≤ 2147483647
  | [], _, w, _, hb => ⟨w, .exhausted, rfl, rfl, by simpa using hb⟩
  | rate :: rows, i, w, hcw, hb => by
    have hw : w.sendTime ≤ 2147483647 := Nat.le_trans (Nat.le_add_right _ _) hb
    by_cases hidx : rate.idx < 0
    · exact ⟨w, .noMoreRates, by simp [mrrWalk, hidx], by simp [mrrWalkInt, hidx], hw⟩
    have hmono := Nat.mul_le_mul_left rate.count (attemptMax_mono a (hT rate.idx))
    simp only [List.map_cons, List.sum_cons, Nat.add_mul] at hb
    obtain ⟨hrowEq, hle, hcw'⟩ := mrrRowInt_eq (t := (row rate.idx).1) hmax (row rate.idx).2
      rate.count 0 w hcw (by omega)
    simp only [mrrWalk, mrrWalkInt, hidx, hrow, hrowEq, ok_bind, ↓reduceIte, Option.some_bind,
      Option.bind_eq_bind]
    rcases hr : mrrRow a (row rate.idx).1 (row rate.idx).2 rate.count 0 w with ⟨w₁, _ | j⟩
    · rw [hr] at hle hcw'
      exact mrrWalkInt_eq hmax hrow hT rows (i + 1) w₁ hcw' (by dsimp only at hle; omega)
    · rw [hr] at hle
      exact ⟨w₁, .acked i j, rfl, rfl, by dsimp only at hle; omega⟩

theorem sum_le_length_mul {l : List Nat} {n : Nat} (h : ∀ x ∈ l, x ≤ n) : l.sum ≤ l.length * n := by
  induction l with
  | nil => simp
  | cons x l ih =>
    have hx := h x (List.mem_cons_self x l)
    have hl := ih fun y hy => h y (List.mem_cons_of_mem x hy)
    simp only [List.sum_cons, List.length_cons, Nat.add_one_mul]
    omega

/-- A table within `IEEE80211_TX_MAX_RATES` rows of at most 255 attempts allows 1020 attempts. -/
theorem frameRows_attempts {frame : Frame} (hcount : frame.txRatesCount ≤ ieee80211TxMaxRates)
    (hrow : ∀ i, (frame.txRates i).count ≤ 255) :
    ((frameRows frame).map HwsimTxRate.count).sum ≤ 1020 := by
  have hlen : (frameRows frame).length ≤ 4 := (List.length_take_le _ _).trans hcount
  have hsum := sum_le_length_mul (l := (frameRows frame).map HwsimTxRate.count) (n := 255) (by
    intro x hx
    obtain ⟨r, hr, rfl⟩ := List.mem_map.1 hx
    obtain ⟨i, -, rfl⟩ := List.mem_map.1 (List.mem_of_mem_take hr)
    exact hrow i)
  rw [List.length_map] at hsum
  omega

/-- `ack_time_usec` stays in range for a rate from 10 to 535560156. -/
theorem queueFrameWalkInt_ack {m : Medium} {frame : Frame}
    (hrate : 10 ≤ m.indexToRate 0 frame.freq ∧ m.indexToRate 0 frame.freq ≤ 535560156)
    (noack fixed : Bool) (draws : Nat → ℚ) (errorProb : Int → ℚ) (queue : Wqueue) :
    queueFrameWalkInt m noack fixed draws errorProb queue frame =
      mrrWalkInt ⟨noack, fixed, ((pktDuration 14 (m.indexToRate 0 frame.freq) + sifs : Nat) : Int),
          queue.cwMax, draws⟩
        (fun idx => ((pktDurationInt frame.data.length (m.indexToRate idx frame.freq)).bind
          fun d => intOf (difs + d), errorProb idx))
        (frameRows frame) 0 ⟨0, queue.cwMin, 0⟩ := by
  have hack := @pktDuration_le 14 _ hrate.1
  have h14 : pktDurationInt 14 (m.indexToRate 0 frame.freq) =
      some ((pktDuration 14 (m.indexToRate 0 frame.freq) : Nat) : Int) :=
    @pktDurationInt_eq 14 _ (by decide) hrate.1 hrate.2
  simp only [queueFrameWalkInt, Option.bind_eq_bind]
  rw [h14, Option.some_bind, intOf_bind (by omega) (by unfold sifs; omega), Int.natCast_add]

/-- For a frame of at most 65535 bytes, a table of at most 1020 attempts, rates from 10 to
535560156 and a contention window within 1023, the `int` arithmetic of `queue_frame` stays in
range, whatever the draws and error probabilities, and computes the walk of the `Nat` model,
whose `send_time` is an `int`. -/
theorem queueFrameWalkInt_eq {m : Medium} {queue : Wqueue} {frame : Frame}
    (hlen : frame.data.length ≤ 65535) (hcount : frame.txRatesCount ≤ ieee80211TxMaxRates)
    (hrow : ∀ i, (frame.txRates i).count ≤ 255)
    (hrate : ∀ idx, 10 ≤ m.indexToRate idx frame.freq ∧ m.indexToRate idx frame.freq ≤ 535560156)
    (hcw : queue.cwMin ≤ queue.cwMax) (hmax : queue.cwMax ≤ 1023)
    (noack fixed : Bool) (draws : Nat → ℚ) (errorProb : Int → ℚ) :
    ∃ w e, mrrWalk ⟨noack, fixed, pktDuration 14 (m.indexToRate 0 frame.freq) + sifs, queue.cwMax,
          draws⟩
        (fun idx => (difs + pktDuration frame.data.length (m.indexToRate idx frame.freq), errorProb idx))
        ((frameRows frame).map .ok) 0 ⟨0, queue.cwMin, 0⟩ = .ok (w, e) ∧
      queueFrameWalkInt m noack fixed draws errorProb queue frame = some (w.toInt, e) ∧
      w.sendTime ≤ 2147483647 := by
  have hack := @pktDuration_le 14 _ (hrate 0).1
  have hdata : ∀ idx, pktDuration frame.data.length (m.indexToRate idx frame.freq) ≤ 524324 :=
    fun idx => (pktDuration_le (hrate idx).1).trans (by omega)
  have hrowInt : ∀ idx, ((pktDurationInt frame.data.length (m.indexToRate idx frame.freq)).bind
      fun d => intOf (difs + d), errorProb idx) =
        (some ((difs + pktDuration frame.data.length (m.indexToRate idx frame.freq) : Nat) : Int),
          errorProb idx) := fun idx => by
    have := hdata idx
    rw [pktDurationInt_eq hlen (hrate idx).1 (hrate idx).2, Option.some_bind,
      intOf_of_le (by omega) (by unfold difs slotTime sifs; omega)]
    rfl
  have hP : attemptMax ⟨noack, fixed, pktDuration 14 (m.indexToRate 0 frame.freq) + sifs,
      queue.cwMax, draws⟩ (difs + 524324) ≤ 529133 := by
    unfold attemptMax; dsimp only; unfold difs slotTime sifs at *; omega
  obtain ⟨w, e, hw, hwi, hle⟩ := @mrrWalkInt_eq
    ⟨noack, fixed, pktDuration 14 (m.indexToRate 0 frame.freq) + sifs, queue.cwMax, draws⟩ hmax
    (fun idx => (difs + pktDuration frame.data.length (m.indexToRate idx frame.freq), errorProb idx))
    _ hrowInt (difs + 524324) (fun idx => Nat.add_le_add_left (hdata idx) difs) (frameRows frame) 0
    ⟨0, queue.cwMin, 0⟩ hcw
    (by have := Nat.mul_le_mul (frameRows_attempts hcount hrow) hP; dsimp only; omega)
  refine ⟨w, e, hw, ?_, hle⟩
  rw [queueFrameWalkInt_ack (hrate 0)]
  exact hwi

/-! ## `queue_frame` from a reachable state -/

theorem stationInitQueues_cw (ac : AcNumber) :
    (stationInitQueues ac).cwMin ≤ (stationInitQueues ac).cwMax ∧
      (stationInitQueues ac).cwMax ≤ 1023 := by
  revert ac
  decide

/-- No handler changes a contention window: every queue keeps the bounds `station_init_queues`
gave it. -/
theorem reachable_cw_bounds {m : Medium} {ids : List MacAddr} {interference useNetlink : Bool}
    {ctx : Ctx} (hr : Reachable m ids interference useNetlink ctx) {k : Nat} {st : Station}
    (hk : ctx.stations[k]? = some st) (ac : AcNumber) :
    (st.queues ac).cwMin ≤ (st.queues ac).cwMax ∧ (st.queues ac).cwMax ≤ 1023 := by
  obtain ⟨log, hrun⟩ := hr
  have hs := congrArg (·[k]?) (run_shape hrun)
  simp only [List.getElem?_map, hk, Option.map_some', initCtx, List.getElem?_enum, Option.map_map]
    at hs
  obtain ⟨_, -, heq⟩ := Option.map_eq_some'.1 hs.symm
  have hq := congrFun (congrArg (fun s => s.2.2) heq) ac
  simp only [Function.comp, Station.shape, Prod.mk.injEq] at hq
  rw [← hq.1, ← hq.2]
  exact stationInitQueues_cw ac

/-- From every reachable state, for a frame of at most 65535 bytes, a table of at most
`IEEE80211_TX_MAX_RATES` rows of at most 255 attempts and rates from 10 to 535560156, the `int`
arithmetic of `queue_frame` stays in range whatever the draws and error probabilities; with the
draws and error probabilities `queue_frame` uses it gives `frame->duration`, which is an `int`,
so `target + send_time` wraps its `uint64_t` only for a target within `INT_MAX` of 2^64. -/
theorem queue_frame_int_arithmetic_in_range {m₀ m : Medium} {ids : List MacAddr}
    {interference useNetlink : Bool} {ctx ctx' : Ctx} {env : TxEnv} {k : Nat} {p : FramePtr}
    {frame : Frame} {outs : List Out} (hr : Reachable m₀ ids interference useNetlink ctx)
    (hlen : frame.data.length ≤ 65535) (hcount : frame.txRatesCount ≤ ieee80211TxMaxRates)
    (hrow : ∀ i, (frame.txRates i).count ≤ 255)
    (hrate : ∀ idx, 10 ≤ m.indexToRate idx frame.freq ∧ m.indexToRate idx frame.freq ≤ 535560156)
    (h : queueFrame m env ctx k p frame = .ok (ctx', outs)) :
    ∃ st ac sent, ctx.stations[k]? = some st ∧ queueFrameMrr m env ctx st ac frame = .ok sent ∧
      (∀ noack fixed draws errorProb, ∃ w e,
        queueFrameWalkInt m noack fixed draws errorProb (st.queues ac) frame = some (w, e) ∧
          0 ≤ w.sendTime) ∧
      (∃ dest mgmt w e, frameAddr frame.data 4 = .ok dest ∧ frameIsMgmt frame.data = .ok mgmt ∧
        let deststa := queueFrameDeststa ctx dest
        queueFrameWalkInt m (mgmt || isMulticastEtherAddr dest) (useFixedRandomValue m) env.draws
          (fun idx => getErrorProb m ctx.stations.length (queueFrameSnr m env ctx st deststa) idx
            frame.freq frame.data.length st deststa) (st.queues ac) frame = some (w, e) ∧
          w.sendTime = sent.duration) ∧
      outs = [.queued p { sent with src := st.client, start := queueTarget ctx ac + sent.duration }
        ac ctx.now] ∧
      sent.duration ≤ 2147483647 ∧
      (queueTarget ctx ac < 2 ^ 64 - 2147483647 → queueTarget ctx ac + sent.duration < 2 ^ 64) := by
  obtain ⟨st, ac, sent, hst, -, hsent, -, hout⟩ := queueFrame_spec h
  obtain ⟨hcw, hmax⟩ := reachable_cw_bounds hr hst ac
  obtain ⟨dest, mgmt, w, _, _, hd, hm, hw, rfl⟩ := queueFrameMrr_walk hsent
  rw [txRateAt_range hcount] at hw
  obtain ⟨w', e, hw', hwi, hle⟩ := queueFrameWalkInt_eq hlen hcount hrow hrate hcw hmax
    (mgmt || isMulticastEtherAddr dest) (useFixedRandomValue m) env.draws _
  rw [hw', Except.ok.injEq, Prod.mk.injEq] at hw
  obtain ⟨rfl, -⟩ := hw
  refine ⟨st, ac, _, hst, hsent, fun noack fixed draws errorProb => ?_,
    ⟨dest, mgmt, _, _, hd, hm, hwi, rfl⟩, hout, hle, fun _ => by dsimp only; omega⟩
  obtain ⟨w, e, -, hwi, -⟩ :=
    queueFrameWalkInt_eq hlen hcount hrow hrate hcw hmax noack fixed draws errorProb
  exact ⟨w.toInt, e, hwi, Int.natCast_nonneg _⟩

/-- The state `main` starts from with the stations `addrA` and `addrB` and netlink. -/
def airCtx : Ctx := initCtx [addrA, addrB] false true

theorem air_frame_int_arithmetic_in_range :
    ∃ ctx' outs, queueFrame perfectMedium (txDraws 0) airCtx 0 0 airFrame = .ok (ctx', outs) ∧
      ∃ st ac sent, airCtx.stations[0]? = some st ∧
        queueFrameMrr perfectMedium (txDraws 0) airCtx st ac airFrame = .ok sent ∧
        (∀ noack fixed draws errorProb, ∃ w e,
          queueFrameWalkInt perfectMedium noack fixed draws errorProb (st.queues ac) airFrame =
            some (w, e) ∧ 0 ≤ w.sendTime) ∧
        (∃ dest mgmt w e, frameAddr airFrame.data 4 = .ok dest ∧
          frameIsMgmt airFrame.data = .ok mgmt ∧
          let deststa := queueFrameDeststa airCtx dest
          queueFrameWalkInt perfectMedium (mgmt || isMulticastEtherAddr dest)
            (useFixedRandomValue perfectMedium) (txDraws 0).draws
            (fun idx => getErrorProb perfectMedium airCtx.stations.length
              (queueFrameSnr perfectMedium (txDraws 0) airCtx st deststa) idx airFrame.freq
              airFrame.data.length st deststa) (st.queues ac) airFrame = some (w, e) ∧
            w.sendTime = sent.duration) ∧
        outs = [.queued 0 { sent with src := st.client, start := queueTarget airCtx ac + sent.duration }
          ac airCtx.now] ∧
        sent.duration ≤ 2147483647 ∧
        (queueTarget airCtx ac < 2 ^ 64 - 2147483647 →
          queueTarget airCtx ac + sent.duration < 2 ^ 64) := by
  have hr : Reachable perfectMedium [addrA, addrB] false true airCtx := ⟨[], .refl⟩
  obtain ⟨ctx', outs, hq⟩ : ∃ ctx' outs,
      queueFrame perfectMedium (txDraws 0) airCtx 0 0 airFrame = .ok (ctx', outs) := ⟨_, _, rfl⟩
  exact ⟨ctx', outs, hq, queue_frame_int_arithmetic_in_range hr (by decide) (by decide) (by decide)
    (fun _ => ⟨le_refl _, show 10 ≤ 535560156 by decide⟩) hq⟩

/-- A medium whose `index_to_rate` gives 535560157 for every index. -/
def fastMedium : Medium := ⟨.errorProbMatrix fun _ => 0, fun _ _ => 535560157, fun _ _ _ _ => 0⟩

/-- A frame of 65535 bytes with one attempt at rate index 0. -/
def fullFrame : Frame :=
  ⟨List.replicate 65535 0, 0, 0, 2412, 0, none, fun _ => ⟨0, 1⟩, 1, 0, 0, 0⟩

theorem fullFrame_length : fullFrame.data.length = 65535 := List.length_replicate _ _

/-- At the rate 535560157 a frame of 65535 bytes overflows `div_round`: `a + b` is 2^31. -/
theorem fast_rate_overflows_div_round :
    fullFrame.data.length ≤ 65535 ∧ fullFrame.txRatesCount ≤ ieee80211TxMaxRates ∧
    (∀ i, (fullFrame.txRates i).count ≤ 255) ∧
    (∀ idx, 10 ≤ fastMedium.indexToRate idx fullFrame.freq) ∧
    divRoundInt 5243020 2142240628 = none ∧
    ∀ noack fixed draws errorProb, ∀ queue : Wqueue,
      queueFrameWalkInt fastMedium noack fixed draws errorProb queue fullFrame = none := by
  have hack : pktDurationInt 14 ((535560157 : Nat) : Int) = some 24 := by decide
  have hackTime : intOf (24 + (sifs : Int)) = some 40 := by decide
  have hdata : pktDurationInt ((65535 : Nat) : Int) ((535560157 : Nat) : Int) = none := by decide
  have hrows : frameRows fullFrame = [⟨0, 1⟩] := rfl
  refine ⟨fullFrame_length.le, by decide, fun _ => show 1 ≤ 255 by decide,
    fun _ => show 10 ≤ 535560157 by decide, by decide, fun noack fixed draws errorProb queue => ?_⟩
  simp only [queueFrameWalkInt, fullFrame_length, hrows, fastMedium, hack, hdata, hackTime,
    Option.bind_eq_bind, Option.some_bind]
  simp [mrrWalkInt, mrrRowInt]

end Wmediumd
