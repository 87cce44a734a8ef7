import Mathlib.Tactic.Positivity
import Wmediumd.PathLoss
import Wmediumd.Interference

/-!
# Collisions: the rows of the interference matrix and the signal offset

With interference on, `ctx->intf` is an `N × N` matrix read at `N * i + j`. Both of its writers
treat a row alike: `set_interference_duration` adds a frame's airtime to every entry of the
sender's row and overwrites their signal, and `wmediumd_intf_update` turns every off-diagonal busy
time into a collision probability and skips the diagonal. So along every run each row is one entry
repeated off the diagonal (`intf_rows_uniform`): what the matrix records about a station is the
same toward every receiver, and the diagonal keeps the row's signal, a busy time no update clears,
and a collision probability of 0.

`get_signal_offset_by_interference` reads column `dst` of the rows of the other stations: each of
them draws, and adds its power in milliwatts when the draw falls below its collision probability;
a sum above 1 mW is the offset in dB. Doubles are exact rationals and `pow` and `log10` are libm's,
as parameters. For any `log10` that is not negative above 1 the offset is a natural number, so it
is one of the values the receiver loop of `wmediumd_deliver_frame` takes from its environment
(`RxEnv.interference`).
-/

namespace Wmediumd

/-! ## The rows of the matrix -/

/-- Row `i` of the `n × n` matrix is the entry `e` off the diagonal; its diagonal entry has
`e`'s signal, the busy time `d` and a collision probability of 0. -/
def RowOf (n : Nat) (matrix : Nat → IntfInfo) (i : Nat) (e : IntfInfo) (d : Nat) : Prop :=
  ∀ j < n, matrix (n * i + j) = if j = i then ⟨e.signal, d, 0⟩ else e

/-- Every row of the matrix, when interference is on, is one entry repeated off the diagonal. -/
def IntfRows (n : Nat) (intf : Option (Nat → IntfInfo)) : Prop :=
  ∀ matrix, intf = some matrix → ∀ i < n, ∃ e d, RowOf n matrix i e d

/-- Entry `n * i + j` of an `n × n` matrix is in row `i` and column `j`. -/
private theorem row_div_mod {n i j : Nat} (hj : j < n) :
    (n * i + j) / n = i ∧ (n * i + j) % n = j :=
  ⟨by rw [Nat.mul_add_div (Nat.zero_lt_of_lt hj), Nat.div_eq_of_lt hj, Nat.add_zero],
    by rw [Nat.mul_add_mod, Nat.mod_eq_of_lt hj]⟩

/-- An entry of row `i` lies in the range `set_interference_duration` writes for row `src` only
when `i = src`. -/
private theorem row_eq_of_mem_range {n i j src : Nat} (hj : j < n)
    (h : n * src ≤ n * i + j ∧ n * i + j < n * src + n) : i = src := by
  have h₁ : n * i < n * (src + 1) := by rw [Nat.mul_succ]; omega
  have h₂ : n * src < n * (i + 1) := by rw [Nat.mul_succ]; omega
  have := Nat.lt_of_mul_lt_mul_left h₁
  have := Nat.lt_of_mul_lt_mul_left h₂
  omega

/-- `set_interference_duration` adds the same airtime and writes the same signal across the
sender's row, so it keeps every row uniform. -/
theorem setInterferenceDuration_rows {n : Nat} {intf : Option (Nat → IntfInfo)}
    (h : IntfRows n intf) (srcIdx duration : Nat) (signal : Int) :
    IntfRows n (setInterferenceDuration n intf srcIdx duration signal).1 := by
  intro matrix' hm' i hi
  cases intf with
  | none => cases hm'
  | some matrix =>
      obtain ⟨e, d, he⟩ := h matrix rfl i hi
      unfold setInterferenceDuration at hm'
      split_ifs at hm'
      · cases hm'
        exact ⟨e, d, he⟩
      · cases hm'
        by_cases hsi : i = srcIdx
        · subst hsi
          refine ⟨{ e with duration := e.duration + duration, signal := signal }, d + duration,
            fun j hj => ?_⟩
          simp only [he j hj, Nat.le_add_right, Nat.add_lt_add_left hj, and_self, if_true]
          split <;> rfl
        · exact ⟨e, d, fun j hj => by simp only [if_neg (mt (row_eq_of_mem_range hj) hsi), he j hj]⟩

/-- `wmediumd_intf_update` makes the same entry of every off-diagonal entry of a row and skips
the diagonal, so it keeps every row uniform. -/
theorem wmediumdIntfUpdate_rows {n : Nat} {intf : Option (Nat → IntfInfo)} (h : IntfRows n intf) :
    IntfRows n (intf.map (wmediumdIntfUpdate n)) := by
  intro matrix' hm' i hi
  cases intf with
  | none => cases hm'
  | some matrix =>
      cases hm'
      obtain ⟨e, d, he⟩ := h matrix rfl i hi
      refine ⟨{ e with probCol := (e.duration : ℚ) / 10000, duration := 0 }, d, fun j hj => ?_⟩
      obtain ⟨hdiv, hmod⟩ := row_div_mod (i := i) hj
      have hlt : n * i + j < n * n := by
        have := Nat.mul_le_mul_left n (Nat.succ_le_of_lt hi)
        rw [Nat.mul_succ] at this
        omega
      simp only [wmediumdIntfUpdate, hdiv, hmod, he j hj]
      by_cases hji : j = i
      · simp [hji]
      · simp [hji, Ne.symm hji, hlt]

/-- A property of the matrix that every `set_interference_duration` keeps holds after the fan-out
of a delivery: the receiver loop writes the matrix only through it. -/
theorem deliverFanOut_intf_of_set {m : Medium} {env : RxEnv} {ctx : Ctx} {p : FramePtr}
    {frame : Frame} {sender : Station} {dest : MacAddr} (P : Option (Nat → IntfInfo) → Prop)
    (hset : ∀ intf srcIdx duration signal, P intf →
      P (setInterferenceDuration ctx.stations.length intf srcIdx duration signal).1)
    (h : P ctx.intf) : P (deliverFanOut m env ctx p frame sender dest).1 := by
  have fold : ∀ (l : List (Nat × Station)) (acc : Option (Nat → IntfInfo) × List Out), P acc.1 →
      P (l.foldl (fun acc ks => deliverTo m env ctx p frame sender dest acc ks.1 ks.2) acc).1 := by
    intro l
    induction l with
    | nil => exact fun _ h => h
    | cons ks l ih =>
        intro acc h
        obtain ⟨signal, hd⟩ := @deliverTo_cases m env ctx p frame sender dest acc ks.1 ks.2
        simp only [List.mem_cons, List.mem_singleton, List.not_mem_nil, or_false] at hd
        refine ih (deliverTo m env ctx p frame sender dest acc ks.1 ks.2) ?_
        rcases hd with hd | hd | hd <;> rw [hd]
        exacts [h, hset _ _ _ _ h, hset _ _ _ _ h]
  unfold deliverFanOut
  split_ifs
  · exact fold _ _ h
  · exact hset _ _ _ _ h

section Runs

variable {m : Medium} {ctx ctx' : Ctx} {input : Input} {outs : List Out}

/-- What one step does to `ctx->intf`: the interference job applies `wmediumd_intf_update`, a
delivery runs the receiver loop of `wmediumd_deliver_frame` on a state with as many stations, and
every other handler leaves it alone. -/
theorem step_intf (hs : Step m ctx input outs ctx') :
    ctx'.intf = ctx.intf ∨ ctx'.intf = ctx.intf.map (wmediumdIntfUpdate ctx.stations.length) ∨
      ∃ ctx₁ p env frame sender dest, ctx'.intf = (deliverFanOut m env ctx₁ p frame sender dest).1 ∧
        ctx₁.stations.length = ctx.stations.length ∧ ctx₁.intf = ctx.intf := by
  rcases step_handler hs with ⟨env, msg, c, h⟩ | ⟨c, h⟩ | ⟨env, c, read, written, h⟩ |
    ⟨p, env, -, h⟩ | ⟨-, -, hi | hi⟩
  · exact .inl (processMessages_keeps h).intf
  · exact .inl (wmediumdRemoveClient_keeps h).intf
  · exact .inl (wmediumdApiHandler_keeps h).intf
  · obtain ⟨frame, intf, -, -, -, -, -, -, -, -, ⟨sender, dest, -, rfl⟩, rfl, -⟩ :=
      wmediumdDeliverFrame_spec h
    exact .inr (.inr ⟨_, p, env, frame, sender, dest, rfl, by simp, rfl⟩)
  · exact .inl hi
  · exact .inr (.inl hi)

theorem step_rows (hs : Step m ctx input outs ctx') (h : IntfRows ctx.stations.length ctx.intf) :
    IntfRows ctx'.stations.length ctx'.intf := by
  have hn : ctx'.stations.length = ctx.stations.length := by
    simpa using congrArg List.length (step_shape hs)
  rw [hn]
  rcases step_intf hs with h' | h' | ⟨ctx₁, p, env, frame, sender, dest, h', hl, hi⟩ <;> rw [h']
  · exact h
  · exact wmediumdIntfUpdate_rows h
  · refine deliverFanOut_intf_of_set _ (fun _ _ _ _ hr => ?_) (hi ▸ h)
    rw [hl]
    exact setInterferenceDuration_rows hr _ _ _

theorem run_rows {ctx₀ : Ctx} {log : List Out} (hrun : Run m ctx₀ log ctx)
    (h₀ : IntfRows ctx₀.stations.length ctx₀.intf) : IntfRows ctx.stations.length ctx.intf := by
  induction hrun with
  | refl => exact h₀
  | step _ hs ih => exact step_rows hs ih

variable {ids : List MacAddr} {interference useNetlink : Bool} {log : List Out}
  {matrix : Nat → IntfInfo} {i : Nat}

/-- Along every run, each row `i` of the interference matrix is one entry repeated toward every
other station: the same busy time, signal and collision probability whatever the receiver. Its
diagonal entry has that signal, a busy time of its own and a collision probability of 0. -/
theorem intf_rows_uniform (hrun : Run m (initCtx ids interference useNetlink) log ctx)
    (hm : ctx.intf = some matrix) (hi : i < ids.length) :
    ∃ e d, ∀ j < ids.length,
      matrix (ids.length * i + j) = if j = i then ⟨e.signal, d, 0⟩ else e := by
  have h₀ : (initCtx ids interference useNetlink).stations.length = ids.length := by
    simp [initCtx]
  have hinit : IntfRows ids.length (initCtx ids interference useNetlink).intf := by
    intro matrix hm _ _
    cases interference with
    | false => cases hm
    | true =>
        cases hm
        exact ⟨⟨0, 0, 0⟩, 0, fun j _ => by split <;> rfl⟩
  have hrows := run_rows hrun (h₀ ▸ hinit)
  rw [run_length hrun, h₀] at hrows
  exact hrows matrix hm i hi

end Runs

/-- After the run of `long_frame_run`, row 0 of the matrix is one entry off the diagonal, while
its diagonal entry has kept the 12133 µs of busy time of the long frame. -/
theorem long_frame_rows_uniform : ∃ log ctx matrix,
    Run lossyMedium (initCtx [addrA, addrB] true true) log ctx ∧ ctx.intf = some matrix ∧
      (matrix 0).duration = 12133 ∧ 0 < [addrA, addrB].length ∧
      ∃ e d, ∀ j < [addrA, addrB].length, matrix ([addrA, addrB].length * 0 + j) =
        if j = 0 then ⟨e.signal, d, 0⟩ else e := by
  obtain ⟨_, _, _, _, _, _, _, _, _, _, _, matrix, h₁, h₂, h₃, h₄, h₅, h₆, h₇, hm, hd, -⟩ :=
    long_frame_run
  have hrun := Run.step (.step (.step (.step (.step (.step (.step .refl h₁) h₂) h₃) h₄) h₅) h₆) h₇
  exact ⟨_, _, matrix, hrun, hm, hd, by decide, intf_rows_uniform hrun hm (by decide)⟩

/-! ## `get_signal_offset_by_interference` -/

/-- `INTF_LIMIT`: interference more than 31 dB away from the noise level is clamped. -/
def intfLimit : Int := 31

/-- `dBm_to_milliwatt`, with libm's `pow`. -/
def dBmToMilliwatt (pow : ℚ → ℚ → ℚ) (decibelIntf : Int) : ℚ :=
  let intfDiff := noiseLevel - decibelIntf
  if intfLimit ≤ intfDiff then 1 / 1000
  else if intfDiff ≤ -intfLimit then 1000
  else pow 10 (-(intfDiff : ℚ) / 10)

/-- `milliwatt_to_dBm`. -/
def milliwattToDBm (libm : Libm) (value : ℚ) : ℚ := 10 * libm.log10 value

/-- One pass of the loop of `get_signal_offset_by_interference`, at station `i`, on the power so
far and the number of `drand48()` draws taken: the sender and the receiver are skipped; any other
station draws, and adds its power when the draw is below `intf[i][dst].prob_col`. -/
def offsetStep (pow : ℚ → ℚ → ℚ) (n : Nat) (matrix : Nat → IntfInfo) (srcIdx dstIdx : Nat)
    (draws : Nat → ℚ) (acc : ℚ × Nat) (i : Nat) : ℚ × Nat :=
  if i = srcIdx ∨ i = dstIdx then acc
  else
    let info := matrix (i * n + dstIdx)
    if draws acc.2 < info.probCol then (acc.1 + dBmToMilliwatt pow info.signal, acc.2 + 1)
    else (acc.1, acc.2 + 1)

/-- `get_signal_offset_by_interference(ctx, src_idx, dst_idx)`, with `drand48()` returning
`draws 0`, `draws 1`, … in turn. -/
def getSignalOffsetByInterference (libm : Libm) (pow : ℚ → ℚ → ℚ) (n : Nat)
    (intf : Option (Nat → IntfInfo)) (srcIdx dstIdx : Nat) (draws : Nat → ℚ) : Int :=
  match intf with
  | none => 0
  | some matrix =>
      let intfPower := ((List.range n).foldl (offsetStep pow n matrix srcIdx dstIdx draws) (0, 0)).1
      if intfPower ≤ 1 then 0 else doubleToInt (milliwattToDBm libm intfPower + 1 / 2)

/-- `(int)` of a non-negative double is not negative. -/
theorem doubleToInt_nonneg {x : ℚ} (hx : 0 ≤ x) : 0 ≤ doubleToInt x :=
  Int.tdiv_nonneg (Rat.num_nonneg.2 hx) (Int.ofNat_nonneg _)

/-- The loop reads `intf[i][dst]` only for the stations `i` other than the sender and the
receiver. -/
theorem foldl_offsetStep_congr {pow : ℚ → ℚ → ℚ} {n srcIdx dstIdx : Nat} {draws : Nat → ℚ}
    {matrix matrix' : Nat → IntfInfo} {l : List Nat}
    (h : ∀ i ∈ l, i ≠ srcIdx → i ≠ dstIdx → matrix' (i * n + dstIdx) = matrix (i * n + dstIdx))
    (acc : ℚ × Nat) :
    l.foldl (offsetStep pow n matrix' srcIdx dstIdx draws) acc =
      l.foldl (offsetStep pow n matrix srcIdx dstIdx draws) acc := by
  induction l generalizing acc with
  | nil => rfl
  | cons i l ih =>
      have hi : offsetStep pow n matrix' srcIdx dstIdx draws acc i =
          offsetStep pow n matrix srcIdx dstIdx draws acc i := by
        by_cases hs : i = srcIdx ∨ i = dstIdx
        · simp only [offsetStep, if_pos hs]
        · simp only [offsetStep, if_neg hs,
            h i (List.mem_cons_self _ _) (fun e => hs (.inl e)) (fun e => hs (.inr e))]
      simp only [List.foldl_cons, hi]
      exact ih (fun j hj => h j (List.mem_cons_of_mem _ hj)) _

/-- Whatever the draws and `pow`, and for any `log10` that is not negative above 1,
`get_signal_offset_by_interference` returns a natural number, 0 with interference off: the
offset the receiver loop subtracts from the SNR never raises it, and is one of the values the
model's environment supplies. It reads `intf[i][dst]` only for the stations `i` other than the
sender and the receiver. -/
theorem interference_offset_is_env_input {libm : Libm} {pow : ℚ → ℚ → ℚ}
    {n srcIdx dstIdx : Nat} {draws : Nat → ℚ} (hlog : ∀ x : ℚ, 1 < x → 0 ≤ libm.log10 x)
    (intf : Option (Nat → IntfInfo)) :
    (∃ d : Nat, getSignalOffsetByInterference libm pow n intf srcIdx dstIdx draws =
      signalOffsetByInterference intf d) ∧
    ∀ matrix matrix' : Nat → IntfInfo,
      (∀ i < n, i ≠ srcIdx → i ≠ dstIdx → matrix' (i * n + dstIdx) = matrix (i * n + dstIdx)) →
      getSignalOffsetByInterference libm pow n (some matrix') srcIdx dstIdx draws =
        getSignalOffsetByInterference libm pow n (some matrix) srcIdx dstIdx draws := by
  refine ⟨?_, fun matrix matrix' h => ?_⟩
  · cases intf with
    | none => exact ⟨0, rfl⟩
    | some matrix =>
        simp only [getSignalOffsetByInterference, signalOffsetByInterference]
        split_ifs with hp
        · exact ⟨0, rfl⟩
        · have hx : 0 ≤ milliwattToDBm libm
              ((List.range n).foldl (offsetStep pow n matrix srcIdx dstIdx draws) (0, 0)).1 + 1 / 2 :=
            by have := hlog _ (not_le.1 hp); simp only [milliwattToDBm]; positivity
          exact ⟨_, (Int.toNat_of_nonneg (doubleToInt_nonneg hx)).symm⟩
  · simp only [getSignalOffsetByInterference,
      foldl_offsetStep_congr (l := List.range n) (fun i hi => h i (List.mem_range.1 hi))]

/-- A log10 that is not negative above 1. -/
def shiftedLibm : Libm := ⟨fun x => x, fun x => x - 1⟩

/-- Three stations, the third interfering with the second at -80 dBm half of the time. -/
theorem three_station_offset_is_env_input :
    (∀ x : ℚ, 1 < x → 0 ≤ shiftedLibm.log10 x) ∧
      (∃ d : Nat, getSignalOffsetByInterference shiftedLibm (fun _ _ => 4) 3
          (some fun _ => ⟨-80, 0, 1 / 2⟩) 0 1 (fun _ => 0) =
        signalOffsetByInterference (some fun _ => ⟨-80, 0, 1 / 2⟩) d) ∧
      ∀ matrix matrix' : Nat → IntfInfo,
        (∀ i < 3, i ≠ 0 → i ≠ 1 → matrix' (i * 3 + 1) = matrix (i * 3 + 1)) →
        getSignalOffsetByInterference shiftedLibm (fun _ _ => 4) 3 (some matrix') 0 1 (fun _ => 0) =
          getSignalOffsetByInterference shiftedLibm (fun _ _ => 4) 3 (some matrix) 0 1
            (fun _ => 0) :=
  have hlog : ∀ x : ℚ, 1 < x → 0 ≤ shiftedLibm.log10 x := fun _ hx => sub_nonneg.2 hx.le
  ⟨hlog, interference_offset_is_env_input hlog _⟩

end Wmediumd
