import Mathlib.Tactic.Ring
import Wmediumd.Config

/-!
# `parse_path_loss`: the SNR matrix from station positions

With a `path_loss` setting, `load_config` calls `parse_path_loss`, which checks the positions,
the transmit powers and the model parameters, reads each station's position and transmit power,
and sets entry `(start, end)` of the SNR matrix to the transmit power of `start` minus
`calc_path_loss_log_distance` from `end` to `start` minus `NOISE_LEVEL`.

As elsewhere in the model, a `double` is an exact rational. The two functions of libm that
`calc_path_loss_log_distance` calls, `sqrt` and `log10`, are parameters, and the conversion of
its result to `int` truncates toward zero; a result out of the range of `int` (two stations at one
position give `log10(0)`) is not modelled. The distance squares the differences of the
coordinates, so the path loss is the same in both directions, and the two directions of a link
differ by the difference of the two transmit powers (`path_loss_links_reciprocal`).
-/

namespace Wmediumd

/-! ## `calc_path_loss_log_distance` -/

/-- `struct log_distance_model_param`. -/
structure LogDistanceParam where
  pathLossExponent : ℚ
  xg : ℚ

/-- The functions of libm that `calc_path_loss_log_distance` calls. -/
structure Libm where
  sqrt : ℚ → ℚ
  log10 : ℚ → ℚ

/-- `(int)` of a `double`: truncation toward zero. -/
def doubleToInt (x : ℚ) : Int := x.num.tdiv x.den

/-- `FREQ_1CH`, in Hz. -/
def freq1ch : ℚ := 2412000000

/-- `SPEED_LIGHT`, in m/s. -/
def speedLight : ℚ := 299792458

/-- `M_PI`, the `double` nearest to π. -/
def mPi : ℚ := 884279719003555 / 281474976710656

/-- `calc_path_loss_log_distance(param, dst, src)` for stations at positions `dst` and `src`. -/
def calcPathLossLogDistance (libm : Libm) (param : LogDistanceParam) (dst src : ℚ × ℚ) : Int :=
  let d := libm.sqrt ((src.1 - dst.1) * (src.1 - dst.1) + (src.2 - dst.2) * (src.2 - dst.2))
  let pl0 := 20 * libm.log10 (4 * mPi * 1 * freq1ch / speedLight)
  doubleToInt (pl0 + 10 * param.pathLossExponent * libm.log10 d + param.xg)

/-- The path loss is the same from `dst` to `src` as from `src` to `dst`. -/
theorem calcPathLossLogDistance_comm (libm : Libm) (param : LogDistanceParam) (a b : ℚ × ℚ) :
    calcPathLossLogDistance libm param a b = calcPathLossLogDistance libm param b a := by
  have h : (b.1 - a.1) * (b.1 - a.1) + (b.2 - a.2) * (b.2 - a.2) =
      (a.1 - b.1) * (a.1 - b.1) + (a.2 - b.2) * (a.2 - b.2) := by ring
  simp only [calcPathLossLogDistance, h]

/-! ## `parse_path_loss` -/

/-- An element of a libconfig list. -/
inductive ConfigElem
  | string (s : String)
  | number (x : ℚ)

/-- `config_setting_get_string_elem`: the string of element `i`, or `NULL` when it is not a
string. -/
def getStringElem (l : List ConfigElem) (i : Nat) : Option String :=
  match l[i]? with
  | some (.string s) => some s
  | _ => none

/-- `config_setting_get_float_elem`: the number of element `i`, or 0 when it is not a number. -/
def getFloatElem (l : List ConfigElem) (i : Nat) : ℚ :=
  match l[i]? with
  | some (.number x) => x
  | _ => 0

/-- The settings `parse_path_loss` looks up under `path_loss`. -/
structure PathLossSettings where
  /-- `path_loss.positions`, each position as the numbers of its elements. -/
  positions : Option (List (List ℚ))
  /-- `path_loss.tx_powers`. -/
  txPowers : Option (List ℚ)
  /-- `path_loss.model_params`. -/
  modelParams : Option (List ConfigElem)

/-- Why `parse_path_loss` returns `EXIT_FAILURE`. -/
inductive PathLossFault
  /-- "No positions found in path_loss" -/
  | noPositions
  /-- "Specify %d positions" -/
  | positionsCount
  /-- "No tx_powers found in path_loss" -/
  | noTxPowers
  /-- "Specify %d tx_powers" -/
  | txPowersCount
  /-- "No model_params found in path_loss" -/
  | noModelParams
  /-- `strncmp` on the `NULL` name of a model whose first parameter is not a string: undefined. -/
  | nullModelName
  /-- "log distance path loss model requires two parameters" -/
  | twoParameters
  /-- "No path loss model found" -/
  | noModel
  /-- "Invalid position: expected (double,double)" -/
  | invalidPosition
  deriving DecidableEq, Repr

/-- The fields of a station that `parse_path_loss` writes: `x`, `y` and `tx_power`. -/
structure PathLossStation where
  x : ℚ
  y : ℚ
  txPower : Int

/-- The station with index `i` as the loop over the stations reads it: its position and its
transmit power, a `float` stored in an `int`. -/
def pathLossStation (positions : List (List ℚ)) (txPowers : List ℚ) (i : Nat) : PathLossStation :=
  ⟨(positions.getD i []).getD 0 0, (positions.getD i []).getD 1 0, doubleToInt (txPowers.getD i 0)⟩

/-- One pass of `list_for_each_entry(station, &ctx->stations, list)`: the position of the
station must have two elements. -/
def readPathLossStation (positions : List (List ℚ)) (txPowers : List ℚ) (i : Nat) :
    Except PathLossFault PathLossStation :=
  if (positions.getD i []).length ≠ 2 then .error .invalidPosition
  else .ok (pathLossStation positions txPowers i)

/-- The value the loops over `start` and `end` write at `(start, end)`:
`sta_array[start]->tx_power - calc_path_loss(&param, sta_array[end], sta_array[start]) -
NOISE_LEVEL`. -/
def pathLossSnr (libm : Libm) (param : LogDistanceParam) (stas : List PathLossStation)
    (start stop : Nat) : Int :=
  let sta := fun i => stas.getD i ⟨0, 0, 0⟩
  (sta start).txPower -
    calcPathLossLogDistance libm param ((sta stop).x, (sta stop).y) ((sta start).x, (sta start).y) -
    noiseLevel

/-- `parse_path_loss(ctx, cf)` for `n` stations: the SNR it writes from `start` to `end`. -/
def parsePathLoss (libm : Libm) (n : Nat) (s : PathLossSettings) :
    Except PathLossFault (Nat → Nat → Int) := do
  let positions ← match s.positions with
    | some positions => pure positions
    | none => throw .noPositions
  if positions.length ≠ n then throw .positionsCount
  let txPowers ← match s.txPowers with
    | some txPowers => pure txPowers
    | none => throw .noTxPowers
  if txPowers.length ≠ n then throw .txPowersCount
  let params ← match s.modelParams with
    | some params => pure params
    | none => throw .noModelParams
  let name ← match getStringElem params 0 with
    | some name => pure name
    | none => throw .nullModelName
  if name ≠ "log_distance" then throw .noModel
  if params.length < 3 then throw .twoParameters
  let param : LogDistanceParam := ⟨getFloatElem params 1, getFloatElem params 2⟩
  let stas ← (List.range n).mapM (readPathLossStation positions txPowers)
  pure (pathLossSnr libm param stas)

/-! ## What it accepts -/

theorem mapM_readPathLossStation {positions : List (List ℚ)} {txPowers : List ℚ} :
    ∀ (l : List Nat) (stas : List PathLossStation),
      l.mapM (readPathLossStation positions txPowers) = .ok stas ↔
        (∀ i ∈ l, (positions.getD i []).length = 2) ∧
          stas = l.map (pathLossStation positions txPowers)
  | [], stas => by
      rw [List.mapM_nil, pure_eq_ok]
      simp [eq_comm]
  | i :: l, stas => by
      rw [List.mapM_cons]
      by_cases hi : (positions.getD i []).length = 2
      · simp only [readPathLossStation, hi, ne_eq, not_true_eq_false, if_false, ok_bind,
          bind_eq_ok, pure_eq_ok, Except.ok.injEq, mapM_readPathLossStation l, List.mem_cons,
          forall_eq_or_imp, true_and, List.map_cons]
        constructor
        · rintro ⟨_, ⟨hl, rfl⟩, rfl⟩
          exact ⟨hl, rfl⟩
        · rintro ⟨hl, rfl⟩
          exact ⟨_, ⟨hl, rfl⟩, rfl⟩
      · simp only [readPathLossStation, ne_eq, hi, not_false_eq_true, if_true, error_bind,
          reduceCtorEq, List.mem_cons, forall_eq_or_imp, false_and, iff_false]

/-- `parse_path_loss` succeeds exactly when the positions and the transmit powers are given for
the `n` stations, the model is `log_distance` with two parameters, and every position has two
elements; it then writes `pathLossSnr` of the stations it read. -/
theorem parsePathLoss_ok_iff {libm : Libm} {n : Nat} {s : PathLossSettings}
    {f : Nat → Nat → Int} :
    parsePathLoss libm n s = .ok f ↔
      ∃ positions txPowers params, s.positions = some positions ∧ positions.length = n ∧
        s.txPowers = some txPowers ∧ txPowers.length = n ∧ s.modelParams = some params ∧
        getStringElem params 0 = some "log_distance" ∧ 3 ≤ params.length ∧
        (∀ i < n, (positions.getD i []).length = 2) ∧
        f = pathLossSnr libm ⟨getFloatElem params 1, getFloatElem params 2⟩
          ((List.range n).map (pathLossStation positions txPowers)) := by
  rcases s with ⟨_ | positions, _ | txPowers, _ | params⟩ <;>
    simp only [parsePathLoss, throw_eq_error, error_bind, reduceCtorEq, false_iff, pure_eq_ok,
      ok_bind, Option.some.injEq, exists_and_left, ite_error_eq_ok, exists_eq_left', false_and,
      exists_false, not_false_eq_true, and_false, not_not, not_lt]
  cases getStringElem params 0 with
  | none => simp
  | some name =>
      simp only [ite_error_eq_ok, not_not, not_lt, bind_eq_ok, mapM_readPathLossStation,
        List.mem_range, pure_eq_ok, Except.ok.injEq, Option.some.injEq]
      constructor
      · rintro ⟨h₁, h₂, h₃, h₄, _, ⟨h₅, rfl⟩, rfl⟩
        exact ⟨h₁, h₂, h₃, h₄, h₅, rfl⟩
      · rintro ⟨h₁, h₂, h₃, h₄, h₅, rfl⟩
        exact ⟨h₁, h₂, h₃, h₄, _, ⟨h₅, rfl⟩, rfl⟩

/-! ## The SNR matrix -/

section Matrix

variable {n a b : Nat}

/-- The inner loop of `parse_path_loss` for row `start` writes entry `(a, b)` when `a` is
`start`, `b` is one of its ends and not `a`. -/
theorem foldl_pathLossRow_apply (hb : b < n) (f : Nat → Nat → Int) (start : Nat)
    (stops : List Nat) (hstops : ∀ s ∈ stops, s < n) (snr : Nat → Int) :
    stops.foldl (fun snr stop => if start = stop then snr
        else Function.update snr (n * start + stop) (f start stop)) snr (n * a + b) =
      if start = a ∧ b ∈ stops ∧ a ≠ b then f a b else snr (n * a + b) := by
  induction stops generalizing snr with
  | nil => simp
  | cons s stops ih =>
      rw [List.foldl_cons, ih (fun s' h => hstops s' (List.mem_cons_of_mem _ h))]
      by_cases hx : start = a ∧ b ∈ stops ∧ a ≠ b
      · simp [hx]
      rw [if_neg hx]
      by_cases hw : start = a ∧ b = s ∧ a ≠ b
      · obtain ⟨rfl, rfl, hab⟩ := hw
        simp [hab]
      have hr : ¬ (start = a ∧ b ∈ s :: stops ∧ a ≠ b) := by
        rintro ⟨h₁, h₂, h₃⟩
        rcases List.mem_cons.1 h₂ with rfl | h₂
        · exact hw ⟨h₁, rfl, h₃⟩
        · exact hx ⟨h₁, h₂, h₃⟩
      rw [if_neg hr]
      split_ifs with hs
      · rfl
      · rw [Function.update_apply, if_neg]
        rw [index_eq_iff hb (hstops s (List.mem_cons_self _ _))]
        rintro ⟨rfl, rfl⟩
        exact hw ⟨rfl, rfl, fun h => hs h⟩

/-- Entry `(a, b)` after the loops of `parse_path_loss`: what `f` gives off the diagonal, the
entry before on it. -/
theorem readPathLoss_apply (ha : a < n) (hb : b < n) (f : Nat → Nat → Int) (snr : Nat → Int) :
    readPathLoss n f snr (n * a + b) = if a = b then snr (n * a + b) else f a b := by
  have outer : ∀ (starts : List Nat) (snr : Nat → Int),
      starts.foldl (fun snr start => (List.range n).foldl (fun snr stop =>
        if start = stop then snr else Function.update snr (n * start + stop) (f start stop))
          snr) snr (n * a + b) = if a ∈ starts ∧ a ≠ b then f a b else snr (n * a + b) := by
    intro starts
    induction starts with
    | nil => simp
    | cons t starts ih =>
        intro snr
        rw [List.foldl_cons, ih, foldl_pathLossRow_apply hb f t _ (fun s h => List.mem_range.1 h)]
        by_cases hab : a = b
        · simp [hab]
        by_cases ha' : a ∈ starts
        · simp [ha', hab]
        · by_cases ht : t = a
          · simp [ht, hab, hb]
          · simp [ha', hab, ht, Ne.symm ht]
  rw [readPathLoss, outer]
  by_cases h : a = b
  · simp [h]
  · simp [h, ha]

end Matrix

/-- With `path_loss`, a successful load writes the SNR matrix from the path loss alone and sets
no error-probability matrix. -/
theorem loadConfig_pathLoss {cfg : ConfigFile} {ids : List String} {f : Nat → Nat → Int}
    {c : LoadedConfig} (hids : cfg.ids = some ids) (hp : cfg.pathLoss = some (some f))
    (h : loadConfig cfg = .ok c) :
    c.numStas = ids.length ∧ c.snrMatrix = readPathLoss ids.length f (fun _ => snrDefault) ∧
      c.errorProbMatrix = none := by
  rcases cfg with ⟨ids', links, errs, pl⟩
  cases hids
  cases hp
  cases links <;> cases errs <;> simp [loadConfig] at h
  cases h
  exact ⟨rfl, rfl, rfl⟩

/-- With a `path_loss` setting, `load_config` succeeds only when `parse_path_loss` accepts the
positions, the transmit powers and the `log_distance` parameters; the SNR from station `a` to
station `b` is then `a`'s transmit power, truncated to `int`, minus the path loss between their
positions minus `NOISE_LEVEL`, and `SNR_DEFAULT` on the diagonal. The path loss being the same
both ways, the two directions of a link differ by the difference of the two transmit powers. -/
theorem path_loss_links_reciprocal {libm : Libm} {s : PathLossSettings} {cfg : ConfigFile}
    {ids : List String} {c : LoadedConfig} (hids : cfg.ids = some ids)
    (hpl : cfg.pathLoss = some (parsePathLoss libm ids.length s).toOption)
    (h : loadConfig cfg = .ok c) :
    c.numStas = ids.length ∧
      ∃ positions txPowers params, s.positions = some positions ∧ s.txPowers = some txPowers ∧
        s.modelParams = some params ∧ getStringElem params 0 = some "log_distance" ∧
        3 ≤ params.length ∧ (∀ p ∈ positions, p.length = 2) ∧
        ∀ a < c.numStas, ∀ b < c.numStas,
          c.snrMatrix (c.numStas * a + b) =
            (if a = b then snrDefault
             else doubleToInt (txPowers.getD a 0) -
               calcPathLossLogDistance libm ⟨getFloatElem params 1, getFloatElem params 2⟩
                 ((positions.getD b []).getD 0 0, (positions.getD b []).getD 1 0)
                 ((positions.getD a []).getD 0 0, (positions.getD a []).getD 1 0) -
               noiseLevel) ∧
          (a ≠ b → c.snrMatrix (c.numStas * a + b) - c.snrMatrix (c.numStas * b + a) =
            doubleToInt (txPowers.getD a 0) - doubleToInt (txPowers.getD b 0)) := by
  cases hparse : parsePathLoss libm ids.length s with
  | error e =>
      rcases cfg with ⟨ids', links, errs, pl⟩
      cases hids
      simp only [hparse, Except.toOption] at hpl
      cases hpl
      cases links <;> cases errs <;> simp [loadConfig] at h
  | ok f =>
      simp only [hparse, Except.toOption] at hpl
      obtain ⟨hn, hsnr, -⟩ := loadConfig_pathLoss hids hpl h
      obtain ⟨positions, txPowers, params, hp, hpn, ht, htn, hm, hname, hlen, hpos, rfl⟩ :=
        parsePathLoss_ok_iff.1 hparse
      have entry : ∀ a < c.numStas, ∀ b < c.numStas, c.snrMatrix (c.numStas * a + b) =
          if a = b then snrDefault
          else doubleToInt (txPowers.getD a 0) -
            calcPathLossLogDistance libm ⟨getFloatElem params 1, getFloatElem params 2⟩
              ((positions.getD b []).getD 0 0, (positions.getD b []).getD 1 0)
              ((positions.getD a []).getD 0 0, (positions.getD a []).getD 1 0) - noiseLevel := by
        intro a ha b hb
        rw [hsnr, hn, readPathLoss_apply (hn ▸ ha) (hn ▸ hb)]
        split_ifs
        · rfl
        · simp [pathLossSnr, pathLossStation, List.getD_eq_getElem?_getD, hn ▸ ha, hn ▸ hb]
      refine ⟨hn, positions, txPowers, params, hp, ht, hm, hname, hlen, fun p hmem => ?_,
        fun a ha b hb => ⟨entry a ha b hb, fun hab => ?_⟩⟩
      · obtain ⟨i, hi, rfl⟩ := List.getElem_of_mem hmem
        simpa [List.getD_eq_getElem?_getD, hi] using hpos i (hpn ▸ hi)
      · rw [entry a ha b hb, entry b hb a ha, if_neg hab, if_neg (Ne.symm hab),
          calcPathLossLogDistance_comm]
        omega

/-- Two stations 5 m apart, transmitting at 20 and 15 dBm, with a path-loss exponent of 3.5. -/
def twoStationPathLoss : PathLossSettings :=
  ⟨some [[0, 0], [3, 4]], some [20, 15], some [.string "log_distance", .number (7 / 2), .number 0]⟩

/-- A stand-in for libm, with `sqrt` the identity and `log10` zero: the results above hold for
every `sqrt` and `log10`. -/
def flatLibm : Libm := ⟨fun x => x, fun _ => 0⟩

/-- A configuration with the two stations and the path loss. -/
def twoStationConfig : ConfigFile :=
  ⟨some ["02:00:00:00:00:00", "02:00:00:00:01:00"], none, none,
    some (parsePathLoss flatLibm 2 twoStationPathLoss).toOption⟩

theorem two_stations_links_reciprocal :
    ∃ c, loadConfig twoStationConfig = .ok c ∧ c.numStas = 2 ∧
      ∃ positions txPowers params, twoStationPathLoss.positions = some positions ∧
        twoStationPathLoss.txPowers = some txPowers ∧ twoStationPathLoss.modelParams = some params ∧
        getStringElem params 0 = some "log_distance" ∧ 3 ≤ params.length ∧
        (∀ p ∈ positions, p.length = 2) ∧
        ∀ a < c.numStas, ∀ b < c.numStas,
          c.snrMatrix (c.numStas * a + b) =
            (if a = b then snrDefault
             else doubleToInt (txPowers.getD a 0) -
               calcPathLossLogDistance flatLibm ⟨getFloatElem params 1, getFloatElem params 2⟩
                 ((positions.getD b []).getD 0 0, (positions.getD b []).getD 1 0)
                 ((positions.getD a []).getD 0 0, (positions.getD a []).getD 1 0) -
               noiseLevel) ∧
          (a ≠ b → c.snrMatrix (c.numStas * a + b) - c.snrMatrix (c.numStas * b + a) =
            doubleToInt (txPowers.getD a 0) - doubleToInt (txPowers.getD b 0)) :=
  let ⟨c, h⟩ : ∃ c, loadConfig twoStationConfig = .ok c := ⟨_, rfl⟩
  ⟨c, h, @path_loss_links_reciprocal flatLibm twoStationPathLoss twoStationConfig
    ["02:00:00:00:00:00", "02:00:00:00:01:00"] c rfl rfl h⟩

end Wmediumd
