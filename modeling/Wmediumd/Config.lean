import Wmediumd.CString
import Wmediumd.Medium

/-!
# `load_config`: the link matrices

`load_config` numbers the stations in the order of `ifaces.ids`, fills `snr_matrix` with
`SNR_DEFAULT`, then writes it from `ifaces.links` or `path_loss`, or fills `error_prob_matrix`
from `ifaces.error_probs`; at most one of the three may be given. Both matrices are read at
`N * row + column`.

libconfig is not under `src/`: the model takes the settings as the values its getters return
(`config_setting_get_int_elem` for a link, `config_setting_get_float_elem` for a row of error
probabilities). The `path_loss` field holds what `parse_path_loss` writes for each ordered pair,
or its failure; `Wmediumd.PathLoss` computes it from the `path_loss` settings.
-/

namespace Wmediumd

/-! ## `string_to_mac_address` -/

/-- The values `sscanf(str, "%x:%x:%x:%x:%x:%x", ...)` converts, in order: it stops at the first
conversion without digits and at the first `:` that is not there. -/
def scanMacFields : Nat → List Char → List UInt32
  | 0, _ => []
  | k + 1, s =>
      match scanHex s with
      | none => []
      | some (v, rest) =>
          v :: if k = 0 then []
            else match rest with
              | ':' :: rest => scanMacFields k rest
              | _ => []

/-- `string_to_mac_address(str, addr)`: `addr[i] = (u8) a[i]`, where `a[i]` is the value `sscanf`
converted or, past the last one, what the uninitialised `int a[ETH_ALEN]` held (`stack`). -/
def stringToMacAddress (stack : Fin 6 → UInt32) (str : List Char) : MacAddr :=
  ⟨(List.finRange 6).map fun i : Fin 6 => ((scanMacFields 6 str).getD i.val (stack i)).toUInt8,
    by rw [List.length_map, List.length_finRange]; rfl⟩

/-! ## The link matrices -/

/-- The settings `load_config` reads. -/
structure ConfigFile where
  /-- `ifaces.ids`. -/
  ids : Option (List String)
  /-- `ifaces.links`, each link as the integers of its elements. -/
  links : Option (List (List Int))
  /-- `ifaces.error_probs`, each row as the numbers of its elements. -/
  errorProbs : Option (List (List ℚ))
  /-- `path_loss`, with the SNR `parse_path_loss` writes from `start` to `end`, or `none` when
  it fails. -/
  pathLoss : Option (Option (Nat → Nat → Int))

/-- Why `load_config` returns `EXIT_FAILURE`. -/
inductive ConfigFault
  /-- "ids not found in config file" -/
  | idsNotFound
  /-- "specify one of links/error_probs/path_loss" -/
  | notOneOf
  /-- "Specify %d error probabilities": the table has not `N` rows. -/
  | errorProbsCount
  /-- "Specify %d error probabilities": row `start` has not `N` elements. -/
  | errorProbsRow (start : Nat)
  /-- `parse_path_loss` failed. -/
  | pathLoss
  deriving DecidableEq, Repr

/-- What a successful `load_config` leaves in the context. -/
structure LoadedConfig where
  numStas : Nat
  snrMatrix : Nat → Int
  errorProbMatrix : Option (Nat → ℚ)

/-- One pass of the loop over `ifaces.links`: a link of three elements with both ends in range
sets the SNR in both directions. -/
def readLink (n : Nat) (snr : Nat → Int) : List Int → Nat → Int
  | [start, stop, s] =>
      if start < 0 ∨ n ≤ start ∨ stop < 0 ∨ n ≤ stop then snr
      else Function.update (Function.update snr (n * start.toNat + stop.toNat) s)
        (n * stop.toNat + start.toNat) s
  | _ => snr

/-- One pass of the outer loop over `ifaces.error_probs`: row `start` must have `N` elements; each
element right of the diagonal is stored at `(end, start)` and `(start, end)`. -/
def readErrorProbRow (n : Nat) (e : Nat → ℚ) (start : Nat) (row : List ℚ) :
    Except ConfigFault (Nat → ℚ) :=
  if row.length ≠ n then .error (.errorProbsRow start)
  else .ok ((List.range' (start + 1) (n - (start + 1))).foldl
    (fun e stop => Function.update (Function.update e (n * stop + start) (row.getD stop 0))
      (n * start + stop) (row.getD stop 0)) e)

/-- The loop over `ifaces.error_probs`, on the matrix `calloc` zeroed. -/
def readErrorProbs (n : Nat) (rows : List (List ℚ)) : Except ConfigFault (Nat → ℚ) :=
  (List.range n).foldlM (fun e start => readErrorProbRow n e start (rows.getD start [])) fun _ => 0

/-- The loops of `parse_path_loss` that write the SNR of every link between two stations. -/
def readPathLoss (n : Nat) (pathLoss : Nat → Nat → Int) (snr : Nat → Int) : Nat → Int :=
  (List.range n).foldl (fun snr start => (List.range n).foldl (fun snr stop =>
    if start = stop then snr else Function.update snr (n * start + stop) (pathLoss start stop))
      snr) snr

/-- `load_config`, from the settings read. -/
def loadConfig (cfg : ConfigFile) : Except ConfigFault LoadedConfig := do
  let ids ← match cfg.ids with
    | some ids => pure ids
    | none => throw .idsNotFound
  let n := ids.length
  let l := cfg.links.isSome
  let e := cfg.errorProbs.isSome
  let p := cfg.pathLoss.isSome
  unless (!l && !e && !p) || (l && !e && !p) || (!l && e && !p) || (!l && !e && p) do
    throw .notOneOf
  let snr : Nat → Int := fun _ => snrDefault
  let errorProbs ← match cfg.errorProbs with
    | none => pure none
    | some rows => if rows.length ≠ n then throw .errorProbsCount else pure (some rows)
  let snr := (cfg.links.getD []).foldl (readLink n) snr
  let errorProbMatrix ← match errorProbs with
    | none => pure none
    | some rows => some <$> readErrorProbs n rows
  let snr ← match cfg.pathLoss with
    | none => pure snr
    | some none => throw .pathLoss
    | some (some pathLoss) => pure (readPathLoss n pathLoss snr)
  pure ⟨n, snr, errorProbMatrix⟩

/-- `ctx->get_link_snr` and `ctx->get_error_prob` as `load_config` sets them. -/
def LoadedConfig.link (c : LoadedConfig) : LinkModel :=
  match c.errorProbMatrix with
  | some e => .errorProbMatrix e
  | none => .snrMatrix c.snrMatrix

/-! ## The matrices as described -/

/-- Modelled from the spec: the link has three elements and joins `a` and `b`, in either
direction. -/
def linkJoins (a b : Nat) : List Int → Bool
  | [start, stop, _] => (start = a && stop = b) || (start = b && stop = a)
  | _ => false

/-- Modelled from the spec: the SNR of a link of three elements. -/
def linkSnr : List Int → Int
  | [_, _, snr] => snr
  | _ => snrDefault

/-- Modelled from the spec: the SNR of the last entry of `ifaces.links` joining `a` and `b`, or
`SNR_DEFAULT` when there is none. -/
def lastLinkSnr (links : List (List Int)) (a b : Nat) : Int :=
  ((links.reverse.find? (linkJoins a b)).map linkSnr).getD snrDefault

/-- Modelled from the spec: entry `(a, b)` of the error-probability matrix from the table `E`:
`E[min a b][max a b]` off the diagonal, 0 on it. -/
def errorProbEntry (rows : List (List ℚ)) (a b : Nat) : ℚ :=
  if a = b then 0 else (rows.getD (min a b) []).getD (max a b) 0

/-! ## The loops -/

/-- `N * row + column` names one entry of the `N × N` matrix. -/
theorem index_eq_iff {n s t a b : Nat} (ht : t < n) (hb : b < n) :
    n * s + t = n * a + b ↔ s = a ∧ t = b := by
  constructor
  · intro h
    have hn : 0 < n := Nat.zero_lt_of_lt hb
    have hdiv := congrArg (· / n) h
    have hmod := congrArg (· % n) h
    simp only [Nat.mul_add_div hn, Nat.div_eq_of_lt ht, Nat.div_eq_of_lt hb, Nat.mul_add_mod,
      Nat.mod_eq_of_lt ht, Nat.mod_eq_of_lt hb, Nat.add_zero] at hdiv hmod
    exact ⟨hdiv, hmod⟩
  · rintro ⟨rfl, rfl⟩
    rfl

section Links

variable {n a b : Nat}

/-- A pass of the links loop changes entry `(a, b)` exactly when the link joins `a` and `b`. -/
theorem readLink_apply (ha : a < n) (hb : b < n) (snr : Nat → Int) (link : List Int) :
    readLink n snr link (n * a + b) =
      if linkJoins a b link then linkSnr link else snr (n * a + b) := by
  match link with
  | [start, stop, x] =>
      dsimp only [readLink]
      by_cases hr : start < 0 ∨ n ≤ start ∨ stop < 0 ∨ n ≤ stop
      · have hj : linkJoins a b [start, stop, x] = false := by
          simp only [linkJoins, Bool.or_eq_false_iff, Bool.and_eq_false_iff,
            decide_eq_false_iff_not]
          omega
        rw [if_pos hr, hj, if_neg Bool.false_ne_true]
      · obtain ⟨s, rfl⟩ := Int.eq_ofNat_of_zero_le (by omega : 0 ≤ start)
        obtain ⟨t, rfl⟩ := Int.eq_ofNat_of_zero_le (by omega : 0 ≤ stop)
        have e₁ : n * a + b = n * t + s ↔ t = a ∧ s = b :=
          eq_comm.trans (index_eq_iff (by omega) hb)
        have e₂ : n * a + b = n * s + t ↔ s = a ∧ t = b :=
          eq_comm.trans (index_eq_iff (by omega) hb)
        simp only [if_neg hr, Int.toNat_ofNat, Function.update_apply, e₁, e₂, linkJoins, linkSnr,
          Int.ofNat_inj, Bool.or_eq_true, Bool.and_eq_true, decide_eq_true_eq]
        split_ifs <;> omega
  | [] | [_] | [_, _] | _ :: _ :: _ :: _ :: _ => rfl

/-- After the links loop, entry `(a, b)` is the SNR of the last link joining `a` and `b`, or what
it was before when no link does. -/
theorem foldl_readLink_apply (ha : a < n) (hb : b < n) (links : List (List Int))
    (snr : Nat → Int) :
    links.foldl (readLink n) snr (n * a + b) =
      ((links.reverse.find? (linkJoins a b)).map linkSnr).getD (snr (n * a + b)) := by
  induction links generalizing snr with
  | nil => rfl
  | cons l links ih =>
      rw [List.foldl_cons, ih, readLink_apply ha hb, List.reverse_cons, List.find?_append]
      cases links.reverse.find? (linkJoins a b) <;> by_cases hj : linkJoins a b l <;> simp [hj]

end Links

section ErrorProbs

variable {n a b : Nat}

/-- The inner loop for row `start`, over ends right of `start`, writes entry `(a, b)` when one
of `a` and `b` is `start` and the other one of its ends. -/
theorem foldl_errorProbRow_apply (hb : b < n) (start : Nat) (row : List ℚ)
    (stops : List Nat) (hstops : ∀ s ∈ stops, start < s ∧ s < n) (e : Nat → ℚ) :
    stops.foldl (fun e stop => Function.update (Function.update e (n * stop + start)
        (row.getD stop 0)) (n * start + stop) (row.getD stop 0)) e (n * a + b) =
      if a ≠ b ∧ min a b = start ∧ max a b ∈ stops then row.getD (max a b) 0
      else e (n * a + b) := by
  induction stops generalizing e with
  | nil => simp
  | cons s stops ih =>
      have hs := hstops s (List.mem_cons_self _ _)
      rw [List.foldl_cons, ih (fun s' h => hstops s' (List.mem_cons_of_mem _ h))]
      simp only [List.mem_cons]
      have e₁ : n * a + b = n * start + s ↔ start = a ∧ s = b :=
        eq_comm.trans (index_eq_iff hs.2 hb)
      have e₂ : n * a + b = n * s + start ↔ s = a ∧ start = b :=
        eq_comm.trans (index_eq_iff (by omega) hb)
      by_cases hc : a ≠ b ∧ min a b = start ∧ max a b ∈ stops
      · rw [if_pos hc, if_pos ⟨hc.1, hc.2.1, .inr hc.2.2⟩]
      · rw [if_neg hc]
        simp only [Function.update_apply, e₁, e₂]
        by_cases hw : (start = a ∧ s = b) ∨ (s = a ∧ start = b)
        · have hmax : max a b = s := by omega
          have hcond : a ≠ b ∧ min a b = start ∧ (max a b = s ∨ max a b ∈ stops) :=
            ⟨by omega, by omega, .inl hmax⟩
          rw [if_pos hcond, hmax]
          split_ifs <;> first | rfl | omega
        · have h₁ : ¬ (start = a ∧ s = b) := fun h => hw (.inl h)
          have h₂ : ¬ (s = a ∧ start = b) := fun h => hw (.inr h)
          have h₃ : ¬ (a ≠ b ∧ min a b = start ∧ (max a b = s ∨ max a b ∈ stops)) := by
            rintro ⟨h₁, h₂, h₃ | h₃⟩
            · omega
            · exact hc ⟨h₁, h₂, h₃⟩
          rw [if_neg h₁, if_neg h₂, if_neg h₃]

/-- After the rows before `k`, every entry off the diagonal whose smaller index is below `k` holds
its element of the table, and every other entry is still 0. -/
theorem readErrorProbs_loop (rows : List (List ℚ)) (ha : a < n) (hb : b < n) :
    ∀ k ≤ n, ∀ e, (List.range k).foldlM (fun e start => readErrorProbRow n e start (rows.getD start []))
      (fun _ => 0) = .ok e →
      e (n * a + b) = if a ≠ b ∧ min a b < k then (rows.getD (min a b) []).getD (max a b) 0 else 0
  | 0, _, e, h => by
      cases h
      simp
  | k + 1, hk, e, h => by
      rw [List.range_succ, List.foldlM_append, bind_eq_ok] at h
      obtain ⟨e', he', h⟩ := h
      simp only [List.foldlM_cons, List.foldlM_nil, readErrorProbRow] at h
      split at h
      · cases h
      · simp only [ok_bind] at h
        cases h
        rw [foldl_errorProbRow_apply hb k _ _ (fun s hs => by
          simp only [List.mem_range'_1] at hs; omega),
          readErrorProbs_loop rows ha hb k (by omega) e' he']
        simp only [List.mem_range'_1]
        by_cases h₁ : a ≠ b ∧ min a b = k
        · have hc₁ : a ≠ b ∧ min a b = k ∧ k + 1 ≤ max a b ∧ max a b < k + 1 + (n - (k + 1)) :=
            ⟨h₁.1, h₁.2, by omega, by omega⟩
          have hc : a ≠ b ∧ min a b < k + 1 := ⟨h₁.1, by omega⟩
          rw [if_pos hc₁, if_pos hc, h₁.2]
        · have hc₁ : ¬ (a ≠ b ∧ min a b = k ∧ k + 1 ≤ max a b ∧ max a b < k + 1 + (n - (k + 1))) :=
            fun h => h₁ ⟨h.1, h.2.1⟩
          rw [if_neg hc₁]
          by_cases h₀ : a ≠ b ∧ min a b < k
          · rw [if_pos h₀, if_pos ⟨h₀.1, by omega⟩]
          · have hc : ¬ (a ≠ b ∧ min a b < k + 1) := by omega
            rw [if_neg h₀, if_neg hc]

theorem readErrorProbs_apply {rows : List (List ℚ)} {e : Nat → ℚ}
    (h : readErrorProbs n rows = .ok e) (ha : a < n) (hb : b < n) :
    e (n * a + b) = errorProbEntry rows a b := by
  rw [readErrorProbs_loop rows ha hb n le_rfl e h, errorProbEntry]
  by_cases hab : a = b
  · simp [hab]
  · rw [if_pos ⟨hab, by omega⟩, if_neg hab]

end ErrorProbs

/-! ## `load_config` -/

section Load

variable {cfg : ConfigFile} {c : LoadedConfig}

/-- With `ifaces.links`, a successful load writes the SNR matrix from the links alone and sets no
error-probability matrix. -/
theorem loadConfig_links {links : List (List Int)} (hl : cfg.links = some links)
    (h : loadConfig cfg = .ok c) :
    c.snrMatrix = links.foldl (readLink c.numStas) (fun _ => snrDefault) ∧
      c.errorProbMatrix = none := by
  rcases cfg with ⟨ids, links', errs, pl⟩
  cases hl
  cases ids with
  | none => cases h
  | some ids =>
      cases errs <;> cases pl <;> simp [loadConfig] at h
      cases h
      exact ⟨rfl, rfl⟩

/-- With `ifaces.error_probs`, a successful load sets the error-probability matrix the loop over
the table computes. -/
theorem loadConfig_errorProbs {rows : List (List ℚ)} (he : cfg.errorProbs = some rows)
    (h : loadConfig cfg = .ok c) :
    ∃ e, readErrorProbs c.numStas rows = .ok e ∧ c.errorProbMatrix = some e := by
  rcases cfg with ⟨ids, links, errs, pl⟩
  cases he
  cases ids with
  | none => cases h
  | some ids =>
      cases links <;> cases pl <;> simp [loadConfig] at h
      split at h
      · obtain ⟨e, he, h⟩ := bind_eq_ok.1 h
        cases h
        exact ⟨e, he, rfl⟩
      · cases h

theorem loadConfig_snr {links : List (List Int)} (hl : cfg.links = some links)
    (h : loadConfig cfg = .ok c) {a b : Nat} (ha : a < c.numStas) (hb : b < c.numStas) :
    c.snrMatrix (c.numStas * a + b) = lastLinkSnr links a b := by
  rw [(loadConfig_links hl h).1, foldl_readLink_apply ha hb]
  rfl

theorem loadConfig_errorProb {rows : List (List ℚ)} (he : cfg.errorProbs = some rows)
    (h : loadConfig cfg = .ok c) :
    ∃ e, c.errorProbMatrix = some e ∧ ∀ a < c.numStas, ∀ b < c.numStas,
      e (c.numStas * a + b) = errorProbEntry rows a b := by
  obtain ⟨e, hr, hc⟩ := loadConfig_errorProbs he h
  exact ⟨e, hc, fun a ha b hb => readErrorProbs_apply hr ha hb⟩

end Load

theorem linkJoins_comm (a b : Nat) : linkJoins a b = linkJoins b a := by
  funext link
  match link with
  | [_, _, _] => simp only [linkJoins, Bool.or_comm]
  | [] | [_] | [_, _] | _ :: _ :: _ :: _ :: _ => rfl

theorem lastLinkSnr_comm (links : List (List Int)) (a b : Nat) :
    lastLinkSnr links a b = lastLinkSnr links b a := by
  rw [lastLinkSnr, linkJoins_comm, lastLinkSnr]

theorem errorProbEntry_comm (rows : List (List ℚ)) (a b : Nat) :
    errorProbEntry rows a b = errorProbEntry rows b a := by
  simp only [errorProbEntry, eq_comm, min_comm, max_comm]

/-- `load_config` builds the matrices the description gives. With `ifaces.links`, entry `(a, b)`
and entry `(b, a)` of `snr_matrix` are the SNR of the last link of three elements joining `a`
and `b`, or `SNR_DEFAULT`; with `ifaces.error_probs`, entry `(a, b)` and `(b, a)` of
`error_prob_matrix` are `E[min a b][max a b]` off the diagonal and 0 on it; and two tables that
agree right of their diagonal give the same matrix. -/
theorem load_config_symmetric_matrices :
    (∀ (cfg : ConfigFile) (links : List (List Int)) (c : LoadedConfig), cfg.links = some links →
      loadConfig cfg = .ok c → ∀ a < c.numStas, ∀ b < c.numStas,
        c.snrMatrix (c.numStas * a + b) = lastLinkSnr links a b ∧
        c.snrMatrix (c.numStas * b + a) = lastLinkSnr links a b) ∧
    (∀ (cfg : ConfigFile) (rows : List (List ℚ)) (c : LoadedConfig), cfg.errorProbs = some rows →
      loadConfig cfg = .ok c → ∃ e, c.errorProbMatrix = some e ∧
        ∀ a < c.numStas, ∀ b < c.numStas,
          e (c.numStas * a + b) = errorProbEntry rows a b ∧
          e (c.numStas * b + a) = errorProbEntry rows a b) ∧
    (∀ (cfg cfg' : ConfigFile) (rows rows' : List (List ℚ)) (c c' : LoadedConfig),
      cfg.errorProbs = some rows → cfg'.errorProbs = some rows' →
      (∀ i j, i < j → (rows.getD i []).getD j 0 = (rows'.getD i []).getD j 0) →
      loadConfig cfg = .ok c → loadConfig cfg' = .ok c' → c.numStas = c'.numStas →
      ∃ e e', c.errorProbMatrix = some e ∧ c'.errorProbMatrix = some e' ∧
        ∀ a < c.numStas, ∀ b < c.numStas, e (c.numStas * a + b) = e' (c.numStas * a + b)) := by
  refine ⟨fun cfg links c hl h a ha b hb => ⟨loadConfig_snr hl h ha hb, ?_⟩,
    fun cfg rows c he h => ?_, fun cfg cfg' rows rows' c c' he he' hE h h' hn => ?_⟩
  · rw [loadConfig_snr hl h hb ha, lastLinkSnr_comm]
  · obtain ⟨e, hc, he⟩ := loadConfig_errorProb he h
    exact ⟨e, hc, fun a ha b hb => ⟨he a ha b hb, by rw [he b hb a ha, errorProbEntry_comm]⟩⟩
  · obtain ⟨e, hc, he⟩ := loadConfig_errorProb he h
    obtain ⟨e', hc', he'⟩ := loadConfig_errorProb he' h'
    refine ⟨e, e', hc, hc', fun a ha b hb => ?_⟩
    rw [he a ha b hb, hn, he' a (hn ▸ ha) b (hn ▸ hb), errorProbEntry, errorProbEntry]
    by_cases hab : a = b
    · simp [hab]
    · rw [if_neg hab, if_neg hab, hE _ _ (by omega)]

/-- Three stations; the link `0–1` is given twice, the second time reversed, and two entries are
skipped: one out of range and one of two elements. Both entries of `0–1` hold the SNR of the
second. Two stations with the table `[[0, 1/2], [1, 0]]` get 1/2 on both sides of the diagonal,
as with `[[0, 1/2], [0, 0]]`: the 1 below the diagonal is not read. -/
theorem load_config_symmetric_matrices_sample :
    let trio : ConfigFile := ⟨some ["02:00:00:00:00:00", "02:00:00:00:01:00", "02:00:00:00:02:00"],
      some [[0, 1, 5], [1, 0, 7], [0, 5, 1], [1, 2]], none, none⟩
    let duo (below : ℚ) : ConfigFile := ⟨some ["02:00:00:00:00:00", "02:00:00:00:01:00"], none,
      some [[0, 1 / 2], [below, 0]], none⟩
    (∃ c, loadConfig trio = .ok c ∧ c.snrMatrix 1 = 7 ∧ c.snrMatrix 3 = 7) ∧
    ∃ c c' e e', loadConfig (duo 1) = .ok c ∧ loadConfig (duo 0) = .ok c' ∧
      c.errorProbMatrix = some e ∧ c'.errorProbMatrix = some e' ∧ e 1 = 1 / 2 ∧ e 2 = 1 / 2 ∧
      e 2 = e' 2 := by
  intro trio duo
  obtain ⟨c, hc⟩ : ∃ c, loadConfig trio = .ok c := ⟨_, rfl⟩
  have hn : c.numStas = 3 := Except.ok.inj ((congrArg (Except.map LoadedConfig.numStas) hc).symm.trans
    (show (loadConfig trio).map LoadedConfig.numStas = .ok 3 from rfl))
  obtain ⟨h₁, h₃⟩ := load_config_symmetric_matrices.1 trio _ c rfl hc 0 (by omega) 1 (by omega)
  rw [hn] at h₁ h₃
  obtain ⟨d, hd⟩ : ∃ c, loadConfig (duo 1) = .ok c := ⟨_, rfl⟩
  obtain ⟨d', hd'⟩ : ∃ c, loadConfig (duo 0) = .ok c := ⟨_, rfl⟩
  have hdn : d.numStas = 2 := Except.ok.inj ((congrArg (Except.map LoadedConfig.numStas) hd).symm.trans
    (show (loadConfig (duo 1)).map LoadedConfig.numStas = .ok 2 from rfl))
  have hdn' : d'.numStas = 2 := Except.ok.inj
    ((congrArg (Except.map LoadedConfig.numStas) hd').symm.trans
      (show (loadConfig (duo 0)).map LoadedConfig.numStas = .ok 2 from rfl))
  obtain ⟨e, he, hab⟩ := load_config_symmetric_matrices.2.1 (duo 1) _ d rfl hd
  obtain ⟨h₀₁, h₁₀⟩ := hab 0 (by omega) 1 (by omega)
  obtain ⟨e₁, e', he₁, he', heq⟩ := load_config_symmetric_matrices.2.2 (duo 1) (duo 0) _ _ d d'
    rfl rfl (fun i j hij => match i, j, hij with
      | 0, _, _ => rfl
      | 1, _ + 2, _ => rfl
      | _ + 2, _, _ => rfl
      | 1, 0, h | 1, 1, h => absurd h (by decide)) hd hd' (hdn.trans hdn'.symm)
  obtain rfl : e₁ = e := Option.some.inj (he₁.symm.trans he)
  rw [hdn] at h₀₁ h₁₀ heq
  exact ⟨⟨c, hc, h₁.trans rfl, h₃.trans rfl⟩, d, d', e₁, e', hd, hd', he, he', h₀₁.trans rfl,
    h₁₀.trans rfl, heq 1 (by omega) 0 (by omega)⟩

end Wmediumd
