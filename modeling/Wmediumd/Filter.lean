import Wmediumd.Config

/-!
# `filter.c`: dropping SAE frames

`filter_parse` reads a filter from a string of `.`-separated fields: the sender's address, the
kind of frame and how many such frames to drop. `filter_matches` drops a frame of that kind from
that sender while the count is not 0, and counts a positive count down.

`frame_is_sae_commit`, `frame_is_sae_confirm` and `frame_is_action` are not under `src/`, so the
model takes them as parameters; nothing under `src/` calls `filter_matches`, and the results here
are about a filter applied to any sequence of frames.
-/

namespace Wmediumd

/-- `enum filter_options`. -/
inductive FilterOption
  | pass
  | drop
  deriving DecidableEq, Repr

/-- `enum filter_frame_types`. -/
inductive FilterFrameType
  | none
  | commit
  | confirm
  | action
  deriving DecidableEq, Repr

/-- `struct filter`. -/
structure Filter where
  mac : MacAddr
  frameType : FilterFrameType
  count : Int
  deriving DecidableEq

/-- The frame classifiers `filter_matches` calls, on the frame's bytes. -/
structure FrameClassifier where
  isSaeCommit : Bytes → Bool
  isSaeConfirm : Bytes → Bool
  isAction : Bytes → Bool

/-- The all-zero address of the initialiser `struct filter filter = { .count = -1 }`. -/
def zeroMac : MacAddr := ⟨[0, 0, 0, 0, 0, 0], rfl⟩

/-- The `switch (field_count++)` of `filter_parse` over the tokens, from `field_count`; `none` is
the `return NULL` of an unknown frame type. -/
def filterParseFields (stack : Fin 6 → UInt32) :
    Nat → Filter → List (List Char) → Option (Nat × Filter)
  | fieldCount, filter, [] => some (fieldCount, filter)
  | fieldCount, filter, tok :: toks =>
      match fieldCount with
      | 0 => filterParseFields stack 1 { filter with mac := stringToMacAddress stack tok } toks
      | 1 =>
          if tok = "commit".toList then
            filterParseFields stack 2 { filter with frameType := .commit } toks
          else if tok = "confirm".toList then
            filterParseFields stack 2 { filter with frameType := .confirm } toks
          else if tok = "action".toList then
            filterParseFields stack 2 { filter with frameType := .action } toks
          else none
      | 2 => filterParseFields stack 3 { filter with count := atoi tok } toks
      | n + 3 => filterParseFields stack (n + 4) filter toks

/-- `filter_parse(filter_str)`; `stack` is what `string_to_mac_address` finds in its
uninitialised array. -/
def filterParse (stack : Fin 6 → UInt32) (s : List Char) : Option Filter :=
  match filterParseFields stack 0 ⟨zeroMac, .none, -1⟩ (strtokDot s) with
  | none => none
  | some (fieldCount, filter) => if fieldCount < 2 then none else some filter

/-- `filter_matches(filter, frame)` for a frame from the station with address `sender`: the answer,
and the filter after the call. -/
def filterMatches (cls : FrameClassifier) (filter : Filter) (sender : MacAddr) (data : Bytes) :
    FilterOption × Filter :=
  if filter.count = 0 ∨ filter.frameType = .none then (.pass, filter)
  else if sender ≠ filter.mac then (.pass, filter)
  else if (filter.frameType = .commit ∧ cls.isSaeCommit data = true) ∨
      (filter.frameType = .confirm ∧ cls.isSaeConfirm data = true) ∨
      (filter.frameType = .action ∧ cls.isAction data = true) then
    (.drop, if 0 < filter.count then { filter with count := filter.count - 1 } else filter)
  else (.pass, filter)

/-- `filter_matches` on the frames of a sequence, one after the other. -/
def filterRun (cls : FrameClassifier) : Filter → List (MacAddr × Bytes) → List FilterOption × Filter
  | filter, [] => ([], filter)
  | filter, (sender, data) :: frames =>
      let r := filterMatches cls filter sender data
      let rs := filterRun cls r.2 frames
      (r.1 :: rs.1, rs.2)

/-- Modelled from the spec: the frame is one the filter is about, from its address and of its
type. -/
def filterHits (cls : FrameClassifier) (filter : Filter) (frame : MacAddr × Bytes) : Bool :=
  frame.1 = filter.mac &&
    match filter.frameType with
    | .commit => cls.isSaeCommit frame.2
    | .confirm => cls.isSaeConfirm frame.2
    | .action => cls.isAction frame.2
    | .none => false

/-! ## One frame -/

section Matches

variable {cls : FrameClassifier} {filter : Filter} {sender : MacAddr} {data : Bytes}

/-- For a filter with a type, a frame is dropped when the filter is about it and the count is
not 0, and a drop counts a positive count down by one. -/
theorem filterMatches_eq (hf : filter.frameType ≠ .none) :
    filterMatches cls filter sender data =
      if filterHits cls filter (sender, data) ∧ filter.count ≠ 0 then
        (.drop, if 0 < filter.count then { filter with count := filter.count - 1 } else filter)
      else (.pass, filter) := by
  by_cases hc : filter.count = 0
  · simp [filterMatches, hc]
  by_cases hs : sender = filter.mac
  · cases hty : filter.frameType <;> simp_all [filterMatches, filterHits]
  · simp [filterMatches, filterHits, hs, hc]

theorem filterMatches_fst (hf : filter.frameType ≠ .none) :
    (filterMatches cls filter sender data).1 =
      if filterHits cls filter (sender, data) ∧ filter.count ≠ 0 then .drop else .pass := by
  rw [filterMatches_eq hf]
  split_ifs <;> rfl

/-- Nothing but the count of the filter changes. -/
theorem filterMatches_snd (hf : filter.frameType ≠ .none) :
    (filterMatches cls filter sender data).2 =
      { filter with count := if filterHits cls filter (sender, data) ∧ 0 < filter.count
          then filter.count - 1 else filter.count } := by
  rw [filterMatches_eq hf]
  obtain ⟨mac, ty, c⟩ := filter
  by_cases hh : filterHits cls ⟨mac, ty, c⟩ (sender, data)
  · rcases lt_trichotomy c 0 with hc | rfl | hc
    · simp [hh, hc.ne, not_lt.2 hc.le]
    · simp [hh]
    · simp [hh, hc, hc.ne']
  · simp [hh]

end Matches

/-! ## A run over frames -/

section Run

variable (cls : FrameClassifier)

@[simp] theorem filterHits_with_count (filter : Filter) (c : Int) :
    filterHits cls { filter with count := c } = filterHits cls filter := rfl

theorem ite_drop_eq_drop (P : Prop) [Decidable P] :
    (if P then FilterOption.drop else .pass) = .drop ↔ P := by
  split_ifs with h <;> simp [h]

theorem count_drop_ite (P : Prop) [Decidable P] (l : List FilterOption) :
    ((if P then FilterOption.drop else .pass) :: l).count .drop =
      l.count .drop + if P then 1 else 0 := by
  split_ifs <;> simp

/-- One answer per frame; a frame is dropped when the filter is about it and the count is
negative or more than the drops before it; a count that is not negative ends down by the drops. -/
theorem filterRun_spec : ∀ (frames : List (MacAddr × Bytes)) (filter : Filter),
    filter.frameType ≠ .none →
      (filterRun cls filter frames).1.length = frames.length ∧
      (filterRun cls filter frames).2 = { filter with count :=
        if filter.count < 0 then filter.count
        else filter.count - ((filterRun cls filter frames).1.count .drop : Int) } ∧
      ∀ k frame, frames[k]? = some frame →
        ((filterRun cls filter frames).1[k]? = some .drop ↔ filterHits cls filter frame ∧
          (filter.count < 0 ∨
            (((filterRun cls filter frames).1.take k).count .drop : Int) < filter.count))
  | [], ⟨mac, ty, c⟩, _ => by simp [filterRun]
  | (sender, data) :: frames, filter, hf => by
    obtain ⟨hlen, hfin, hout⟩ := filterRun_spec frames
      { filter with count := if filterHits cls filter (sender, data) ∧ 0 < filter.count
          then filter.count - 1 else filter.count } hf
    simp only [filterRun, filterMatches_fst hf, filterMatches_snd hf, filterHits_with_count]
      at hfin hout ⊢
    refine ⟨by rw [List.length_cons, List.length_cons, hlen], ?_, ?_⟩
    · rw [hfin, count_drop_ite]
      congr 1
      cases filterHits cls filter (sender, data)
      · simp only [Bool.false_eq_true, false_and, if_false, Nat.add_zero]
      · simp only [true_and]
        split_ifs <;> omega
    · rintro (_ | k) frame hk
      · simp only [List.getElem?_cons_zero, Option.some.injEq] at hk
        subst hk
        simp only [List.getElem?_cons_zero, Option.some.injEq, ite_drop_eq_drop, List.take_zero,
          List.count_nil, Nat.cast_zero]
        exact and_congr_right fun _ => by omega
      · simp only [List.getElem?_cons_succ, List.take_succ_cons, count_drop_ite] at hk ⊢
        rw [hout k frame hk]
        refine and_congr_right fun _ => ?_
        cases filterHits cls filter (sender, data)
        · simp only [Bool.false_eq_true, false_and, if_false, Nat.add_zero]
        · simp only [true_and]
          split_ifs <;> omega

/-- From a count that is not negative, the drops among the first `k` answers are the matching
frames among the first `k` frames, up to the count. -/
theorem filterRun_count_take : ∀ (frames : List (MacAddr × Bytes)) (filter : Filter),
    filter.frameType ≠ .none → 0 ≤ filter.count → ∀ k,
      (((filterRun cls filter frames).1.take k).count .drop : Int) =
        min filter.count ((frames.take k).countP (filterHits cls filter))
  | [], _, _, hc, _ => by simp [filterRun, hc]
  | _ :: _, _, _, hc, 0 => by simp [hc]
  | (sender, data) :: frames, filter, hf, hc, k + 1 => by
    have ih := filterRun_count_take frames
      { filter with count := if filterHits cls filter (sender, data) ∧ 0 < filter.count
          then filter.count - 1 else filter.count } hf (by dsimp only; split_ifs <;> omega) k
    simp only [filterRun, filterMatches_fst hf, filterMatches_snd hf, filterHits_with_count,
      List.take_succ_cons, count_drop_ite, List.countP_cons] at ih ⊢
    rw [Int.natCast_add, ih]
    cases filterHits cls filter (sender, data)
    · simp only [Bool.false_eq_true, false_and, if_false, Nat.add_zero]
      omega
    · simp only [true_and, if_true]
      split_ifs <;> omega

end Run

/-! ## Parsing -/

/-- Modelled from the spec: the frame type a field names. -/
def frameTypeOfField (t : List Char) : Option FilterFrameType :=
  if t = "commit".toList then some .commit
  else if t = "confirm".toList then some .confirm
  else if t = "action".toList then some .action
  else none

/-- Modelled from the spec: the filter that `.`-separated fields give: the address
`string_to_mac_address` reads from the first, the type the second names, and the count `atoi`
reads from the third or -1 without one; the fields after the third are not read. -/
def filterOfFields (stack : Fin 6 → UInt32) : List (List Char) → Option Filter
  | mac :: ty :: rest => (frameTypeOfField ty).map fun ty =>
      ⟨stringToMacAddress stack mac, ty, match rest with | [] => -1 | c :: _ => atoi c⟩
  | _ => none

theorem filterParseFields_past (stack : Fin 6 → UInt32) :
    ∀ (n : Nat) (filter : Filter) (toks : List (List Char)),
      filterParseFields stack (n + 3) filter toks = some (n + 3 + toks.length, filter)
  | _, _, [] => rfl
  | n, filter, _ :: toks => by
    rw [filterParseFields, filterParseFields_past stack (n + 1) filter toks, List.length_cons]
    congr 2
    omega

/-- `filter_parse` is the filter of its `strtok` fields. -/
theorem filterParse_eq (stack : Fin 6 → UInt32) (s : List Char) :
    filterParse stack s = filterOfFields stack (strtokDot s) := by
  unfold filterParse
  generalize strtokDot s = toks
  rcases toks with _ | ⟨mac, _ | ⟨ty, rest⟩⟩
  · rfl
  · rfl
  · simp only [filterParseFields, filterOfFields, frameTypeOfField]
    split_ifs <;> rcases rest with _ | ⟨c, rest⟩ <;>
      simp [filterParseFields, filterParseFields_past stack 0] <;> omega

theorem filterParse_frameType {stack : Fin 6 → UInt32} {s : List Char} {filter : Filter}
    (h : filterParse stack s = some filter) : filter.frameType ≠ .none := by
  rw [filterParse_eq] at h
  generalize strtokDot s = toks at h
  rcases toks with _ | ⟨mac, _ | ⟨ty, rest⟩⟩ <;> simp only [filterOfFields] at h
  · contradiction
  · contradiction
  · obtain ⟨ty', hty, rfl⟩ := Option.map_eq_some'.1 h
    unfold frameTypeOfField at hty
    split_ifs at hty <;> cases hty <;> simp

/-! ## A parsed filter over a sequence of frames -/

theorem filter_drops_first_matches {stack : Fin 6 → UInt32} {s : List Char} {filter : Filter}
    (hp : filterParse stack s = some filter) (cls : FrameClassifier)
    (frames : List (MacAddr × Bytes)) :
    (filterRun cls filter frames).1.length = frames.length ∧
    (∀ k frame, frames[k]? = some frame →
      ((filterRun cls filter frames).1[k]? = some .drop ↔ filterHits cls filter frame ∧
        (filter.count < 0 ∨
          (((filterRun cls filter frames).1.take k).count .drop : Int) < filter.count))) ∧
    (0 ≤ filter.count →
      (∀ k frame, frames[k]? = some frame →
        ((filterRun cls filter frames).1[k]? = some .drop ↔ filterHits cls filter frame ∧
          ((frames.take k).countP (filterHits cls filter) : Int) < filter.count)) ∧
      (filterRun cls filter frames).2.count =
        filter.count - (filterRun cls filter frames).1.count .drop ∧
      0 ≤ (filterRun cls filter frames).2.count) := by
  have hf := filterParse_frameType hp
  obtain ⟨hlen, hfin, hout⟩ := filterRun_spec cls frames filter hf
  refine ⟨hlen, hout, fun hc => ⟨fun k frame hk => ?_, ?_, ?_⟩⟩
  · rw [hout k frame hk, filterRun_count_take cls frames filter hf hc k]
    constructor <;> rintro ⟨hh, hk⟩ <;> refine ⟨hh, ?_⟩ <;> omega
  · simp [hfin, not_lt.2 hc]
  · have hall := filterRun_count_take cls frames filter hf hc (filterRun cls filter frames).1.length
    rw [List.take_length] at hall
    simp only [hfin, not_lt.2 hc, if_false]
    omega

/-- The filter `02:00:00:00:00:00.commit.1`, over any frames. -/
theorem commit_filter_drops_first_match :
    filterParse (fun _ => 0) "02:00:00:00:00:00.commit.1".toList =
      some ⟨⟨[2, 0, 0, 0, 0, 0], rfl⟩, .commit, 1⟩ ∧
    ∀ (cls : FrameClassifier) (frames : List (MacAddr × Bytes)),
      let filter : Filter := ⟨⟨[2, 0, 0, 0, 0, 0], rfl⟩, .commit, 1⟩
      (filterRun cls filter frames).1.length = frames.length ∧
      (∀ k frame, frames[k]? = some frame →
        ((filterRun cls filter frames).1[k]? = some .drop ↔ filterHits cls filter frame ∧
          (filter.count < 0 ∨
            (((filterRun cls filter frames).1.take k).count .drop : Int) < filter.count))) ∧
      (0 ≤ filter.count →
        (∀ k frame, frames[k]? = some frame →
          ((filterRun cls filter frames).1[k]? = some .drop ↔ filterHits cls filter frame ∧
            ((frames.take k).countP (filterHits cls filter) : Int) < filter.count)) ∧
        (filterRun cls filter frames).2.count =
          filter.count - (filterRun cls filter frames).1.count .drop ∧
        0 ≤ (filterRun cls filter frames).2.count) := by
  have hp : filterParse (fun _ => 0) "02:00:00:00:00:00.commit.1".toList =
      some ⟨⟨[2, 0, 0, 0, 0, 0], rfl⟩, .commit, 1⟩ := by rfl
  exact ⟨hp, fun cls frames => filter_drops_first_matches hp cls frames⟩

/-- A count of 2 over three commit frames from its address: two drops, then a pass. -/
example :
    (filterRun ⟨fun _ => true, fun _ => false, fun _ => false⟩
      ⟨⟨[2, 0, 0, 0, 0, 0], rfl⟩, .commit, 2⟩
      [(⟨[2, 0, 0, 0, 0, 0], rfl⟩, []), (⟨[2, 0, 0, 0, 0, 0], rfl⟩, []),
        (⟨[2, 0, 0, 0, 0, 0], rfl⟩, [])]).1 = [.drop, .drop, .pass] := by decide

/-! ## The fields of the grammar `[aa:bb:cc:dd:ee:ff].[commit|confirm|action][.count]` -/

/-- Modelled from the spec: a field `aa:bb:cc:dd:ee:ff`, octets of two hex digits each,
`:`-separated. -/
def octetsField : List (Char × Char) → List Char
  | [] => []
  | [(h, l)] => [h, l]
  | (h, l) :: p :: ps => h :: l :: ':' :: octetsField (p :: ps)

/-- Modelled from the spec: the value of an octet of two hex digits. -/
def octetValue (p : Char × Char) : Nat :=
  (hexDigitValue p.1).getD 0 * 16 + (hexDigitValue p.2).getD 0

theorem octetValue_lt (p : Char × Char) : octetValue p < 256 := by
  have digit_lt : ∀ c, (hexDigitValue c).getD 0 < 16 := fun c => by
    cases h : hexDigitValue c
    · simp
    · exact hexDigitValue_lt h
  have := digit_lt p.1; have := digit_lt p.2
  unfold octetValue; omega

theorem scanHex_octetField {h l : Char} (hh : (hexDigitValue h).isSome)
    (hl : (hexDigitValue l).isSome) {rest : List Char} (hrest : rest = [] ∨ rest.head? = some ':') :
    scanHex (h :: l :: rest) = some (UInt32.ofNat (octetValue (h, l)), rest) := by
  obtain ⟨dh, hh⟩ := Option.isSome_iff_exists.1 hh
  obtain ⟨dl, hl⟩ := Option.isSome_iff_exists.1 hl
  rw [scanHex_octet hh hl hrest, octetValue, hh, hl]
  rfl

theorem scanMacFields_octetsField : ∀ (k : Nat) (ps : List (Char × Char)), ps.length = k + 1 →
    (∀ p ∈ ps, (hexDigitValue p.1).isSome ∧ (hexDigitValue p.2).isSome) →
      scanMacFields (k + 1) (octetsField ps) = ps.map fun p => UInt32.ofNat (octetValue p)
  | _, [], hlen, _ => by simp at hlen
  | 0, [(h, l)], _, hp => by
    obtain ⟨hh, hl⟩ := hp (h, l) (List.mem_singleton_self _)
    rw [octetsField, scanMacFields, scanHex_octetField hh hl (Or.inl rfl)]
    rfl
  | _ + 1, [_], hlen, _ => by simp at hlen
  | 0, _ :: _ :: _, hlen, _ => by simp at hlen
  | k + 1, (h, l) :: q :: ps, hlen, hp => by
    obtain ⟨hh, hl⟩ := hp (h, l) (List.mem_cons_self _ _)
    have hrest := scanMacFields_octetsField k (q :: ps) (by simpa using hlen)
      fun r hr => hp r (List.mem_cons_of_mem _ hr)
    rw [octetsField, scanMacFields,
      @scanHex_octetField h l hh hl (':' :: octetsField (q :: ps)) (Or.inr rfl)]
    simp [hrest]

/-- `string_to_mac_address` reads a field of six hex octets as their values, whatever its stack
holds. -/
theorem stringToMacAddress_octetsField (stack : Fin 6 → UInt32) {ps : List (Char × Char)}
    (hlen : ps.length = 6) (hp : ∀ p ∈ ps, (hexDigitValue p.1).isSome ∧ (hexDigitValue p.2).isSome) :
    (stringToMacAddress stack (octetsField ps)).octets =
      ps.map fun p => UInt8.ofNat (octetValue p) := by
  simp only [stringToMacAddress, scanMacFields_octetsField 5 ps hlen hp]
  apply List.ext_getElem
  · simp [hlen]
  · intro n h₁ h₂
    have hn : n < ps.length := by simpa using h₂
    have hv := octetValue_lt ps[n]
    simp [List.getD_eq_getElem?_getD, List.getElem?_eq_getElem hn, UInt32.toUInt8, Nat.toUInt8,
      UInt32.toNat, UInt32.ofNat, Fin.ofNat,
      Nat.mod_eq_of_lt (show octetValue ps[n] < 4294967296 by omega)]

/-- `filter_parse` reads the fields `strtok` gives as `filterOfFields` does: a filter when there are
two fields or more and the second names a type, the address `string_to_mac_address` reads from the
first (the octets' values for a field of six hex octets), and the count `atoi` reads from the
third (the value of a field of decimal digits that fits in an `int`) or -1. -/
theorem filter_parse_reads_fields :
    (∀ (stack : Fin 6 → UInt32) (s : List Char),
      filterParse stack s = filterOfFields stack (strtokDot s)) ∧
    (∀ (stack : Fin 6 → UInt32) (ps : List (Char × Char)), ps.length = 6 →
      (∀ p ∈ ps, (hexDigitValue p.1).isSome ∧ (hexDigitValue p.2).isSome) →
      (stringToMacAddress stack (octetsField ps)).octets =
        ps.map fun p => UInt8.ofNat (octetValue p)) ∧
    (∀ ds : List Char, (∀ c ∈ ds, (decDigitValue c).isSome) → decimalValue ds < 2147483648 →
      atoi ds = decimalValue ds) :=
  ⟨filterParse_eq, fun stack _ hlen hp => stringToMacAddress_octetsField stack hlen hp,
    fun _ hd hv => atoi_digits hd hv⟩

/-- `0a:1b:2c:3d:4e:5f.confirm.42` is read as the address of those six octets, `confirm` and 42,
whatever `string_to_mac_address` finds in its array. -/
theorem filter_parse_reads_fields_sample :
    ∀ stack : Fin 6 → UInt32, filterParse stack "0a:1b:2c:3d:4e:5f.confirm.42".toList =
      some ⟨⟨[0x0a, 0x1b, 0x2c, 0x3d, 0x4e, 0x5f], rfl⟩, .confirm, 42⟩ := by
  intro stack
  let ps := [('0', 'a'), ('1', 'b'), ('2', 'c'), ('3', 'd'), ('4', 'e'), ('5', 'f')]
  have hmac := filter_parse_reads_fields.2.1 stack ps rfl (by decide)
  have hcount := filter_parse_reads_fields.2.2 "42".toList (by decide) (by decide)
  rw [filter_parse_reads_fields.1,
    show strtokDot "0a:1b:2c:3d:4e:5f.confirm.42".toList =
      [octetsField ps, "confirm".toList, "42".toList] from rfl]
  show some (Filter.mk (stringToMacAddress stack (octetsField ps)) .confirm (atoi "42".toList)) = _
  generalize stringToMacAddress stack (octetsField ps) = mac at hmac ⊢
  obtain ⟨octets, hlen⟩ := mac
  subst hmac
  rw [hcount]
  rfl

/-- `zz.commit` is read as a filter, though its first field is not six hex octets. -/
theorem malformed_mac_field_accepted :
    strtokDot "zz.commit".toList = ['z', 'z'] :: ["commit".toList] ∧
    (∀ ps : List (Char × Char), ps.length = 6 → octetsField ps ≠ ['z', 'z']) ∧
    ∀ stack : Fin 6 → UInt32, (filterParse stack "zz.commit".toList).isSome := by
  refine ⟨rfl, fun ps hlen => ?_, fun _ => rfl⟩
  rcases ps with _ | ⟨⟨h, l⟩, _ | ⟨p, ps⟩⟩ <;> simp_all [octetsField]

end Wmediumd
