import Wmediumd.Basic

/-!
# The C library string functions of `filter.c` and `config.c`

`strtok`, `atoi` and the `%x` conversion of `sscanf` are not under `src/`; they are modelled as
the C standard and glibc define them, on the characters of a C string, which ends at its first
NUL. The numbers are read as `strtol` and `strtoul` read them on LP64: white space, a sign, the
digits of the base, with a magnitude beyond the range of `long` saturating.
-/

namespace Wmediumd

/-- `isspace` in the C locale. -/
def isSpace (c : Char) : Bool :=
  c = ' ' || c = '\t' || c = '\n' || c = '\x0b' || c = '\x0c' || c = '\r'

def decDigitValue (c : Char) : Option Nat :=
  if '0' ≤ c ∧ c ≤ '9' then some (c.toNat - '0'.toNat) else none

def hexDigitValue (c : Char) : Option Nat :=
  if '0' ≤ c ∧ c ≤ '9' then some (c.toNat - '0'.toNat)
  else if 'a' ≤ c ∧ c ≤ 'f' then some (c.toNat - 'a'.toNat + 10)
  else if 'A' ≤ c ∧ c ≤ 'F' then some (c.toNat - 'A'.toNat + 10)
  else none

/-- The digits at the front: how many, their value read on top of `acc`, and the rest. -/
def readDigits (digit : Char → Option Nat) (base acc : Nat) : List Char → Nat × Nat × List Char
  | [] => (0, acc, [])
  | c :: cs =>
      match digit c with
      | some d =>
          let r := readDigits digit base (acc * base + d) cs
          (r.1 + 1, r.2.1, r.2.2)
      | none => (0, acc, c :: cs)

/-- The optional sign after the white space: whether it is `-`, and the rest. -/
def readSign : List Char → Bool × List Char
  | '-' :: s => (true, s)
  | '+' :: s => (false, s)
  | s => (false, s)

/-- The `0x` or `0X` that base 16 allows before its digits. -/
def skipHexPrefix : List Char → List Char
  | '0' :: x :: c :: s =>
      if (x = 'x' || x = 'X') && (hexDigitValue c).isSome then c :: s else '0' :: x :: c :: s
  | s => s

/-- `ULONG_MAX` on LP64. -/
def ulongMax : Nat := 18446744073709551615

/-- `LONG_MAX` on LP64. -/
def longMax : Nat := 9223372036854775807

/-- The `%x` conversion of `sscanf` into an `unsigned int`: white space, a sign, an optional `0x`
and hex digits, read as `strtoul` reads them (a magnitude beyond `ULONG_MAX` gives `ULONG_MAX`, a
minus sign negates modulo 2^64), then truncated to 32 bits; `none` when no digit follows. -/
def scanHex (s : List Char) : Option (UInt32 × List Char) :=
  let (neg, s) := readSign (s.dropWhile isSpace)
  match readDigits hexDigitValue 16 0 (skipHexPrefix s) with
  | (0, _, _) => none
  | (_, v, rest) =>
      let v := if ulongMax < v then ulongMax
        else if neg then (ulongMax + 1 - v) % (ulongMax + 1) else v
      some (UInt32.ofNat v, rest)

/-- `atoi(s)`, that is `(int) strtol(s, NULL, 10)`: white space, a sign and decimal digits; a
magnitude beyond `long` saturates at `LONG_MAX` or `LONG_MIN`, and the conversion to `int` keeps
the low 32 bits; 0 when there is no digit. -/
def atoi (s : List Char) : Int :=
  let (neg, s) := readSign (s.dropWhile isSpace)
  let v := (readDigits decDigitValue 10 0 s).2.1
  let l : Int :=
    if neg then (if v ≤ longMax + 1 then -(v : Int) else -((longMax : Int) + 1))
    else (if v ≤ longMax then (v : Int) else longMax)
  (l + 2147483648) % 4294967296 - 2147483648

/-- The runs of a string between its `.` characters, empty ones included. -/
def splitDots : List Char → List (List Char)
  | [] => [[]]
  | c :: s =>
      if c = '.' then [] :: splitDots s
      else match splitDots s with
        | t :: ts => (c :: t) :: ts
        | [] => [[c]]

/-- The tokens that successive calls of `strtok(s, ".")` return: the runs between `.` characters
that are not empty, up to the end of the C string. -/
def strtokDot (s : List Char) : List (List Char) :=
  (splitDots (s.takeWhile (· ≠ '\x00'))).filter fun t => !t.isEmpty

/-! ## Reading digits -/

theorem hexDigitValue_lt {c : Char} {d : Nat} (h : hexDigitValue c = some d) : d < 16 := by
  have toNat_le : ∀ a b : Char, a ≤ b → a.toNat ≤ b.toNat := fun _ _ h => h
  unfold hexDigitValue at h
  split_ifs at h with h₁ h₂ h₃ <;> cases h
  · have := toNat_le _ _ h₁.2; have := toNat_le _ _ h₁.1; simp at *; omega
  · have := toNat_le _ _ h₂.2; have := toNat_le _ _ h₂.1; simp at *; omega
  · have := toNat_le _ _ h₃.2; have := toNat_le _ _ h₃.1; simp at *; omega

theorem hexDigitValue_of_dec {c : Char} {d : Nat} (h : decDigitValue c = some d) :
    hexDigitValue c = some d := by
  unfold decDigitValue at h
  split_ifs at h with hc
  simpa [hexDigitValue, hc] using h

section HexDigit

variable {c : Char} {d : Nat} (h : hexDigitValue c = some d)
include h

theorem isSpace_of_hexDigit : isSpace c = false := by
  cases hs : isSpace c
  · rfl
  · unfold isSpace at hs
    simp only [Bool.or_eq_true, decide_eq_true_eq] at hs
    rcases hs with ((((rfl | rfl) | rfl) | rfl) | rfl) | rfl <;> cases h

theorem readSign_of_hexDigit (s : List Char) : readSign (c :: s) = (false, c :: s) := by
  have hm : c ≠ '-' := by rintro rfl; cases h
  have hp : c ≠ '+' := by rintro rfl; cases h
  unfold readSign
  split <;> simp_all

theorem skipHexPrefix_of_hexDigit (c₀ : Char) (s : List Char) :
    skipHexPrefix (c₀ :: c :: s) = c₀ :: c :: s := by
  have hx : c ≠ 'x' := by rintro rfl; cases h
  have hX : c ≠ 'X' := by rintro rfl; cases h
  unfold skipHexPrefix
  split <;> simp_all

end HexDigit

/-- Digits followed by what is not a digit: how many, the value they give on top of `acc`, and
the rest. -/
theorem readDigits_append (digit : Char → Option Nat) (base : Nat) {rest : List Char}
    (hrest : ∀ c r, rest = c :: r → digit c = none) :
    ∀ (ds : List Char) (acc : Nat), (∀ c ∈ ds, (digit c).isSome) →
      readDigits digit base acc (ds ++ rest) =
        (ds.length, ds.foldl (fun v c => v * base + (digit c).getD 0) acc, rest)
  | [], acc, _ => by
    cases rest with
    | nil => rfl
    | cons c r => simp [readDigits, hrest c r rfl]
  | c :: ds, acc, hd => by
    obtain ⟨d, hc⟩ := Option.isSome_iff_exists.1 (hd c (List.mem_cons_self c ds))
    simp [readDigits, hc, readDigits_append digit base hrest ds _
      fun c h => hd c (List.mem_cons_of_mem _ h)]

/-- `%x` on two hex digits followed by `:` or the end: their value, and the rest. -/
theorem scanHex_octet {h l : Char} {dh dl : Nat} (hh : hexDigitValue h = some dh)
    (hl : hexDigitValue l = some dl) {rest : List Char} (hrest : rest = [] ∨ rest.head? = some ':') :
    scanHex (h :: l :: rest) = some (UInt32.ofNat (dh * 16 + dl), rest) := by
  have hstop : ∀ c r, rest = c :: r → hexDigitValue c = none := by
    rintro c r rfl
    simp only [reduceCtorEq, List.head?_cons, Option.some.injEq, false_or] at hrest
    subst hrest
    rfl
  have hread := readDigits_append hexDigitValue 16 hstop [h, l] 0 (by simp [hh, hl])
  have hv : ¬ ulongMax < dh * 16 + dl := by
    have := hexDigitValue_lt hh; have := hexDigitValue_lt hl; unfold ulongMax; omega
  simp only [List.cons_append, List.nil_append] at hread
  simp [scanHex, List.dropWhile_cons_of_neg, isSpace_of_hexDigit hh, readSign_of_hexDigit hh,
    skipHexPrefix_of_hexDigit hl, hread, hh, hl, hv]

/-- Modelled from the spec: the value of a field of decimal digits. -/
def decimalValue (ds : List Char) : Nat :=
  ds.foldl (fun v c => v * 10 + (decDigitValue c).getD 0) 0

/-- `atoi` reads a field of decimal digits as its value, when that fits in an `int`. -/
theorem atoi_digits {ds : List Char} (hd : ∀ c ∈ ds, (decDigitValue c).isSome)
    (hv : decimalValue ds < 2147483648) : atoi ds = decimalValue ds := by
  cases ds with
  | nil => rfl
  | cons c cs =>
    obtain ⟨d, hc⟩ := Option.isSome_iff_exists.1 (hd c (List.mem_cons_self c cs))
    have hread := @readDigits_append decDigitValue 10 [] (by simp) (c :: cs) 0 hd
    rw [List.append_nil] at hread
    change _ = (_, decimalValue (c :: cs), _) at hread
    have hlong : decimalValue (c :: cs) ≤ longMax := by unfold longMax; omega
    simp [atoi, List.dropWhile_cons_of_neg, isSpace_of_hexDigit (hexDigitValue_of_dec hc),
      readSign_of_hexDigit (hexDigitValue_of_dec hc), hread, hlong]
    omega

end Wmediumd
