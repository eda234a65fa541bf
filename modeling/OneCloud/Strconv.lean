import Mathlib.Algebra.Group.Int
import OneCloud.GoText

/-
This file models what the HTTP helpers use of Go's `strconv`: `ParseInt` in base 10 and
`Atoi`, with the digit loop of `ParseUint` that both run.
-/

namespace OneCloud.Strconv

open GoText

/-- The two errors of `strconv`: `ErrSyntax` and `ErrRange`. -/
inductive NumErrorKind where
  | errSyntax
  | errRange
  deriving DecidableEq, Repr

/-- `strconv.NumError`: the function, its input and the error. -/
structure NumError where
  func : String
  num : String
  err : NumErrorKind
  deriving DecidableEq, Repr

/-- The sign `ParseInt` picks off the front of its input, and the rest. -/
def splitSign : List Char → Bool × List Char
  | '+' :: rest => (false, rest)
  | '-' :: rest => (true, rest)
  | data => (false, data)

/-- One decimal digit of the loop of `ParseUint`. -/
def digitStep (n : Nat) (c : Char) : Nat := n * 10 + (c.toNat - '0'.toNat)

/-- The decimal loop of `ParseUint`, which stops at a non-digit or past `maxVal`. -/
def parseUintDigits (maxVal : Nat) : Nat → List Char → Except NumErrorKind Nat
  | n, [] => .ok n
  | n, c :: rest =>
      if c.isDigit then
        if maxVal < digitStep n c then .error .errRange else parseUintDigits maxVal (digitStep n c) rest
      else .error .errSyntax

/-- This is `strconv.ParseInt(s, 10, bitSize)`, keeping the `ErrRange` of `ParseUint`. -/
def parseInt (s : String) (bitSize : Nat) : Except NumError Int :=
  let (neg, digits) := splitSign s.data
  if digits = [] then .error ⟨"ParseInt", s, .errSyntax⟩
  else
    match parseUintDigits (2 ^ bitSize - 1) 0 digits with
    | .error err => .error ⟨"ParseInt", s, err⟩
    | .ok un =>
        if (!neg ∧ 2 ^ (bitSize - 1) ≤ un) ∨ (neg ∧ 2 ^ (bitSize - 1) < un) then .error ⟨"ParseInt", s, .errRange⟩
        else .ok (if neg then -(un : Int) else un)

/-- This is `strconv.Atoi` on a 64-bit platform: `ParseInt(s, 10, 0)` under the name `Atoi`. -/
def atoi (s : String) : Except NumError Int :=
  (parseInt s 64).mapError fun err => { err with func := "Atoi" }

/-! ### The digit loop -/

theorem decimalValue_eq_foldl (digits : List Char) : decimalValue digits = digits.foldl digitStep 0 := rfl

theorem le_foldl_digitStep : ∀ (digits : List Char) (n : Nat), n ≤ digits.foldl digitStep n
  | [], _ => le_rfl
  | c :: rest, n => by
      have grows : n ≤ digitStep n c := by unfold digitStep; omega
      exact grows.trans (le_foldl_digitStep rest _)

/-- On digits only, the loop returns their value, or `ErrRange` past the bound. -/
theorem parseUintDigits_of_digits (maxVal : Nat) :
    ∀ {digits : List Char} {n : Nat}, n ≤ maxVal → (∀ c ∈ digits, c.isDigit = true) →
      parseUintDigits maxVal n digits =
        if digits.foldl digitStep n ≤ maxVal then .ok (digits.foldl digitStep n) else .error .errRange
  | [], n, start, _ => by simp [parseUintDigits, start]
  | c :: rest, n, _, decimal => by
      have restDecimal : ∀ c ∈ rest, c.isDigit = true := fun c member => decimal c (List.mem_cons_of_mem _ member)
      rw [parseUintDigits, if_pos (decimal c (List.mem_cons_self _ _)), List.foldl_cons]
      by_cases over : maxVal < digitStep n c
      · rw [if_pos over, if_neg (by have := le_foldl_digitStep rest (digitStep n c); omega)]
      · rw [if_neg over, parseUintDigits_of_digits maxVal (Nat.le_of_not_lt over) restDecimal]

/-- A non-digit makes the loop fail, at it or at an earlier digit. -/
theorem parseUintDigits_of_not_digit (maxVal : Nat) {c : Char} (notDigit : c.isDigit = false) :
    ∀ {digits : List Char} (n : Nat), c ∈ digits → ∃ err, parseUintDigits maxVal n digits = .error err
  | d :: rest, n, member => by
      unfold parseUintDigits
      split_ifs with digit
      · exact ⟨_, rfl⟩
      · rcases List.mem_cons.mp member with rfl | later
        · exact absurd digit (by simp [notDigit])
        · exact parseUintDigits_of_not_digit maxVal notDigit _ later
      · exact ⟨_, rfl⟩

/-! ### `ParseInt` -/

theorem mem_splitSign {data : List Char} {c : Char} (member : c ∈ data) (notPlus : c ≠ '+')
    (notMinus : c ≠ '-') : c ∈ (splitSign data).2 := by
  unfold splitSign
  split
  · exact (List.mem_cons.mp member).resolve_left notPlus
  · exact (List.mem_cons.mp member).resolve_left notMinus
  · exact member

theorem splitSign_of_isDigit {c : Char} (rest : List Char) (digit : c.isDigit = true) :
    splitSign (c :: rest) = (false, c :: rest) := by
  have notPlus : c ≠ '+' := by rintro rfl; exact absurd digit (by decide)
  have notMinus : c ≠ '-' := by rintro rfl; exact absurd digit (by decide)
  unfold splitSign
  split <;> simp_all

/-- A character other than a digit or a sign makes `ParseInt` fail, whatever the error. -/
theorem parseInt_of_not_digit {s : String} {c : Char} (bitSize : Nat) (member : c ∈ s.data)
    (notDigit : c.isDigit = false) (notPlus : c ≠ '+') (notMinus : c ≠ '-') :
    ∃ err, parseInt s bitSize = .error ⟨"ParseInt", s, err⟩ := by
  have signed := mem_splitSign member notPlus notMinus
  rcases sign : splitSign s.data with ⟨neg, digits⟩
  rw [sign] at signed
  obtain ⟨err, failed⟩ := parseUintDigits_of_not_digit (2 ^ bitSize - 1) notDigit 0 signed
  simp only [parseInt, sign, if_neg (List.ne_nil_of_mem signed), failed]
  exact ⟨err, rfl⟩

/-- A run of digits below `2^(bitSize-1)` is read as its value. -/
theorem parseInt_of_digits {digits : List Char} (bitSize : Nat) (nonempty : digits ≠ [])
    (decimal : digits.all Char.isDigit = true) (small : decimalValue digits < 2 ^ (bitSize - 1)) :
    parseInt ⟨digits⟩ bitSize = .ok (decimalValue digits) := by
  obtain ⟨first, rest, rfl⟩ := List.exists_cons_of_ne_nil nonempty
  have allDigits : ∀ c ∈ first :: rest, c.isDigit = true := List.all_eq_true.mp decimal
  have bounded : decimalValue (first :: rest) ≤ 2 ^ bitSize - 1 := by
    have : 2 ^ (bitSize - 1) ≤ 2 ^ bitSize := Nat.pow_le_pow_right (by decide) (Nat.sub_le _ _)
    omega
  simp only [parseInt, splitSign_of_isDigit rest (allDigits first (List.mem_cons_self _ _)),
    parseUintDigits_of_digits _ (Nat.zero_le _) allDigits, ← decimalValue_eq_foldl, if_pos bounded, List.cons_ne_nil, if_false]
  simp [Nat.not_le.mpr small]

/-- `ParseInt` returns exactly the signed decimal values that fit in `bitSize` bits. -/
theorem parseInt_eq_ok_iff (s : String) {bitSize : Nat} (positive : 0 < bitSize) (v : Int) :
    parseInt s bitSize = .ok v ↔
      (splitSign s.data).2 ≠ [] ∧ (splitSign s.data).2.all Char.isDigit ∧
        v = (if (splitSign s.data).1 then -(decimalValue (splitSign s.data).2 : Int)
          else decimalValue (splitSign s.data).2) ∧
        -2 ^ (bitSize - 1) ≤ v ∧ v < 2 ^ (bitSize - 1) := by
  obtain ⟨k, rfl⟩ : ∃ k, bitSize = k + 1 := ⟨bitSize - 1, by omega⟩
  rcases sign : splitSign s.data with ⟨neg, digits⟩
  by_cases empty : digits = []
  · simp [parseInt, sign, empty]
  by_cases decimal : digits.all Char.isDigit = true
  · have loop := parseUintDigits_of_digits (2 ^ (k + 1) - 1) (Nat.zero_le _) (List.all_eq_true.mp decimal)
    rw [← decimalValue_eq_foldl] at loop
    simp only [parseInt, sign, if_neg empty, loop, Nat.add_sub_cancel, ne_eq, empty, not_false_eq_true, decimal,
      true_and]
    have cast : ((2 : Int) ^ k) = ((2 ^ k : Nat) : Int) := by push_cast; rfl
    rw [cast, Nat.pow_succ]
    have positiveHalf : 0 < 2 ^ k := Nat.two_pow_pos k
    generalize 2 ^ k = half at positiveHalf ⊢
    generalize decimalValue digits = value
    by_cases fits : value ≤ half * 2 - 1
    · cases neg <;> simp [fits] <;> split_ifs <;> simp <;> omega
    · simp only [if_false, if_neg fits, reduceCtorEq, false_iff]
      cases neg <;> simp <;> omega
  · obtain ⟨c, member, notDigit⟩ : ∃ c ∈ digits, c.isDigit = false := by simpa using decimal
    obtain ⟨err, failed⟩ := parseUintDigits_of_not_digit (2 ^ (k + 1) - 1) notDigit 0 member
    simp [parseInt, sign, empty, failed, decimal]

end OneCloud.Strconv
