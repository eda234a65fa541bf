import Mathlib.Data.List.Basic
import Mathlib.Algebra.Group.Nat.Basic

/-
This file models the Go text handling that the address, route and query code shares:
`strings.IndexByte`, the slices around the byte it finds, `strings.Contains`,
`strings.Replace` of the first match, and the value of a run of decimal digits.
-/

namespace OneCloud.GoText

/-- `strings.IndexByte` over characters, which cut `s` at the same `c` as Go's bytes. -/
def indexByte (s : String) (c : Char) : Int :=
  if c ∈ s.data then s.data.indexOf c else -1

/-- `s[:i]`. -/
def sliceTo (s : String) (i : Int) : String :=
  ⟨s.data.take i.toNat⟩

/-- `s[i:]`. -/
def sliceFrom (s : String) (i : Int) : String :=
  ⟨s.data.drop i.toNat⟩

theorem indexByte_of_not_mem {s : String} {c : Char} (absent : c ∉ s.data) : indexByte s c = -1 := by
  simp [indexByte, absent]

/-- With no `c` in `front`, the first `c` of `front ++ c :: back` follows `front`. -/
theorem indexByte_append {front back : List Char} {c : Char} (absent : c ∉ front) :
    indexByte ⟨front ++ c :: back⟩ c = front.length := by
  simp [indexByte, List.indexOf_append_of_not_mem absent]

@[simp] theorem sliceTo_append (front back : List Char) (c : Char) :
    sliceTo ⟨front ++ c :: back⟩ front.length = ⟨front⟩ := by
  simp [sliceTo]

@[simp] theorem sliceFrom_append (front back : List Char) (c : Char) :
    sliceFrom ⟨front ++ c :: back⟩ (front.length + 1) = ⟨back⟩ := by
  simp [sliceFrom, show ((front.length : Int) + 1).toNat = front.length + 1 by omega]

/-- A text holding `c` splits at its first `c`. -/
theorem exists_split_first {c : Char} : ∀ {text : List Char}, c ∈ text →
    ∃ front back, c ∉ front ∧ text = front ++ c :: back
  | x :: rest, present => by
      by_cases first : x = c
      · exact ⟨[], rest, List.not_mem_nil c, by rw [first, List.nil_append]⟩
      · obtain ⟨front, back, absent, split⟩ :=
          exists_split_first ((List.mem_cons.mp present).resolve_left (Ne.symm first))
        exact ⟨x :: front, back, by simp [absent, Ne.symm first], by rw [split, List.cons_append]⟩

/-- `strings.Contains`: some suffix of `s` starts with `substr`. -/
def contains (s substr : String) : Bool :=
  s.data.tails.any substr.data.isPrefixOf

/-- The first `old` replaced by `new`, where an empty `old` matches at the start. -/
def replaceFirstChars (old new : List Char) : List Char → List Char
  | [] => if old.isPrefixOf [] then new else []
  | c :: rest =>
      if old.isPrefixOf (c :: rest) then new ++ (c :: rest).drop old.length
      else c :: replaceFirstChars old new rest

/-- `strings.Replace(s, old, new, 1)`. -/
def replaceFirst (s old new : String) : String :=
  ⟨replaceFirstChars old.data new.data s.data⟩

/-- The value of a run of decimal digits, most significant first. -/
def decimalValue (digits : List Char) : Nat :=
  digits.foldl (fun n c => n * 10 + (c.toNat - '0'.toNat)) 0

end OneCloud.GoText
