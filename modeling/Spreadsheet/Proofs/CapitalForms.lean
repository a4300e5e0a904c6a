import Mathlib.Data.Nat.Bitwise
import Spreadsheet.Proofs.AsciiText

/-!
# Capital forms

A text has one capital form, whatever case its letters have had before: the capital form of a text
is its own (`upperText_upperText`), and texts that differ at most in the case of ASCII letters share
theirs (`upperText_of_equalIgnoringAsciiCase`). The converse holds in ASCII only: `ß` and `ss` have
one capital form.

The first fact is one about the table. Its characters with a capital form and its characters in
capital forms are two sets of code points, compared as sets of bits, since there are too many of
either for every pair to be looked at.
-/

namespace Spreadsheet

/-! ## Sets of code points -/

/-- The natural number whose binary digits tell which code points are in a list. -/
def bitSet (codes : List Nat) : Nat :=
  codes.foldr (fun code bits => 1 <<< code ||| bits) 0

theorem testBit_bitSet {codes : List Nat} {n : Nat} :
    (bitSet codes).testBit n = decide (n ∈ codes) := by
  induction codes with
  | nil => simp [bitSet]
  | cons code rest ih =>
    rw [bitSet, List.foldr_cons, ← bitSet, Nat.testBit_or, ih, Nat.one_shiftLeft,
      Nat.testBit_two_pow]
    simp [eq_comm]

/-- Sets without a common bit have no common element. -/
theorem not_mem_of_bitSet {codes others : List Nat} (apart : bitSet codes &&& bitSet others = 0)
    {n : Nat} (member : n ∈ others) : n ∉ codes := by
  have bit : (bitSet codes &&& bitSet others).testBit n = false := by
    rw [apart, Nat.zero_testBit]
  simpa [testBit_bitSet, member] using bit

/-! ## The table -/

/-- The code points that a range gives another form. -/
def CaseRange.codes (r : CaseRange) : List Nat :=
  (List.range ((r.last - r.first) / r.stride + 1)).map fun k => r.first + r.stride * k

/-- The code points of characters that have a capital form other than themselves. -/
def smallCodes : List Nat :=
  upperSequences.map (·.1) ++ upperRanges.flatMap CaseRange.codes

/-- The code points of the characters in those capital forms. -/
def capitalCodes : List Nat :=
  upperSequences.flatMap (·.2) ++
    upperRanges.flatMap fun r => r.codes.map fun code => (Int.ofNat code + r.delta).toNat

theorem bitSet_smallCodes_capitalCodes : bitSet smallCodes &&& bitSet capitalCodes = 0 := by
  decide +kernel

theorem isValidChar_of_mem_capitalCodes : ∀ code ∈ capitalCodes, code.isValidChar := by
  decide +kernel

/-- A code point that a range maps is one of the range. -/
theorem CaseRange.mem_codes {r : CaseRange} {code image : Nat} (mapped : r.map? code = some image) :
    code ∈ r.codes ∧ (Int.ofNat code + r.delta).toNat = image := by
  rw [map?] at mapped
  split at mapped
  next inside =>
    obtain ⟨least, greatest, step⟩ := inside
    refine ⟨List.mem_map.mpr ⟨(code - r.first) / r.stride, List.mem_range.mpr ?_, ?_⟩,
      Option.some.inj mapped⟩
    · exact Nat.lt_succ_of_le (Nat.div_le_div_right (Nat.sub_le_sub_right greatest _))
    · rw [Nat.mul_div_cancel' (Nat.dvd_of_mod_eq_zero step), Nat.add_sub_cancel' least]
  next => cases mapped

section Characters

variable {c d : Char}

/-- A character without an entry in the table is its own capital form. -/
theorem mapCase_of_not_mem_smallCodes (absent : c.toNat ∉ smallCodes) :
    mapCase upperSequences upperRanges c = [c] := by
  rw [smallCodes, List.mem_append, not_or] at absent
  have alone : upperSequences.lookup c.toNat = none :=
    List.lookup_eq_none_iff.mpr fun entry member => bne_iff_ne.mpr fun same =>
      absent.1 (List.mem_map.mpr ⟨entry, member, same.symm⟩)
  have unmapped : upperRanges.findSome? (·.map? c.toNat) = none := by
    refine List.findSome?_eq_none_iff.mpr fun r member => ?_
    cases image : r.map? c.toNat with
    | none => rfl
    | some code =>
      exact absurd (List.mem_flatMap.mpr ⟨r, member, (CaseRange.mem_codes image).1⟩) absent.2
  rw [mapCase, alone, unmapped, Option.getD_none, Char.ofNat_toNat]

/-- A character is its own capital form, or the table has the characters of its form. -/
theorem mapCase_eq_or_mem_capitalCodes :
    mapCase upperSequences upperRanges c = [c] ∨
      ∀ d ∈ mapCase upperSequences upperRanges c, ∃ code ∈ capitalCodes, d = Char.ofNat code := by
  unfold mapCase
  cases entry : upperSequences.lookup c.toNat with
  | some codes =>
    obtain ⟨before, after, table, _⟩ := List.lookup_eq_some_iff.mp entry
    have listed : (c.toNat, codes) ∈ upperSequences :=
      table ▸ List.mem_append_right before List.mem_cons_self
    refine .inr fun d member => ?_
    obtain ⟨code, inside, rfl⟩ := List.mem_map.mp member
    exact ⟨code, List.mem_append_left _ (List.mem_flatMap.mpr ⟨_, listed, inside⟩), rfl⟩
  | none =>
    cases image : upperRanges.findSome? (·.map? c.toNat) with
    | none => exact .inl (by simp only [Option.getD_none, Char.ofNat_toNat])
    | some code =>
      obtain ⟨r, listed, mapped⟩ := List.exists_of_findSome?_eq_some image
      obtain ⟨inside, rfl⟩ := CaseRange.mem_codes mapped
      refine .inr fun d member => ⟨_, List.mem_append_right _ (List.mem_flatMap.mpr
        ⟨r, listed, List.mem_map_of_mem inside⟩), List.mem_singleton.mp member⟩

/-- The characters in a capital form are their own capital forms. -/
theorem mapCase_of_mem_mapCase (member : d ∈ mapCase upperSequences upperRanges c) :
    mapCase upperSequences upperRanges d = [d] := by
  cases mapCase_eq_or_mem_capitalCodes (c := c) with
  | inl own =>
    rw [own, List.mem_singleton] at member
    rw [member, own]
  | inr listed =>
    obtain ⟨code, capital, rfl⟩ := listed d member
    have point : (Char.ofNat code).toNat = code := by
      rw [Char.ofNat, dif_pos (isValidChar_of_mem_capitalCodes code capital)]
      rfl
    refine mapCase_of_not_mem_smallCodes ?_
    rw [point]
    exact not_mem_of_bitSet bitSet_smallCodes_capitalCodes capital

/-- Only ASCII characters have small forms in ASCII other than themselves. -/
theorem toLower_of_not_ascii (beyond : ¬ c.toNat < 128) : c.toLower = c := by
  unfold Char.toLower
  split
  next capital =>
    exact absurd (Nat.lt_of_le_of_lt (UInt32.le_iff_toNat_le.mp capital.2) (by decide)) beyond
  next => rfl

/-- Characters with one small form in ASCII have one capital form. -/
theorem mapCase_eq_of_toLower (same : c.toLower = d.toLower) :
    mapCase upperSequences upperRanges c = mapCase upperSequences upperRanges d := by
  by_cases ascii : c.toNat < 128
  · have other : d.toNat < 128 := toNat_lt_of_toLower (same ▸ toNat_toLower_lt ascii)
    rw [mapCase_upper ascii, mapCase_upper other, (toUpper_eq_iff ascii other).mpr same]
  · have other : ¬ d.toNat < 128 := fun small =>
      ascii (toNat_lt_of_toLower (same ▸ toNat_toLower_lt small))
    rw [← toLower_of_not_ascii ascii, same, toLower_of_not_ascii other]

end Characters

/-! ## Texts -/

section Texts

variable {a b : String}

/-- The capital form of a text is its own. -/
theorem upperText_upperText : upperText (upperText a) = upperText a := by
  unfold upperText
  rw [String.toList_ofList]
  generalize capitals : a.toList.flatMap (mapCase upperSequences upperRanges) = form
  have own : ∀ d ∈ form, mapCase upperSequences upperRanges d = [d] := by
    intro d member
    rw [← capitals] at member
    obtain ⟨c, _, inForm⟩ := List.mem_flatMap.mp member
    exact mapCase_of_mem_mapCase inForm
  rw [List.flatMap_def, List.map_congr_left own, ← List.flatMap_def, List.flatMap_singleton']

/-- Texts that differ at most in the case of ASCII letters have one capital form. -/
theorem upperText_of_equalIgnoringAsciiCase (same : equalIgnoringAsciiCase a b) :
    upperText a = upperText b := by
  unfold upperText
  rw [equalIgnoringAsciiCase, beq_iff_eq, asciiFold, asciiFold] at same
  refine congrArg String.ofList ?_
  generalize a.toList = as at same
  generalize b.toList = bs at same
  induction as generalizing bs with
  | nil => rw [List.map_eq_nil_iff.mp same.symm]
  | cons c as ih =>
    cases bs with
    | nil => cases same
    | cons d bs =>
      obtain ⟨first, others⟩ := List.cons.inj same
      rw [List.flatMap_cons, List.flatMap_cons, mapCase_eq_of_toLower first, ih bs others]

end Texts

end Spreadsheet
