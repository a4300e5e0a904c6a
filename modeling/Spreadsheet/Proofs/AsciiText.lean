import Spreadsheet.Text.Ascii
import Spreadsheet.Text.Case

/-!
# Case of ASCII texts

Names of parameters are compared in two ways: up to the case of ASCII letters while nodes are built,
and by their capital forms under the full mappings in the bindings of scopes. On ASCII texts these
are the same (`upperText_eq_iff`).
-/

namespace Spreadsheet

/-! ## Characters -/

/-- A property of the first 128 code points is one of every ASCII character. -/
theorem forall_ascii {P : Char → Prop} (all : ∀ n < 128, P (Char.ofNat n)) {c : Char}
    (ascii : c.toNat < 128) : P c := by
  have here := all c.toNat ascii
  rwa [Char.ofNat_toNat] at here

section Characters

variable {c d : Char}

/-- No ASCII character has more than one capital form. -/
theorem lookup_upperSequences (ascii : c.toNat < 128) : upperSequences.lookup c.toNat = none := by
  have beyond : ∀ entry ∈ upperSequences, 128 ≤ entry.1 := by decide +kernel
  rw [List.lookup_eq_none_iff]
  intro entry member
  exact bne_iff_ne.mpr (Nat.ne_of_lt (Nat.lt_of_lt_of_le ascii (beyond entry member)))

/-- The first range of capital forms is the only one with ASCII characters. -/
theorem findSome?_upperRanges (ascii : c.toNat < 128) :
    upperRanges.findSome? (·.map? c.toNat) = CaseRange.map? ⟨0x61, 0x7a, 1, -32⟩ c.toNat := by
  have beyond : ∀ r ∈ upperRanges.tail, 128 ≤ r.first := by decide +kernel
  have others : upperRanges.tail.findSome? (·.map? c.toNat) = none := by
    rw [List.findSome?_eq_none_iff]
    intro r member
    exact if_neg fun inside => Nat.not_lt.mpr inside.1 (Nat.lt_of_lt_of_le ascii (beyond r member))
  rw [show upperRanges = ⟨0x61, 0x7a, 1, -32⟩ :: upperRanges.tail from rfl, List.findSome?_cons,
    others]
  cases CaseRange.map? ⟨0x61, 0x7a, 1, -32⟩ c.toNat <;> rfl

/-- The capital form of an ASCII character. -/
theorem mapCase_upper (ascii : c.toNat < 128) :
    mapCase upperSequences upperRanges c = [c.toUpper] := by
  have shifted : Char.ofNat ((CaseRange.map? ⟨0x61, 0x7a, 1, -32⟩ c.toNat).getD c.toNat) =
      c.toUpper :=
    forall_ascii (P := fun c =>
      Char.ofNat ((CaseRange.map? ⟨0x61, 0x7a, 1, -32⟩ c.toNat).getD c.toNat) = c.toUpper)
      (by decide +kernel) ascii
  simp only [mapCase, lookup_upperSequences ascii, findSome?_upperRanges ascii, shifted]

theorem toUpper_toLower (ascii : c.toNat < 128) : c.toLower.toUpper = c.toUpper :=
  forall_ascii (P := fun c => c.toLower.toUpper = c.toUpper) (by decide +kernel) ascii

theorem toLower_toUpper (ascii : c.toNat < 128) : c.toUpper.toLower = c.toLower :=
  forall_ascii (P := fun c => c.toUpper.toLower = c.toLower) (by decide +kernel) ascii

theorem toNat_toLower_lt (ascii : c.toNat < 128) : c.toLower.toNat < 128 :=
  forall_ascii (P := fun c => c.toLower.toNat < 128) (by decide +kernel) ascii

/-- Only ASCII characters have small forms in ASCII. -/
theorem toNat_lt_of_toLower (ascii : c.toLower.toNat < 128) : c.toNat < 128 := by
  unfold Char.toLower at ascii
  split at ascii
  · rename_i capital
    exact Nat.lt_of_le_of_lt (UInt32.le_iff_toNat_le.mp capital.2) (by decide)
  · exact ascii

/-- The capital forms of ASCII characters are the same when the small forms are. -/
theorem toUpper_eq_iff (left : c.toNat < 128) (right : d.toNat < 128) :
    c.toUpper = d.toUpper ↔ c.toLower = d.toLower := by
  constructor
  · intro same
    rw [← toLower_toUpper left, same, toLower_toUpper right]
  · intro same
    rw [← toUpper_toLower left, same, toUpper_toLower right]

end Characters

/-! ## Texts -/

/-- Whether all characters of a text are in ASCII. -/
def isAscii (text : String) : Bool :=
  text.toList.all (·.toNat < 128)

section Texts

variable {a b : String}

theorem isAscii_iff : isAscii a ↔ ∀ c ∈ a.toList, c.toNat < 128 := by
  simp only [isAscii, List.all_eq_true, decide_eq_true_eq]

/-- The capital form of an ASCII text, character by character. -/
theorem toList_upperText (ascii : isAscii a) :
    (upperText a).toList = a.toList.map Char.toUpper := by
  rw [isAscii_iff] at ascii
  rw [upperText, String.toList_ofList, List.map_eq_flatMap, List.flatMap_def, List.flatMap_def,
    List.map_congr_left fun c member => mapCase_upper (ascii c member)]

theorem map_toUpper_eq_iff {as bs : List Char} (left : ∀ c ∈ as, c.toNat < 128)
    (right : ∀ c ∈ bs, c.toNat < 128) :
    as.map Char.toUpper = bs.map Char.toUpper ↔ as.map Char.toLower = bs.map Char.toLower := by
  induction as generalizing bs with
  | nil => simp only [List.map_nil, List.nil_eq, List.map_eq_nil_iff]
  | cons c as ih =>
    cases bs with
    | nil => simp only [List.map_cons, List.map_nil, reduceCtorEq]
    | cons d bs =>
      simp only [List.forall_mem_cons] at left right
      simp only [List.map_cons, List.cons.injEq, toUpper_eq_iff left.1 right.1,
        ih left.2 right.2]

/-- Two ASCII texts have one capital form if they differ at most in the case of letters. -/
theorem upperText_eq_iff (left : isAscii a) (right : isAscii b) :
    upperText a = upperText b ↔ equalIgnoringAsciiCase a b := by
  rw [← String.toList_inj, toList_upperText left, toList_upperText right,
    map_toUpper_eq_iff (isAscii_iff.mp left) (isAscii_iff.mp right), equalIgnoringAsciiCase,
    beq_iff_eq, asciiFold, asciiFold]

/-- A text that differs from an ASCII text at most in the case of letters is one. -/
theorem isAscii_of_equalIgnoringAsciiCase (ascii : isAscii a)
    (same : equalIgnoringAsciiCase a b) : isAscii b := by
  rw [isAscii_iff] at ascii ⊢
  rw [equalIgnoringAsciiCase, beq_iff_eq, asciiFold, asciiFold] at same
  intro c member
  have image : c.toLower ∈ a.toList.map Char.toLower := same ▸ List.mem_map_of_mem member
  obtain ⟨d, inside, folded⟩ := List.mem_map.mp image
  exact toNat_lt_of_toLower (folded ▸ toNat_toLower_lt (ascii d inside))

end Texts

end Spreadsheet
