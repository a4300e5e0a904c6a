/-!
Texts cut at a separator.
-/

namespace Spreadsheet

/-- The pieces between separators, one more than there are separators. -/
def splitAtChar (separator : Char) : List Char → List (List Char)
  | [] => [[]]
  | c :: rest =>
    if c = separator then [] :: splitAtChar separator rest
    else
      match splitAtChar separator rest with
      | piece :: pieces => (c :: piece) :: pieces
      | [] => [[c]]

/-- The texts before and after the first separator. -/
def splitFirst? (separator : Char) (chars : List Char) : Option (List Char × List Char) :=
  match chars.dropWhile (· ≠ separator) with
  | _ :: after => some (chars.takeWhile (· ≠ separator), after)
  | [] => none

/-- The texts before and after the last separator. -/
def splitLast? (separator : Char) (chars : List Char) : Option (List Char × List Char) :=
  (splitFirst? separator chars.reverse).map fun (after, before) => (before.reverse, after.reverse)

/-- The characters of a class end before the first one of another. -/
theorem takeWhile_dropWhile_append {p : Char → Bool} {chars rest : List Char}
    (inside : ∀ c ∈ chars, p c) (outside : ∀ c ∈ rest.head?, ¬ p c) :
    (chars ++ rest).takeWhile p = chars ∧ (chars ++ rest).dropWhile p = rest := by
  rw [List.takeWhile_append_of_pos inside, List.dropWhile_append_of_pos inside]
  cases rest with
  | nil => exact ⟨List.append_nil chars, rfl⟩
  | cons c rest =>
    have stop := outside c rfl
    rw [List.takeWhile_cons_of_neg stop, List.dropWhile_cons_of_neg stop]
    exact ⟨List.append_nil chars, rfl⟩

section Cutting

variable {separator : Char} {before after chars : List Char}

theorem forall_ne_separator (absent : separator ∉ chars) :
    ∀ c ∈ chars, decide (c ≠ separator) = true := by
  intro c member
  exact decide_eq_true fun same => absent (same ▸ member)

/-- A text without the separator is not cut. -/
theorem splitFirst?_eq_none (absent : separator ∉ chars) : splitFirst? separator chars = none := by
  have nothing : chars.dropWhile (· ≠ separator) = [] := by
    rw [← List.append_nil chars, List.dropWhile_append_of_pos (forall_ne_separator absent),
      List.dropWhile_nil]
  rw [splitFirst?, nothing]

/-- A text is cut where the separator stands that none comes before. -/
theorem splitFirst?_append (absent : separator ∉ before) :
    splitFirst? separator (before ++ separator :: after) = some (before, after) := by
  have stop : ∀ c ∈ (separator :: after).head?, ¬ decide (c ≠ separator) = true := by
    rintro c ⟨⟩ other
    exact of_decide_eq_true other rfl
  rcases takeWhile_dropWhile_append (forall_ne_separator absent) stop with ⟨taken, dropped⟩
  rw [splitFirst?, dropped, taken]

/-- A text is cut at its last separator, whatever comes before. -/
theorem splitLast?_append (absent : separator ∉ after) :
    splitLast? separator (before ++ separator :: after) = some (before, after) := by
  have turned : (before ++ separator :: after).reverse =
      after.reverse ++ separator :: before.reverse := by
    rw [List.reverse_append, List.reverse_cons, List.append_assoc, List.singleton_append]
  have found : splitFirst? separator (after.reverse ++ separator :: before.reverse) =
      some (after.reverse, before.reverse) :=
    splitFirst?_append fun member => absent (List.mem_reverse.mp member)
  simp only [splitLast?, turned, found, Option.map_some, List.reverse_reverse]

end Cutting

end Spreadsheet
