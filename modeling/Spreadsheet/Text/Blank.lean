/-!
Blank characters, those with the Unicode property `White_Space`, and the text between them.
-/

namespace Spreadsheet

/-- Whether a character is blank. A zero-width space is not. -/
def isBlank (c : Char) : Bool :=
  let n := c.toNat
  (0x09 ≤ n && n ≤ 0x0d) || n == 0x20 || n == 0x85 || n == 0xa0 || n == 0x1680
    || (0x2000 ≤ n && n ≤ 0x200a) || n == 0x2028 || n == 0x2029 || n == 0x202f || n == 0x205f
    || n == 0x3000

/-- The text from its first to its last character that is not blank. -/
def trimBlanks (chars : List Char) : List Char :=
  ((chars.dropWhile isBlank).reverse.dropWhile isBlank).reverse

/-- The text from its first to its last character that is not blank. -/
def trimText (text : String) : String :=
  .ofList (trimBlanks text.toList)

section Trimming

variable {c : Char} {chars : List Char}

/-- The printable characters of ASCII are not blank, but for the space. -/
theorem not_isBlank_of_printable (low : 0x21 ≤ c.toNat) (high : c.toNat ≤ 0x7e) : ¬ isBlank c := by
  simp only [isBlank, Bool.or_eq_true, Bool.and_eq_true, decide_eq_true_eq, beq_iff_eq]
  omega

theorem dropWhile_isBlank_eq_self (visible : ∀ c ∈ chars.head?, ¬ isBlank c) :
    chars.dropWhile isBlank = chars := by
  cases chars with
  | nil => rfl
  | cons c rest => exact List.dropWhile_cons_of_neg (visible c rfl)

/-- Nothing is taken away from a text that neither begins nor ends with a blank. -/
theorem trimBlanks_eq_self (first : ∀ c ∈ chars.head?, ¬ isBlank c)
    (last : ∀ c ∈ chars.getLast?, ¬ isBlank c) : trimBlanks chars = chars := by
  rw [← List.head?_reverse] at last
  rw [trimBlanks, dropWhile_isBlank_eq_self first, dropWhile_isBlank_eq_self last,
    List.reverse_reverse]

/-- Nothing is taken away from characters none of which is blank. -/
theorem trimBlanks_of_forall (visible : ∀ c ∈ chars, ¬ isBlank c) : trimBlanks chars = chars :=
  trimBlanks_eq_self (fun c first => visible c (List.mem_of_mem_head? first))
    fun c last => visible c (List.mem_of_getLast? last)

theorem mem_of_mem_trimBlanks (member : c ∈ trimBlanks chars) : c ∈ chars := by
  rw [trimBlanks, List.mem_reverse] at member
  have inside := List.mem_reverse.mp ((List.dropWhile_sublist _).mem member)
  exact (List.dropWhile_sublist _).mem inside

/-- A trimmed text does not begin with a blank. -/
theorem not_isBlank_of_head?_trimBlanks (first : (trimBlanks chars).head? = some c) :
    ¬ isBlank c := by
  have part : trimBlanks chars <+: chars.dropWhile isBlank := by
    rw [trimBlanks, ← List.reverse_suffix, List.reverse_reverse]
    exact List.dropWhile_suffix _
  obtain ⟨blanks, whole⟩ := part
  have visible := List.head?_dropWhile_not isBlank chars
  rw [← whole, List.head?_append, first] at visible
  exact Bool.eq_false_iff.mp visible

/-- A trimmed text does not end with a blank. -/
theorem not_isBlank_of_getLast?_trimBlanks (last : (trimBlanks chars).getLast? = some c) :
    ¬ isBlank c := by
  have visible := List.head?_dropWhile_not isBlank (chars.dropWhile isBlank).reverse
  rw [trimBlanks, List.getLast?_reverse] at last
  rw [last] at visible
  exact Bool.eq_false_iff.mp visible

/-- A text of which something is left has a character that is not blank. -/
theorem exists_not_isBlank (nonempty : trimBlanks chars ≠ []) : ∃ c ∈ chars, ¬ isBlank c := by
  obtain ⟨c, rest, trimmed⟩ := List.exists_cons_of_ne_nil nonempty
  refine ⟨c, mem_of_mem_trimBlanks (trimmed ▸ List.mem_cons_self), ?_⟩
  exact not_isBlank_of_head?_trimBlanks (congrArg List.head? trimmed)

theorem trimBlanks_trimBlanks (chars : List Char) :
    trimBlanks (trimBlanks chars) = trimBlanks chars :=
  trimBlanks_eq_self (fun _ => not_isBlank_of_head?_trimBlanks)
    fun _ => not_isBlank_of_getLast?_trimBlanks

/-- Trimming leaves the characters that are not blank. -/
theorem mem_trimBlanks (member : c ∈ chars) (visible : ¬ isBlank c) : c ∈ trimBlanks chars := by
  have kept : ∀ {chars : List Char}, c ∈ chars → c ∈ chars.dropWhile isBlank := by
    intro chars member
    rw [← List.takeWhile_append_dropWhile (p := isBlank) (l := chars), List.mem_append] at member
    exact member.resolve_left fun blank => visible (List.all_eq_true.mp List.all_takeWhile c blank)
  rw [trimBlanks, List.mem_reverse]
  exact kept (List.mem_reverse.mpr (kept member))

end Trimming

end Spreadsheet
