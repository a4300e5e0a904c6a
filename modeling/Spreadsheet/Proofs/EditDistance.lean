import Mathlib.Order.Bounds.Defs
import Spreadsheet.Text.EditDistance

/-!
# Edit distance

The distance of two texts is the least number of edits, each of which puts in, takes out or replaces
one character, that lead from one to the other (`isLeast_editDistance`).

It is computed row by row from the front. A row holds the distances of one prefix of the first text
to all prefixes of the second (`foldl_distanceRow`), and within a row each distance follows from
three neighbours (`nextDistances_prefixDistances`). These are the equations of the distance by
recursion, `recursiveDistance`, on texts that are read from their ends.
-/

namespace Spreadsheet

/-! ## Edits -/

/-- A change of one character: it is put in, taken out or replaced. -/
inductive Edit : List Char → List Char → Prop
  | insert (before after : List Char) (c : Char) : Edit (before ++ after) (before ++ c :: after)
  | delete (before after : List Char) (c : Char) : Edit (before ++ c :: after) (before ++ after)
  | substitute (before after : List Char) (c d : Char) :
    Edit (before ++ c :: after) (before ++ d :: after)

/-- A number of edits, one after another, that lead from one text to another one. -/
inductive Edits : Nat → List Char → List Char → Prop
  | none (a : List Char) : Edits 0 a a
  | more {n : Nat} {a b c : List Char} (first : Edit a b) (rest : Edits n b c) : Edits (n + 1) a c

section Edits

variable {a b : List Char} {n : Nat}

theorem Edit.cons (edit : Edit a b) (c : Char) : Edit (c :: a) (c :: b) := by
  cases edit with
  | insert before after d => exact .insert (c :: before) after d
  | delete before after d => exact .delete (c :: before) after d
  | substitute before after d e => exact .substitute (c :: before) after d e

theorem Edits.cons (edits : Edits n a b) (c : Char) : Edits n (c :: a) (c :: b) := by
  induction edits with
  | none a => exact .none (c :: a)
  | more first _ ih => exact .more (first.cons c) ih

/-- Texts are edited in the same way when they are read backward. -/
theorem Edit.reverse (edit : Edit a b) : Edit a.reverse b.reverse := by
  cases edit with
  | insert before after c => simpa using Edit.insert after.reverse before.reverse c
  | delete before after c => simpa using Edit.delete after.reverse before.reverse c
  | substitute before after c d => simpa using Edit.substitute after.reverse before.reverse c d

theorem Edits.reverse (edits : Edits n a b) : Edits n a.reverse b.reverse := by
  induction edits with
  | none a => exact .none a.reverse
  | more first _ ih => exact .more first.reverse ih

theorem edits_reverse_iff : Edits n a.reverse b.reverse ↔ Edits n a b := by
  refine ⟨fun edits => ?_, Edits.reverse⟩
  simpa using edits.reverse

theorem edits_nil_left (b : List Char) : Edits b.length [] b := by
  induction b with
  | nil => exact .none []
  | cons d b ih => exact .more (.insert [] [] d) (ih.cons d)

theorem edits_nil_right (a : List Char) : Edits a.length a [] := by
  induction a with
  | nil => exact .none []
  | cons c a ih => exact .more (.delete [] a c) ih

/-- The fewer of two numbers of edits. -/
theorem Edits.min {m : Nat} (one : Edits m a b) (other : Edits n a b) : Edits (min m n) a b := by
  rcases Nat.le_total m n with fewer | fewer
  · rwa [Nat.min_eq_left fewer]
  · rwa [Nat.min_eq_right fewer]

end Edits

/-! ## Distance by recursion -/

/-- The distance of two texts by recursion on both. -/
def recursiveDistance : List Char → List Char → Nat
  | [], b => b.length
  | a, [] => a.length
  | c :: a, d :: b =>
    min (min (recursiveDistance a b + if c = d then 0 else 1) (recursiveDistance (c :: a) b + 1))
      (recursiveDistance a (d :: b) + 1)
termination_by a b => a.length + b.length

section Recursion

variable {a a' b : List Char} {c d : Char} {n : Nat}

theorem recursiveDistance_nil_left : recursiveDistance [] b = b.length := by
  rw [recursiveDistance]

theorem recursiveDistance_nil_right : recursiveDistance a [] = a.length := by
  cases a with
  | nil => exact recursiveDistance_nil_left
  | cons c a =>
    rw [recursiveDistance]
    exact List.cons_ne_nil c a

theorem recursiveDistance_cons_cons :
    recursiveDistance (c :: a) (d :: b) =
      min (min (recursiveDistance a b + if c = d then 0 else 1)
        (recursiveDistance (c :: a) b + 1)) (recursiveDistance a (d :: b) + 1) := by
  rw [recursiveDistance]

theorem recursiveDistance_self : recursiveDistance a a = 0 := by
  induction a with
  | nil => exact recursiveDistance_nil_left
  | cons c a ih =>
    rw [recursiveDistance_cons_cons, ih, if_pos rfl]
    omega

/-- A character more at the front of either text makes the distance larger by one at most. -/
theorem recursiveDistance_cons_left_le :
    recursiveDistance (c :: a) b ≤ recursiveDistance a b + 1 := by
  cases b with
  | nil =>
    have lengths : recursiveDistance (c :: a) [] = recursiveDistance a [] + 1 := by
      rw [recursiveDistance_nil_right, recursiveDistance_nil_right, List.length_cons]
    exact Nat.le_of_eq lengths
  | cons d b =>
    rw [recursiveDistance_cons_cons]
    exact Nat.min_le_right _ _

theorem recursiveDistance_cons_right_le :
    recursiveDistance a (d :: b) ≤ recursiveDistance a b + 1 := by
  cases a with
  | nil =>
    have lengths : recursiveDistance [] (d :: b) = recursiveDistance [] b + 1 := by
      rw [recursiveDistance_nil_left, recursiveDistance_nil_left, List.length_cons]
    exact Nat.le_of_eq lengths
  | cons c a =>
    rw [recursiveDistance_cons_cons]
    omega

theorem recursiveDistance_cons_cons_le :
    recursiveDistance (c :: a) (d :: b) ≤ recursiveDistance a b + 1 := by
  rw [recursiveDistance_cons_cons]
  split <;> omega

/-- A character less at the front makes the distance larger by one at most. -/
theorem recursiveDistance_le_cons :
    recursiveDistance a b ≤ recursiveDistance (c :: a) b + 1 := by
  induction b with
  | nil =>
    rw [recursiveDistance_nil_right, recursiveDistance_nil_right, List.length_cons]
    omega
  | cons d b ih =>
    have shorter : recursiveDistance a (d :: b) ≤ recursiveDistance a b + 1 :=
      recursiveDistance_cons_right_le
    rw [recursiveDistance_cons_cons]
    omega

theorem recursiveDistance_substitute_le :
    recursiveDistance (c :: a) b ≤ recursiveDistance (d :: a) b + 1 := by
  induction b with
  | nil =>
    rw [recursiveDistance_nil_right, recursiveDistance_nil_right, List.length_cons,
      List.length_cons]
    omega
  | cons e b ih =>
    have both : recursiveDistance (c :: a) (e :: b) ≤ recursiveDistance a b + 1 :=
      recursiveDistance_cons_cons_le
    have right : recursiveDistance (c :: a) (e :: b) ≤ recursiveDistance (c :: a) b + 1 :=
      recursiveDistance_cons_right_le
    have left : recursiveDistance (c :: a) (e :: b) ≤ recursiveDistance a (e :: b) + 1 :=
      recursiveDistance_cons_left_le
    rw [recursiveDistance_cons_cons (c := d)]
    omega

/-- What holds of the distances of two texts to all others holds of them behind one more
character. -/
theorem recursiveDistance_cons_le_cons
    (near : ∀ b, recursiveDistance a b ≤ recursiveDistance a' b + 1) (c : Char) (b : List Char) :
    recursiveDistance (c :: a) b ≤ recursiveDistance (c :: a') b + 1 := by
  induction b with
  | nil =>
    have lengths := near []
    rw [recursiveDistance_nil_right, recursiveDistance_nil_right] at lengths ⊢
    rw [List.length_cons, List.length_cons]
    omega
  | cons d b ih =>
    have behind := near b
    have here := near (d :: b)
    rw [recursiveDistance_cons_cons, recursiveDistance_cons_cons]
    omega

/-- An edit brings a text closer to another one by one at most. -/
theorem Edit.recursiveDistance_le (edit : Edit a a') (b : List Char) :
    recursiveDistance a b ≤ recursiveDistance a' b + 1 := by
  -- The characters before the place of the edit are the same in both texts.
  have behind : ∀ {x y : List Char} (before : List Char),
      (∀ b, recursiveDistance x b ≤ recursiveDistance y b + 1) →
      ∀ b, recursiveDistance (before ++ x) b ≤ recursiveDistance (before ++ y) b + 1 := by
    intro x y before near
    induction before with
    | nil => exact near
    | cons c before ih => exact recursiveDistance_cons_le_cons ih c
  cases edit with
  | insert before after c => exact behind before (fun _ => recursiveDistance_le_cons) b
  | delete before after c => exact behind before (fun _ => recursiveDistance_cons_left_le) b
  | substitute before after c d =>
    exact behind before (fun _ => recursiveDistance_substitute_le) b

/-- No fewer edits than the distance lead from one text to the other. -/
theorem Edits.recursiveDistance_le (edits : Edits n a b) : recursiveDistance a b ≤ n := by
  induction edits with
  | none a => exact Nat.le_of_eq recursiveDistance_self
  | more first _ ih => exact Nat.le_trans (first.recursiveDistance_le _) (Nat.succ_le_succ ih)

/-- As many edits as the distance do. -/
theorem edits_recursiveDistance (a b : List Char) : Edits (recursiveDistance a b) a b := by
  fun_induction recursiveDistance a b with
  | case1 b => exact edits_nil_left b
  | case2 a => exact edits_nil_right a
  | case3 c a d b both right left =>
    have both : Edits (recursiveDistance a b + if c = d then 0 else 1) (c :: a) (d :: b) := by
      split
      next same => exact same ▸ both.cons c
      next => exact .more (.substitute [] a c d) (both.cons d)
    have right : Edits (recursiveDistance (c :: a) b + 1) (c :: a) (d :: b) :=
      .more (.insert [] (c :: a) d) (right.cons d)
    have left : Edits (recursiveDistance a (d :: b) + 1) (c :: a) (d :: b) :=
      .more (.delete [] a c) left
    exact (both.min right).min left

end Recursion

/-! ## Distance row by row -/

/-- The distances of a text to the prefixes of another one, all read backward: to `ended`, and to
what it becomes when the characters of `target` are put in front of it one by one. -/
def prefixDistances (a ended : List Char) : List Char → List Nat
  | [] => [recursiveDistance a ended]
  | d :: target => recursiveDistance a ended :: prefixDistances a (d :: ended) target

section Rows

variable {a ended target : List Char} {c : Char}

theorem prefixDistances_eq_cons :
    prefixDistances a ended target =
      recursiveDistance a ended :: (prefixDistances a ended target).tail := by
  cases target <;> rfl

/-- The first row: the empty prefix has the lengths of the others as its distances. -/
theorem prefixDistances_nil :
    prefixDistances [] ended target = List.range' ended.length (target.length + 1) := by
  induction target generalizing ended with
  | nil => rw [prefixDistances, recursiveDistance_nil_left]; rfl
  | cons d target ih =>
    rw [prefixDistances, ih, recursiveDistance_nil_left, List.length_cons, List.length_cons]
    rfl

/-- Inside a row, from the distance to `ended` on: with the neighbours above known, each distance of
the longer text follows from the one before it. -/
theorem nextDistances_prefixDistances :
    nextDistances c (recursiveDistance a ended) (recursiveDistance (c :: a) ended) target
      (prefixDistances a ended target).tail = (prefixDistances (c :: a) ended target).tail := by
  induction target generalizing ended with
  | nil => rfl
  | cons d target ih =>
    rw [prefixDistances, prefixDistances, List.tail_cons, List.tail_cons,
      prefixDistances_eq_cons (a := a), prefixDistances_eq_cons (a := c :: a), nextDistances, ← ih,
      recursiveDistance_cons_cons]

/-- From row to row. -/
theorem distanceRow_prefixDistances :
    distanceRow target (prefixDistances a [] target) c = prefixDistances (c :: a) [] target := by
  have first : recursiveDistance a [] + 1 = recursiveDistance (c :: a) [] := by
    rw [recursiveDistance_nil_right, recursiveDistance_nil_right, List.length_cons]
  rw [prefixDistances_eq_cons, distanceRow, first, nextDistances_prefixDistances,
    ← prefixDistances_eq_cons]

/-- The row after all characters of a text. -/
theorem foldl_distanceRow (rest : List Char) :
    rest.foldl (distanceRow target) (prefixDistances a [] target) =
      prefixDistances (rest.reverse ++ a) [] target := by
  induction rest generalizing a with
  | nil => rfl
  | cons c rest ih =>
    rw [List.foldl_cons, distanceRow_prefixDistances, ih, List.reverse_cons, List.append_assoc]
    rfl

theorem getLastD_prefixDistances :
    (prefixDistances a ended target).getLastD 0 =
      recursiveDistance a (target.reverse ++ ended) := by
  induction target generalizing ended with
  | nil => rfl
  | cons d target ih =>
    rw [List.reverse_cons, List.append_assoc, List.singleton_append, ← ih, prefixDistances,
      prefixDistances_eq_cons]
    rfl

end Rows

theorem editDistance_eq (a b : List Char) :
    editDistance a b = recursiveDistance a.reverse b.reverse := by
  have start : List.range (b.length + 1) = prefixDistances [] [] b := by
    rw [prefixDistances_nil, List.range_eq_range']
    rfl
  rw [editDistance, start, foldl_distanceRow, getLastD_prefixDistances, List.append_nil,
    List.append_nil]

/-- The distance of two texts is the least number of edits that lead from one to the other. -/
theorem isLeast_editDistance (a b : List Char) : IsLeast {n | Edits n a b} (editDistance a b) := by
  rw [editDistance_eq]
  refine ⟨edits_reverse_iff.mp (edits_recursiveDistance a.reverse b.reverse), fun n edits => ?_⟩
  exact edits.reverse.recursiveDistance_le

end Spreadsheet
