import Spreadsheet.Proofs.Correspondence
import Spreadsheet.Proofs.StandardFunctions

/-!
# What a formula can see of the cells

A formula with standard functions depends on the cells inside the ranges of its references, those in
bodies of lambdas included, and on no others (`Session.force_evaluate_of_agree`). Two evaluations
that find the same values there are related by `SameCells`, which a reference satisfies with its
counterpart although neither has been read.
-/

namespace Spreadsheet

/-- Whether two operands have the same value, and answer alike what standard functions ask. -/
def SameCells (x y : Operand) : Prop :=
  Operand.Alike x y ∧ x.force = y.force

theorem SameCells.refl {x : Operand} : SameCells x x :=
  ⟨.refl, rfl⟩

/-! ## References -/

/-- Whether the first corner of a range is not behind the last one. -/
def Range.IsOrdered (r : Range) : Prop :=
  r.top ≤ r.bottom ∧ r.left ≤ r.right

theorem Range.isOrdered_between {p q : Position} : (Range.between p q).IsOrdered :=
  ⟨Nat.le_trans (Nat.min_le_left _ _) (Nat.le_max_left _ _),
    Nat.le_trans (Nat.min_le_left _ _) (Nat.le_max_left _ _)⟩

/-- Offsets less than the numbers of rows and columns stay inside the range. -/
theorem Range.contains_offset {r : Range} (ordered : r.IsOrdered) {row column : Nat}
    (above : row < r.rows) (inside : column < r.columns) : r.contains (r.offset row column) := by
  obtain ⟨rows, columns⟩ := ordered
  simp only [Range.rows, Range.columns] at above inside
  simp only [Range.contains, Bool.and_eq_true, decide_eq_true_eq]
  simp only [Range.offset]
  omega

/-- The positions of a range lie in it. -/
theorem Range.contains_of_mem_positions {r : Range} (ordered : r.IsOrdered) {p : Position}
    (member : p ∈ r.positions) : r.contains p := by
  obtain ⟨i, counted, rfl⟩ := List.mem_map.mp member
  have bound : i < r.rows * r.columns :=
    Nat.lt_of_lt_of_le (List.mem_range.mp counted) (Nat.min_le_left _ _)
  have positive : 0 < r.columns := Nat.succ_pos _
  exact contains_offset ordered (Nat.div_lt_of_lt_mul (Nat.mul_comm _ _ ▸ bound))
    (Nat.mod_lt i positive)

/-- References to one range have the same cells when they read the same values there. -/
theorem Reference.sameCells {unit sheet : String} {range : Range} {layers layers' : Layers}
    (ordered : range.IsOrdered)
    (agree : ∀ p, range.contains p → readCell layers unit sheet p = readCell layers' unit sheet p) :
    SameCells (.reference ⟨unit, sheet, range, layers⟩)
      (.reference ⟨unit, sheet, range, layers'⟩) := by
  have values : (Reference.mk unit sheet range layers).values =
      (Reference.mk unit sheet range layers').values :=
    List.map_congr_left fun p member => agree p (Range.contains_of_mem_positions ordered member)
  have corner := agree (range.offset 0 0)
    (Range.contains_offset ordered (Nat.succ_pos _) (Nat.succ_pos _))
  have force : (Reference.mk unit sheet range layers).force =
      (Reference.mk unit sheet range layers').force := by
    simp only [Reference.force, Reference.isCell, Reference.read, Reference.toGrid, corner, values]
    rfl
  exact ⟨⟨rfl, rfl, values, force, rfl⟩, force⟩

/-- Whether a position lies in a sheet of the largest size. -/
def Position.IsInSheet (p : Position) : Prop :=
  p.row < sheetRows ∧ p.column < sheetColumns

/-- Addresses denote positions in a sheet. -/
theorem Position.isInSheet_of_ofAddress? {chars : List Char} {p : Position}
    (read : Position.ofAddress? chars = .ok p) : p.IsInSheet := by
  unfold ofAddress? at read
  dsimp only at read
  split at read
  · cases read
  split at read
  · cases read
  split at read
  · cases read
  split at read
  · cases read
  split at read
  · cases read
  split at read
  · cases read
  · rename_i column row
    cases read
    unfold IsInSheet sheetRows sheetColumns
    unfold sheetColumns at column
    unfold sheetRows at row
    dsimp only
    omega

/-- The range that a text denotes lies between two positions in a sheet. -/
theorem RangeAddress.exists_between {text : String} {address : RangeAddress}
    (read : RangeAddress.ofText? text = .ok address) :
    ∃ p q, p.IsInSheet ∧ q.IsInSheet ∧ address.range = .between p q := by
  rw [ofText?] at read
  simp only [bind, Except.bind] at read
  split at read
  · cases read
  split at read
  · cases read
  rename_i p first
  split at read
  · cases read
  rename_i q last
  cases read
  exact ⟨p, q, Position.isInSheet_of_ofAddress? first, Position.isInSheet_of_ofAddress? last, rfl⟩

/-- The range of a located token lies between two positions in a sheet. -/
theorem Config.exists_between_of_locate {config : Config} {token sheet : String} {range : Range}
    (located : config.locate token = .ok (sheet, range)) :
    ∃ p q, p.IsInSheet ∧ q.IsInSheet ∧ range = .between p q := by
  rw [locate] at located
  simp only [bind, Except.bind] at located
  split at located
  · cases located
  · rename_i address read
    have between := RangeAddress.exists_between read
    split at located
    · cases located
      exact between
    · split at located
      · cases located
        exact between
      · cases located

/-! ## Formulas -/

/-- The nodes of a built tree with standard functions keep cells the same, if its references read
the same values. -/
theorem Builder.keeps_sameCells {b : Builder} (standard : b.config.registry = .standard)
    {s s' : Surroundings} {awaits : Function → Bool} {t : ParseTree}
    (agree : ∀ token unit sheet range kept,
      Node.reference token unit sheet range kept ∈ (b.build t).nodes →
      ∀ p, range.contains p → readCell s.layers unit sheet p = readCell s'.layers unit sheet p) :
    ∀ m ∈ (b.build t).nodes, m.Keeps SameCells s s' awaits := by
  intro m member
  have built : m.IsBuilt b.config := invariant_isBuilt.make t m member
  match m with
  | .literal _ v _ => exact .refl
  | .operator _ op _ _ =>
    intro xs ys related
    have values : xs.map Operand.force = ys.map Operand.force := by
      induction related with
      | nil => rfl
      | cons first others ih => rw [List.map_cons, List.map_cons, first.2, ih]
    rw [values]
    exact .refl
  | .function _ f _ _ =>
    intro xs ys related
    rw [Node.IsBuilt, standard] at built
    have known : f ∈ standardFunctions := mem_standardFunctions_of_find? built
    rw [Function.invoke_of_standard known, Function.invoke_of_standard known,
      calculate_eq_of_alike known (related.imp fun _ _ same => same.1)]
    exact .refl
  | .reference token unit sheet range kept =>
    obtain ⟨p, q, -, -, rfl⟩ := Config.exists_between_of_locate built.2
    exact Reference.sameCells Range.isOrdered_between
      (agree token unit sheet _ kept member)
  | .failure .. | .parameter .. | .lambda .. => trivial

/-- What a formula can see of the cells. Two evaluations of one built tree with standard functions
under the same limits, in any two sessions and after any earlier evaluations, have the same value if
references read the same values at all positions inside the ranges of the tree, whatever they read
elsewhere. -/
theorem Session.force_evaluate_of_agree {b : Builder} {t : ParseTree} {s s' : Session}
    {f f' : Formula} (standard : b.config.registry = .standard)
    (limits : s.config.options = s'.config.options)
    (tree : f.root.unevaluated = b.build t) (tree' : f'.root.unevaluated = b.build t)
    (agree : ∀ token unit sheet range kept,
      Node.reference token unit sheet range kept ∈ (b.build t).nodes →
      ∀ p, range.contains p → readCell s.layers unit sheet p = readCell s'.layers unit sheet p) :
    (s.evaluate false (some f)).result.force = (s'.evaluate false (some f')).result.force := by
  have depth : s.surroundings.maxParameterDepth = s'.surroundings.maxParameterDepth :=
    congrArg Options.maxParameterDepth limits
  have closed : (b.build t).ScopedIn fun _ => False :=
    Builder.invariant_scopedIn.make t _ fun _ member => absurd member List.not_mem_nil
  have same : SameCells
      ((b.build t).evaluate s.surroundings awaitsNothing f.environment).1.operand
      ((b.build t).evaluate s'.surroundings awaitsNothing f'.environment).1.operand := by
    obtain ⟨-, -, -, results, -⟩ := Node.evaluate_related (fun _ => SameCells.refl) depth
      Environment.related_of_none (b.build t) closed (Builder.keeps_sameCells standard agree)
    exact results
  rw [result_evaluate tree, result_evaluate tree']
  exact same.2

/-- A cell of another unit makes no difference to a sum. -/
theorem Session.force_evaluate_of_other_unit :
    let config : Config := { unit := "book", sheet := "one", registry := .standard }
    let data := ({} : CellStore).setCell "other" "one" ⟨0, 0⟩ (.ofValue (.bool true))
    let t := ParseTree.call "SUM" [.leaf "A1"]
    let f : Formula := ⟨(Builder.standard config).build t, {}⟩
    (({ config } : Session).evaluate false (some f)).result.force =
      (({ config := { config with data } } : Session).evaluate false (some f)).result.force := by
  intro config data t f
  have fresh : f.root.unevaluated = (Builder.standard config).build t :=
    Builder.invariant_unevaluated.make t
  refine force_evaluate_of_agree rfl rfl fresh fresh fun token unit sheet range kept member p _ => ?_
  obtain ⟨here, -⟩ := Builder.invariant_isBuilt.make t _ member
  have elsewhere : unit ≠ "other" := here ▸ (by decide : "book" ≠ "other")
  have missing : data.cell? unit sheet p = none := by
    rw [CellStore.cell?_setCell, if_neg fun same => elsewhere same.1]
    rfl
  simp only [readCell, lookupCell, layers, List.findSome?_cons, missing]
  rfl

end Spreadsheet
