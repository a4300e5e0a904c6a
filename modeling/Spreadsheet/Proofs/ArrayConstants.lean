import Spreadsheet.Proofs.Enumeration
import Spreadsheet.Proofs.Leaves
import Spreadsheet.Proofs.WellFormed

/-!
# Array constants

The text between the braces of an array constant is cut at all of its semicolons and commas, those
in quoted texts included. Each of them makes one piece more (`splitAtChar_intercalate`), so the cells
that were joined are found again exactly if no separator is inside of a cell
(`AreEven.cutCells_joinCells`, `AreEven.not_mem_of_shape`). Numbers, truth values and errors have no
separators in their tokens, quoted texts may (`IsScalarLiteral.exists_quoted`).
-/

namespace Spreadsheet

/-! ## Texts cut and joined -/

section Pieces

variable {separator c : Char} {chars : List Char} {pieces : List (List Char)}

/-- The pieces of a joined text are those of its parts. -/
theorem splitAtChar_intercalate (nonempty : pieces ≠ []) :
    splitAtChar separator (List.intercalate [separator] pieces) =
      pieces.flatMap (splitAtChar separator) := by
  induction pieces with
  | nil => exact absurd rfl nonempty
  | cons first rest ih =>
    cases rest with
    | nil => rw [List.intercalate_singleton, List.flatMap_singleton]
    | cons second rest =>
      rw [List.intercalate_cons_cons, List.append_assoc, List.singleton_append,
        splitAtChar_eq_splitOn, List.splitOn_append_cons_self, ← splitAtChar_eq_splitOn,
        ← splitAtChar_eq_splitOn, ih (List.cons_ne_nil _ _), ← List.flatMap_cons]

theorem splitAtChar_of_not_mem (absent : separator ∉ chars) :
    splitAtChar separator chars = [chars] := by
  rw [splitAtChar_eq_splitOn, List.splitOn_eq_singleton absent]

theorem length_splitAtChar_pos : 0 < (splitAtChar separator chars).length :=
  List.length_pos_iff.mpr (splitAtChar_ne_nil separator chars)

/-- A separator cuts a text into two pieces at least. -/
theorem one_lt_length_splitAtChar (member : separator ∈ chars) :
    1 < (splitAtChar separator chars).length := by
  obtain ⟨before, after, rfl⟩ := List.append_of_mem member
  rw [splitAtChar_eq_splitOn, List.splitOn_append_cons_self, List.length_append,
    ← splitAtChar_eq_splitOn, ← splitAtChar_eq_splitOn]
  have left : 0 < (splitAtChar separator before).length := length_splitAtChar_pos
  have right : 0 < (splitAtChar separator after).length := length_splitAtChar_pos
  omega

/-- A joined text has a piece at least for each of its parts. -/
theorem length_le_length_flatMap :
    pieces.length ≤ (pieces.flatMap (splitAtChar separator)).length := by
  induction pieces with
  | nil => exact Nat.zero_le _
  | cons piece pieces ih =>
    have some : 0 < (splitAtChar separator piece).length := length_splitAtChar_pos
    rw [List.flatMap_cons, List.length_append, List.length_cons]
    omega

/-- No part of a joined text has a separator if there are no more pieces than parts. -/
theorem not_mem_of_length_le
    (few : (pieces.flatMap (splitAtChar separator)).length ≤ pieces.length) :
    ∀ piece ∈ pieces, separator ∉ piece := by
  induction pieces with
  | nil => exact fun _ member => absurd member List.not_mem_nil
  | cons piece pieces ih =>
    rw [List.flatMap_cons, List.length_append, List.length_cons] at few
    have some : 0 < (splitAtChar separator piece).length := length_splitAtChar_pos
    have others : pieces.length ≤ (pieces.flatMap (splitAtChar separator)).length :=
      length_le_length_flatMap
    refine List.forall_mem_cons.mpr ⟨fun member => ?_, ih (by omega)⟩
    have two : 1 < (splitAtChar separator piece).length := one_lt_length_splitAtChar member
    omega

theorem flatMap_splitAtChar (absent : ∀ piece ∈ pieces, separator ∉ piece) :
    pieces.flatMap (splitAtChar separator) = pieces := by
  rw [List.flatMap_congr fun piece member => splitAtChar_of_not_mem (absent piece member),
    List.flatMap_singleton']

theorem mem_intercalate (nonempty : pieces ≠ []) :
    c ∈ List.intercalate [separator] pieces ↔
      c = separator ∧ 1 < pieces.length ∨ ∃ piece ∈ pieces, c ∈ piece := by
  induction pieces with
  | nil => exact absurd rfl nonempty
  | cons first rest ih =>
    cases rest with
    | nil => simp [List.intercalate_singleton]
    | cons second rest =>
      rw [List.intercalate_cons_cons, List.append_assoc, List.singleton_append, List.mem_append,
        List.mem_cons, ih (List.cons_ne_nil _ _), List.exists_mem_cons_iff]
      grind

end Pieces

/-! ## Rows of cells -/

/-- Rows of cells as an array constant has them. -/
def joinCells (rows : List (List (List Char))) : List Char :=
  List.intercalate [';'] (rows.map (List.intercalate [',']))

/-- The cells that are read from an array constant. -/
def cutCells (content : List Char) : List (List (List Char)) :=
  (splitAtChar ';' content).map (splitAtChar ',')

theorem literalRows_eq_cutCells (content : List Char) :
    literalRows content =
      (cutCells content).map (List.map fun cell => .ofLiteral (.ofList (trimBlanks cell))) := by
  rw [literalRows, cutCells, List.map_map]
  rfl

/-- Whether rows are a rectangle with at least one cell. -/
structure AreEven {α : Type} (width : Nat) (rows : List (List α)) : Prop where
  nonempty : rows ≠ []
  positive : 0 < width
  widths : ∀ row ∈ rows, row.length = width

section Cells

variable {rows : List (List (List Char))} {width : Nat} {row : List (List Char)}

theorem AreEven.row_ne_nil (even : AreEven width rows) (member : row ∈ rows) : row ≠ [] := by
  rw [← List.length_pos_iff, even.widths row member]
  exact even.positive

/-- The pieces at semicolons are those of the rows. -/
theorem AreEven.splitAtChar_joinCells (even : AreEven width rows) :
    splitAtChar ';' (joinCells rows) =
      (rows.map (List.intercalate [','])).flatMap (splitAtChar ';') :=
  splitAtChar_intercalate (mt List.map_eq_nil_iff.mp even.nonempty)

/-- The characters of a cell are in the text that it is joined into. -/
theorem AreEven.mem_joinCells {cell : List Char} {c : Char} (even : AreEven width rows)
    (member : row ∈ rows) (inside : cell ∈ row) (found : c ∈ cell) : c ∈ joinCells rows := by
  have inRow : c ∈ List.intercalate [','] row :=
    (mem_intercalate (even.row_ne_nil member)).mpr (.inr ⟨cell, inside, found⟩)
  exact (mem_intercalate (mt List.map_eq_nil_iff.mp even.nonempty)).mpr
    (.inr ⟨_, List.mem_map_of_mem member, inRow⟩)

/-- Cells without semicolons stay in their rows. -/
theorem AreEven.cutCells_of_rows (even : AreEven width rows)
    (absent : ∀ row ∈ rows, ';' ∉ List.intercalate [','] row) :
    cutCells (joinCells rows) = rows.map (List.flatMap (splitAtChar ',')) := by
  rw [cutCells, even.splitAtChar_joinCells,
    flatMap_splitAtChar (List.forall_mem_map.mpr absent), List.map_map]
  exact List.map_congr_left fun row member => splitAtChar_intercalate (even.row_ne_nil member)

/-- Cells without separators are read as they were joined. -/
theorem AreEven.cutCells_joinCells (even : AreEven width rows)
    (absent : ∀ row ∈ rows, ∀ cell ∈ row, ',' ∉ cell ∧ ';' ∉ cell) :
    cutCells (joinCells rows) = rows := by
  have unbroken : ∀ row ∈ rows, ';' ∉ List.intercalate [','] row := by
    intro row member broken
    rcases (mem_intercalate (even.row_ne_nil member)).mp broken with
      ⟨other, -⟩ | ⟨cell, inside, broken⟩
    · cases other
    · exact (absent row member cell inside).2 broken
  rw [even.cutCells_of_rows unbroken]
  refine (List.map_congr_left fun row member => ?_).trans (List.map_id rows)
  exact flatMap_splitAtChar fun cell inside => (absent row member cell inside).1

/-- Cells have no separators if the shape in which they are read is the one that they were in. -/
theorem AreEven.not_mem_of_shape (even : AreEven width rows)
    (sameRows : (cutCells (joinCells rows)).length = rows.length)
    (sameWidths : ∀ row ∈ cutCells (joinCells rows), row.length = width) :
    ∀ row ∈ rows, ∀ cell ∈ row, ',' ∉ cell ∧ ';' ∉ cell := by
  have unbroken : ∀ row ∈ rows, ';' ∉ List.intercalate [','] row := by
    have few : ((rows.map (List.intercalate [','])).flatMap (splitAtChar ';')).length ≤
        (rows.map (List.intercalate [','])).length := by
      rw [cutCells, List.length_map, even.splitAtChar_joinCells] at sameRows
      rw [sameRows, List.length_map]
    exact fun row member => not_mem_of_length_le few _ (List.mem_map_of_mem member)
  rw [even.cutCells_of_rows unbroken, List.forall_mem_map] at sameWidths
  intro row member cell inside
  have few : (row.flatMap (splitAtChar ',')).length ≤ row.length :=
    ((sameWidths row member).trans (even.widths row member).symm).le
  refine ⟨not_mem_of_length_le few cell inside, fun broken => unbroken row member ?_⟩
  exact (mem_intercalate (even.row_ne_nil member)).mpr (.inr ⟨cell, inside, broken⟩)

end Cells

/-! ## Scalar literals -/

/-- The token of a text: the text between quotes, its own quotes doubled. -/
def quotedToken (text : String) : String :=
  .ofList ('"' :: (doubleQuotes '"' text.toList ++ ['"']))

/-- The tokens of scalars. -/
inductive IsScalarLiteral (token : String) : Prop
  | number {n : Number} (read : Number.ofText? token = .ok n)
  | truth {b : Bool} (same : equalIgnoringAsciiCase token (boolText b))
  | error {kind : ErrorKind} (read : ErrorKind.ofToken? token = some kind)
  | quoted {text : String} (same : token = quotedToken text)

section ScalarLiterals

variable {token : String} {c : Char}

theorem mem_doubleQuotes {quote : Char} {chars : List Char} :
    c ∈ doubleQuotes quote chars ↔ c ∈ chars := by
  induction chars with
  | nil => exact Iff.rfl
  | cons d rest ih =>
    rw [doubleQuotes]
    split
    · rename_i same
      simp [ih, same]
    · simp [ih]

theorem ErrorKind.ofToken?_trimText (token : String) :
    ofToken? (trimText token) = ofToken? token := by
  simp only [ofToken?, trimText, String.toList_ofList, trimBlanks_trimBlanks]

theorem Number.ofText?_trimText (token : String) : ofText? (trimText token) = ofText? token := by
  simp only [ofText?, trimText, String.toList_ofList, trimBlanks_trimBlanks]

theorem isAlpha_of_boolText {b : Bool} (same : equalIgnoringAsciiCase token (boolText b))
    (member : c ∈ token.toList) : c.isAlpha :=
  isAlpha_of_equalIgnoringAsciiCase same (by cases b <;> decide) member

theorem Value.ofLiteral_of_error {kind : ErrorKind} (read : ErrorKind.ofToken? token = some kind) :
    ofLiteral token = .ofErrorKind kind := by
  rw [ofLiteral, read]

/-- A numeral denotes its number. -/
theorem Value.ofLiteral_of_number {n : Number} (read : Number.ofText? token = .ok n) :
    ofLiteral token = .number n := by
  obtain ⟨c, rest, trimmed, plain⟩ := Number.exists_trimBlanks_cons read
  have letterless : ¬ c.isAlpha ∧ '#' ≠ c.toLower := by
    rcases plain with digit | rfl | rfl | rfl
    · refine ⟨not_isAlpha_of_isDigit digit, ?_⟩
      rw [toLower_of_isDigit digit]
      rintro rfl
      cases digit
    · decide
    · decide
    · decide
  have noWord : ∀ b, equalIgnoringAsciiCase token (boolText b) = false := by
    refine fun b => Bool.eq_false_iff.mpr fun same => letterless.1 ?_
    exact isAlpha_of_boolText same (mem_of_mem_trimBlanks (trimmed ▸ List.mem_cons_self))
  have notTrue : equalIgnoringAsciiCase token "TRUE" = false := noWord true
  have notFalse : equalIgnoringAsciiCase token "FALSE" = false := noWord false
  rw [ofLiteral, ErrorKind.ofToken?_eq_none trimmed letterless.2, notTrue, notFalse, read]
  rfl

/-- Blanks around a scalar literal do not count. -/
theorem IsScalarLiteral.ofLiteral_trimText (literal : IsScalarLiteral token) :
    Value.ofLiteral (trimText token) = .ofLiteral token := by
  cases literal with
  | number read =>
    have trimmed := (Number.ofText?_trimText token).trans read
    rw [Value.ofLiteral_of_number read, Value.ofLiteral_of_number trimmed]
  | truth same =>
    rw [trimText, trimBlanks_of_forall fun c member =>
      not_isBlank_of_isAlpha (isAlpha_of_boolText same member), String.ofList_toList]
  | error read =>
    have trimmed := (ErrorKind.ofToken?_trimText token).trans read
    rw [Value.ofLiteral_of_error read, Value.ofLiteral_of_error trimmed]
  | quoted same =>
    rw [same, trimText, quotedToken, String.toList_ofList,
      trimBlanks_enclosed (by decide) (by decide)]

/-- A scalar literal has a character that is not blank. -/
theorem IsScalarLiteral.exists_visible (literal : IsScalarLiteral token) :
    ∃ c ∈ token.toList, ¬ isBlank c := by
  cases literal with
  | number read =>
    obtain ⟨c, rest, trimmed, -⟩ := Number.exists_trimBlanks_cons read
    exact exists_not_isBlank (trimmed ▸ List.cons_ne_nil c rest)
  | @truth b same =>
    have folded : asciiFold token = asciiFold (boolText b) := beq_iff_eq.mp same
    have nonempty : token.toList ≠ [] := by
      intro empty
      rw [asciiFold, empty] at folded
      cases b <;> cases folded
    obtain ⟨c, member⟩ := List.exists_mem_of_ne_nil _ nonempty
    exact ⟨c, member, not_isBlank_of_isAlpha (isAlpha_of_boolText same member)⟩
  | @error kind read =>
    have same := ErrorKind.asciiFold_token read
    refine exists_not_isBlank fun empty => ?_
    rw [empty] at same
    cases kind <;> cases same
  | quoted same =>
    rw [same, quotedToken, String.toList_ofList]
    exact ⟨'"', List.mem_cons_self, by decide⟩

/-- No error has a separator in its token. -/
theorem ErrorKind.separator_not_mem (kind : ErrorKind) :
    ',' ∉ asciiFold kind.token ∧ ';' ∉ asciiFold kind.token := by
  have each : ∀ kind ∈ all, ',' ∉ asciiFold kind.token ∧ ';' ∉ asciiFold kind.token := by
    decide +kernel
  exact each kind kind.mem_all

/-- Of the scalar literals, only quoted texts can have separators. -/
theorem IsScalarLiteral.exists_quoted (literal : IsScalarLiteral token) (member : c ∈ token.toList)
    (separator : c = ',' ∨ c = ';') :
    ∃ text : String, token = quotedToken text ∧ c ∈ text.toList := by
  have visible : ¬ isBlank c := by
    rcases separator with rfl | rfl <;> decide
  cases literal with
  | number read =>
    have plain := Number.of_mem_trimBlanks read (mem_trimBlanks member visible)
    rcases separator with rfl | rfl <;> exact absurd plain (by decide)
  | truth same =>
    have letter := isAlpha_of_boolText same member
    rcases separator with rfl | rfl <;> cases letter
  | @error kind read =>
    have folded : c.toLower ∈ asciiFold kind.token := by
      rw [ErrorKind.asciiFold_token read]
      exact List.mem_map_of_mem (mem_trimBlanks member visible)
    rcases separator with rfl | rfl
    · exact absurd folded kind.separator_not_mem.1
    · exact absurd folded kind.separator_not_mem.2
  | @quoted text same =>
    have mark : c ≠ '"' := by
      rcases separator with rfl | rfl <;> decide
    refine ⟨text, same, ?_⟩
    rw [same, quotedToken, String.toList_ofList, List.mem_cons, List.mem_append, mem_doubleQuotes,
      List.mem_singleton] at member
    exact (member.resolve_left mark).resolve_right mark

end ScalarLiterals

/-! ## Arrays -/

section Rows

variable {rows : List (List Value)} {width : Nat}

/-- Rows of one width make an array. -/
theorem Value.ofLiteralRows_of_widths (nonempty : rows ≠ [])
    (widths : ∀ row ∈ rows, row.length = width) :
    ofLiteralRows rows = .array ⟨rows.length, width, rows.flatten⟩ := by
  obtain ⟨first, others, rfl⟩ := List.exists_cons_of_ne_nil nonempty
  have even : ((first :: others).all fun row => row.length == first.length) = true := by
    rw [List.all_eq_true]
    intro row member
    rw [beq_iff_eq, widths row member, widths first List.mem_cons_self]
  rw [ofLiteralRows, List.headD_cons, if_pos even, Grid.ofRows_of_length nonempty widths]

/-- Rows make an array, unless their widths differ. -/
theorem Value.ofLiteralRows_cases (nonempty : rows ≠ []) :
    (∃ width, (∀ row ∈ rows, row.length = width) ∧
        ofLiteralRows rows = .array ⟨rows.length, width, rows.flatten⟩) ∨
      ofLiteralRows rows = .error ⟨.value, some "Ragged array constant"⟩ := by
  by_cases even : (rows.all fun row => row.length == (rows.headD []).length) = true
  · have widths : ∀ row ∈ rows, row.length = (rows.headD []).length :=
      fun row member => beq_iff_eq.mp (List.all_eq_true.mp even row member)
    exact .inl ⟨_, widths, ofLiteralRows_of_widths nonempty widths⟩
  · exact .inr (if_neg even)

end Rows

section Grids

variable {α : Type} {P : α → Prop}

/-- The rows of a table. -/
theorem Grid.IsTable.toRows {g : Grid α} (table : g.IsTable P) :
    g.toRows.length = g.rows ∧ (∀ row ∈ g.toRows, row.length = g.columns) ∧
      g.toRows.flatten = g.cells := by
  have full : g.cells.length = g.rows * g.columns := table.full
  have enough : g.rows ≤ g.cells.length := full ▸ Nat.le_mul_of_pos_right g.rows table.columns
  rw [Grid.toRows, if_neg table.columns.ne']
  exact chunksOf_of_length table.columns full enough

/-- The cells of a grid of tokens, row by row. -/
def Grid.cellTexts (g : Grid String) : List (List (List Char)) :=
  g.toRows.map (List.map String.toList)

theorem toList_arrayText (g : Grid String) :
    (arrayText g).toList = '\x7b' :: (joinCells g.cellTexts ++ ['\x7d']) := by
  have cells : (fun row : List String => (",".intercalate row).toList) =
      fun row => List.intercalate [','] (row.map String.toList) :=
    funext fun row => String.toList_intercalate
  rw [arrayText, String.toList_append, String.toList_append, String.toList_intercalate,
    List.map_map, Grid.cellTexts, joinCells, List.map_map]
  exact congrArg (fun f => '\x7b' :: (List.intercalate [';'] (g.toRows.map f) ++ ['\x7d'])) cells

end Grids

section Constants

variable {g : Grid String}

/-- Whether the quoted texts among tokens have no separators in them. -/
def Grid.IsSeparatorFree (g : Grid String) : Prop :=
  ∀ text : String, quotedToken text ∈ g.cells → ',' ∉ text.toList ∧ ';' ∉ text.toList

theorem flatten_cellTexts (table : g.IsTable IsScalarLiteral) :
    g.cellTexts.flatten = g.cells.map String.toList := by
  rw [Grid.cellTexts, ← List.map_flatten, table.toRows.2.2]

theorem length_cellTexts (table : g.IsTable IsScalarLiteral) : g.cellTexts.length = g.rows :=
  (List.length_map _).trans table.toRows.1

theorem areEven_cellTexts (table : g.IsTable IsScalarLiteral) : AreEven g.columns g.cellTexts where
  nonempty := by
    rw [← List.length_pos_iff, length_cellTexts table]
    exact table.rows
  positive := table.columns
  widths := List.forall_mem_map.mpr fun row member =>
    (List.length_map String.toList).trans (table.toRows.2.1 row member)

/-- No token has a separator if no quoted text has one. -/
theorem isSeparatorFree_iff (table : g.IsTable IsScalarLiteral) :
    g.IsSeparatorFree ↔ ∀ token ∈ g.cells, ',' ∉ token.toList ∧ ';' ∉ token.toList := by
  constructor
  · intro free token member
    have quoted := fun {c} => (table.cells token member).exists_quoted (c := c)
    constructor
    · intro inside
      obtain ⟨text, rfl, found⟩ := quoted inside (.inl rfl)
      exact (free text member).1 found
    · intro inside
      obtain ⟨text, rfl, found⟩ := quoted inside (.inr rfl)
      exact (free text member).2 found
  · intro absent text member
    have apart := absent _ member
    rw [quotedToken, String.toList_ofList] at apart
    exact ⟨fun inside => apart.1 (by simp [mem_doubleQuotes, inside]),
      fun inside => apart.2 (by simp [mem_doubleQuotes, inside])⟩

theorem not_mem_cellTexts_iff (table : g.IsTable IsScalarLiteral) :
    (∀ row ∈ g.cellTexts, ∀ cell ∈ row, ',' ∉ cell ∧ ';' ∉ cell) ↔ g.IsSeparatorFree := by
  rw [isSeparatorFree_iff table, ← List.forall_mem_flatten, flatten_cellTexts table,
    List.forall_mem_map]

/-- The joined cells are not blank. -/
theorem trimBlanks_joinCells_ne_nil (table : g.IsTable IsScalarLiteral) :
    trimBlanks (joinCells g.cellTexts) ≠ [] := by
  have even := areEven_cellTexts table
  obtain ⟨row, member⟩ := List.exists_mem_of_ne_nil _ even.nonempty
  obtain ⟨cell, inside⟩ := List.exists_mem_of_ne_nil _ (even.row_ne_nil member)
  have written : cell ∈ g.cells.map String.toList :=
    flatten_cellTexts table ▸ List.mem_flatten_of_mem member inside
  obtain ⟨token, stands, rfl⟩ := List.mem_map.mp written
  obtain ⟨c, found, visible⟩ := (table.cells token stands).exists_visible
  exact List.ne_nil_of_mem (mem_trimBlanks (even.mem_joinCells member inside found) visible)

theorem arrayContent?_arrayText (g : Grid String) :
    arrayContent? (arrayText g) = some (joinCells g.cellTexts) := by
  rw [arrayContent?, toList_arrayText, enclosed?_append_singleton]

theorem isLiteral_arrayText (g : Grid String) : isLiteral (arrayText g) := by
  simp [isLiteral, arrayContent?_arrayText]

/-- An array constant denotes what its pieces make. -/
theorem Value.ofConstant_arrayText (table : g.IsTable IsScalarLiteral) :
    ofConstant (arrayText g) = .ofLiteralRows (literalRows (joinCells g.cellTexts)) := by
  rw [ofConstant, arrayContent?_arrayText]
  exact if_neg (trimBlanks_joinCells_ne_nil table)

/-- The pieces of an array constant without separators in its texts are its cells. -/
theorem literalRows_of_isSeparatorFree (table : g.IsTable IsScalarLiteral)
    (free : g.IsSeparatorFree) :
    literalRows (joinCells g.cellTexts) = g.toRows.map (List.map .ofLiteral) := by
  have cells : cutCells (joinCells g.cellTexts) = g.cellTexts :=
    (areEven_cellTexts table).cutCells_joinCells ((not_mem_cellTexts_iff table).mpr free)
  rw [literalRows_eq_cutCells, cells, Grid.cellTexts, List.map_map]
  refine List.map_congr_left fun row member => ?_
  rw [Function.comp_apply, List.map_map]
  refine List.map_congr_left fun token inside => ?_
  have stands : token ∈ g.cells := table.toRows.2.2 ▸ List.mem_flatten_of_mem member inside
  rw [Function.comp_apply, ← trimText, (table.cells token stands).ofLiteral_trimText]

/-- An array constant denotes the table of its literals if no text in it has a separator. -/
theorem Value.ofConstant_of_isSeparatorFree (table : g.IsTable IsScalarLiteral)
    (free : g.IsSeparatorFree) : ofConstant (arrayText g) = .array (g.map ofLiteral) := by
  obtain ⟨count, widths, together⟩ := table.toRows
  have nonempty : g.toRows.map (List.map ofLiteral) ≠ [] := by
    rw [← List.length_pos_iff, List.length_map, count]
    exact table.rows
  have even : ∀ row ∈ g.toRows.map (List.map ofLiteral), row.length = g.columns :=
    List.forall_mem_map.mpr fun row member => (List.length_map ofLiteral).trans (widths row member)
  rw [ofConstant_arrayText table, literalRows_of_isSeparatorFree table free,
    ofLiteralRows_of_widths nonempty even, List.length_map, count, ← List.map_flatten, together,
    Grid.map]

/-- With a separator in one of its texts an array constant is ragged or denotes an array of another
shape. -/
theorem Value.ofConstant_of_not_isSeparatorFree (table : g.IsTable IsScalarLiteral)
    (broken : ¬ g.IsSeparatorFree) :
    ofConstant (arrayText g) = .error ⟨.value, some "Ragged array constant"⟩ ∨
      ∃ h : Grid Value, ofConstant (arrayText g) = .array h ∧
        ¬ (h.rows = g.rows ∧ h.columns = g.columns) := by
  have nonempty : literalRows (joinCells g.cellTexts) ≠ [] := by
    rw [literalRows]
    exact mt List.map_eq_nil_iff.mp (splitAtChar_ne_nil ';' _)
  rw [ofConstant_arrayText table]
  rcases ofLiteralRows_cases nonempty with ⟨width, widths, array⟩ | ragged
  · refine .inr ⟨_, array, fun same => broken ?_⟩
    obtain ⟨sameRows, rfl⟩ := same
    rw [literalRows_eq_cutCells] at widths sameRows
    rw [List.length_map] at sameRows
    refine (not_mem_cellTexts_iff table).mp ((areEven_cellTexts table).not_mem_of_shape
      (sameRows.trans (length_cellTexts table).symm) fun row member => ?_)
    exact (List.length_map _).symm.trans (List.forall_mem_map.mp widths row member)
  · exact .inl ragged

end Constants

/-- A leaf that is an array constant of scalar literals becomes a constant. Its value is the table
of what the literals denote, unless a comma or semicolon is in one of the quoted texts: the token is
cut there too, and its value then is an error or an array of another shape. -/
theorem Builder.make_arrayText (config : Config) (lambdas : List OpenLambda) (path : ScopeId)
    {t : ParseTree} {g : Grid String} (table : g.IsTable IsScalarLiteral) (leaf : t.isLeaf)
    (written : t.token = arrayText g) (free : parameterScope? lambdas t.token = none) :
    let b := Builder.standard config
    ∃ value, b.make lambdas path (b.classify lambdas t) t = .literal t.token value none ∧
      (g.IsSeparatorFree → value = .array (g.map .ofLiteral)) ∧
      (¬ g.IsSeparatorFree → value = .error ⟨.value, some "Ragged array constant"⟩ ∨
        ∃ h : Grid Value, value = .array h ∧ ¬ (h.rows = g.rows ∧ h.columns = g.columns)) := by
  have literal : isLiteral t.token := written ▸ isLiteral_arrayText g
  refine ⟨.ofConstant t.token, make_of_isLiteral config path literal leaf free, ?_, ?_⟩
  · rw [written]
    exact Value.ofConstant_of_isSeparatorFree table
  · rw [written]
    exact Value.ofConstant_of_not_isSeparatorFree table

/-- A number, a truth value, an error and a text with blanks, a quote and a brace in it. -/
theorem Builder.make_arrayText_quotes :
    let g : Grid String := ⟨2, 2, ["1e3", "true", " #n/a", "\" a\"\"\x7d \""]⟩
    g.IsTable IsScalarLiteral ∧
      (standard { unit := "book", sheet := "one" }).build (.leaf (arrayText g)) =
        .literal (arrayText g) (.array (g.map .ofLiteral)) none := by
  intro g
  have cells : ∀ token ∈ g.cells, IsScalarLiteral token := by
    simp only [g, List.forall_mem_cons]
    refine ⟨.number rfl, .truth (b := true) rfl, .error rfl, ?_, ?_⟩
    · exact .quoted (show _ = quotedToken " a\"\x7d " from rfl)
    · exact fun _ member => absurd member List.not_mem_nil
  have table : g.IsTable IsScalarLiteral := ⟨rfl, by decide, by decide, cells⟩
  have free : g.IsSeparatorFree := (isSeparatorFree_iff table).mpr (by decide)
  obtain ⟨value, made, denoted, -⟩ := make_arrayText { unit := "book", sheet := "one" } [] []
    (t := .leaf (arrayText g)) table rfl rfl rfl
  exact ⟨table, denoted free ▸ made⟩

/-- A text with a comma in it is cut into two. -/
theorem Builder.make_arrayText_comma :
    let g : Grid String := ⟨1, 1, ["\"a,b\""]⟩
    let halves : Value := .array ⟨1, 2, [.text "\"a", .text "b\""]⟩
    g.IsTable IsScalarLiteral ∧ arrayText g = "\x7b\"a,b\"\x7d" ∧
      (standard { unit := "book", sheet := "one" }).build (.leaf (arrayText g)) =
        .literal (arrayText g) halves none ∧
      Value.array (g.map .ofLiteral) = .array ⟨1, 1, [.text "a,b"]⟩ ∧
      halves ≠ .array (g.map .ofLiteral) := by
  intro g halves
  have cells : ∀ token ∈ g.cells, IsScalarLiteral token := by
    rintro token (_ | ⟨_, other⟩)
    · exact .quoted (show _ = quotedToken "a,b" from rfl)
    · cases other
  have table : g.IsTable IsScalarLiteral := ⟨rfl, by decide, by decide, cells⟩
  have written : arrayText g = "\x7b\"a,b\"\x7d" := by decide +kernel
  have denoted : Value.ofConstant (arrayText g) = halves := by
    rw [written]
    rfl
  refine ⟨table, written, ?_, rfl, ?_⟩
  · rw [← denoted]
    exact make_of_isLiteral _ [] (t := .leaf (arrayText g)) (isLiteral_arrayText g) rfl rfl
  · intro same
    cases congrArg Grid.columns (Value.array.inj same)

end Spreadsheet
