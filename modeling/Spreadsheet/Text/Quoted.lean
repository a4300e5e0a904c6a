/-!
Text between quotes, in which a quote is written twice.
-/

namespace Spreadsheet

/-- The content with every quote doubled. -/
def doubleQuotes (quote : Char) : List Char → List Char
  | [] => []
  | c :: rest =>
    if c = quote then quote :: quote :: doubleQuotes quote rest else c :: doubleQuotes quote rest

/-- The content with every two adjacent quotes made one. -/
def halveQuotes (quote : Char) : List Char → List Char
  | c :: d :: rest =>
    if c = quote ∧ d = quote then quote :: halveQuotes quote rest
    else c :: halveQuotes quote (d :: rest)
  | chars => chars

/-- The text between an opening and a closing character; a single character is not both. -/
def enclosed? (opening closing : Char) : List Char → Option (List Char)
  | [] => none
  | c :: rest => if c = opening ∧ rest.getLast? = some closing then some rest.dropLast else none

def unquote? (quote : Char) (chars : List Char) : Option (List Char) :=
  (enclosed? quote quote chars).map (halveQuotes quote)

section Quotes

variable {quote : Char} {chars : List Char}

theorem halveQuotes_cons_of_ne {c : Char} (other : c ≠ quote) :
    halveQuotes quote (c :: chars) = c :: halveQuotes quote chars := by
  cases chars with
  | nil => rfl
  | cons d rest => rw [halveQuotes, if_neg fun both => other both.1]

/-- Halving undoes doubling, also where quotes follow one another. -/
theorem halveQuotes_doubleQuotes : halveQuotes quote (doubleQuotes quote chars) = chars := by
  induction chars with
  | nil => rfl
  | cons c rest ih =>
    rw [doubleQuotes]
    split
    · rename_i same
      rw [halveQuotes, if_pos ⟨rfl, rfl⟩, ih, same]
    · rename_i other
      rw [halveQuotes_cons_of_ne other, ih]

theorem enclosed?_append_singleton {opening closing : Char} :
    enclosed? opening closing (opening :: (chars ++ [closing])) = some chars := by
  rw [enclosed?, if_pos ⟨rfl, List.getLast?_concat⟩, List.dropLast_concat]

/-- A content between quotes, with its own quotes doubled, is read back. -/
theorem unquote?_doubleQuotes :
    unquote? quote (quote :: (doubleQuotes quote chars ++ [quote])) = some chars := by
  rw [unquote?, enclosed?_append_singleton, Option.map_some, halveQuotes_doubleQuotes]

end Quotes

end Spreadsheet
