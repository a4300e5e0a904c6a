import Spreadsheet.Json.Basic

/-!
JSON documents as text. The reader keeps the last of several entries of an object that have one
key; the writer puts no blanks between tokens and writes a double by the shortest decimal that reads
back.
-/

namespace Spreadsheet

/-! ## Strings -/

def hexDigit? (c : Char) : Option Nat :=
  if c.isDigit then some (c.toNat - '0'.toNat)
  else if 'a' ≤ c ∧ c ≤ 'f' then some (c.toNat - 'a'.toNat + 10)
  else if 'A' ≤ c ∧ c ≤ 'F' then some (c.toNat - 'A'.toNat + 10)
  else none

def hexNat? (digits : List Char) : Option Nat :=
  digits.foldlM (fun n c => (hexDigit? c).map (16 * n + ·)) 0

def surrogatePair? (high low : Nat) : Option Char :=
  if 0xd800 ≤ high ∧ high < 0xdc00 ∧ 0xdc00 ≤ low ∧ low < 0xe000 then
    some (Char.ofNat (0x10000 + 0x400 * (high - 0xd800) + (low - 0xdc00)))
  else none

/-- The character that a letter after a backslash stands for. -/
def unescapeChar? : Char → Option Char
  | 'n' => some '\n'
  | 't' => some '\t'
  | 'r' => some '\r'
  | 'b' => some '\x08'
  | 'f' => some '\x0c'
  | c => if c = '"' ∨ c = '\\' ∨ c = '/' then some c else none

/-- The content of a string up to its closing quote, and what follows that. -/
def readString? : List Char → Option (List Char × List Char)
  | [] => none
  | '"' :: rest => some ([], rest)
  | '\\' :: 'u' :: a :: b :: c :: d :: rest => do
    let unit ← hexNat? [a, b, c, d]
    if unit < 0xd800 ∨ 0xe000 ≤ unit then
      let (content, after) ← readString? rest
      return (Char.ofNat unit :: content, after)
    else
      match rest with
      | '\\' :: 'u' :: a :: b :: c :: d :: rest =>
        let pair ← surrogatePair? unit (← hexNat? [a, b, c, d])
        let (content, after) ← readString? rest
        return (pair :: content, after)
      | _ => none
  | '\\' :: c :: rest => do
    let plain ← unescapeChar? c
    let (content, after) ← readString? rest
    return (plain :: content, after)
  | c :: rest => do
    let (content, after) ← readString? rest
    return (c :: content, after)

def jsonChar (c : Char) : List Char :=
  if c = '"' ∨ c = '\\' then ['\\', c]
  else if c.toNat < 0x20 then
    "\\u00".toList ++ (if c.toNat < 0x10 then ['0'] else []) ++ Nat.toDigits 16 c.toNat
  else [c]

def jsonString (s : String) : String :=
  .ofList ('"' :: (s.toList.flatMap jsonChar ++ ['"']))

/-! ## Documents -/

/-- The text from its first character that is not blank. -/
def skipBlanks (chars : List Char) : List Char :=
  chars.dropWhile fun c => c = ' ' ∨ c = '\t' ∨ c = '\n' ∨ c = '\r'

def isNumeralChar (c : Char) : Bool :=
  c.isDigit || c = '-' || c = '+' || c = '.' || c = 'e' || c = 'E'

mutual

/-- A document, and what follows it. Every step takes a character, so their number is bounded. -/
def readJson? : Nat → List Char → Option (Json × List Char)
  | 0, _ => none
  | steps + 1, chars =>
    match skipBlanks chars with
    | '"' :: rest => (readString? rest).map fun (s, after) => (.str (.ofList s), after)
    | '[' :: rest =>
      match skipBlanks rest with
      | ']' :: after => some (.arr [], after)
      | _ => (readItems? steps rest).map fun (items, after) => (.arr items, after)
    | '\x7b' :: rest =>
      match skipBlanks rest with
      | '\x7d' :: after => some (.obj [], after)
      | _ => (readFields? steps rest).map fun (fields, after) => (.obj fields, after)
    | 't' :: 'r' :: 'u' :: 'e' :: after => some (.bool true, after)
    | 'f' :: 'a' :: 'l' :: 's' :: 'e' :: after => some (.bool false, after)
    | 'n' :: 'u' :: 'l' :: 'l' :: after => some (.null, after)
    | rest =>
      (Json.ofNumeral? (rest.takeWhile isNumeralChar)).map fun n =>
        (n, rest.dropWhile isNumeralChar)

/-- The items of a list up to its end, and what follows that. -/
def readItems? : Nat → List Char → Option (List Json × List Char)
  | 0, _ => none
  | steps + 1, chars => do
    let (item, after) ← readJson? steps chars
    match skipBlanks after with
    | ',' :: rest =>
      let (items, after) ← readItems? steps rest
      return (item :: items, after)
    | ']' :: after => return ([item], after)
    | _ => none

/-- The entries of an object up to its end, and what follows that. -/
def readFields? : Nat → List Char → Option (List (String × Json) × List Char)
  | 0, _ => none
  | steps + 1, chars => do
    let (key, after) ←
      match skipBlanks chars with
      | '"' :: rest => readString? rest
      | _ => none
    let key := String.ofList key
    match skipBlanks after with
    | ':' :: rest =>
      let (content, after) ← readJson? steps rest
      match skipBlanks after with
      | ',' :: rest =>
        let (fields, after) ← readFields? steps rest
        let earlier := if (fields.lookup key).isSome then [] else [(key, content)]
        return (earlier ++ fields, after)
      | '\x7d' :: after => return ([(key, content)], after)
      | _ => none
    | _ => none

end

/-- The document that a text denotes, with nothing but blanks after it. -/
def Json.ofText? (text : String) : Option Json :=
  match readJson? (text.length + 1) text.toList with
  | some (j, after) => if skipBlanks after = [] then some j else none
  | none => none

/-- The text of a double; one that is not finite has none. -/
def binary64Text : Binary64 → String
  | .finite neg sig exp =>
    let chars := (Decimal.ofDouble neg sig exp).toChars
    .ofList ((if neg ∧ sig = 0 then ['-'] else []) ++ chars
      ++ (if '.' ∈ chars then [] else ['.', '0']))
  | _ => "null"

mutual

def Json.toText : Json → String
  | .null => "null"
  | .bool b => if b then "true" else "false"
  | .int n => toString n
  | .float x => binary64Text x
  | .str s => jsonString s
  | .arr items => "[" ++ ",".intercalate (Json.itemTexts items) ++ "]"
  | .obj fields => "\x7b" ++ ",".intercalate (Json.fieldTexts fields) ++ "\x7d"

def Json.itemTexts : List Json → List String
  | [] => []
  | item :: rest => Json.toText item :: Json.itemTexts rest

def Json.fieldTexts : List (String × Json) → List String
  | [] => []
  | (key, content) :: rest => (jsonString key ++ ":" ++ Json.toText content) :: Json.fieldTexts rest

end

end Spreadsheet
