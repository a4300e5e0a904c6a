import Spreadsheet.Power

/-!
Wildcard patterns: `*` stands for any run of characters and `?` for exactly one. A tilde before
either makes it an ordinary character, and any other tilde is one itself. A match covers the whole
text, case included.
-/

namespace Spreadsheet

/-- One element of a pattern. -/
inductive WildcardToken where
  | literal (c : Char)
  | anyOne
  /-- Any run of characters, also an empty one. -/
  | anyRun
deriving DecidableEq, Repr

/-- The elements of a pattern, from left to right. -/
def wildcardTokens : List Char → List WildcardToken
  | '~' :: '*' :: rest => .literal '*' :: wildcardTokens rest
  | '~' :: '?' :: rest => .literal '?' :: wildcardTokens rest
  | '*' :: rest => .anyRun :: wildcardTokens rest
  | '?' :: rest => .anyOne :: wildcardTokens rest
  | c :: rest => .literal c :: wildcardTokens rest
  | [] => []

/-- Whether a text holds a character that patterns treat in a way of its own. -/
def isWildcardPattern (text : String) : Bool :=
  text.toList.any fun c => c = '*' || c = '?' || c = '~'

/-- For each suffix of a text, longest first, whether some suffix from there on is marked. -/
def anySuffix : List Bool → List Bool
  | [] => []
  | m :: rest =>
    let later := anySuffix rest
    (m || later.headD false) :: later

/-- For each suffix of a text, longest first and the empty one last, whether the elements match
it. -/
def matchedSuffixes (text : List Char) : List WildcardToken → List Bool
  | [] => .replicate text.length false ++ [true]
  | .literal c :: rest =>
    text.zipWith (fun x matched => x = c && matched) ((matchedSuffixes text rest).drop 1) ++ [false]
  | .anyOne :: rest => (matchedSuffixes text rest).drop 1 ++ [false]
  | .anyRun :: rest => anySuffix (matchedSuffixes text rest)

/-- Whether the elements match the whole text. -/
def matchesTokens (tokens : List WildcardToken) (text : List Char) : Bool :=
  (matchedSuffixes text tokens).headD false

/-- Characters that a regular expression writes with a backslash. -/
def regexSpecials : List Char :=
  ['\\', '.', '+', '*', '?', '(', ')', '|', '[', ']', '\x7b', '\x7d', '^', '$', '#', '&', '-', '~']

def WildcardToken.toRegex : WildcardToken → List Char
  | .literal c => if c ∈ regexSpecials then ['\\', c] else [c]
  | .anyOne => ['.']
  | .anyRun => ['.', '*']

/-- The pattern as an anchored regular expression whose dot also matches line ends. -/
def wildcardRegex (pattern : String) : String :=
  "^(?s:" ++ .ofList ((wildcardTokens pattern.toList).flatMap WildcardToken.toRegex) ++ ")$"

/-- The size of the matching program for one element, in bytes: a state for each byte of a
character, or an automaton over the encodings of all characters. -/
def WildcardToken.programSize : WildcardToken → Nat
  | .literal c => 32 * c.utf8Size
  | .anyOne => 964
  | .anyRun => 1004

/-- Whether the matching program for a pattern stays within its limit of ten megabytes. A larger
one is refused. -/
def isCompilable (pattern : String) : Bool :=
  (wildcardTokens pattern.toList).foldl (· + ·.programSize) 176 ≤ 10 * 2 ^ 20

/-- Whether a pattern matches a text; one that is refused matches nothing. -/
def wildcardMatches (pattern text : String) : Bool :=
  isCompilable pattern && matchesTokens (wildcardTokens pattern.toList) text.toList

end Spreadsheet
