import DetectorDashboard.Toml.Scalar

/-!
The grammar of TOML documents. A reader takes what it reads off the front of a text, or fails; a
document is read when nothing is left of it.
-/

namespace DetectorDashboard.Toml

abbrev Reader := StateT (List Char) Option

namespace Reader

def anyChar : Reader Char := fun cs =>
  match cs with
  | [] => none
  | c :: rest => some (c, rest)

def satisfy (p : Char → Bool) : Reader Char := do
  let c ← anyChar
  if p c then return c else failure

def char (c : Char) : Reader Unit := do
  let _ ← satisfy (· = c)

def word (s : String) : Reader Unit :=
  s.toList.forM char

def takeWhile (p : Char → Bool) : Reader (List Char) := fun cs =>
  some (cs.takeWhile p, cs.dropWhile p)

def optional {α : Type} (r : Reader α) : Reader (Option α) :=
  (some <$> r) <|> pure none

/-- Reads up to `bound` times, as long as it succeeds. -/
def upTo {α : Type} (bound : Nat) (r : Reader α) : Reader (List α) :=
  match bound with
  | 0 => pure []
  | bound + 1 => do
    match ← optional r with
    | none => return []
    | some x => return x :: (← upTo bound r)

/-- Reads as often as it succeeds. Each time takes a character, so the length of the text is bound
enough. -/
def many {α : Type} (r : Reader α) : Reader (List α) := fun cs =>
  upTo cs.length r cs

def separated {α : Type} (separator : Reader Unit) (r : Reader α) : Reader (List α) := do
  let first ← r
  let rest ← many (do separator; r)
  return first :: rest

/-! Blanks, line ends and comments. -/

def blanks : Reader Unit := do
  let _ ← takeWhile fun c => c = ' ' || c = '\t'

def lineEnd : Reader Unit :=
  char '\n' <|> word "\r\n"

/-- No control character but the tab stands in a text. -/
def isText (c : Char) : Bool :=
  c = '\t' || (' ' ≤ c && c ≠ '\x7f')

def comment : Reader Unit := do
  char '#'
  let _ ← takeWhile isText

/-- Whatever may stand between the items of an array. -/
def space : Reader Unit := do
  let _ ← many (lineEnd <|> comment <|> do let _ ← satisfy fun c => c = ' ' || c = '\t')

/-! Strings. -/

def hexNumber (digits : Nat) : Reader Char := do
  let cs ← (List.range digits).mapM fun _ => satisfy Node.isHexDigit
  let n := (cs.filterMap Text.hexValue?).foldl (fun n d => n * 16 + d) 0
  if n.isValidChar then return Char.ofNat n else failure

def escaped : Reader Char := do
  char '\\'
  match ← anyChar with
  | 'b' => return '\x08'
  | 't' => return '\t'
  | 'n' => return '\n'
  | 'f' => return '\x0c'
  | 'r' => return '\r'
  | '"' => return '"'
  | '\\' => return '\\'
  | 'u' => hexNumber 4
  | 'U' => hexNumber 8
  | _ => failure

def basicChar : Reader Char :=
  satisfy (fun c => isText c && c ≠ '"' && c ≠ '\\') <|> escaped

def literalChar : Reader Char :=
  satisfy fun c => isText c && c ≠ '\''

/-- A line end inside a string counts as a line feed. -/
def lineFeed : Reader Char := do
  lineEnd
  return '\n'

/-- A backslash at the end of a line takes with it all space up to the next text. -/
def continuation : Reader Unit := do
  char '\\'
  blanks
  lineEnd
  let _ ← many (lineEnd <|> do let _ ← satisfy fun c => c = ' ' || c = '\t')

/-- Up to two quotes that do not close a string of several lines. -/
def innerQuotes (quote : Char) : Reader (List Char) := fun cs =>
  let quotes := cs.takeWhile (· = quote)
  if 1 ≤ quotes.length ∧ quotes.length ≤ 2 then some (quotes, cs.drop quotes.length) else none

/-- The three quotes that close a string of several lines, and up to two before them. -/
def closingQuotes (quote : Char) : Reader (List Char) := fun cs =>
  let quotes := cs.takeWhile (· = quote)
  let inside := min 2 (quotes.length - 3)
  if 3 ≤ quotes.length then some (quotes.take inside, cs.drop (inside + 3)) else none

/-- A string of several lines; a line end right after the opening quotes does not count. -/
def lines (quote : Char) (content : Reader (List Char)) : Reader String := do
  word (String.ofList [quote, quote, quote])
  let _ ← optional lineEnd
  let pieces ← many (content <|> innerQuotes quote)
  let last ← closingQuotes quote
  return String.ofList (pieces.flatten ++ last)

def basicLines : Reader String :=
  lines '"' (List.singleton <$> (basicChar <|> lineFeed) <|> do continuation; return [])

def literalLines : Reader String :=
  lines '\'' (List.singleton <$> (literalChar <|> lineFeed))

def basicString : Reader String := do
  char '"'
  let cs ← many basicChar
  char '"'
  return String.ofList cs

def literalString : Reader String := do
  char '\''
  let cs ← many literalChar
  char '\''
  return String.ofList cs

def string : Reader String :=
  basicLines <|> literalLines <|> basicString <|> literalString

/-! Keys. -/

def isBare (c : Char) : Bool :=
  c.isAlphanum || c = '_' || c = '-'

def bareKey : Reader String := do
  let cs ← takeWhile isBare
  if cs = [] then failure else return String.ofList cs

def simpleKey : Reader String :=
  basicString <|> literalString <|> bareKey

/-- How deep values may be nested, and how many parts a key may have. -/
def depthLimit : Nat := 79

/-- The tables that a dotted key passes through, and the key in the last of them. -/
def key : Reader (List String × String) := do
  let first ← (do blanks; let k ← simpleKey; blanks; return k)
  let rest ← many (do char '.'; blanks; let k ← simpleKey; blanks; return k)
  if depthLimit < rest.length + 1 then failure
  else return ((first :: rest).dropLast, (first :: rest).getLastD first)

/-! Values. -/

/-- The characters of words, and those that a date has. -/
def isWordChar (c : Char) : Bool :=
  isBare c || c = '+' || c = '.' || c = ':'

def isDate (cs : List Char) : Bool :=
  match Datetime.date? cs with
  | some (_, []) => true
  | _ => false

/-- A time may follow a date after a space. -/
def timeAfter (date : List Char) : Reader (List Char) := do
  char ' '
  let time ← takeWhile isWordChar
  if isDate date && time ≠ [] then return date ++ ' ' :: time else failure

def scalar : Reader Node := do
  let first ← takeWhile isWordChar
  let whole ← timeAfter first <|> pure first
  match Node.ofWord? whole with
  | some v => return v
  | none => failure

/-- Items between commas; one more comma may follow the last. -/
def array (item : Reader Node) : Reader Node := do
  char '['
  space
  let items ← optional (separated (char ',') (do space; let v ← item; space; return v))
  if items.isSome then
    let _ ← optional (char ',')
  space
  char ']'
  return .array (items.getD [])

def assignment (value : Reader Node) : Reader (List String × String × Node) := do
  let (path, k) ← key
  char '='
  blanks
  let v ← value
  return (path, k, v)

/-- A table on one line, without a comma after its last entry. -/
def inlineTable (value : Reader Node) : Reader Node := do
  char '\x7b'
  blanks
  let given ← optional (separated (char ',') (do let a ← assignment value; blanks; return a))
  blanks
  char '\x7d'
  match (given.getD []).foldlM (fun es (path, k, v) => Entries.assign path k v .inline es) [] with
  | some entries => return .table .inline entries
  | none => failure

def value : Nat → Reader Node
  | 0 => Node.string <$> string <|> scalar
  | depth + 1 =>
    Node.string <$> string <|> array (value depth) <|> inlineTable (value depth) <|> scalar

end Reader

/-- A line of a document that says something. -/
inductive Statement
  | table (path : List String) (key : String)
  | row (path : List String) (key : String)
  | assignment (path : List String) (key : String) (node : Node)

namespace Reader

def header : Reader Statement := do
  char '['
  let (path, k) ← key
  char ']'
  return .table path k

def rowHeader : Reader Statement := do
  word "[["
  let (path, k) ← key
  word "]]"
  return .row path k

def statement : Reader Statement :=
  rowHeader <|> header <|> do
    let (path, k, v) ← assignment (value depthLimit)
    return .assignment path k v

def line : Reader (Option Statement) := do
  blanks
  let s ← optional statement
  blanks
  let _ ← optional comment
  return s

def document : Reader (List Statement) := do
  let _ ← optional (char '\uFEFF')
  let statements ← separated lineEnd line
  return statements.filterMap id

end Reader

/-- What has been read of a document, and the table that assignments add to, unless it is the whole
document. -/
structure Draft where
  entries : Entries := []
  current : Option (List String × String) := none

namespace Draft

/-- Adds an assignment to the current table. -/
def assign (d : Draft) (path : List String) (key : String) (node : Node) : Option Entries :=
  match d.current with
  | none => d.entries.assign path key node .header
  | some (tablePath, tableKey) =>
    let change (origin : Origin) (entries : Entries) := entries.assign path key node origin
    Entries.descend false change (tablePath ++ [tableKey]) .header d.entries

def add (d : Draft) : Statement → Option Draft
  | .table path key =>
    (d.entries.openTable path key).map fun entries => ⟨entries, some (path, key)⟩
  | .row path key => (d.entries.openRow path key).map fun entries => ⟨entries, some (path, key)⟩
  | .assignment path key node =>
    (d.assign path key node).map fun entries => { d with entries := entries }

end Draft

/-- The entries of a document. -/
def read? (cs : List Char) : Option Entries := do
  let (statements, rest) ← Reader.document.run cs
  if rest = [] then
    let draft ← statements.foldlM Draft.add ({} : Draft)
    some draft.entries
  else none

end DetectorDashboard.Toml
