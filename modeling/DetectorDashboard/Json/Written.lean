import DetectorDashboard.Json.Token
import DetectorDashboard.Decimal.Spelling

/-!
A JSON text as it is written: the tree that its tokens spell, in which numbers are still spellings
and strings still pieces, and nothing has been said about repeated keys, large numbers or depth.
Tokens are read one at a time against a stack of the arrays and objects that are still open.
-/

namespace DetectorDashboard.Json

inductive Written
  | null
  | bool (b : Bool)
  | number (spelling : Spelling)
  | text (pieces : List Piece)
  | array (items : List Written)
  | object (members : List (List Piece × Written))

/-- An array or object that is still open: what it holds so far, last first, and for an object the
key whose value comes next. -/
inductive Frame
  | array (items : List Written)
  | object (members : List (List Piece × Written)) (key : List Piece)

/-- What has to come next. -/
inductive Reader
  | value (frames : List Frame)
  /-- The first item of an array, or its end. -/
  | firstItem (frames : List Frame)
  /-- The first key of an object, or its end. -/
  | firstKey (frames : List Frame)
  | key (frames : List Frame) (members : List (List Piece × Written))
  | colon (frames : List Frame) (members : List (List Piece × Written)) (key : List Piece)
  /-- Whatever may follow a value. -/
  | after (value : Written) (frames : List Frame)

namespace Written

/-- A number has no plus sign, no zero before another digit, and digits wherever a part is
present. -/
def isNumber (s : Spelling) : Bool :=
  s.sign ≠ some '+' && s.whole ≠ [] && (s.whole = ['0'] || s.whole.head? ≠ some '0')
    && s.fraction ≠ some []

def ofWord? (letters : List Char) : Option Written :=
  if letters = ['n', 'u', 'l', 'l'] then some .null
  else if letters = ['t', 'r', 'u', 'e'] then some (.bool true)
  else if letters = ['f', 'a', 'l', 's', 'e'] then some (.bool false)
  else ((Spelling.read? letters).filter isNumber).map .number

end Written

namespace Reader

def onValue (frames : List Frame) : Token → Option Reader
  | .word letters => (Written.ofWord? letters).map (.after · frames)
  | .text pieces => some (.after (.text pieces) frames)
  | .openArray => some (.firstItem frames)
  | .openObject => some (.firstKey frames)
  | _ => none

def onKey (frames : List Frame) (members : List (List Piece × Written)) : Token → Option Reader
  | .text pieces => some (.colon frames members pieces)
  | _ => none

def step : Reader → Token → Option Reader
  | .value frames, t => onValue frames t
  | .firstItem frames, .closeArray => some (.after (.array []) frames)
  | .firstItem frames, t => onValue (.array [] :: frames) t
  | .firstKey frames, .closeObject => some (.after (.object []) frames)
  | .firstKey frames, t => onKey frames [] t
  | .key frames members, t => onKey frames members t
  | .colon frames members k, .colon => some (.value (.object members k :: frames))
  | .after v (.array items :: frames), .comma => some (.value (.array (v :: items) :: frames))
  | .after v (.array items :: frames), .closeArray =>
    some (.after (.array (v :: items).reverse) frames)
  | .after v (.object members k :: frames), .comma => some (.key frames ((k, v) :: members))
  | .after v (.object members k :: frames), .closeObject =>
    some (.after (.object ((k, v) :: members).reverse) frames)
  | _, _ => none

def finish? : Reader → Option Written
  | .after v [] => some v
  | _ => none

end Reader

namespace Written

def ofTokens? (tokens : List Token) : Option Written :=
  (tokens.foldlM Reader.step (.value [])).bind Reader.finish?

def read? (cs : List Char) : Option Written :=
  (Token.scan? cs).bind ofTokens?

end Written

namespace Piece

def isHigh (n : Nat) : Bool :=
  0xD800 ≤ n && n < 0xDC00

def isLow (n : Nat) : Bool :=
  0xDC00 ≤ n && n < 0xE000

/-- The characters of a string. A unit of a surrogate pair has to stand in a pair. -/
def decode? {α : Type} (raw escaped : Char → α) : List Piece → Option (List α)
  | [] => some []
  | .char c :: rest => (decode? raw escaped rest).map (raw c :: ·)
  | .unit n :: rest =>
    if isHigh n then
      match rest with
      | .unit m :: rest =>
        if isLow m then
          let c := Char.ofNat (0x10000 + (n - 0xD800) * 0x400 + (m - 0xDC00))
          (decode? raw escaped rest).map (escaped c :: ·)
        else none
      | _ => none
    else if isLow n then none
    else (decode? raw escaped rest).map (escaped (Char.ofNat n) :: ·)

def text? (pieces : List Piece) : Option String :=
  (decode? id id pieces).map String.ofList

end Piece

end DetectorDashboard.Json
