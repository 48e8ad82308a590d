import DetectorDashboard.Json.Basic

/-!
The compact text of a JSON value: its tokens without space between them. Quotes, backslashes and
control characters are escaped and nothing else is.
-/

namespace DetectorDashboard.Json

/-- A control character without an escape letter of its own is written as a unit. -/
def piece (c : Char) : Piece :=
  if c < ' ' ∧ (Token.escapeLetter? c).isNone then .unit c.toNat else .char c

def textToken (s : String) : Token :=
  .text (s.toList.map piece)

mutual

def tokens : Json → List Token
  | .null => [.word "null".toList]
  | .bool true => [.word "true".toList]
  | .bool false => [.word "false".toList]
  | .number n => [.word n.chars]
  | .string s => [textToken s]
  | .array items => .openArray :: itemTokens items ++ [.closeArray]
  | .object members => .openObject :: memberTokens members ++ [.closeObject]

def itemTokens : List Json → List Token
  | [] => []
  | v :: rest => tokens v ++ laterItemTokens rest

/-- The tokens of items that follow another one. -/
def laterItemTokens : List Json → List Token
  | [] => []
  | v :: rest => .comma :: tokens v ++ laterItemTokens rest

def memberTokens : List (String × Json) → List Token
  | [] => []
  | (key, v) :: rest => textToken key :: .colon :: tokens v ++ laterMemberTokens rest

/-- The tokens of members that follow another one. -/
def laterMemberTokens : List (String × Json) → List Token
  | [] => []
  | (key, v) :: rest =>
    .comma :: textToken key :: .colon :: tokens v ++ laterMemberTokens rest

end

def chars (v : Json) : List Char :=
  v.tokens.flatMap Token.chars

def text (v : Json) : String :=
  String.ofList v.chars

end DetectorDashboard.Json
