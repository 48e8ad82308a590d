import DetectorDashboard.Text.Digits

/-!
The tokens of a JSON text: brackets, commas, colons, strings and words. A string is held as its
pieces, so that an escaped unit is told from a character; a word is any run of characters that
neither separate nor quote. Reading takes one character at a time, and a token has one written
form.
-/

namespace DetectorDashboard.Json

/-- A piece of a string: a character, or the UTF-16 unit that a `\u` escape spells. -/
inductive Piece
  | char (c : Char)
  | unit (n : Nat)
deriving DecidableEq

inductive Token
  | openArray
  | closeArray
  | openObject
  | closeObject
  | comma
  | colon
  | text (pieces : List Piece)
  | word (letters : List Char)
deriving DecidableEq

/-- What is being read. What has been read of it stands last first. -/
inductive Scan
  | between
  | word (letters : List Char)
  | text (pieces : List Piece)
  | escape (pieces : List Piece)
  /-- Inside an escaped unit, with `owed` more digits due after the next one. -/
  | unit (pieces : List Piece) (owed value : Nat)
deriving DecidableEq

/-- The tokens read so far, last first, and the place reached. -/
structure Lexer where
  tokens : List Token
  scan : Scan

namespace Token

def isSpace (c : Char) : Bool :=
  c = ' ' || c = '\t' || c = '\n' || c = '\r'

def punctuation? : Char → Option Token
  | '[' => some .openArray
  | ']' => some .closeArray
  | '\x7b' => some .openObject
  | '\x7d' => some .closeObject
  | ',' => some .comma
  | ':' => some .colon
  | _ => none

/-- Whether a character ends the word before it. -/
def isSeparator (c : Char) : Bool :=
  isSpace c || c = '"' || (punctuation? c).isSome

/-- The character that a backslash and this letter stand for. -/
def escaped? : Char → Option Char
  | '"' => some '"'
  | '\\' => some '\\'
  | '/' => some '/'
  | 'b' => some '\x08'
  | 'f' => some '\x0c'
  | 'n' => some '\n'
  | 'r' => some '\r'
  | 't' => some '\t'
  | _ => none

end Token

namespace Lexer

/-- A character where a token may start. -/
def start (tokens : List Token) (c : Char) : Lexer :=
  if Token.isSpace c then ⟨tokens, .between⟩
  else if c = '"' then ⟨tokens, .text []⟩
  else match Token.punctuation? c with
    | some t => ⟨t :: tokens, .between⟩
    | none => ⟨tokens, .word [c]⟩

def step (l : Lexer) (c : Char) : Option Lexer :=
  match l.scan with
  | .between => some (start l.tokens c)
  | .word letters =>
    if Token.isSeparator c then some (start (.word letters.reverse :: l.tokens) c)
    else some ⟨l.tokens, .word (c :: letters)⟩
  | .text pieces =>
    if c = '"' then some ⟨.text pieces.reverse :: l.tokens, .between⟩
    else if c = '\\' then some ⟨l.tokens, .escape pieces⟩
    else if c < ' ' then none
    else some ⟨l.tokens, .text (.char c :: pieces)⟩
  | .escape pieces =>
    if c = 'u' then some ⟨l.tokens, .unit pieces 3 0⟩
    else (Token.escaped? c).map fun e => ⟨l.tokens, .text (.char e :: pieces)⟩
  | .unit pieces owed value =>
    (Text.hexValue? c).map fun digit =>
      let value := value * 16 + digit
      match owed with
      | 0 => ⟨l.tokens, .text (.unit value :: pieces)⟩
      | owed + 1 => ⟨l.tokens, .unit pieces owed value⟩

def finish? (l : Lexer) : Option (List Token) :=
  match l.scan with
  | .between => some l.tokens.reverse
  | .word letters => some (Token.word letters.reverse :: l.tokens).reverse
  | _ => none

end Lexer

namespace Token

/-- The tokens of a text. -/
def scan? (cs : List Char) : Option (List Token) :=
  (cs.foldlM Lexer.step ⟨[], .between⟩).bind Lexer.finish?

/-- Of the escapes with a letter, those that are written. -/
def escapeLetter? : Char → Option Char
  | '"' => some '"'
  | '\\' => some '\\'
  | '\x08' => some 'b'
  | '\x0c' => some 'f'
  | '\n' => some 'n'
  | '\r' => some 'r'
  | '\t' => some 't'
  | _ => none

def pieceChars : Piece → List Char
  | .char c =>
    match escapeLetter? c with
    | some letter => ['\\', letter]
    | none => [c]
  | .unit n => '\\' :: 'u' :: Text.hexDigits 4 n

/-- The written form of a token. -/
def chars : Token → List Char
  | .openArray => ['[']
  | .closeArray => [']']
  | .openObject => ['\x7b']
  | .closeObject => ['\x7d']
  | .comma => [',']
  | .colon => [':']
  | .text pieces => '"' :: (pieces.flatMap pieceChars ++ ['"'])
  | .word letters => letters

end Token

end DetectorDashboard.Json
