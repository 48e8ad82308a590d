import DetectorDashboard.ControlServer.Host

/-!
Addresses on the web: the host to connect to, and the target that is sent to it, which is the part
of the address after the host, without its fragment. Dot segments are resolved, a backslash counts
as a slash, and what may not stand in a target is written as percent escapes.
-/

namespace DetectorDashboard.ControlServer

/-- Without a port the one of the scheme is meant. -/
structure Address where
  host : Host
  port : Option Nat
  target : String
deriving DecidableEq

namespace Address

def isRemoved (c : Char) : Bool :=
  c = '\t' || c = '\n' || c = '\r'

/-- The text without the blanks and controls at its two ends and without tabs and line breaks. -/
def cleaned (url : String) : List Char :=
  let tail := url.toList.dropWhile (· ≤ ' ')
  ((tail.reverse.dropWhile (· ≤ ' ')).reverse).filter fun c => !isRemoved c

def isSlash (c : Char) : Bool :=
  c = '/' || c = '\\'

/-! The target. -/

def isPlain (c : Char) : Bool :=
  ' ' < c && c < '\x7f'

def keptInPath (c : Char) : Bool :=
  isPlain c && c ∉ ['"', '#', '<', '>', '?', '`', '\x7b', '\x7d']

def keptInQuery (c : Char) : Bool :=
  isPlain c && c ∉ ['"', '#', '<', '>', '\'']

/-- A segment with the escapes of its dots resolved. -/
def undotted : List Char → List Char
  | '%' :: '2' :: 'e' :: rest => '.' :: undotted rest
  | '%' :: '2' :: 'E' :: rest => '.' :: undotted rest
  | c :: rest => c :: undotted rest
  | [] => []

/-- A letter before a colon or a bar names a drive. -/
def isDrive : List Char → Bool
  | [letter, mark] => letter.isAlpha && (mark = ':' || mark = '|')
  | _ => false

/-- The segments, last first, with the last one taken back; a drive is not left. -/
def takenBack : List (List Char) → List (List Char)
  | [] => []
  | s :: before => if isDrive s then s :: before else before

/-- The segments without those that stand for their own place or for the one above. The segments
before them are given last first; a path that ends in one of the two ends in a slash. -/
def resolved (before : List (List Char)) : List (List Char) → List (List Char)
  | [] => before.reverse
  | s :: rest =>
    let here := undotted s = ['.']
    let above := undotted s = ['.', '.']
    let kept := if above then takenBack before else if here then before else s :: before
    if (here ∨ above) ∧ rest = [] then ([] :: kept).reverse else resolved kept rest

def pathTarget (path : List Char) : List Char :=
  (resolved [] (Text.pieces isSlash (path.drop 1))).flatMap fun s =>
    '/' :: Text.Percent.encode keptInPath s

/-- The query with its question mark, or nothing. -/
def queryTarget (query : List Char) : List Char :=
  match query with
  | [] => []
  | mark :: rest => mark :: Text.Percent.encode keptInQuery rest

/-- The target for the part of an address after the host. -/
def targetOf (rest : List Char) : String :=
  let part := rest.takeWhile (· ≠ '#')
  let path := part.takeWhile (· ≠ '?')
  let query := part.dropWhile (· ≠ '?')
  String.ofList (pathTarget path ++ queryTarget query)

/-! The host and its port. -/

def endsAuthority (c : Char) : Bool :=
  isSlash c || c = '?' || c = '#'

/-- What follows the last `@`; a user name may stand before it. -/
def withoutUser (authority : List Char) : List Char :=
  (authority.reverse.takeWhile (· ≠ '@')).reverse

/-- The port after its colon, which may be left out, as may its digits. -/
def port? : List Char → Option (Option Nat)
  | [] => some none
  | [':'] => some none
  | ':' :: digits => ((Text.readDigits? digits).filter (· < UInt16.size)).map some
  | _ => none

/-- What follows the scheme of an address, if it is one that the server speaks. -/
def afterScheme? (cs : List Char) : Option (List Char) :=
  match cs.dropWhile (· ≠ ':') with
  | [] => none
  | _ :: rest =>
    let scheme := String.ofList ((cs.takeWhile (· ≠ ':')).map Char.toLower)
    if scheme = "http" ∨ scheme = "https" then some rest else none

def read? (url : String) : Option Address := do
  let rest := (← afterScheme? (cleaned url)).dropWhile isSlash
  let authority := withoutUser (rest.takeWhile fun c => !endsAuthority c)
  let host ← Host.read? (authority.takeWhile (· ≠ ':'))
  let port ← port? (authority.dropWhile (· ≠ ':'))
  some ⟨host, port, targetOf (rest.dropWhile fun c => !endsAuthority c)⟩

end Address

end DetectorDashboard.ControlServer
