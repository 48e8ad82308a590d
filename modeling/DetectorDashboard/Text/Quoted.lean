import DetectorDashboard.Text.CharacterClass
import DetectorDashboard.Text.Digits

/-!
A text quoted inside a message: in double quotes, with what could not be told apart on a screen
written as an escape. The single quote stays as it is.
-/

namespace DetectorDashboard.Text

/-- The written form of one character of a quoted text. -/
def quotedChar (c : Char) : List Char :=
  if c = '\x00' then ['\\', '0']
  else if c = '\t' then ['\\', 't']
  else if c = '\r' then ['\\', 'r']
  else if c = '\n' then ['\\', 'n']
  else if c = '"' then ['\\', '"']
  else if c = '\\' then ['\\', '\\']
  else if isExtender c || isShapeless c then
    ['\\', 'u', '\x7b'] ++ hexDigits 0 c.toNat ++ ['\x7d']
  else [c]

def quoted (s : String) : String :=
  String.ofList ('"' :: (s.toList.flatMap quotedChar ++ ['"']))

end DetectorDashboard.Text
