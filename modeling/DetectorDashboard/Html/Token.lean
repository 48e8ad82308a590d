import DetectorDashboard.Html.Escape

/-!
HTML documents as sequences of tags and texts. Whatever a text or the value of an attribute says,
it is escaped when it is written, so that the tags of a document are those of its tokens.
-/

namespace DetectorDashboard.Html

/-- An attribute without a value stands for itself. -/
structure Attribute where
  name : String
  value : Option String
deriving DecidableEq

inductive Token
  | doctype
  | openTag (name : String) (attributes : List Attribute)
  | closeTag (name : String)
  | text (s : String)
  | entity (name : String)
deriving DecidableEq

abbrev Document := List Token

namespace Attribute

def of (name value : String) : Attribute :=
  ⟨name, some value⟩

def bare (name : String) : Attribute :=
  ⟨name, none⟩

def chars (a : Attribute) : List Char :=
  match a.value with
  | none => ' ' :: a.name.toList
  | some value => ' ' :: a.name.toList ++ '=' :: '"' :: escapeChars value.toList ++ ['"']

end Attribute

namespace Token

def chars : Token → List Char
  | .doctype => "<!DOCTYPE html>".toList
  | .openTag name attributes =>
    '<' :: name.toList ++ attributes.flatMap Attribute.chars ++ ['>']
  | .closeTag name => '<' :: '/' :: name.toList ++ ['>']
  | .text s => escapeChars s.toList
  | .entity name => '&' :: name.toList ++ [';']

def newline : Token :=
  .text "\n"

/-- An element with its content. -/
def element (name : String) (attributes : List Attribute) (content : Document) : Document :=
  .openTag name attributes :: content ++ [.closeTag name]

end Token

def chars (d : Document) : List Char :=
  d.flatMap Token.chars

def render (d : Document) : String :=
  String.ofList (chars d)

end DetectorDashboard.Html
