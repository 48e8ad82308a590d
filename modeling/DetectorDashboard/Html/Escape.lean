/-!
Text inside an HTML document. The five characters that could end or open something are written as
entities; all others stand for themselves.
-/

namespace DetectorDashboard.Html

def escapeChar : Char → List Char
  | '&' => "&amp;".toList
  | '<' => "&lt;".toList
  | '>' => "&gt;".toList
  | '"' => "&quot;".toList
  | '\'' => "&#39;".toList
  | c => [c]

def escapeChars (cs : List Char) : List Char :=
  cs.flatMap escapeChar

def escape (s : String) : String :=
  String.ofList (escapeChars s.toList)

theorem escapeChars_append (s t : List Char) :
    escapeChars (s ++ t) = escapeChars s ++ escapeChars t :=
  List.flatMap_append

end DetectorDashboard.Html
