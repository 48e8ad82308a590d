/-!
A text taken apart at its separators.
-/

namespace DetectorDashboard.Text

/-- The pieces between the separators, empty ones too; there is one more than there are
separators. -/
def pieces (isSeparator : Char → Bool) : List Char → List (List Char)
  | [] => [[]]
  | c :: rest =>
    if isSeparator c then [] :: pieces isSeparator rest
    else match pieces isSeparator rest with
      | [] => [[c]]
      | first :: more => (c :: first) :: more

end DetectorDashboard.Text
