/-!
# Segments

The texts between the separators of a text.  There is always one more segment than there are
separators, and segments may be empty.
-/

namespace BranchGuard.Text

/-- The segments of a text, in order. -/
def segments (separator : Char) : List Char → List (List Char)
  | [] => [[]]
  | c :: rest =>
    if c = separator then [] :: segments separator rest
    else match segments separator rest with
      | [] => [[c]]
      | first :: others => (c :: first) :: others

end BranchGuard.Text
