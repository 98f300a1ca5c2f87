/-!
# Sets of texts

Two lists of texts that hold the same texts, in any order and with any repetitions, have the same
`canonical` list: each text once, in the order of code points.
-/

namespace BranchGuard.Text

/-- Puts a text into its place in an ascending list, unless it is there already. -/
def insertSorted (text : String) : List String → List String
  | [] => [text]
  | first :: rest =>
    if text < first then text :: first :: rest
    else if text = first then first :: rest
    else first :: insertSorted text rest

/-- The texts of a list, each once and in ascending order. -/
def canonical (texts : List String) : List String :=
  texts.foldr insertSorted []

end BranchGuard.Text
