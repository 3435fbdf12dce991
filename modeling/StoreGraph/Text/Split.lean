/-! # Splitting text

The parts of a text between the characters of a kind.
-/

namespace StoreGraph.Text

/-- Split a text at every character of a kind. There is one part more than there are such
    characters. -/
def splitAtAll (isCut : Char → Bool) : List Char → List (List Char)
  | [] => [[]]
  | c :: rest =>
    if isCut c then [] :: splitAtAll isCut rest
    else
      match splitAtAll isCut rest with
      | [] => [[c]]
      | part :: parts => (c :: part) :: parts

end StoreGraph.Text
