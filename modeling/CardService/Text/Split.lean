/-!
# CardService — texts in parts

Splits a text at each occurrence of one character.
-/

namespace CardService.Text

/-- The parts of a text between separators. A text without one is one part. -/
def splitBy (separator : Char) : List Char → List (List Char)
  | [] => [[]]
  | c :: rest =>
    if c = separator then [] :: splitBy separator rest
    else
      match splitBy separator rest with
      | [] => [[c]]
      | part :: parts => (c :: part) :: parts

end CardService.Text
