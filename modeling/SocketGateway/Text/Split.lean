/-!
# Splitting a text

The parts of a text between the occurrences of a character. There is always one part more than
occurrences, so the empty text has one empty part.
-/

namespace SocketGateway.Text

/-- The parts of a text between the occurrences of `sep`. -/
def splitAt (sep : Char) : List Char → List (List Char)
  | [] => [[]]
  | c :: cs =>
    match splitAt sep cs with
    | [] => [[c]]
    | part :: parts => if c = sep then [] :: part :: parts else (c :: part) :: parts

def split (sep : Char) (s : String) : List String := (splitAt sep s.toList).map String.ofList

example : split ',' "a,,b" = ["a", "", "b"] ∧ split ',' "" = [""] := by decide

end SocketGateway.Text
