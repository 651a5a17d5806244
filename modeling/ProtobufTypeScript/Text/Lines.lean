/-!
Lines of a text. A line ends at a line feed, and a carriage return just before the line feed belongs
to the line end. Text after the last line feed is a line of its own unless it is empty, and it keeps
a carriage return at its end.
-/

namespace ProtobufTypeScript.Text

/-- The lines of a character list, without their ends. -/
def splitLines : List Char → List (List Char)
  | [] => []
  | '\n' :: rest => [] :: splitLines rest
  | '\r' :: '\n' :: rest => [] :: splitLines rest
  | c :: rest =>
      match splitLines rest with
      | [] => [[c]]
      | line :: others => (c :: line) :: others

/-- The lines of a string, without their ends. -/
def lines (s : String) : List String :=
  (splitLines s.toList).map String.ofList

/-- The parts of a character list between the occurrences of a separator; there is always
one.
-/
def splitAt (separator : Char) : List Char → List (List Char)
  | [] => [[]]
  | c :: rest =>
      if c = separator then [] :: splitAt separator rest
      else
        match splitAt separator rest with
        | [] => [[c]]
        | part :: others => (c :: part) :: others

/-- The parts of a string between the occurrences of a separator. -/
def partsAt (separator : Char) (s : String) : List String :=
  (splitAt separator s.toList).map String.ofList

/-- The characters before and after the first occurrence of a separator, if there is one.
-/
def cutAt (separator : Char) : List Char → Option (List Char × List Char)
  | [] => none
  | c :: rest =>
      if c = separator then some ([], rest)
      else (cutAt separator rest).map (fun cut => (c :: cut.1, cut.2))

end ProtobufTypeScript.Text
