import ProtobufTypeScript.Text.Alphanumeric
import ProtobufTypeScript.Text.UpperCase

/-!
Camel case: an underscore is dropped before a letter, a digit or another underscore, and that
character is written in upper case. The pair is consumed together, so of two underscores the second
stays. An underscore before anything else, or at the end, stays too.
-/

namespace ProtobufTypeScript.Text

/-- Camel case of a character list. -/
def camelChars : List Char → List Char
  | [] => []
  | '_' :: next :: rest =>
      if isAlphanumeric next || next == '_' then upperCase next ++ camelChars rest
      else '_' :: camelChars (next :: rest)
  | c :: rest => c :: camelChars rest

/-- Camel case of a name written with underscores. -/
def camelCase (s : String) : String :=
  String.ofList (camelChars s.toList)

end ProtobufTypeScript.Text
