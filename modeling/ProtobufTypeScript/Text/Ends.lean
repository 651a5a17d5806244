/-!
Texts that start or end with a given text.
-/

namespace ProtobufTypeScript.Text

/-- What follows a given beginning, if the text starts with it. -/
def afterStart? (head text : String) : Option String :=
  if head.toList.isPrefixOf text.toList then
    some (String.ofList (text.toList.drop head.toList.length))
  else none

/-- What stands before a given end, if the text ends with it. -/
def beforeEnd? (tail text : String) : Option String :=
  if tail.toList.isSuffixOf text.toList then
    some (String.ofList (text.toList.take (text.toList.length - tail.toList.length)))
  else none

end ProtobufTypeScript.Text
