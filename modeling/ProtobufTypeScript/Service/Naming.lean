import ProtobufTypeScript.Schema.Descriptor
import ProtobufTypeScript.Text.Ends

/-!
What method names say. A method named `Batch…` that takes one list and answers with one list or map
can serve a companion method for a single key; a method named `Get…` may be answered from a cache.
-/

namespace ProtobufTypeScript.Service

open Schema

/-- A name without a final `s`. -/
def singular (name : String) : String :=
  (Text.beforeEnd? "s" name).getD name

/-- The name of the method for a single key that goes with a batch method, if the name is
that of a batch method.
-/
def companionName (name : String) : Option String :=
  match Text.afterStart? "Batch" name with
  | none => none
  | some rest =>
      if rest.isEmpty then none
      else if (Text.afterStart? "Get" rest).isSome then some (singular rest)
      else some (singular ("Get" ++ rest))

/-- Whether a name is `Get` and then a capital letter of ASCII. -/
def isCacheable (name : String) : Bool :=
  match Text.afterStart? "Get" name with
  | none => false
  | some rest => (rest.toList.head?.map Char.isUpper).getD false

/-- The only field of a message, if there is just one and it is repeated. -/
def onlyRepeatedField? (message : Message) : Option Schema.Field :=
  match message.fields with
  | [field] => if field.label = .repeated then some field else none
  | _ => none

/-- A batch method with the list of keys that it takes and the results that it answers
with.
-/
structure Batch where
  method : Method
  /-- The name of the method for a single key. -/
  companion : String
  keys : Schema.Field
  results : Schema.Field

/-- A method as a batch method, if its name and its messages make it one. -/
def Batch.ofMethod? (method : Method) (input output : Message) : Option Batch := do
  let companion ← companionName method.name
  let keys ← onlyRepeatedField? input
  let results ← onlyRepeatedField? output
  return { method, companion, keys, results }

end ProtobufTypeScript.Service
