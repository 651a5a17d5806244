import ProtobufTypeScript.Schema.Walk

/-!
The texts of a schema: all strings that the schema compiler hands over for a file.
-/

namespace ProtobufTypeScript.Schema

/-- The texts of a field. -/
def Field.texts (field : Field) : List String :=
  [field.name, field.typeName]

/-- The texts of an enum. -/
def Enumeration.texts (enumeration : Enumeration) : List String :=
  enumeration.name.toList ++ enumeration.members.map Member.name

mutual
/-- The texts of a message and of all that is inside it. -/
def Message.texts : Message → List String
  | ⟨name, fields, nested, enumerations, _⟩ =>
      name.toList ++ fields.flatMap Field.texts ++ enumerations.flatMap Enumeration.texts
        ++ Message.textsAll nested

/-- The texts of messages and of all that is inside them. -/
def Message.textsAll : List Message → List String
  | [] => []
  | message :: rest => Message.texts message ++ Message.textsAll rest
end

mutual
/-- The names of a message and of all types inside it. -/
def Message.typeNames : Message → List String
  | ⟨name, _, nested, enumerations, _⟩ =>
      name.toList ++ enumerations.flatMap (fun enumeration => enumeration.name.toList)
        ++ Message.typeNamesAll nested

/-- The names of messages and of all types inside them. -/
def Message.typeNamesAll : List Message → List String
  | [] => []
  | message :: rest => Message.typeNames message ++ Message.typeNamesAll rest
end

/-- The texts of a method. -/
def Method.texts (method : Method) : List String :=
  [method.name, method.input, method.output]

/-- The texts of a service. -/
def Service.texts (service : Service) : List String :=
  service.name :: service.methods.flatMap Method.texts

/-- The comments at a location. -/
def Location.texts (location : Location) : List String :=
  location.leading.toList ++ location.trailing.toList

/-- All texts of a file. -/
def File.texts (file : File) : List String :=
  [file.name, file.package] ++ Message.textsAll file.messages
    ++ file.enumerations.flatMap Enumeration.texts ++ file.services.flatMap Service.texts
    ++ file.locations.flatMap Location.texts

/-- The texts of a definition. -/
def Definition.texts : Definition → List String
  | .message declared => declared.texts
  | .enumeration declared => declared.texts

/-- The names of all types that a file declares. -/
def File.typeNames (file : File) : List String :=
  Message.typeNamesAll file.messages
    ++ file.enumerations.flatMap (fun enumeration => enumeration.name.toList)

theorem Message.textsAll_eq_flatMap (messages : List Message)
    : Message.textsAll messages = messages.flatMap Message.texts := by
  induction messages with
  | nil => rfl
  | cons message rest ih => rw [Message.textsAll, ih, List.flatMap_cons]

/-- The texts of a message are its name and those of all that it holds, at any depth. -/
theorem Message.texts_eq (message : Message)
    : message.texts
      = message.name.toList ++ message.fields.flatMap Field.texts
        ++ message.enumerations.flatMap Enumeration.texts
        ++ message.nested.flatMap Message.texts := by
  cases message
  rw [Message.texts, Message.textsAll_eq_flatMap]

/-- The name of a field is one of the texts of the message. -/
theorem Message.fieldName_mem_texts {message : Message} {field : Field}
    (member : field ∈ message.fields)
    : field.name ∈ message.texts := by
  rw [Message.texts_eq]
  simp only [List.mem_append, List.mem_flatMap]
  exact Or.inl (Or.inl (Or.inr ⟨field, member, List.mem_cons_self⟩))

theorem Message.typeNamesAll_eq_flatMap (messages : List Message)
    : Message.typeNamesAll messages = messages.flatMap Message.typeNames := by
  induction messages with
  | nil => rfl
  | cons message rest ih => rw [Message.typeNamesAll, ih, List.flatMap_cons]

/-- The type names in a message are its own and those of the types inside it. -/
theorem Message.typeNames_eq (message : Message)
    : message.typeNames
      = message.name.toList
        ++ message.enumerations.flatMap (fun enumeration => enumeration.name.toList)
        ++ message.nested.flatMap Message.typeNames := by
  cases message
  rw [Message.typeNames, Message.typeNamesAll_eq_flatMap]

end ProtobufTypeScript.Schema
