import ProtobufTypeScript.Field.Shape
import ProtobufTypeScript.Schema.Registry

/-!
Classification: the shape of each declared field, found with the registry of all types.
-/

namespace ProtobufTypeScript.Field

open Schema Target

/-- The full name of the well-known point in time. -/
def timestampName : String := ".google.protobuf.Timestamp"

/-- The kind of a field that holds the message or enum registered under its type name: a
wrapper or a point in time by name, else a message.
-/
def messageKind (registry : Registry) (typeName : String) : Except GenerationError Kind :=
  match wrapperScalar typeName with
  | some scalar => return .wrapper (← registry.symbol typeName) scalar
  | none =>
      if typeName = timestampName then return .timestamp (← registry.symbol typeName)
      else do
        let _ ← registry.message typeName
        return .message (← registry.symbol typeName)

/-- The kind of a single value of a field. -/
def elementKind (registry : Registry) (message : Message) (field : Schema.Field)
    : Except GenerationError Kind :=
  match field.type with
  | .group => .error (.unsupportedField message.plainName field.name .group)
  | .enumeration => return .enumeration (← registry.symbol field.typeName)
  | .message => messageKind registry field.typeName
  | .scalar scalar => .ok (.scalar scalar)

/-- The kind of a field of a message. A repeated field of map entries holds a map, whose
key and value are the first two fields of the entry.
-/
def fieldKind (registry : Registry) (message : Message) (field : Schema.Field)
    : Except GenerationError Kind := do
  let kind ← elementKind registry message field
  match kind with
  | .message symbol => do
      let target ← registry.message field.typeName
      if field.label = .repeated && target.mapEntry then
        match target.fields with
        | key :: value :: _ =>
            match key.type with
            | .scalar scalar => return .map symbol scalar (← elementKind registry target value)
            | _ => throw (.unsupportedField message.plainName field.name .keyNotScalar)
        | _ => throw (.unsupportedField message.plainName field.name .entryWithoutValue)
      else return kind
  | _ => return kind

/-- The shape of a field of a message. -/
def shapeOf (registry : Registry) (options : Options) (message : Message) (field : Schema.Field)
    : Except GenerationError Shape := do
  return {
    name := options.identifier field.name
    number := field.number
    repeated := field.label = .repeated
    inOneof := field.inOneof
    kind := ← fieldKind registry message field
  }

/-- The shapes of the fields of a message, in order. -/
def shapesOf (registry : Registry) (options : Options) (message : Message)
    : Except GenerationError (List Shape) :=
  message.fields.mapM (shapeOf registry options message)

end ProtobufTypeScript.Field
