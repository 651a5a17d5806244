import ProtobufTypeScript.Proofs.Except
import ProtobufTypeScript.Proofs.Service.Naming
import ProtobufTypeScript.Service.Declaration

/-!
What the companions of batch methods are made from: the only field of the request and the only field
of the response of their method.
-/

namespace ProtobufTypeScript.Service

open Schema

variable {registry : Registry} {options : Options} {service : Schema.Service} {method : Method}
  {companion : Companion}

/-- Whether a companion of a method is made from the shapes of a field of its request and
of a field of its response.
-/
structure IsGathered (registry : Registry) (options : Options) (service : Schema.Service)
    (method : Method) (input output : Message) (keys results : Field.Shape)
    (companion : Companion)
    : Prop where
  request : registry.message method.input = .ok input
  response : registry.message method.output = .ok output
  gathered : ∃ field ∈ input.fields, Field.shapeOf registry options input field = .ok keys
  answered : ∃ field ∈ output.fields, Field.shapeOf registry options output field = .ok results
  name : companionName method.name = some companion.name
  free : hasMethod service companion.name = false
  parts
    : companion
      = {
        name := companion.name
        keys := keys.name
        results := results.name
        keyType := keys.kind.elementType options
        valueType := (resultType options results.kind).1
        byKey := (resultType options results.kind).2
      }

/-- Whether a field is the only one of a message, is repeated, and is read as a shape. -/
structure IsOnlyField (registry : Registry) (options : Options) (message : Message)
    (field : Schema.Field) (shape : Field.Shape)
    : Prop where
  only : message.fields = [field]
  many : field.label = .repeated
  classified : Field.shapeOf registry options message field = .ok shape

namespace IsOnlyField

variable {message : Message} {field : Schema.Field} {shape : Field.Shape}
  (isOnly : IsOnlyField registry options message field shape)

include isOnly

/-- The only field of a message is one of its fields. -/
theorem member
    : field ∈ message.fields := by
  rw [isOnly.only]
  exact List.mem_cons_self

/-- The only field has the name that it is converted to. -/
theorem name_eq
    : shape.name = options.identifier field.name := by
  obtain ⟨kind, -, rest⟩ := bind_eq_ok.mp isOnly.classified
  cases rest
  rfl

/-- The only field holds many values. -/
theorem repeated_eq
    : shape.repeated = true := by
  obtain ⟨kind, -, rest⟩ := bind_eq_ok.mp isOnly.classified
  cases rest
  exact decide_eq_true isOnly.many

end IsOnlyField

/-- Every companion is made from the only fields of its method's messages. Witness: the
steps of finding it, each of which must have a result.
-/
theorem exists_isOnlyField
    (found : companion? registry options service method = .ok (some companion))
    : ∃ input output keyField resultField keys results,
        IsGathered registry options service method input output keys results companion
        ∧ IsOnlyField registry options input keyField keys
        ∧ IsOnlyField registry options output resultField results := by
  unfold companion? at found
  split at found
  case isFalse => cases found
  obtain ⟨input, inputFound, found⟩ := bind_eq_ok.mp found
  obtain ⟨output, outputFound, found⟩ := bind_eq_ok.mp found
  split at found
  case h_1 => cases found
  rename_i batch chosen
  split at found
  case isTrue => cases found
  rename_i free
  obtain ⟨made, gathered, same⟩ := bind_eq_ok.mp found
  cases same
  obtain ⟨keys, keysFound, gathered⟩ := bind_eq_ok.mp gathered
  obtain ⟨results, resultsFound, gathered⟩ := bind_eq_ok.mp gathered
  cases gathered
  obtain ⟨-, named, inInput, inOutput⟩ := ofMethod?_eq_some.mp chosen
  obtain ⟨onlyKey, manyKeys⟩ := onlyRepeatedField?_eq_some.mp inInput
  obtain ⟨onlyResult, manyResults⟩ := onlyRepeatedField?_eq_some.mp inOutput
  have key : IsOnlyField registry options input batch.keys keys := ⟨onlyKey, manyKeys, keysFound⟩
  have result : IsOnlyField registry options output batch.results results :=
    ⟨onlyResult, manyResults, resultsFound⟩
  refine ⟨input, output, batch.keys, batch.results, keys, results, ?_, key, result⟩
  exact {
    request := inputFound
    response := outputFound
    gathered := ⟨batch.keys, key.member, keysFound⟩
    answered := ⟨batch.results, result.member, resultsFound⟩
    name := named
    free := Bool.not_eq_true _ ▸ free
    parts := rfl
  }

/-- Every companion is made from fields of its method's messages. -/
theorem exists_isGathered
    (found : companion? registry options service method = .ok (some companion))
    : ∃ input output keys results,
        IsGathered registry options service method input output keys results companion := by
  obtain ⟨input, output, _, _, keys, results, gathered, -⟩ := exists_isOnlyField found
  exact ⟨input, output, keys, results, gathered⟩

end ProtobufTypeScript.Service
