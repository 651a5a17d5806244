/-!
Why a request cannot be turned into code, and how each reason is worded.
-/

namespace ProtobufTypeScript

/-- What a field may have that no code is generated for. -/
inductive FieldFault where
  | group
  /-- A map entry without a key or without a value. -/
  | entryWithoutValue
  | keyNotScalar
deriving DecidableEq, Repr

/-- What a method may have that no code is generated for. -/
inductive MethodFault where
  | streaming
deriving DecidableEq, Repr

inductive GenerationError where
  | unknownType (name : String)
  | duplicateType (file name : String)
  | unsupportedField (message field : String) (fault : FieldFault)
  | unsupportedMethod (service method : String) (fault : MethodFault)
  /-- A message or an enum without a name, in the given scope. -/
  | unnamed (scope : String)
  | unknownFile (name : String)
deriving DecidableEq, Repr

/-- The reason given for a field. -/
def FieldFault.reason : FieldFault → String
  | .group => "group encoding is not supported"
  | .entryWithoutValue => "map entry must declare a key and a value"
  | .keyNotScalar => "map keys must be scalars"

/-- The reason given for a method. -/
def MethodFault.reason : MethodFault → String
  | .streaming => "streaming methods are not supported"

/-- The text that reports an error. -/
def GenerationError.message : GenerationError → String
  | .unknownType name => "no type found for " ++ name
  | .duplicateType file name => "duplicate type name '" ++ name ++ "' in '" ++ file ++ "'"
  | .unsupportedField message field fault =>
      "unsupported field '" ++ field ++ "' in message '" ++ message ++ "': " ++ fault.reason
  | .unsupportedMethod service method fault =>
      "unsupported method '" ++ method ++ "' in service '" ++ service ++ "': " ++ fault.reason
  | .unnamed scope => "descriptor '" ++ scope ++ "<unnamed>' has no name"
  | .unknownFile name =>
      "file '" ++ name ++ "' is listed for generation but not present in the request"

end ProtobufTypeScript
