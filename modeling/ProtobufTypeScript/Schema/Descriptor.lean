import ProtobufTypeScript.Schema.Scalar

/-!
A schema as its compiler hands it over: files with messages, enums, services and the comments
found at each place. A name that was not given is the empty string, except on messages and enums,
where a missing name is told apart until it is reported.
-/

namespace ProtobufTypeScript.Schema

inductive Label where
  | optional
  | required
  | repeated
deriving DecidableEq, Repr

/-- The label with a given number; unknown numbers read as optional. -/
def Label.ofNumber (number : Int32) : Label :=
  if number = 2 then .required else if number = 3 then .repeated else .optional

/-- What a field declares itself to hold. -/
inductive FieldType where
  | scalar (scalar : Scalar)
  | group
  | message
  | enumeration
deriving DecidableEq, Repr

/-- The field type with a given number; unknown numbers read as double. -/
def FieldType.ofNumber (number : Int32) : FieldType :=
  if number = 2 then .scalar .float
  else if number = 3 then .scalar .int64
  else if number = 4 then .scalar .uint64
  else if number = 5 then .scalar .int32
  else if number = 6 then .scalar .fixed64
  else if number = 7 then .scalar .fixed32
  else if number = 8 then .scalar .bool
  else if number = 9 then .scalar .string
  else if number = 10 then .group
  else if number = 11 then .message
  else if number = 12 then .scalar .bytes
  else if number = 13 then .scalar .uint32
  else if number = 14 then .enumeration
  else if number = 15 then .scalar .sfixed32
  else if number = 16 then .scalar .sfixed64
  else if number = 17 then .scalar .sint32
  else if number = 18 then .scalar .sint64
  else .scalar .double

structure Field where
  name : String := ""
  number : Int32 := 0
  label : Label := .optional
  type : FieldType := .scalar .double
  /-- The full name of the message or enum held, with a leading dot. -/
  typeName : String := ""
  /-- Whether the field belongs to a oneof. -/
  inOneof : Bool := false
deriving DecidableEq, Repr

structure Member where
  name : String := ""
  number : Int32 := 0
deriving DecidableEq, Repr

structure Enumeration where
  name : Option String := none
  members : List Member := []
deriving DecidableEq, Repr

structure Message where
  name : Option String := none
  fields : List Field := []
  nested : List Message := []
  enumerations : List Enumeration := []
  /-- Whether the message was made up for the entries of a map field. -/
  mapEntry : Bool := false
deriving Repr

structure Method where
  name : String := ""
  input : String := ""
  output : String := ""
  clientStreaming : Bool := false
  serverStreaming : Bool := false
deriving DecidableEq, Repr

structure Service where
  name : String := ""
  methods : List Method := []
deriving DecidableEq, Repr

/-- The comments found at one place, which is a path of field numbers and positions. -/
structure Location where
  path : List Int32 := []
  leading : Option String := none
  trailing : Option String := none
deriving DecidableEq, Repr

structure File where
  name : String := ""
  package : String := ""
  messages : List Message := []
  enumerations : List Enumeration := []
  services : List Service := []
  locations : List Location := []
deriving Repr

/-- A message's name, empty if it has none. -/
def Message.plainName (message : Message) : String :=
  message.name.getD ""

/-- An enum's name, empty if it has none. -/
def Enumeration.plainName (enumeration : Enumeration) : String :=
  enumeration.name.getD ""

end ProtobufTypeScript.Schema
