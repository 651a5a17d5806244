import ProtobufTypeScript.Schema.Walk
import ProtobufTypeScript.Target.Symbol
import ProtobufTypeScript.Text.Ends

/-!
All types of a request under their full names, each with the unit and the name it is generated
under. No two types may share a full name, nor a name within one unit. Types are registered file by
file; of one file all messages come before the enums.
-/

namespace ProtobufTypeScript.Schema

/-- The path of the unit generated for a file: the file's name without its extension. -/
def unitPath (fileName : String) : String :=
  (Text.beforeEnd? ".proto" fileName).getD fileName

/-- The name of the output written for a file. -/
def outputName (fileName : String) : String :=
  unitPath fileName ++ ".ts"

/-- A registered type. -/
structure TypeEntry where
  /-- The path of the unit that declares the type. -/
  unit : String
  /-- The name of the type in that unit. -/
  identifier : String
  definition : Definition

/-- The symbol that stands for a registered type. -/
def TypeEntry.symbol (entry : TypeEntry) : Target.Symbol :=
  .ofUnit entry.identifier entry.unit

/-- Types by full name, in the order of registration. -/
structure Registry where
  entries : List (String × TypeEntry) := []

namespace Registry

/-- The number of registered types. -/
def size (registry : Registry) : Nat :=
  registry.entries.length

/-- The type with a full name. -/
def get? (registry : Registry) (name : String) : Option TypeEntry :=
  registry.entries.lookup name

/-- The type with a full name, or the error that there is none. -/
def entry (registry : Registry) (name : String) : Except GenerationError TypeEntry :=
  match registry.get? name with
  | some entry => .ok entry
  | none => .error (.unknownType name)

/-- The message with a full name, or the error that there is none. -/
def message (registry : Registry) (name : String) : Except GenerationError Message := do
  match (← registry.entry name).definition with
  | .message message => return message
  | .enumeration _ => throw (.unknownType name)

/-- The symbol of the type with a full name, or the error that there is none. -/
def symbol (registry : Registry) (name : String) : Except GenerationError Target.Symbol :=
  (registry.entry name).map TypeEntry.symbol

/-- The names of the types that a unit declares, in order. -/
def identifiersIn (registry : Registry) (unit : String) : List String :=
  Text.sortStrings
    ((registry.entries.filter (fun item => item.2.unit == unit)).map
      (fun item => item.2.identifier))

/-- Whether a unit declares a type of a given name. -/
def declares (registry : Registry) (unit identifier : String) : Bool :=
  registry.entries.any (fun item => item.2.unit == unit && item.2.identifier == identifier)

/-- Adds a type of a file under its full name. -/
def add (registry : Registry) (file name : String) (type : TypeEntry)
    : Except GenerationError Registry :=
  if (registry.get? name).isSome || registry.declares type.unit type.identifier then
    .error (.duplicateType file name)
  else .ok { entries := registry.entries ++ [(name, type)] }

/-- The full name of a node in a package; the package may be empty. -/
def fullName (package : String) (node : Node) : String :=
  (if package.isEmpty then "" else "." ++ package) ++ "." ++ node.schemaName

/-- Whether a node is a message. -/
def isMessage (node : Node) : Bool :=
  match node.definition with
  | .message _ => true
  | .enumeration _ => false

/-- The nodes in the order in which they are registered. -/
def registrationOrder (nodes : List Node) : List Node :=
  nodes.filter isMessage ++ nodes.filter (fun node => !isMessage node)

/-- Adds a node of a file. -/
def addNode (file : File) (registry : Registry) (node : Node) : Except GenerationError Registry :=
  registry.add file.name (fullName file.package node)
    { unit := unitPath file.name, identifier := node.identifier, definition := node.definition }

/-- Adds all types of a file, after all their names have been seen. -/
def addFile (options : Options) (registry : Registry) (file : File)
    : Except GenerationError Registry := do
  (registrationOrder (← file.nodes .blind options)).foldlM (addNode file) registry

/-- The registry of all types of some files. -/
def ofFiles (options : Options) (files : List File) : Except GenerationError Registry :=
  files.foldlM (addFile options) {}

end Registry

end ProtobufTypeScript.Schema
