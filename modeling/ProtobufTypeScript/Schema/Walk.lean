import ProtobufTypeScript.GenerationError
import ProtobufTypeScript.Options
import ProtobufTypeScript.Schema.Comment

/-!
The walk over the types a file declares. In each scope the enums come first; then each message
comes just before the contents of its own scope. The names of nested types chain those of the
enclosing messages.
-/

namespace ProtobufTypeScript.Schema

/-- What a type name stands for. -/
inductive Definition where
  | message (message : Message)
  | enumeration (enumeration : Enumeration)
deriving Repr

/-- A type met on the walk. -/
structure Node where
  /-- The name in generated code, chained with underscores. -/
  identifier : String
  /-- The name within the package, chained with dots. -/
  schemaName : String
  definition : Definition
  cursor : Cursor
deriving Repr

/-- Where the walk is: what is put before names there, and how children are found. -/
structure Scope where
  identifierStem : String
  schemaStem : String
  cursor : Cursor
  enumField : Int32
  messageField : Int32

namespace Scope

/-- The scope of a file. -/
def ofFile (cursor : Cursor) : Scope :=
  {
    identifierStem := ""
    schemaStem := ""
    cursor
    enumField := Child.enumInFile
    messageField := Child.messageInFile
  }

/-- The scope of the message that a node stands for. -/
def inside (node : Node) : Scope :=
  {
    identifierStem := node.identifier ++ "_"
    schemaStem := node.schemaName ++ "."
    cursor := node.cursor
    enumField := Child.enumInMessage
    messageField := Child.messageInMessage
  }

/-- A node of the scope, unless its name is missing. -/
def node? (scope : Scope) (options : Options) (name : Option String) (definition : Definition)
    (field : Int32) (position : Nat)
    : Except GenerationError Node :=
  match name with
  | none => .error (.unnamed scope.schemaStem)
  | some name =>
      if name.isEmpty then .error (.unnamed scope.schemaStem)
      else
        .ok
          {
            identifier := scope.identifierStem ++ options.identifier name
            schemaName := scope.schemaStem ++ name
            definition
            cursor := scope.cursor.enter field position
          }

end Scope

/-- What is done with each node met on the walk. An error ends the walk; what was done
before it in the monad below stays done.
-/
abbrev Visitor (m : Type → Type) := Node → ExceptT GenerationError m Unit

variable {m : Type → Type} [Monad m]

/-- Visits the enums of a scope, the first of which has the given position. -/
def visitEnumerations (options : Options) (visit : Visitor m) (scope : Scope)
    : Nat → List Enumeration → ExceptT GenerationError m Unit
  | _, [] => pure ()
  | position, enumeration :: rest => do
      let node ← MonadExcept.ofExcept
        (scope.node? options enumeration.name (.enumeration enumeration) scope.enumField position)
      visit node
      visitEnumerations options visit scope (position + 1) rest

mutual
/-- Visits a message and then what it contains. -/
def visitMessage (options : Options) (visit : Visitor m) (scope : Scope) (position : Nat)
    : Message → ExceptT GenerationError m Unit
  | ⟨name, fields, nested, enumerations, mapEntry⟩ => do
      let node ← MonadExcept.ofExcept
        (scope.node? options name (.message ⟨name, fields, nested, enumerations, mapEntry⟩)
          scope.messageField position)
      visit node
      visitEnumerations options visit (Scope.inside node) 0 enumerations
      visitMessages options visit (Scope.inside node) 0 nested

/-- Visits the messages of a scope, the first of which has the given position. -/
def visitMessages (options : Options) (visit : Visitor m) (scope : Scope)
    : Nat → List Message → ExceptT GenerationError m Unit
  | _, [] => pure ()
  | position, message :: rest => do
      visitMessage options visit scope position message
      visitMessages options visit scope (position + 1) rest
end

namespace File

/-- Visits every enum and message of a file, starting with the given cursor at the file.
-/
def visit (file : File) (cursor : Cursor) (options : Options) (onNode : Visitor m)
    : ExceptT GenerationError m Unit := do
  visitEnumerations options onNode (Scope.ofFile cursor) 0 file.enumerations
  visitMessages options onNode (Scope.ofFile cursor) 0 file.messages

/-- Visits the messages of a file only; a missing enum name is still an error. -/
def visitOnlyMessages (file : File) (cursor : Cursor) (options : Options) (onNode : Visitor m)
    : ExceptT GenerationError m Unit :=
  file.visit cursor options fun node =>
    match node.definition with
    | .message _ => onNode node
    | .enumeration _ => pure ()

/-- The services of a file, each with a cursor at it. -/
def servicesAt (file : File) (cursor : Cursor) : List (Service × Cursor) :=
  file.services.zipIdx.map fun (service, position) =>
    (service, cursor.enter Child.serviceInFile position)

/-- All nodes of a file in the order of the walk. -/
def nodes (file : File) (cursor : Cursor) (options : Options)
    : Except GenerationError (List Node) :=
  let collect : Visitor (StateM (List Node)) := fun node => modify (node :: ·)
  let (outcome, found) := (file.visit cursor options collect).run.run []
  outcome.map (fun _ => found.reverse)

end File

end ProtobufTypeScript.Schema
