import ProtobufTypeScript.Field.Shape
import ProtobufTypeScript.Target.Declaration

/-!
What a new message holds. Its base instance has the defaults of all single fields outside oneofs;
a seeded message copies the base and gets lists and maps of its own.
-/

namespace ProtobufTypeScript.Message

open ProtobufTypeScript.Field Target

/-- The name of the base instance of a message type. -/
def baseName (name : String) : String :=
  "base" ++ name

/-- Whether the base instance holds a field. -/
def isInBase (shape : Shape) : Bool :=
  !shape.repeated && !shape.inOneof

/-- The base instance of a message type. -/
def baseInstance (options : Options) (name : String) (shapes : List Shape) : ValueObject :=
  {
    name := baseName name
    type := .simple "object"
    values := (shapes.filter isInBase).map (fun shape => (shape.name, shape.default options))
    recorded := (shapes.filter isInBase).flatMap (fun shape => shape.defaultRecorded options)
  }

/-- Where a message keeps a field. -/
def place (shape : Shape) : Expr :=
  .field "message" shape.name

/-- Where an object that a message is made from keeps a field. -/
def source (shape : Shape) : Expr :=
  .field "object" shape.name

/-- The statement that gives a message its own empty list or map for a repeated field. -/
def seedField (shape : Shape) : Stmt :=
  .assign (place shape) (if shape.isMap then .object [] else .list [])

/-- The statements that make a new message. -/
def seed (name : String) (shapes : List Shape) : List Stmt :=
  .const "message" none (.cast (.object [.spread (.name (baseName name))]) (.simple name))
    :: (shapes.filter Shape.repeated).map seedField

end ProtobufTypeScript.Message
