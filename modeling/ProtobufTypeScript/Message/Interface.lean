import ProtobufTypeScript.Field.Shape
import ProtobufTypeScript.Schema.Comment
import ProtobufTypeScript.Target.Declaration

/-!
The interface of a message type: one property for each field, in order, with the field's comment.
-/

namespace ProtobufTypeScript.Message

open ProtobufTypeScript.Field Schema Target

/-- The property for the field at a position. -/
def property (options : Options) (cursor : Cursor) (position : Nat) (shape : Shape) : Property :=
  {
    name := shape.name
    type := shape.type options
    doc := (cursor.lookup Child.fieldInMessage position).text
  }

/-- The interface of a message type. -/
def interface (options : Options) (name : String) (shapes : List Shape) (cursor : Cursor)
    : Interface :=
  {
    name
    exported := true
    doc := cursor.description.text
    properties :=
      shapes.zipIdx.map (fun (shape, position) => property options cursor position shape)
  }

end ProtobufTypeScript.Message
