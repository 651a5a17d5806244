import ProtobufTypeScript.Message.Decode
import ProtobufTypeScript.Message.Encode
import ProtobufTypeScript.Message.FromJson
import ProtobufTypeScript.Message.FromPartial
import ProtobufTypeScript.Message.ToJson

/-!
The codec of a message type: a constant of the type's name that holds the functions chosen for the
run.
-/

namespace ProtobufTypeScript.Message

open ProtobufTypeScript.Field Target

/-- The functions of a codec. -/
def codecFunctions (options : Options) (name : String) (shapes : List Shape) : List Function :=
  (if options.binaryMethods then [encode options name shapes, decode options name shapes] else [])
    ++ if options.jsonMethods then
        [
          fromJson options name shapes,
          fromPartial options name shapes,
          toJson options name shapes
        ]
      else []

/-- The codec of a message type, its functions separated by empty lines. -/
def codec (options : Options) (name : String) (shapes : List Shape) : ObjectConst :=
  {
    name
    entries :=
      [Entry.gap].intercalate
        ((codecFunctions options name shapes).map (fun function => [Entry.method function]))
  }

end ProtobufTypeScript.Message
