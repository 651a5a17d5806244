import ProtobufTypeScript.Wire.Request

/-!
The answer to a request, and its binary form: the files, or the text of the error that kept them
from being generated, and in either case the mark that optional fields are supported.
-/

namespace ProtobufTypeScript

/-- The answer to a request. -/
abbrev Response := Except GenerationError (List Output)

/-- The features that the generator supports: optional fields. -/
def supportedFeatures : Nat := 1

/-- Answers a request. -/
def Request.respond (request : Request) : Response :=
  Generation.outputs request

namespace Wire

/-- The bytes of a field whose value has a length. -/
def writeContent (number : Nat) (content : Bytes) : Bytes :=
  writeVarint (8 * number + 2) ++ writeVarint content.length ++ content

/-- The bytes of a field that holds a string. -/
def writeString (number : Nat) (text : String) : Bytes :=
  writeContent number text.toUTF8.data.toList

/-- The bytes of a field that holds an integer. -/
def writeNumber (number value : Nat) : Bytes :=
  writeVarint (8 * number) ++ writeVarint value

/-- The bytes of an output. -/
def writeOutput (output : Output) : Bytes :=
  writeString 1 output.name ++ writeString 15 output.content

/-- The bytes of a response. -/
def writeResponse (response : Response) : Bytes :=
  match response with
  | .error error => writeString 1 error.message ++ writeNumber 2 supportedFeatures
  | .ok outputs =>
      writeNumber 2 supportedFeatures
        ++ outputs.flatMap (fun output => writeContent 15 (writeOutput output))

/-- Answers a request in the binary format; there is no answer to what is not a request.
-/
def exchange (bytes : Bytes) : Option Bytes :=
  (readRequest bytes).map (fun request => writeResponse request.respond)

end Wire

end ProtobufTypeScript
