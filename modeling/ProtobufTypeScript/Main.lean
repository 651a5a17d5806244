import ProtobufTypeScript.Wire.Response

/-!
The command line: a request is read from standard input to its end, and the response is written to
standard output.
-/

namespace ProtobufTypeScript

/-- Reads a stream to its end. -/
partial def readAll (stream : IO.FS.Stream) (read : ByteArray) : IO ByteArray := do
  let chunk ← stream.read 65536
  if chunk.isEmpty then return read else readAll stream (read ++ chunk)

end ProtobufTypeScript

open ProtobufTypeScript in
/-- Answers one request, or reports that there was none. -/
def main : IO UInt32 := do
  let input ← readAll (← IO.getStdin) ByteArray.empty
  match Wire.exchange input.data.toList with
  | some response =>
      let output ← IO.getStdout
      output.write ⟨response.toArray⟩
      output.flush
      return 0
  | none =>
      (← IO.getStderr).putStrLn "the input is not a code generator request"
      return 1
