import ProtobufTypeScript.Target.Symbol

/-!
The libraries that generated code is built on.
-/

namespace ProtobufTypeScript.Target.Library

/-- Reads the binary format. -/
def reader : Symbol := .ofPackage "Reader" "protobufjs/minimal"

/-- Writes the binary format. -/
def writer : Symbol := .ofPackage "Writer" "protobufjs/minimal"

/-- 64-bit integers. -/
def long : Symbol := .wholePackage "Long" "long"

/-- Batches and caches loads by key. -/
def dataLoader : Symbol := .wholePackage "DataLoader" "dataloader"

/-- Cache keys for objects. -/
def hash : Symbol := .wholePackage "hash" "object-hash"

end ProtobufTypeScript.Target.Library
