import ProtobufTypeScript.Target.Symbol

/-!
Helpers: small declarations that a unit carries only if its code mentions them.
-/

namespace ProtobufTypeScript

inductive Helper where
  | longToNumber
  | longToString
  | numberToLong
  | deepPartial
  | toTimestamp
  | fromTimestamp
  | fromJsonTimestamp
deriving DecidableEq, Repr

namespace Helper

def name : Helper → String
  | longToNumber => "longToNumber"
  | longToString => "longToString"
  | numberToLong => "numberToLong"
  | deepPartial => "DeepPartial"
  | toTimestamp => "toTimestamp"
  | fromTimestamp => "fromTimestamp"
  | fromJsonTimestamp => "fromJsonTimestamp"

/-- The symbol for a helper. -/
def symbol (helper : Helper) : Target.Symbol :=
  .ofHelper helper.name

/-- All helpers, in the order in which a unit declares them. -/
def all : List Helper :=
  [
    longToNumber, longToString, numberToLong, deepPartial, toTimestamp, fromTimestamp,
    fromJsonTimestamp
  ]

end Helper

end ProtobufTypeScript
