import ProtobufTypeScript.Helper.Declaration
import ProtobufTypeScript.Proofs.Except
import ProtobufTypeScript.Proofs.Target.DeclarationUsage

/-!
The use of symbols in helpers. The only method that a helper calls on a registered type is
`fromJSON`, by which a point in time is taken from an object.
-/

namespace ProtobufTypeScript.Target.Usage

open ProtobufTypeScript.Helper Schema

variable {usage : Usage} {registry : Registry} {options : Options}

attribute [local simp] Admits AdmitsAll AdmitsStmt AdmitsStmts AdmitsOtherwise AdmitsType
  AdmitsTypes isClosed Expr.method Expr.field

/-- The declaration of a helper with one parameter is allowed if what it is made with is.
-/
theorem allowsLines_functionItem {helper : Helper} {param : String} {type returns : TypeExpr}
    {body : List Stmt} {recorded : List Symbol}
    (typed : usage.AdmitsType type) (returned : usage.AdmitsType returns)
    (admitted : usage.AdmitsStmts body)
    : usage.AllowsLines
        (functionItem helper param type returns { lines := Stmt.codeAll body, recorded }).block :=
  allowsLines_function (.topLevel false)
    {
      params := by simp [allowsParam_iff, typed]
      returns := by simp [returned]
      body := allowsLines_stmts _ admitted
    }

/-- What makes a timestamp from a date calls nothing but helpers and functions of the
language.
-/
theorem admits_toTimestampBody
    : usage.AdmitsStmts (toTimestampBody options) := by
  have seconds : usage.Admits (secondsOfDate options) := by
    unfold secondsOfDate wholeSeconds dateMillis
    split <;> simp
  simp [toTimestampBody, nanosOfDate, dateMillis, seconds]

/-- What makes a date from a timestamp calls nothing but helpers and functions of the
language.
-/
theorem admits_fromTimestampBody
    : usage.AdmitsStmts (fromTimestampBody options) := by
  have seconds : usage.Admits (secondsOfTimestamp options) := by
    unfold secondsOfTimestamp
    split <;> simp
  simp [fromTimestampBody, seconds]

/-- What makes a date from JSON calls `fromJSON` of the timestamp message, which has to be
offered.
-/
theorem admits_fromJsonTimestampBody {timestamp : Symbol}
    (granted : usage.Grants timestamp "fromJSON")
    : usage.AdmitsStmts (fromJsonTimestampBody timestamp) := by
  simp [fromJsonTimestampBody, granted]

/-- A helper is written in ways that are allowed if the timestamp message may be used as
it is, and for the helper that takes points in time from objects also its `fromJSON`.
-/
theorem allowsLines_helper {helper : Helper} {item : Item}
    (free
      : ∀ timestamp,
          registry.symbol Field.timestampName = .ok timestamp → usage.Frees timestamp)
    (granted
      : ∀ timestamp,
          registry.symbol Field.timestampName = .ok timestamp
          → helper = .fromJsonTimestamp
          → usage.Grants timestamp "fromJSON")
    (found : declaration registry options helper = .ok item)
    : usage.AllowsLines item.block := by
  cases helper with
  | longToNumber =>
      cases found
      exact allowsLines_functionItem (by simp) (by simp) (by simp [longToNumberBody, Stmt.when])
  | longToString =>
      cases found
      exact allowsLines_functionItem (by simp) (by simp) (by simp [longToStringBody])
  | numberToLong =>
      cases found
      exact allowsLines_functionItem (by simp) (by simp) (by simp [numberToLongBody])
  | deepPartial =>
      cases found
      exact allowsLines_flatMap (fun line _ => allowsLines_line (allows_plain line))
  | toTimestamp =>
      obtain ⟨timestamp, registered, found⟩ := bind_eq_ok.mp found
      cases found
      exact allowsLines_functionItem (by simp) (free timestamp registered) admits_toTimestampBody
  | fromTimestamp =>
      obtain ⟨timestamp, registered, found⟩ := bind_eq_ok.mp found
      cases found
      exact allowsLines_functionItem (free timestamp registered) (by simp) admits_fromTimestampBody
  | fromJsonTimestamp =>
      obtain ⟨timestamp, registered, found⟩ := bind_eq_ok.mp found
      cases found
      exact allowsLines_functionItem (by simp) (by simp)
        (admits_fromJsonTimestampBody (granted timestamp registered rfl))

end ProtobufTypeScript.Target.Usage
