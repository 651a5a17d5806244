import ProtobufTypeScript.Helper.Declaration
import ProtobufTypeScript.Proofs.Except
import ProtobufTypeScript.Proofs.Target.DeclarationBrackets

/-!
Brackets in helpers, all of whose texts are fixed: helpers are written with balanced brackets.
-/

namespace ProtobufTypeScript.Helper

open Schema Target

variable {registry : Registry} {options : Options}

attribute [local simp] Expr.Balances Expr.BalancesAll Stmt.Balances Stmt.BalancesAll
  Otherwise.Balances TypeExpr.Balances TypeExpr.BalancesAll Expr.method Expr.field Stmt.when

theorem balances_name {helper : Helper}
    : Text.Balances helper.name := by
  cases helper <;> exact balances_of_isPlain (by decide)

/-- The declaration of a helper with one parameter is balanced if what it is made with is.
The texts that all helpers have in common are settled here.
-/
theorem balances_functionItem {helper : Helper} {param : String} {type returns : TypeExpr}
    {body : List Stmt} {recorded : List Symbol}
    (named : Text.Balances param) (typed : type.Balances)
    (returned : returns.Balances) (balanced : Stmt.BalancesAll body)
    : Block.Balances
        (functionItem helper param type returns { lines := Stmt.codeAll body, recorded }).block :=
  Function.Balances.code (.topLevel false)
    {
      name := balances_name
      doc := nofun
      typeParams := nofun
      params := by simp [Param.balances_iff, named, typed]
      returns := by simp [returned]
      body := balanced.codeAll
    }

theorem balances_dateMillis
    : dateMillis.Balances := by
  simp (disch := decide) [dateMillis, balances_of_isPlain]

/-- What makes a timestamp from a date is balanced, in each form of 64-bit integers. -/
theorem balances_toTimestampBody
    : Stmt.BalancesAll (toTimestampBody options) := by
  have seconds : (secondsOfDate options).Balances := by
    unfold secondsOfDate wholeSeconds
    split <;> simp (disch := decide) [balances_of_isPlain, balances_dateMillis]
  simp (disch := decide) [toTimestampBody, nanosOfDate, balances_of_isPlain, seconds,
    balances_dateMillis]

/-- What makes a date from a timestamp is balanced, in each form of 64-bit integers. -/
theorem balances_fromTimestampBody
    : Stmt.BalancesAll (fromTimestampBody options) := by
  have seconds : (secondsOfTimestamp options).Balances := by
    unfold secondsOfTimestamp
    split <;> simp (disch := decide) [balances_of_isPlain]
  simp (disch := decide) [fromTimestampBody, balances_of_isPlain, seconds]

/-- The lines of the type of partial messages are balanced, all taken together. -/
theorem balances_deepPartialLines
    : Block.Balances (deepPartialLines.flatMap (fun line => Block.line [.plain line])) := by
  show Text.IsBalanced (Block.brackets _)
  decide

/-- Every helper is written with balanced brackets. Witness: the helpers one by one, with
statements made of plain names and texts.
-/
theorem balances_declaration {helper : Helper} {item : Item}
    (found : declaration registry options helper = .ok item)
    : item.block.Balances := by
  cases helper with
  | longToNumber =>
      cases found
      refine balances_functionItem (by decide) (by simp) (by simp) ?_
      simp (disch := decide) [longToNumberBody, balances_of_isPlain]
  | longToString =>
      cases found
      refine balances_functionItem (by decide) (by simp) (by simp) ?_
      simp (disch := decide) [longToStringBody, balances_of_isPlain]
  | numberToLong =>
      cases found
      refine balances_functionItem (by decide) (by simp) (by simp) ?_
      simp (disch := decide) [numberToLongBody, balances_of_isPlain]
  | deepPartial =>
      cases found
      exact balances_deepPartialLines
  | toTimestamp =>
      obtain ⟨timestamp, registered, found⟩ := bind_eq_ok.mp found
      cases found
      exact balances_functionItem (by decide) (by simp) trivial balances_toTimestampBody
  | fromTimestamp =>
      obtain ⟨timestamp, registered, found⟩ := bind_eq_ok.mp found
      cases found
      exact balances_functionItem (by decide) trivial (by simp) balances_fromTimestampBody
  | fromJsonTimestamp =>
      obtain ⟨timestamp, registered, found⟩ := bind_eq_ok.mp found
      cases found
      refine balances_functionItem (by decide) (by simp) (by simp) ?_
      simp (disch := decide) [fromJsonTimestampBody, balances_of_isPlain]

end ProtobufTypeScript.Helper
