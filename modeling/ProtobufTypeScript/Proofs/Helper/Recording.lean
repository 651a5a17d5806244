import ProtobufTypeScript.Helper.Declaration
import ProtobufTypeScript.Proofs.Except
import ProtobufTypeScript.Proofs.Target.Recording

/-!
The declarations of the helpers record what they are written with: the long-integer library, the
timestamp message and the helpers that they call.
-/

namespace ProtobufTypeScript.Helper

open Schema Target

variable {options : Options} {symbol : Symbol}

/-- A helper function records what its body does. -/
theorem recordsMentions_functionItem {helper : Helper} {param : String} {type returns : TypeExpr}
    {body : Code} (records : body.RecordsMentions)
    : (functionItem helper param type returns body).RecordsMentions :=
  fun _ => Function.mem_recorded { defaults := by simp, body := records } (.topLevel false)

theorem symbols_longToNumberBody
    : longToNumberBody.flatMap Stmt.symbols = [] := by
  simp [longToNumberBody]

theorem symbols_longToStringBody
    : longToStringBody.flatMap Stmt.symbols = [] := by
  simp [longToStringBody]

theorem symbols_numberToLongBody
    : numberToLongBody.flatMap Stmt.symbols = [Library.long] := by
  simp [numberToLongBody]

/-- Long-integer objects are made of numbers by a helper, the other forms without one. -/
theorem symbols_toTimestampBody
    : (toTimestampBody options).flatMap Stmt.symbols
      = if options.longForm == .long then [numberToLong.symbol] else [] := by
  cases form : options.longForm <;>
    simp [toTimestampBody, secondsOfDate, wholeSeconds, dateMillis, nanosOfDate, form]

theorem symbols_fromTimestampBody
    : (fromTimestampBody options).flatMap Stmt.symbols = [] := by
  cases form : options.longForm <;> simp [fromTimestampBody, secondsOfTimestamp, form]

theorem mem_symbols_fromJsonTimestampBody {timestamp : Symbol}
    : symbol ∈ (fromJsonTimestampBody timestamp).flatMap Stmt.symbols
      ↔ symbol = fromTimestamp.symbol ∨ symbol = timestamp := by
  simp [fromJsonTimestampBody]

/-- The declaration of a helper records the symbols that stand in it. Witness: the helpers
one by one, each with the symbols of its body.
-/
theorem recordsMentions_declaration {registry : Registry} {helper : Helper} {item : Item}
    (declared : declaration registry options helper = .ok item)
    : item.RecordsMentions := by
  cases helper with
  | longToNumber =>
      cases declared
      exact recordsMentions_functionItem (fun symbol => by simp [symbols_longToNumberBody])
  | longToString =>
      cases declared
      exact recordsMentions_functionItem (fun symbol => by simp [symbols_longToStringBody])
  | numberToLong =>
      cases declared
      exact recordsMentions_functionItem (fun symbol => by simp [symbols_numberToLongBody])
  | deepPartial =>
      cases declared
      intro symbol
      simp [Item.recorded, Item.block]
  | toTimestamp =>
      obtain ⟨timestamp, -, declared⟩ := bind_eq_ok.mp declared
      cases declared
      exact recordsMentions_functionItem
        (fun symbol => by simp [symbols_toTimestampBody, -List.mem_flatMap])
  | fromTimestamp =>
      obtain ⟨timestamp, -, declared⟩ := bind_eq_ok.mp declared
      cases declared
      exact recordsMentions_functionItem
        (fun symbol => by simp [symbols_fromTimestampBody, -List.mem_flatMap])
  | fromJsonTimestamp =>
      obtain ⟨timestamp, -, declared⟩ := bind_eq_ok.mp declared
      cases declared
      refine recordsMentions_functionItem (fun symbol => ?_)
      simp [mem_symbols_fromJsonTimestampBody, or_comm, -List.mem_flatMap]

end ProtobufTypeScript.Helper
