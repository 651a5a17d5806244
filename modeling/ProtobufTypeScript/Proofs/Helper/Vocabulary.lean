import ProtobufTypeScript.Helper.Declaration
import ProtobufTypeScript.Proofs.Field.Classification
import ProtobufTypeScript.Proofs.Target.DeclarationVocabulary

/-!
The vocabulary of helpers: their declarations mention nothing but libraries, other helpers and the
registered timestamp message.
-/

namespace ProtobufTypeScript.Target.Vocabulary

open ProtobufTypeScript.Helper Schema

variable {words : Vocabulary} {registry : Registry} {options : Options}

@[simp] theorem spells_helperName (helper : Helper)
    : words.Spells helper.name := by
  cases helper <;> exact spells_of_isAscii (by decide)

/-- A helper function is within a vocabulary if its parts are. The name of the helper is
plain text, and there is no comment.
-/
theorem covers_functionItem (helper : Helper) {param : String} {type returns : TypeExpr}
    {body : List Stmt} {recorded : List Symbol}
    (spelled : words.Spells param) (typed : words.Writes type.snippet)
    (returned : words.Writes returns.snippet)
    (covered : ∀ statement ∈ body, words.Covers statement.code)
    : words.Covers
        (Item.block
          (functionItem helper param type returns { lines := Stmt.codeAll body, recorded })) := by
  rw [functionItem, Item.block]
  apply covers_function
  exact {
    name := spells_helperName helper
    doc := by simp
    typeParams := by simp
    params := by simp [hasParam_iff, spelled, typed]
    returns := by simp [returned]
    body := covers_codeAll.mpr covered
  }

theorem writes_grouped {value : Nat} (ascii : isAscii (Expr.groupedText value) = true)
    : words.Writes (Expr.grouped value).snippet := by
  rw [Expr.snippet]
  simp [spells_of_isAscii ascii]

/-- The declaration of a helper is within a vocabulary. Witness: the helpers one by one,
of which only those for timestamps need the registry.
-/
theorem covers_helper (has : words.HasRegistry registry) (helper : Helper) {item : Item}
    (found : declaration registry options helper = .ok item)
    : words.Covers item.block := by
  have thousand : words.Writes (Expr.grouped 1000).snippet := writes_grouped (by decide)
  have million : words.Writes (Expr.grouped 1000000).snippet := writes_grouped (by decide)
  cases helper with
  | longToNumber =>
      cases found
      apply covers_functionItem <;> simp (disch := decide) [longToNumberBody, spells_of_isAscii]
  | longToString =>
      cases found
      apply covers_functionItem <;> simp (disch := decide) [longToStringBody, spells_of_isAscii]
  | numberToLong =>
      cases found
      apply covers_functionItem <;> simp (disch := decide) [numberToLongBody, spells_of_isAscii]
  | deepPartial =>
      cases found
      simp (disch := decide) [Item.block, deepPartialLines, spells_of_isAscii]
  | toTimestamp =>
      obtain ⟨timestamp, known, found⟩ := bind_eq_ok.mp found
      cases found
      have symbol := symbol_of_registry has known
      have seconds : words.Writes (secondsOfDate options).snippet := by
        unfold secondsOfDate
        split <;>
          simp (disch := decide) [wholeSeconds, dateMillis, spells_of_isAscii, thousand]
      apply covers_functionItem <;>
        simp (disch := decide) [toTimestampBody, nanosOfDate, dateMillis, spells_of_isAscii,
          thousand, million, seconds, symbol]
  | fromTimestamp =>
      obtain ⟨timestamp, known, found⟩ := bind_eq_ok.mp found
      cases found
      have symbol := symbol_of_registry has known
      have seconds : words.Writes (secondsOfTimestamp options).snippet := by
        unfold secondsOfTimestamp
        split <;> simp (disch := decide) [spells_of_isAscii]
      apply covers_functionItem <;>
        simp (disch := decide) [fromTimestampBody, spells_of_isAscii, thousand, million, seconds,
          symbol]
  | fromJsonTimestamp =>
      obtain ⟨timestamp, known, found⟩ := bind_eq_ok.mp found
      cases found
      have symbol := symbol_of_registry has known
      apply covers_functionItem <;>
        simp (disch := decide) [fromJsonTimestampBody, spells_of_isAscii, symbol,
          has.timestamp timestamp known .fromTimestamp rfl]

/-- The helpers that a unit declares are within every vocabulary that has the symbols of
the registry.
-/
theorem covers_helpers (has : words.HasRegistry registry) {names : List String}
    {items : List Item} (found : Helper.declarations registry options names = .ok items)
    : ∀ item ∈ items, words.Covers item.block := by
  intro item member
  obtain ⟨helper, -, declared⟩ := exists_of_mem_right (mapM_eq_ok.mp found) member
  exact covers_helper has helper declared

end ProtobufTypeScript.Target.Vocabulary
