import ProtobufTypeScript.Proofs.Text.Order
import ProtobufTypeScript.Target.Block

/-!
The order of symbols, and the references that it puts in order: each symbol from a module and each
helper that is mentioned, once.
-/

namespace ProtobufTypeScript.Target

open Text (Orders)

/-- A smaller rank comes first. -/
theorem decide_lt_eq_decide_le {a b : Nat} (different : a ≠ b)
    : decide (a < b) = decide (a ≤ b) := by
  simp only [decide_eq_decide]
  omega

/-- Modules are ordered totally: packages before generated units, and within each kind by
their paths. All pairs of kinds are compared.
-/
theorem Module.orders_atMost
    : Orders Module.atMost := by
  refine Orders.byKey Module.rank Orders.nat ?_ ?_ ?_ ?_
  · intro a b different
    rw [Module.atMost, if_neg different, decide_lt_eq_decide_le different]
  · intro a b same
    rw [Module.atMost, Module.atMost, if_pos same, if_pos same.symm]
    exact Orders.atMost.total _ _
  · intro a b c hab hbc
    rw [Module.atMost, Module.atMost, Module.atMost, if_pos hab, if_pos hbc,
      if_pos (hab.trans hbc)]
    exact Orders.atMost.trans _ _ _
  · intro a b same
    rw [Module.atMost, Module.atMost, if_pos same, if_pos same.symm]
    intro hab hba
    have path : a.path = b.path := Orders.atMost.antisymm _ _ hab hba
    cases a with
    | package name =>
        cases b with
        | package other => exact congrArg Module.package path
        | generated other => cases same
    | generated name =>
        cases b with
        | package other => cases same
        | generated other => exact congrArg Module.generated path

/-- Origins are ordered totally: by their kinds, then by what they hold. All pairs of one
kind are compared.
-/
theorem Origin.orders_atMost
    : Orders Origin.atMost := by
  refine Orders.byKey Origin.rank Orders.nat ?_ ?_ ?_ ?_
  · intro a b different
    rw [Origin.atMost, if_neg different, decide_lt_eq_decide_le different]
  · intro a b same
    rcases a with _ | _ | m | m <;> rcases b with _ | _ | n | n <;> first
      | rfl
      | exact Module.orders_atMost.total m n
  · intro a b c hab hbc
    rcases a with _ | _ | m | m <;> rcases b with _ | _ | n | n
      <;> rcases c with _ | _ | o | o <;> first
      | exact fun _ _ => rfl
      | exact Module.orders_atMost.trans m n o
      | simp [Origin.rank] at hab hbc
  · intro a b same hab hba
    rcases a with _ | _ | m | m <;> rcases b with _ | _ | n | n <;> first
      | rfl
      | exact congrArg _ (Module.orders_atMost.antisymm m n hab hba)
      | simp [Origin.rank] at same

/-- Symbols are ordered totally: by their names, then by their origins. Both orders are
total already.
-/
theorem Symbol.orders_atMost
    : Orders Symbol.atMost := by
  refine Orders.byKey Symbol.name Orders.atMost ?_ ?_ ?_ ?_
  · intro a b different
    rw [Symbol.atMost, if_neg different]
  · intro a b same
    rw [Symbol.atMost, Symbol.atMost, if_pos same, if_pos same.symm]
    exact Origin.orders_atMost.total _ _
  · intro a b c hab hbc
    rw [Symbol.atMost, Symbol.atMost, Symbol.atMost, if_pos hab, if_pos hbc,
      if_pos (hab.trans hbc)]
    exact Origin.orders_atMost.trans _ _ _
  · intro a b same
    rw [Symbol.atMost, Symbol.atMost, if_pos same, if_pos same.symm]
    intro hab hba
    have origin : a.origin = b.origin := Origin.orders_atMost.antisymm _ _ hab hba
    cases a
    cases b
    cases same
    cases origin
    rfl

/-- The symbols of a snippet are those that stand in it as pieces. -/
theorem Snippet.mem_symbols_iff {snippet : Snippet} {symbol : Symbol}
    : symbol ∈ snippet.symbols ↔ .symbol symbol ∈ snippet := by
  rw [Snippet.symbols, List.mem_filterMap]
  constructor
  · rintro ⟨piece, member, found⟩
    cases piece with
    | plain text => cases found
    | symbol referent => exact Option.some.inj found ▸ member
  · exact fun member => ⟨_, member, rfl⟩

/-- The symbols of a block are those of its lines of text. -/
theorem Block.mem_symbols_iff {block : Block} {symbol : Symbol}
    : symbol ∈ block.symbols ↔ ∃ line, .text line ∈ block ∧ symbol ∈ Snippet.symbols line := by
  rw [Block.symbols, List.mem_flatMap]
  constructor
  · rintro ⟨line, member, found⟩
    cases line with
    | text content => exact ⟨content, member, found⟩
    | doc comment => cases found
    | remark comment => cases found
    | blank => cases found
    | indent => cases found
    | dedent => cases found
  · rintro ⟨content, member, found⟩
    exact ⟨.text content, member, found⟩

namespace References

/-- What is to be imported are the recorded symbols that come from modules. -/
@[simp] theorem mem_imports_ofSymbols {symbols : List Symbol} {symbol : Symbol}
    : symbol ∈ (ofSymbols symbols).imports ↔ symbol ∈ symbols ∧ symbol.isFromModule = true := by
  rw [ofSymbols, Text.mem_sortDistinct, List.mem_filter]

/-- The helpers to be declared are those with a recorded symbol. -/
@[simp] theorem mem_helpers_ofSymbols {symbols : List Symbol} {name : String}
    : name ∈ (ofSymbols symbols).helpers ↔ Symbol.ofHelper name ∈ symbols := by
  rw [ofSymbols, Text.mem_sortStrings, List.mem_map]
  constructor
  · rintro ⟨⟨name, origin⟩, member, rfl⟩
    rw [List.mem_filter] at member
    have helper : origin = .helper := by simpa only [Symbol.isHelper, beq_iff_eq] using member.2
    exact helper ▸ member.1
  · intro member
    exact ⟨_, List.mem_filter.mpr ⟨member, rfl⟩, rfl⟩

/-- The references hold every symbol once, each before all that come after it in the
order.
-/
theorem pairwise_imports (symbols : List Symbol)
    : (ofSymbols symbols).imports.Pairwise (fun a b => a.atMost b = true ∧ a ≠ b) :=
  (Text.pairwise_sortDistinct Symbol.orders_atMost _).and (Text.nodup_sortDistinct _ _)

end References

end ProtobufTypeScript.Target
