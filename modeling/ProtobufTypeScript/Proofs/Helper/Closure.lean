import Mathlib.Data.List.Perm.Subperm
import ProtobufTypeScript.Helper.Declaration
import ProtobufTypeScript.Proofs.Except
import ProtobufTypeScript.Proofs.Helper.Recording
import ProtobufTypeScript.Proofs.Target.Symbol

/-!
Which helpers a unit declares: all that are asked for and all that the declarations of these
mention, directly or through others, and no more.
-/

namespace ProtobufTypeScript.Helper

open Schema Target

variable {requests : Helper → List Helper} {needed : List Helper} {helper : Helper}

theorem mem_all (helper : Helper)
    : helper ∈ all := by
  cases helper <;> decide

/-- One round adds the helpers that are requested by those already needed. -/
theorem mem_grow
    : helper ∈ grow requests needed
      ↔ helper ∈ needed ∨ ∃ other ∈ needed, helper ∈ requests other := by
  simp [grow, mem_all]

/-- Closing keeps what was needed from the start. Induction along the rounds, which only
add.
-/
theorem subset_close (requests : Helper → List Helper) (needed : List Helper)
    : needed ⊆ close requests needed := by
  fun_induction close requests needed with
  | case1 needed grows ih => exact fun helper member => ih (mem_grow.mpr (Or.inl member))
  | case2 needed stays => exact List.Subset.refl needed

/-- A helper that is needed is asked for or requested by one that is needed, by induction
on how often the needed ones grow.
-/
theorem exists_request_of_mem_close (member : helper ∈ close requests needed)
    : helper ∈ needed ∨ ∃ other ∈ close requests needed, helper ∈ requests other := by
  fun_induction close requests needed with
  | case1 needed grows ih =>
      have inside := subset_close requests (grow requests needed)
      rcases ih member with grown | later
      · rcases mem_grow.mp grown with asked | ⟨other, inNeeded, requested⟩
        · exact Or.inl asked
        · exact Or.inr ⟨other, inside (mem_grow.mpr (Or.inl inNeeded)), requested⟩
      · exact Or.inr later
  | case2 needed stays => exact Or.inl member

/-- Growing keeps the order of declaration and repeats no helper. -/
theorem close_sublist (requests : Helper → List Helper) {needed : List Helper}
    (ordered : needed.Sublist all)
    : (close requests needed).Sublist all := by
  fun_induction close requests needed with
  | case1 needed grows ih => exact ih List.filter_sublist
  | case2 needed stays => exact ordered

theorem nodup_all
    : all.Nodup := by
  decide

/-- What is requested by a helper that is needed is needed too: growing stops only where
it adds nothing, so that the last step has the same members.
-/
theorem mem_close_of_requests {other : Helper} (ordered : needed.Sublist all)
    (member : other ∈ close requests needed) (requested : helper ∈ requests other)
    : helper ∈ close requests needed := by
  fun_induction close requests needed with
  | case1 needed grows ih => exact ih List.filter_sublist member
  | case2 needed stays =>
      have subset : needed ⊆ grow requests needed := fun _ known => mem_grow.mpr (Or.inl known)
      have same : needed.Perm (grow requests needed) :=
        (List.subperm_of_subset (ordered.nodup nodup_all) subset).perm_of_length_le
          (Nat.le_of_not_lt stays)
      exact same.mem_iff.mpr (mem_grow.mpr (Or.inr ⟨other, member, requested⟩))

/-- A condition on the helpers asked for that requests pass on holds of all that are
needed, by induction on how often these grow.
-/
theorem of_mem_close {p : Helper → Prop} (asked : ∀ helper ∈ needed, p helper)
    (passes : ∀ other, p other → ∀ helper ∈ requests other, p helper)
    : ∀ helper ∈ close requests needed, p helper := by
  fun_induction close requests needed with
  | case1 needed grows ih =>
      refine ih (fun helper grown => ?_)
      rcases mem_grow.mp grown with known | ⟨other, known, requested⟩
      · exact asked helper known
      · exact passes other (asked other known) helper requested
  | case2 needed stays => exact asked

/-- The helpers that a declaration requests are those that it mentions, since a
declaration records what it mentions.
-/
theorem mem_requested {registry : Registry} {options : Options} {other : Helper}
    : helper ∈ requested (declaration registry options other)
      ↔ ∃ item,
          declaration registry options other = .ok item
          ∧ helper.symbol ∈ item.block.symbols := by
  cases declared : declaration registry options other with
  | error error => simp [requested]
  | ok item => simp [requested, mem_all, recordsMentions_declaration declared helper.symbol]

/-- Whether a helper is needed where the helpers of given names are mentioned: it has one
of these names, or the declaration of a helper that is needed mentions it.
-/
inductive Needed (registry : Registry) (options : Options) (names : List String) : Helper → Prop
  | asked (helper : Helper) (named : helper.name ∈ names)
    : Needed registry options names helper
  | mentioned (helper other : Helper) (needed : Needed registry options names other) (item : Item)
    (declared : declaration registry options other = .ok item)
    (member : helper.symbol ∈ item.block.symbols)
    : Needed registry options names helper

/-- The helpers that are declared for given names. -/
def neededFor (registry : Registry) (options : Options) (names : List String) : List Helper :=
  close (fun helper => requested (declaration registry options helper))
    (all.filter (fun helper => names.contains helper.name))

section NeededFor

variable {registry : Registry} {options : Options} {names : List String}

/-- The helpers needed for some names stand in the order of all helpers. Each round
filters the list of all.
-/
theorem neededFor_sublist
    : (neededFor registry options names).Sublist all :=
  close_sublist _ List.filter_sublist

/-- The helpers that are declared are those that are needed. Witness: one direction goes
along the growing, the other one along the reasons for a need.
-/
theorem mem_neededFor
    : helper ∈ neededFor registry options names ↔ Needed registry options names helper := by
  constructor
  · refine of_mem_close ?_ ?_ helper
    · intro helper member
      exact .asked helper (by simpa [mem_all] using member)
    · intro other needed helper requests
      obtain ⟨item, declared, member⟩ := mem_requested.mp requests
      exact .mentioned helper other needed item declared member
  · intro needed
    induction needed with
    | asked helper named =>
        exact subset_close _ _ (by simpa [mem_all] using named)
    | mentioned helper other _ item declared member ih =>
        exact mem_close_of_requests List.filter_sublist ih
          (mem_requested.mpr ⟨item, declared, member⟩)

/-- The declarations of helpers are those of the needed ones, each of which must have one.
-/
theorem declarations_eq_ok {items : List Item}
    : declarations registry options names = .ok items
      ↔ List.Forall₂ (fun helper item => declaration registry options helper = .ok item)
          (neededFor registry options names) items :=
  mapM_eq_ok

/-- The helpers cannot be declared exactly if one of the needed ones cannot. -/
theorem fails_declarations
    : Fails (declarations registry options names)
      ↔ ∃ helper,
          Needed registry options names helper ∧ Fails (declaration registry options helper) := by
  rw [declarations, fails_mapM]
  exact exists_congr (fun helper => and_congr_left' mem_neededFor)

end NeededFor

/-- Each declaration that a unit carries is that of a helper that is asked for or
mentioned by one of the declarations.
-/
theorem exists_helper_of_mem_declarations {registry : Registry} {options : Options}
    {names : List String} {items : List Item}
    (found : declarations registry options names = .ok items) {item : Item} (member : item ∈ items)
    : ∃ helper,
        declaration registry options helper = .ok item
        ∧ (helper.name ∈ names ∨ ∃ other ∈ items, helper.symbol ∈ other.block.symbols) := by
  have each := mapM_eq_ok.mp found
  obtain ⟨helper, needed, declared⟩ := exists_of_mem_right each member
  refine ⟨helper, declared, ?_⟩
  rcases exists_request_of_mem_close needed with asked | ⟨other, also, requests⟩
  · exact Or.inl (by simpa [mem_all] using asked)
  · obtain ⟨requesting, made, inBlock⟩ := mem_requested.mp requests
    obtain ⟨listed, inItems, same⟩ := exists_of_mem_left each also
    rw [made, Except.ok.injEq] at same
    exact Or.inr ⟨listed, inItems, same ▸ inBlock⟩

end ProtobufTypeScript.Helper
