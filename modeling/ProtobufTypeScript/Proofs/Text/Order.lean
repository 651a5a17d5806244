import ProtobufTypeScript.Text.Order

/-!
Relations that order all values, and what sorting by them leaves: every member of the list, once,
in ascending order.
-/

namespace ProtobufTypeScript.Text

variable {α β : Type}

/-- A relation that puts all values into one order. -/
structure Orders (le : α → α → Bool) : Prop where
  total : ∀ a b, (le a b || le b a) = true
  trans : ∀ a b c, le a b = true → le b c = true → le a c = true
  antisymm : ∀ a b, le a b = true → le b a = true → a = b

namespace Orders

theorem refl {le : α → α → Bool} (orders : Orders le) (a : α)
    : le a a = true := by
  simpa only [Bool.or_self] using orders.total a a

/-- Texts are ordered by their characters: the order of texts is total, and transitive as
that of the characters is.
-/
theorem atMost
    : Orders Text.atMost where
  total a b := by
    unfold Text.atMost
    simpa only [Bool.or_eq_true, decide_eq_true_eq] using String.le_total a b
  trans a b c := by
    unfold Text.atMost
    simpa only [decide_eq_true_eq] using String.le_trans
  antisymm a b := by
    unfold Text.atMost
    simpa only [decide_eq_true_eq] using String.le_antisymm

theorem nat
    : Orders (fun a b : Nat => decide (a ≤ b)) where
  total a b := by
    simpa only [Bool.or_eq_true, decide_eq_true_eq] using Nat.le_total a b
  trans a b c := by
    simpa only [decide_eq_true_eq] using Nat.le_trans
  antisymm a b := by
    simpa only [decide_eq_true_eq] using Nat.le_antisymm

/-- Values are ordered if their keys are and values of one key are. Witness: values of
different keys are related as these, so that each law is split by which of the keys are
the same.
-/
theorem byKey {le : α → α → Bool} (key : α → β) {keyLe : β → β → Bool} (keys : Orders keyLe)
    (later : ∀ a b, key a ≠ key b → le a b = keyLe (key a) (key b))
    (total : ∀ a b, key a = key b → (le a b || le b a) = true)
    (trans
      : ∀ a b c, key a = key b → key b = key c → le a b = true → le b c = true → le a c = true)
    (antisymm : ∀ a b, key a = key b → le a b = true → le b a = true → a = b)
    : Orders le := by
  -- Keys are related wherever values are, and this settles all cases in which they differ.
  have below : ∀ a b, le a b = true → keyLe (key a) (key b) = true := by
    intro a b related
    by_cases same : key a = key b
    · rw [same]
      exact keys.refl _
    · exact later a b same ▸ related
  refine ⟨?_, ?_, ?_⟩
  · intro a b
    by_cases same : key a = key b
    · exact total a b same
    · rw [later a b same, later b a (Ne.symm same)]
      exact keys.total _ _
  · intro a b c hab hbc
    have through : keyLe (key a) (key c) = true :=
      keys.trans _ _ _ (below a b hab) (below b c hbc)
    by_cases same : key a = key c
    · have middle : key a = key b :=
        keys.antisymm _ _ (below a b hab) (same ▸ below b c hbc)
      exact trans a b c middle (middle.symm.trans same) hab hbc
    · rw [later a c same]
      exact through
  · intro a b hab hba
    have same : key a = key b := keys.antisymm _ _ (below a b hab) (below b a hba)
    exact antisymm a b same hab hba

end Orders

/-- What is left after duplicates are erased is pairwise different. Induction on the
length of the list, which gets shorter as the equals of its head are taken out.
-/
theorem nodup_eraseDups [BEq α] [LawfulBEq α] (xs : List α)
    : xs.eraseDups.Nodup := by
  induction length : xs.length using Nat.strongRecOn generalizing xs with
  | ind n ih =>
      cases xs with
      | nil => exact List.nodup_nil
      | cons x rest =>
          rw [List.eraseDups_cons, List.nodup_cons]
          refine ⟨by simp [List.mem_eraseDups], ih _ ?_ _ rfl⟩
          rw [← length]
          exact Nat.lt_succ_of_le (List.length_filter_le _ _)

/-- Sorting distinct values keeps them all and adds none. -/
@[simp] theorem mem_sortDistinct [BEq α] [LawfulBEq α] {le : α → α → Bool} {xs : List α} {x : α}
    : x ∈ sortDistinct le xs ↔ x ∈ xs := by
  rw [sortDistinct, List.mem_mergeSort, List.mem_eraseDups]

/-- Sorted distinct values are pairwise different, since sorting only permutes. -/
theorem nodup_sortDistinct [BEq α] [LawfulBEq α] (le : α → α → Bool) (xs : List α)
    : (sortDistinct le xs).Nodup :=
  (List.mergeSort_perm _ _).nodup_iff.mpr (nodup_eraseDups xs)

/-- Sorted distinct values stand in their order. -/
theorem pairwise_sortDistinct [BEq α] {le : α → α → Bool} (orders : Orders le) (xs : List α)
    : (sortDistinct le xs).Pairwise (fun a b => le a b = true) :=
  List.pairwise_mergeSort orders.trans orders.total _

/-- Sorting a list without repetitions only changes the order. -/
theorem sortDistinct_perm [BEq α] [LawfulBEq α] (le : α → α → Bool) {xs : List α} (once : xs.Nodup)
    : (sortDistinct le xs).Perm xs := by
  rw [List.perm_ext_iff_of_nodup (nodup_sortDistinct le xs) once]
  intro x
  exact mem_sortDistinct

/-- What sorting leaves is decided by the members of a list alone: it is a permutation
without duplicates, and ordered, of which there is only one.
-/
theorem sortDistinct_eq_of_mem_iff [BEq α] [LawfulBEq α] {le : α → α → Bool}
    (orders : Orders le) {left right : List α} (same : ∀ x, x ∈ left ↔ x ∈ right)
    : sortDistinct le left = sortDistinct le right := by
  refine List.Perm.eq_of_pairwise (fun a b _ _ => orders.antisymm a b)
    (pairwise_sortDistinct orders left) (pairwise_sortDistinct orders right) ?_
  rw [List.perm_ext_iff_of_nodup (nodup_sortDistinct le left) (nodup_sortDistinct le right)]
  intro x
  rw [mem_sortDistinct, mem_sortDistinct, same]

@[simp] theorem mem_sortStrings {xs : List String} {x : String}
    : x ∈ sortStrings xs ↔ x ∈ xs :=
  mem_sortDistinct

end ProtobufTypeScript.Text
