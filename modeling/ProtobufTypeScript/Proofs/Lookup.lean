import Mathlib.Data.List.Nodup

/-!
Lookup in lists of values under keys, each key of which occurs once.
-/

namespace ProtobufTypeScript

variable {κ ν : Type} [BEq κ] [LawfulBEq κ] {items : List (κ × ν)} {key : κ} {value : ν}

/-- What is found under a key stands in the list together with it: the list is parted at
the entry that was found.
-/
theorem mem_of_lookup (found : items.lookup key = some value)
    : (key, value) ∈ items := by
  obtain ⟨before, after, parted, -⟩ := List.lookup_eq_some_iff.mp found
  rw [parted]
  exact List.mem_append_right _ List.mem_cons_self

/-- In a list without repeated keys every entry is found under its key. No entry before it
can have the same key.
-/
theorem lookup_of_mem (once : (items.map Prod.fst).Nodup) (member : (key, value) ∈ items)
    : items.lookup key = some value := by
  obtain ⟨before, after, rfl⟩ := List.append_of_mem member
  rw [List.lookup_eq_some_iff]
  refine ⟨before, after, rfl, fun other earlier => ?_⟩
  rw [List.map_append, List.nodup_append] at once
  have different : other.1 ≠ key :=
    once.2.2 other.1 (List.mem_map_of_mem earlier) key List.mem_cons_self
  simpa [bne_iff_ne] using different.symm

/-- If all keys differ, what is found under a key is just what stands there. -/
theorem lookup_eq_some_iff_mem (once : (items.map Prod.fst).Nodup)
    : items.lookup key = some value ↔ (key, value) ∈ items :=
  ⟨mem_of_lookup, lookup_of_mem once⟩

/-- Nothing is found exactly if the key is not among the keys of the list. -/
theorem lookup_eq_none_iff_not_mem
    : items.lookup key = none ↔ key ∉ items.map Prod.fst := by
  rw [List.lookup_eq_none_iff, List.mem_map]
  simp only [bne_iff_ne, ne_eq]
  exact ⟨fun absent ⟨item, member, same⟩ => absent item member same.symm,
    fun absent item member same => absent ⟨item, member, same.symm⟩⟩

omit [LawfulBEq κ] in
/-- Values that are changed under their keys are found changed. -/
theorem lookup_map_snd {μ : Type} (f : ν → μ) (items : List (κ × ν)) (key : κ)
    : (items.map (Prod.map id f)).lookup key = (items.lookup key).map f := by
  induction items with
  | nil => rfl
  | cons item rest ih =>
      rw [List.map_cons, List.lookup_cons, List.lookup_cons, ih]
      simp only [Prod.map_fst, Prod.map_snd, id]
      cases key == item.1 <;> rfl

/-- If all keys differ, the order of a list does not matter. -/
theorem lookup_eq_of_perm {left right : List (κ × ν)} (same : left.Perm right)
    (once : (left.map Prod.fst).Nodup) (key : κ)
    : left.lookup key = right.lookup key := by
  have onceRight : (right.map Prod.fst).Nodup := (same.map Prod.fst).nodup_iff.mp once
  ext value
  rw [lookup_eq_some_iff_mem once, lookup_eq_some_iff_mem onceRight, same.mem_iff]

end ProtobufTypeScript
