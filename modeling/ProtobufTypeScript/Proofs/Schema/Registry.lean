import ProtobufTypeScript.Proofs.Except
import ProtobufTypeScript.Proofs.Lookup
import ProtobufTypeScript.Schema.Registry

/-!
Where the types of a registry come from: each of them is a node of one of the files, under its full
name there.
-/

namespace ProtobufTypeScript.Schema.Registry

/-- What a node of a file is registered as. -/
def entryOf (file : File) (node : Node) : TypeEntry :=
  { unit := unitPath file.name, identifier := node.identifier, definition := node.definition }

/-- Whether a type is registered under a full name for a node of one of some files. -/
def ComesFrom (options : Options) (files : List File) (item : String × TypeEntry) : Prop :=
  ∃ file ∈ files, ∃ nodes, file.nodes .blind options = .ok nodes ∧
    ∃ node ∈ nodes, item = (fullName file.package node, entryOf file node)

/-- Adding a type appends one entry, with the full name of the type. -/
theorem entries_addNode {file : File} {registry result : Registry} {node : Node}
    (added : registry.addNode file node = .ok result)
    : result.entries = registry.entries ++ [(fullName file.package node, entryOf file node)] := by
  unfold addNode add at added
  split at added
  · cases added
  · cases added
    rfl

/-- Adding types appends an entry for each of them, in order. Induction on the types. -/
theorem entries_addNodes {file : File} {registry result : Registry} {nodes : List Node}
    (added : nodes.foldlM (addNode file) registry = .ok result)
    : result.entries
      = registry.entries
        ++ nodes.map (fun node => (fullName file.package node, entryOf file node)) := by
  induction nodes generalizing registry with
  | nil =>
      cases added
      exact (List.append_nil _).symm
  | cons node rest ih =>
      rw [List.foldlM_cons, bind_eq_ok] at added
      obtain ⟨next, first, later⟩ := added
      rw [ih later, entries_addNode first, List.append_assoc]
      rfl

/-- Adding a file adds the types of its nodes, messages first. -/
theorem entries_addFile {options : Options} {file : File} {registry result : Registry}
    (added : registry.addFile options file = .ok result)
    : ∃ nodes,
        file.nodes .blind options = .ok nodes
        ∧ result.entries
          = registry.entries
            ++ (registrationOrder nodes).map
                (fun node => (fullName file.package node, entryOf file node)) := by
  obtain ⟨nodes, found, later⟩ := bind_eq_ok.mp added
  exact ⟨nodes, found, entries_addNodes later⟩

/-- Ordering for registration keeps all types and adds none. -/
theorem mem_registrationOrder {nodes : List Node} {node : Node}
    : node ∈ registrationOrder nodes ↔ node ∈ nodes := by
  simp only [registrationOrder, List.mem_append, List.mem_filter]
  cases isMessage node <;> simp

/-- Every type of a registry comes from one of the files. Witness: induction on the files,
for any registry that they are added to.
-/
theorem comesFrom_of_mem_entries {options : Options} {files : List File} {registry : Registry}
    (built : ofFiles options files = .ok registry)
    : ∀ item ∈ registry.entries, ComesFrom options files item := by
  -- The induction is on the files, for any registry that they are added to.
  suffices general
      : ∀ (start : Registry),
          files.foldlM (addFile options) start = .ok registry
          → ∀ item ∈ registry.entries,
              item ∈ start.entries ∨ ComesFrom options files item by
    intro item member
    rcases general {} built item member with impossible | comes
    · cases impossible
    · exact comes
  clear built
  induction files with
  | nil =>
      intro start built item member
      cases built
      exact Or.inl member
  | cons file rest ih =>
      intro start built item member
      rw [List.foldlM_cons, bind_eq_ok] at built
      obtain ⟨next, first, later⟩ := built
      obtain ⟨nodes, found, entries⟩ := entries_addFile first
      rcases ih next later item member with earlier | ⟨origin, inRest, rest⟩
      · rw [entries, List.mem_append] at earlier
        rcases earlier with before | added
        · exact Or.inl before
        · obtain ⟨node, inOrder, rfl⟩ := List.mem_map.mp added
          exact Or.inr ⟨file, List.mem_cons_self, nodes, found, node,
            mem_registrationOrder.mp inOrder, rfl⟩
      · exact Or.inr ⟨origin, List.mem_cons_of_mem _ inRest, rest⟩

/-- What is found under a name is registered under it. -/
theorem mem_entries_of_entry {registry : Registry} {name : String} {entry : TypeEntry}
    (found : registry.entry name = .ok entry)
    : (name, entry) ∈ registry.entries := by
  unfold Registry.entry get? at found
  split at found
  · rename_i same chosen
    cases found
    exact mem_of_lookup chosen
  · cases found

/-- A symbol that is looked up is that of an entry under the name. -/
theorem symbol_eq_ok {registry : Registry} {name : String} {symbol : Target.Symbol}
    (found : registry.symbol name = .ok symbol)
    : ∃ entry, (name, entry) ∈ registry.entries ∧ symbol = entry.symbol := by
  obtain ⟨entry, known, rfl⟩ := map_eq_ok.mp found
  exact ⟨entry, mem_entries_of_entry known, rfl⟩

/-- A message that is looked up is the definition of an entry under the name, as an enum
there would have been refused.
-/
theorem message_eq_ok {registry : Registry} {name : String} {message : Message}
    (found : registry.message name = .ok message)
    : ∃ entry, (name, entry) ∈ registry.entries ∧ entry.definition = .message message := by
  obtain ⟨entry, known, definition⟩ := bind_eq_ok.mp found
  refine ⟨entry, mem_entries_of_entry known, ?_⟩
  split at definition
  · rename_i held same
    cases definition
    exact same
  · cases definition

end ProtobufTypeScript.Schema.Registry
