import Mathlib.Data.List.Perm.Basic
import ProtobufTypeScript.Proofs.Schema.Declared
import ProtobufTypeScript.Proofs.Schema.Registry
import ProtobufTypeScript.Proofs.Text.Order

/-!
Registration of the types of files. It succeeds exactly if all types have names and no two of them
share a full name or a place in the generated code, and then the registry has just these types. If
it fails, the error is the first one that is met: a file is walked for missing names before any of
its types is registered, and its messages are registered before its enums.
-/

namespace ProtobufTypeScript.Schema

-----------------------------------------------------------------------------------------
-- What a declared type is registered as
-----------------------------------------------------------------------------------------

namespace Declared

/-- The full name of a type in a package, which may be empty. -/
def fullName (package : String) (declared : Declared) : String :=
  (if package = "" then "" else "." ++ package) ++ "." ++ declared.schemaName

/-- Whether a type is a message. -/
def isMessage (declared : Declared) : Bool :=
  match declared.definition with
  | .message _ => true
  | .enumeration _ => false

/-- The unit for a file, and the name of a type of the file in it. -/
def place (options : Options) (file : File) (declared : Declared) : String × String :=
  (unitPath file.name, declared.identifier options)

/-- What a type of a file is registered as. -/
def entry (options : Options) (file : File) (declared : Declared) : TypeEntry :=
  {
    unit := unitPath file.name
    identifier := declared.identifier options
    definition := declared.definition
  }

/-- A type of a file under its full name. -/
def item (options : Options) (file : File) (declared : Declared) : String × TypeEntry :=
  (declared.fullName file.package, declared.entry options file)

end Declared

/-- The types of a file in the order of registration. -/
def File.registered (file : File) : List Declared :=
  file.declared.filter Declared.isMessage
    ++ file.declared.filter (fun declared => !declared.isMessage)

namespace Registry

/-- Where the code of a registered type goes. -/
def placeOf (item : String × TypeEntry) : String × String :=
  (item.2.unit, item.2.identifier)

/-- Whether a full name or a place is that of a type before. -/
def IsTaken (before : List (String × TypeEntry)) (item : String × TypeEntry) : Prop :=
  item.1 ∈ before.map Prod.fst ∨ placeOf item ∈ before.map placeOf

/-- No two types share a full name or a place. -/
structure IsDistinct (items : List (String × TypeEntry)) : Prop where
  names : (items.map Prod.fst).Nodup
  places : (items.map placeOf).Nodup

theorem nodup_map_concat {α β : Type} {f : α → β} {xs : List α} {x : α}
    : ((xs ++ [x]).map f).Nodup ↔ f x ∉ xs.map f ∧ (xs.map f).Nodup := by
  rw [List.map_append, List.map_singleton, List.nodup_middle, List.append_nil, List.nodup_cons]

/-- A further type keeps all distinct exactly if neither its name nor its place is taken,
each of the two on its own account.
-/
theorem isDistinct_concat {items : List (String × TypeEntry)} {item : String × TypeEntry}
    : IsDistinct (items ++ [item]) ↔ IsDistinct items ∧ ¬ IsTaken items item := by
  constructor
  · rintro ⟨names, places⟩
    rw [nodup_map_concat] at names places
    exact ⟨⟨names.2, places.2⟩, not_or.mpr ⟨names.1, places.1⟩⟩
  · rintro ⟨⟨names, places⟩, free⟩
    obtain ⟨name, place⟩ := not_or.mp free
    exact ⟨nodup_map_concat.mpr ⟨name, names⟩, nodup_map_concat.mpr ⟨place, places⟩⟩

/-- The first part of distinct entries is distinct. -/
theorem IsDistinct.of_append {left right : List (String × TypeEntry)}
    (distinct : IsDistinct (left ++ right))
    : IsDistinct left := by
  obtain ⟨names, places⟩ := distinct
  rw [List.map_append] at names places
  exact ⟨names.of_append_left, places.of_append_left⟩

-----------------------------------------------------------------------------------------
-- Adding the nodes of a file
-----------------------------------------------------------------------------------------

/-- What a node of a file is registered as, under its full name. -/
def nodeItem (file : File) (node : Node) : String × TypeEntry :=
  (fullName file.package node, entryOf file node)

variable {options : Options} {file : File} {registry result : Registry} {error : GenerationError}

/-- A registry is no more than its entries. -/
theorem eq_of_entries (same : registry.entries = result.entries)
    : registry = result := by
  cases registry
  cases result
  exact congrArg Registry.mk same

theorem isSome_get? {name : String}
    : (registry.get? name).isSome = true ↔ name ∈ registry.entries.map Prod.fst := by
  rw [get?, Option.isSome_iff_ne_none, ne_eq, lookup_eq_none_iff_not_mem, Classical.not_not]

theorem declares_iff {unit identifier : String}
    : registry.declares unit identifier = true
      ↔ (unit, identifier) ∈ registry.entries.map placeOf := by
  simp [declares, placeOf]

/-- A type is taken if its full name or its place in the unit is, which is what the
registry tests.
-/
theorem isTaken_iff {node : Node}
    : IsTaken registry.entries (nodeItem file node)
      ↔ (registry.get? (fullName file.package node)).isSome = true
        ∨ registry.declares (unitPath file.name) node.identifier = true := by
  rw [isSome_get?, declares_iff]
  rfl

/-- A node is added if neither its full name nor its place is taken, and then stands
behind those that were there.
-/
theorem addNode_eq_ok {node : Node}
    : registry.addNode file node = .ok result
      ↔ ¬ IsTaken registry.entries (nodeItem file node)
        ∧ result.entries = registry.entries ++ [nodeItem file node] := by
  unfold addNode add
  cases result
  split
  · rename_i taken
    rw [Bool.or_eq_true, ← isTaken_iff] at taken
    simp [taken]
  · rename_i free
    rw [Bool.or_eq_true, ← isTaken_iff] at free
    rw [Except.ok.injEq, Registry.mk.injEq]
    exact ⟨fun same => ⟨free, same.symm⟩, fun added => added.2.symm⟩

/-- A type is refused exactly if its name or its place is taken, as a duplicate in the
file that has the second one.
-/
theorem addNode_eq_error {node : Node}
    : registry.addNode file node = .error error
      ↔ IsTaken registry.entries (nodeItem file node)
        ∧ error = .duplicateType file.name (fullName file.package node) := by
  unfold addNode add
  split
  · rename_i taken
    rw [Bool.or_eq_true, ← isTaken_iff] at taken
    simp [taken, eq_comm]
  · rename_i free
    rw [Bool.or_eq_true, ← isTaken_iff] at free
    simp [free]

/-- Whether a step adds given types to a registry whose types are distinct, exactly if
what it works on is fine and all types stay distinct.
-/
def Adds {α : Type} (step : Registry → α → Except GenerationError Registry) (isFine : α → Prop)
    (added : α → List (String × TypeEntry))
    : Prop :=
  ∀ (registry result : Registry) (x : α),
    IsDistinct registry.entries
    → (step registry x = .ok result
        ↔ isFine x
          ∧ result.entries = registry.entries ++ added x
          ∧ IsDistinct result.entries)

/-- Steps in sequence add all their types, by induction on what they are for. All that is
asked of the entries is that they are distinct again after each step.
-/
theorem Adds.foldlM {α : Type} {step : Registry → α → Except GenerationError Registry}
    {isFine : α → Prop} {added : α → List (String × TypeEntry)} (adds : Adds step isFine added)
    {xs : List α} (distinct : IsDistinct registry.entries)
    : xs.foldlM step registry = .ok result
      ↔ (∀ x ∈ xs, isFine x)
        ∧ result.entries = registry.entries ++ xs.flatMap added
        ∧ IsDistinct result.entries := by
  induction xs generalizing registry with
  | nil =>
      rw [List.foldlM_nil, List.flatMap_nil, List.append_nil]
      constructor
      · intro same
        cases same
        exact ⟨by simp, rfl, distinct⟩
      · rintro ⟨-, same, -⟩
        exact congrArg Except.ok (eq_of_entries same.symm)
  | cons x rest ih =>
      rw [List.foldlM_cons, bind_eq_ok, List.forall_mem_cons, List.flatMap_cons,
        ← List.append_assoc]
      constructor
      · rintro ⟨next, first, later⟩
        obtain ⟨fine, entries, kept⟩ := (adds _ _ _ distinct).mp first
        obtain ⟨others, all, still⟩ := (ih kept).mp later
        exact ⟨⟨fine, others⟩, entries ▸ all, still⟩
      · rintro ⟨⟨fine, others⟩, all, still⟩
        have kept : IsDistinct (registry.entries ++ added x) := by
          rw [all] at still
          exact still.of_append
        exact ⟨⟨_⟩, (adds _ _ _ distinct).mpr ⟨fine, rfl, kept⟩, (ih kept).mpr ⟨others, all, still⟩⟩

/-- Adding one type appends its entry, or fails because something is taken. -/
theorem adds_addNode (file : File)
    : Adds (addNode file) (fun _ => True) (fun node => [nodeItem file node]) := by
  intro registry result node distinct
  rw [addNode_eq_ok, true_and, and_comm]
  refine and_congr_right fun entries => ?_
  rw [entries, isDistinct_concat]
  exact (and_iff_right distinct).symm

/-- Nodes are added exactly if all types stay distinct. -/
theorem addNodes_eq_ok {nodes : List Node} (distinct : IsDistinct registry.entries)
    : nodes.foldlM (addNode file) registry = .ok result
      ↔ result.entries = registry.entries ++ nodes.map (nodeItem file)
        ∧ IsDistinct result.entries := by
  rw [(adds_addNode file).foldlM distinct, ← List.map_eq_flatMap]
  exact and_iff_right (fun _ _ => trivial)

/-- The first node whose full name or place is taken is an error. Those before it were
added, so that all their names and places are taken as well.
-/
theorem addNodes_eq_error {nodes : List Node} (distinct : IsDistinct registry.entries)
    : nodes.foldlM (addNode file) registry = .error error
      ↔ ∃ before item after,
          nodes.map (nodeItem file) = before ++ item :: after
          ∧ IsDistinct (registry.entries ++ before)
          ∧ IsTaken (registry.entries ++ before) item
          ∧ error = .duplicateType file.name item.1 := by
  rw [foldlM_eq_error]
  constructor
  · rintro ⟨before, node, after, rfl, next, added, failed⟩
    obtain ⟨entries, kept⟩ := (addNodes_eq_ok distinct).mp added
    obtain ⟨taken, rfl⟩ := addNode_eq_error.mp failed
    rw [entries] at kept taken
    exact ⟨before.map (nodeItem file), nodeItem file node, after.map (nodeItem file), by simp,
      kept, taken, rfl⟩
  · rintro ⟨before, item, after, parted, kept, taken, rfl⟩
    obtain ⟨earlier, others, rfl, rfl, rest⟩ := List.map_eq_append_iff.mp parted
    obtain ⟨node, later, rfl, rfl, rfl⟩ := List.map_eq_cons_iff.mp rest
    exact ⟨earlier, node, later, rfl, ⟨_⟩, (addNodes_eq_ok distinct).mpr ⟨rfl, kept⟩,
      addNode_eq_error.mpr ⟨taken, rfl⟩⟩

-----------------------------------------------------------------------------------------
-- Adding a file
-----------------------------------------------------------------------------------------

/-- The order of registration is found from anything that tells messages from enums:
messages come first.
-/
theorem registrationOrder_map {α : Type} {f : α → Node} {kind : α → Bool}
    (same : ∀ x, isMessage (f x) = kind x) (xs : List α)
    : registrationOrder (xs.map f) = (xs.filter kind ++ xs.filter (fun x => !kind x)).map f := by
  have kinds : isMessage ∘ f = kind := funext same
  have others : (fun node => !isMessage node) ∘ f = fun x => !kind x :=
    funext fun x => congrArg _ (same x)
  rw [registrationOrder, List.filter_map, List.filter_map, kinds, others, List.map_append]

theorem nodeItem_node (declared : Declared)
    : nodeItem file (declared.node options) = declared.item options file := by
  simp [nodeItem, fullName, entryOf, Declared.node, Declared.item, Declared.fullName,
    Declared.entry]

theorem isMessage_node (declared : Declared)
    : isMessage (declared.node options) = declared.isMessage :=
  rfl

/-- The nodes of a file are registered as its declared types. A node is registered in the
same way without its place among the comments, which a type lacks.
-/
theorem map_nodeItem_registrationOrder {nodes : List Node}
    (found : file.nodes .blind options = .ok nodes)
    : (registrationOrder nodes).map (nodeItem file)
      = file.registered.map (Declared.item options file) := by
  have bare := (File.nodes_eq_ok_declared found).2
  -- A node is registered in the same way without its place among the comments.
  calc (registrationOrder nodes).map (nodeItem file)
      = ((registrationOrder nodes).map Node.bare).map (nodeItem file) := by
        rw [List.map_map]
        rfl
    _ = (registrationOrder (nodes.map Node.bare)).map (nodeItem file) := by
        rw [registrationOrder_map (fun node => (rfl : isMessage node.bare = isMessage node))]
        rfl
    _ = (file.registered.map (Declared.node options)).map (nodeItem file) := by
        rw [bare, registrationOrder_map isMessage_node]
        rfl
    _ = file.registered.map (Declared.item options file) := by
        rw [List.map_map]
        exact List.map_congr_left (fun declared _ => nodeItem_node declared)

/-- A file is added exactly if all its types have names and all types stay distinct.
Witness: whether the nodes of the file are found.
-/
theorem adds_addFile (options : Options)
    : Adds (addFile options) (fun file => ∀ declared ∈ file.declared, declared.IsNamed)
        (fun file => file.registered.map (Declared.item options file)) := by
  intro registry result file distinct
  rw [addFile]
  cases found : file.nodes .blind options with
  | error error =>
      obtain ⟨before, declared, after, parted, -, unnamed, -⟩ := File.nodes_eq_error.mp found
      have inFile : declared ∈ file.declared := by simp [parted]
      simp only [bind, Except.bind, reduceCtorEq, false_iff, not_and]
      exact fun named => absurd (named declared inFile) unnamed
  | ok nodes =>
      simp only [bind, Except.bind]
      rw [addNodes_eq_ok distinct, map_nodeItem_registrationOrder found]
      exact (and_iff_right (File.nodes_eq_ok_declared found).1).symm

/-- The first fault of a file: its first type without a name, or else, in the order of
registration, its first type whose full name or place is taken.
-/
inductive FileFault (options : Options) (before : List (String × TypeEntry)) (file : File)
    : GenerationError → Prop
  | unnamed (earlier : List Declared) (declared : Declared) (later : List Declared)
    (parted : file.declared = earlier ++ declared :: later)
    (named : ∀ other ∈ earlier, other.IsNamed) (missing : ¬ declared.IsNamed)
    : FileFault options before file (.unnamed declared.scope)
  | duplicate (earlier : List (String × TypeEntry)) (item : String × TypeEntry)
    (later : List (String × TypeEntry)) (named : ∀ declared ∈ file.declared, declared.IsNamed)
    (parted : file.registered.map (Declared.item options file) = earlier ++ item :: later)
    (distinct : IsDistinct (before ++ earlier)) (taken : IsTaken (before ++ earlier) item)
    : FileFault options before file (.duplicateType file.name item.1)

/-- A file that is not added ends the registration with its first fault, which is a type
without a name before anything is added, or else a taken one.
-/
theorem addFile_eq_error (distinct : IsDistinct registry.entries)
    : registry.addFile options file = .error error
      ↔ FileFault options registry.entries file error := by
  rw [addFile, bind_eq_error]
  constructor
  · rintro (missing | ⟨nodes, found, failed⟩)
    · obtain ⟨before, declared, after, parted, named, unnamed, rfl⟩ :=
        File.nodes_eq_error.mp missing
      exact .unnamed before declared after parted named unnamed
    · obtain ⟨before, item, after, parted, kept, taken, rfl⟩ :=
        (addNodes_eq_error distinct).mp failed
      rw [map_nodeItem_registrationOrder found] at parted
      exact .duplicate before item after (File.nodes_eq_ok_declared found).1 parted kept taken
  · intro fault
    cases fault with
    | unnamed before declared after parted named unnamed =>
        exact Or.inl (File.nodes_eq_error.mpr
          ⟨before, declared, after, parted, named, unnamed, rfl⟩)
    | duplicate before item after named parted kept taken =>
        obtain ⟨nodes, found⟩ := File.exists_nodes .blind options named
        rw [← map_nodeItem_registrationOrder found] at parted
        exact Or.inr ⟨nodes, found, (addNodes_eq_error distinct).mpr
          ⟨before, item, after, parted, kept, taken, rfl⟩⟩

-----------------------------------------------------------------------------------------
-- Registering files
-----------------------------------------------------------------------------------------

/-- All types of some files under their full names, in the order of registration. -/
def items (options : Options) (files : List File) : List (String × TypeEntry) :=
  files.flatMap (fun file => file.registered.map (Declared.item options file))

theorem isDistinct_empty
    : IsDistinct (entries {}) :=
  ⟨List.nodup_nil, List.nodup_nil⟩

/-- Files are registered exactly if all their types have names and are distinct. -/
theorem ofFiles_eq_ok {files : List File}
    : ofFiles options files = .ok result
      ↔ (∀ file ∈ files, ∀ declared ∈ file.declared, declared.IsNamed)
        ∧ result.entries = items options files
        ∧ IsDistinct result.entries :=
  (adds_addFile options).foldlM isDistinct_empty

/-- Whether files can be registered: all their types have names, and no two of these types
share a full name or a place.
-/
structure Registrable (options : Options) (files : List File) : Prop where
  named : ∀ file ∈ files, ∀ declared ∈ file.declared, declared.IsNamed
  names : (files.flatMap (fun file => file.declared.map (Declared.fullName file.package))).Nodup
  places : (files.flatMap (fun file => file.declared.map (Declared.place options file))).Nodup

/-- The first fault of some files is that of the first file that cannot be registered with
those before it.
-/
inductive FirstFault (options : Options) (files : List File) : GenerationError → Prop
  | inFile (earlier : List File) (file : File) (later : List File) (error : GenerationError)
    (parted : files = earlier ++ file :: later) (fine : Registrable options earlier)
    (fault : FileFault options (items options earlier) file error)
    : FirstFault options files error

theorem registered_perm (file : File)
    : file.registered.Perm file.declared :=
  List.filter_append_perm _ _

/-- Types in the order of registration have the same names and places as in the order of
their declaration.
-/
theorem nodup_map_items {α : Type} {f : String × TypeEntry → α} {g : File → Declared → α}
    (same : ∀ file declared, f (declared.item options file) = g file declared) (files : List File)
    : ((items options files).map f).Nodup
      ↔ (files.flatMap (fun file => file.declared.map (g file))).Nodup := by
  have maps : ∀ file, f ∘ Declared.item options file = g file := fun file => funext (same file)
  rw [items, List.map_flatMap]
  refine List.Perm.nodup_iff (List.Perm.flatMap_left files (fun file _ => ?_))
  rw [List.map_map, maps]
  exact (registered_perm file).map _

/-- The entries of files are distinct exactly if all full names are, and all places in
units. The order of registration does not matter for this.
-/
theorem isDistinct_items {files : List File}
    : IsDistinct (items options files)
      ↔ (files.flatMap (fun file => file.declared.map (Declared.fullName file.package))).Nodup
        ∧ (files.flatMap (fun file => file.declared.map (Declared.place options file))).Nodup := by
  have names := nodup_map_items (f := Prod.fst) (g := fun file => Declared.fullName file.package)
    (fun file declared => (rfl : (declared.item options file).1 = _)) files
  have places := nodup_map_items (f := placeOf) (g := Declared.place options)
    (fun file declared => (rfl : placeOf (declared.item options file) = _)) files
  rw [← names, ← places]
  exact ⟨fun distinct => ⟨distinct.names, distinct.places⟩, fun ⟨names, places⟩ => ⟨names, places⟩⟩

/-- Whether files can be registered is whether all their types have names and are
distinct.
-/
theorem registrable_iff {files : List File}
    : Registrable options files
      ↔ (∀ file ∈ files, ∀ declared ∈ file.declared, declared.IsNamed)
        ∧ IsDistinct (items options files) := by
  rw [isDistinct_items]
  exact ⟨fun fine => ⟨fine.named, fine.names, fine.places⟩, fun ⟨named, names, places⟩ =>
    ⟨named, names, places⟩⟩

/-- The registry for files is made of their entries, if these are distinct and all types
have names. Nothing else than the entries is kept.
-/
theorem ofFiles_eq_ok_iff {files : List File}
    : ofFiles options files = .ok result
      ↔ Registrable options files ∧ result.entries = items options files := by
  rw [ofFiles_eq_ok, registrable_iff, and_assoc]
  refine and_congr_right fun _ => ⟨?_, ?_⟩
  · rintro ⟨entries, distinct⟩
    exact ⟨entries ▸ distinct, entries⟩
  · rintro ⟨distinct, entries⟩
    exact ⟨entries, entries ▸ distinct⟩

/-- Files can be registered exactly if they are registrable. -/
theorem exists_ofFiles_iff {files : List File}
    : (∃ registry, ofFiles options files = .ok registry) ↔ Registrable options files := by
  constructor
  · rintro ⟨registry, built⟩
    exact (ofFiles_eq_ok_iff.mp built).1
  · intro fine
    exact ⟨⟨items options files⟩, ofFiles_eq_ok_iff.mpr ⟨fine, rfl⟩⟩

/-- The first file that cannot be registered ends the registration with its first fault.
The files before it have a registry, which is that of their entries.
-/
theorem ofFiles_eq_error {files : List File}
    : ofFiles options files = .error error ↔ FirstFault options files error := by
  rw [ofFiles, foldlM_eq_error]
  constructor
  · rintro ⟨earlier, file, later, parted, registry, built, failed⟩
    obtain ⟨fine, entries⟩ := ofFiles_eq_ok_iff.mp built
    have distinct : IsDistinct registry.entries := entries ▸ (registrable_iff.mp fine).2
    have fault := (addFile_eq_error distinct).mp failed
    exact .inFile earlier file later error parted fine (entries ▸ fault)
  · rintro ⟨earlier, file, later, error, parted, fine, fault⟩
    have distinct : IsDistinct (items options earlier) := (registrable_iff.mp fine).2
    exact ⟨earlier, file, later, parted, ⟨items options earlier⟩,
      ofFiles_eq_ok_iff.mpr ⟨fine, rfl⟩, (addFile_eq_error distinct).mpr fault⟩

end Registry

end ProtobufTypeScript.Schema
