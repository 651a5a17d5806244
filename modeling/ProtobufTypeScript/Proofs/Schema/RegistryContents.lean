import ProtobufTypeScript.Proofs.Schema.Registration

/-!
What a registry of files has: just the types that the files declare, each under its full name and in
its place.
-/

namespace ProtobufTypeScript.Schema.Registry

variable {options : Options} {files : List File} {registry : Registry}

/-- Whether a registry has just the types of some files. -/
structure Registers (options : Options) (files : List File) (registry : Registry) : Prop where
  size : registry.size = (files.flatMap File.declared).length
  /-- Each type is found under its full name. -/
  known
    : ∀ file ∈ files, ∀ declared ∈ file.declared,
        registry.entry (declared.fullName file.package) = .ok (declared.entry options file)
  /-- Nothing is found under a name that is not the full name of a type. -/
  unknown
    : ∀ name,
        (∀ file ∈ files, ∀ declared ∈ file.declared, declared.fullName file.package ≠ name)
        → registry.entry name = .error (.unknownType name)
  /-- The names in a unit are those of the types of its files. -/
  identifiers
    : ∀ unit identifier,
        identifier ∈ registry.identifiersIn unit
        ↔ ∃ file ∈ files,
            unitPath file.name = unit
            ∧ ∃ declared ∈ file.declared, declared.identifier options = identifier
  /-- Types with different full names have different symbols. -/
  symbols
    : ∀ left right symbol,
        registry.symbol left = .ok symbol → registry.symbol right = .ok symbol → left = right

-----------------------------------------------------------------------------------------
-- Entries
-----------------------------------------------------------------------------------------

/-- What is looked up in a registry of distinct entries is the entry under the name. -/
theorem entry_eq_ok (distinct : IsDistinct registry.entries) {name : String} {type : TypeEntry}
    : registry.entry name = .ok type ↔ (name, type) ∈ registry.entries := by
  rw [← lookup_eq_some_iff_mem distinct.names, Registry.entry, get?]
  cases registry.entries.lookup name <;> simp

/-- A name without an entry is unknown. -/
theorem entry_eq_error {name : String} (absent : name ∉ registry.entries.map Prod.fst)
    : registry.entry name = .error (.unknownType name) := by
  rw [Registry.entry, get?, lookup_eq_none_iff_not_mem.mpr absent]

/-- The entries of files are those of the types that the files declare. -/
theorem mem_items {item : String × TypeEntry}
    : item ∈ items options files
      ↔ ∃ file ∈ files, ∃ declared ∈ file.declared, declared.item options file = item := by
  simp only [items, List.mem_flatMap, List.mem_map, (registered_perm _).mem_iff]

/-- A unit has the identifiers of the entries that are registered for it. -/
theorem mem_identifiersIn {unit identifier : String}
    : identifier ∈ registry.identifiersIn unit
      ↔ ∃ item ∈ registry.entries, item.2.unit = unit ∧ item.2.identifier = identifier := by
  simp [identifiersIn, and_assoc]

/-- A symbol gives away the place of its type. -/
theorem placeOf_eq {left right : String × TypeEntry} (same : left.2.symbol = right.2.symbol)
    : placeOf left = placeOf right := by
  have parts := Target.Symbol.mk.inj same
  have module := Target.Module.generated.inj (Target.Origin.named.inj parts.2)
  exact Prod.ext module parts.1

/-- Types in different places have different symbols, as a symbol tells the unit and the
identifier, and no two entries share both.
-/
theorem symbol_injective (distinct : IsDistinct registry.entries) {left right : String}
    {symbol : Target.Symbol} (first : registry.symbol left = .ok symbol)
    (second : registry.symbol right = .ok symbol)
    : left = right := by
  obtain ⟨leftType, leftMember, leftSymbol⟩ := symbol_eq_ok first
  obtain ⟨rightType, rightMember, rightSymbol⟩ := symbol_eq_ok second
  have place : placeOf (left, leftType) = placeOf (right, rightType) :=
    placeOf_eq (leftSymbol.symm.trans rightSymbol)
  have item : (left, leftType) = (right, rightType) :=
    List.inj_on_of_nodup_map distinct.places leftMember rightMember place
  exact congrArg Prod.fst item

-----------------------------------------------------------------------------------------
-- Registries of files
-----------------------------------------------------------------------------------------

/-- There are as many entries as there are declared types. -/
theorem length_items
    : (items options files).length = (files.flatMap File.declared).length := by
  simp only [items, List.length_flatMap, List.length_map, (registered_perm _).length_eq]

/-- A registry of files has just their types. Its entries are those of the declared types,
so that each of them is found, and nothing else is.
-/
theorem registers_of_ofFiles (built : ofFiles options files = .ok registry)
    : Registers options files registry := by
  obtain ⟨-, entries, distinct⟩ := ofFiles_eq_ok.mp built
  have member
      : ∀ item,
          item ∈ registry.entries
          ↔ ∃ file ∈ files, ∃ declared ∈ file.declared, declared.item options file = item := by
    intro item
    rw [entries, mem_items]
  refine {
    size := ?size, known := ?known, unknown := ?unknown, identifiers := ?identifiers,
    symbols := ?symbols
  }
  case size =>
    rw [Registry.size, entries, length_items]
  case known =>
    intro file inFiles declared inFile
    rw [entry_eq_ok distinct, member]
    exact ⟨file, inFiles, declared, inFile, rfl⟩
  case unknown =>
    intro name other
    refine entry_eq_error (fun present => ?_)
    obtain ⟨item, registered, rfl⟩ := List.mem_map.mp present
    obtain ⟨file, inFiles, declared, inFile, rfl⟩ := (member item).mp registered
    exact other file inFiles declared inFile rfl
  case identifiers =>
    intro unit identifier
    rw [mem_identifiersIn]
    constructor
    · rintro ⟨item, registered, inUnit, named⟩
      obtain ⟨file, inFiles, declared, inFile, rfl⟩ := (member item).mp registered
      exact ⟨file, inFiles, inUnit, declared, inFile, named⟩
    · rintro ⟨file, inFiles, inUnit, declared, inFile, named⟩
      exact ⟨declared.item options file, (member _).mpr ⟨file, inFiles, declared, inFile, rfl⟩,
        inUnit, named⟩
  case symbols =>
    intro left right symbol first second
    exact symbol_injective distinct first second

/-- Files have a registry exactly if all their types have names and no two of them share a
full name or a place. It has just these types, and if there is none then the first fault
is the error.
-/
theorem ofFiles_registers (options : Options) (files : List File)
    : ((∃ registry, ofFiles options files = .ok registry) ↔ Registrable options files)
      ∧ (∀ registry, ofFiles options files = .ok registry → Registers options files registry)
      ∧ ∀ error, ofFiles options files = .error error ↔ FirstFault options files error :=
  ⟨exists_ofFiles_iff, fun _ => registers_of_ofFiles, fun _ => ofFiles_eq_error⟩

/-- A message inside another one is registered under both names. Two messages of a second
file get the same identifier, and the second of them is refused.
-/
theorem ofFiles_registers_nested
    : let nested : File :=
        {
          name := "company/user.proto"
          package := "company"
          messages := [{ name := "User", nested := [{ name := "Address" }] }]
          enumerations := [{ name := "Role" }]
        }
      let colliding : File :=
        {
          name := "company/role.proto"
          messages := [{ name := "UserRole" }, { name := "User_Role" }]
        }
      (∃ registry, ofFiles {} [nested] = .ok registry ∧ Registers {} [nested] registry)
      ∧ Registrable {} [nested]
      ∧ FirstFault {} [nested, colliding] (.duplicateType "company/role.proto" ".User_Role") := by
  intro nested colliding
  have some : (ofFiles {} [nested]).toOption.isSome = true := by decide +kernel
  have failed
      : (ofFiles {} [nested, colliding]).map Registry.size
        = .error (.duplicateType "company/role.proto" ".User_Role") := by
    decide +kernel
  obtain ⟨registry, kept⟩ := Option.isSome_iff_exists.mp some
  have built : ofFiles {} [nested] = .ok registry := toOption_eq_some.mp kept
  obtain ⟨registrable, registers, -⟩ := ofFiles_registers {} [nested]
  obtain ⟨-, -, faults⟩ := ofFiles_registers {} [nested, colliding]
  exact ⟨⟨registry, built, registers registry built⟩, registrable.mp ⟨registry, built⟩,
    (faults _).mp (map_eq_error.mp failed)⟩

end ProtobufTypeScript.Schema.Registry
