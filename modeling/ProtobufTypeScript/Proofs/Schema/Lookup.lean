import ProtobufTypeScript.Proofs.Schema.RegistryContents

/-!
Lookups of types by their full names, told by the files: what a lookup finds is what one of the
files declares, and it fails exactly if none of them does.
-/

namespace ProtobufTypeScript.Schema

/-- Whether one of some files declares a type under a full name. -/
def Declares (files : List File) (name : String) (definition : Definition) : Prop :=
  ∃ file ∈ files, ∃ declared ∈ file.declared,
    declared.fullName file.package = name ∧ declared.definition = definition

/-- Whether none of some files declares a type under a full name. -/
def IsUnknown (files : List File) (name : String) : Prop :=
  ∀ definition, ¬ Declares files name definition

namespace Registry

variable {options : Options} {files : List File} {registry : Registry} {name : String}

/-- The type found under a name is the one that is declared under it: the registry has one
entry for each declared type, and no name twice.
-/
theorem declares_iff_entry (built : ofFiles options files = .ok registry) {definition : Definition}
    : Declares files name definition
      ↔ ∃ type, registry.entry name = .ok type ∧ type.definition = definition := by
  obtain ⟨-, entries, distinct⟩ := ofFiles_eq_ok.mp built
  simp only [entry_eq_ok distinct, entries, mem_items]
  constructor
  · rintro ⟨file, inFiles, declared, inFile, rfl, rfl⟩
    exact ⟨declared.entry options file, ⟨file, inFiles, declared, inFile, rfl⟩, rfl⟩
  · rintro ⟨type, ⟨file, inFiles, declared, inFile, same⟩, rfl⟩
    cases same
    exact ⟨file, inFiles, declared, inFile, rfl, rfl⟩

/-- A type name is looked up in vain exactly if no file declares it, since what is found
is what is declared.
-/
theorem fails_entry (built : ofFiles options files = .ok registry)
    : Fails (registry.entry name) ↔ IsUnknown files name := by
  constructor
  · rintro ⟨error, missing⟩ definition declared
    obtain ⟨type, found, -⟩ := (declares_iff_entry built).mp declared
    rw [missing] at found
    cases found
  · intro unknown
    by_contra found
    obtain ⟨type, found⟩ := not_fails_iff.mp found
    exact unknown type.definition ((declares_iff_entry built).mpr ⟨type, found, rfl⟩)

/-- There is no symbol for a type name exactly if no file declares it. -/
theorem fails_symbol (built : ofFiles options files = .ok registry)
    : Fails (registry.symbol name) ↔ IsUnknown files name := by
  rw [Registry.symbol, fails_map, fails_entry built]

/-- A type name stands for a message exactly if a file declares this message under it. -/
theorem message_eq_ok_iff (built : ofFiles options files = .ok registry) {message : Message}
    : registry.message name = .ok message ↔ Declares files name (.message message) := by
  rw [declares_iff_entry built, Registry.message, bind_eq_ok]
  refine exists_congr (fun type => and_congr_right (fun _ => ?_))
  cases type.definition <;> simp [pure, Except.pure, throw, throwThe, MonadExceptOf.throw]

/-- A message is not found if the name is unknown or that of an enum. Witness: the
definition of what is found under the name.
-/
theorem fails_message (built : ofFiles options files = .ok registry)
    : Fails (registry.message name)
      ↔ IsUnknown files name
        ∨ ∃ enumeration, Declares files name (.enumeration enumeration) := by
  rw [Registry.message, fails_bind, fails_entry built]
  refine or_congr_right ⟨?_, ?_⟩
  · rintro ⟨type, found, failed⟩
    cases held : type.definition with
    | message message => simp [held] at failed
    | enumeration enumeration =>
        exact ⟨enumeration, (declares_iff_entry built).mpr ⟨type, found, held⟩⟩
  · rintro ⟨enumeration, declared⟩
    obtain ⟨type, found, held⟩ := (declares_iff_entry built).mp declared
    exact ⟨type, found, by simp [held]⟩

end Registry

end ProtobufTypeScript.Schema
