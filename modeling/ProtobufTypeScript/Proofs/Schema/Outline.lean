import ProtobufTypeScript.Proofs.Schema.RegistryContents

/-!
Outlines of files: what the code for other files may depend on. These are the messages with their
fields, their nesting and the names of the enums; no comments, no services and no members of enums.
Files with the same outlines, in whatever order, have registries in which the same is found.
-/

namespace ProtobufTypeScript.Schema

/-- An enum without its members. -/
def Enumeration.outline (enumeration : Enumeration) : Enumeration :=
  { enumeration with members := [] }

mutual
/-- A message in which all enums are without their members. -/
def Message.outline : Message → Message
  | ⟨name, fields, nested, enumerations, mapEntry⟩ =>
      ⟨name, fields, Message.outlineAll nested, enumerations.map Enumeration.outline, mapEntry⟩

/-- Messages in which all enums are without their members. -/
def Message.outlineAll : List Message → List Message
  | [] => []
  | message :: rest => Message.outline message :: Message.outlineAll rest
end

/-- A definition in which all enums are without their members. -/
def Definition.outline : Definition → Definition
  | .message held => .message held.outline
  | .enumeration held => .enumeration held.outline

/-- A file without its comments, its services and the members of its enums. -/
def File.outline (file : File) : File :=
  {
    name := file.name
    package := file.package
    messages := Message.outlineAll file.messages
    enumerations := file.enumerations.map Enumeration.outline
  }

/-- A declared type in which all enums are without their members. -/
def Declared.outline (declared : Declared) : Declared :=
  { declared with definition := declared.definition.outline }

/-- A registered type in which all enums are without their members. -/
def TypeEntry.outline (entry : TypeEntry) : TypeEntry :=
  { entry with definition := entry.definition.outline }

namespace Message

@[simp] theorem name_outline (message : Message)
    : message.outline.name = message.name := by
  cases message
  rw [outline]

@[simp] theorem fields_outline (message : Message)
    : message.outline.fields = message.fields := by
  cases message
  rw [outline]

@[simp] theorem mapEntry_outline (message : Message)
    : message.outline.mapEntry = message.mapEntry := by
  cases message
  rw [outline]

variable {message other : Message}

/-- Messages of the same outline have the same name, since an outline leaves out no more
than the members of enums.
-/
theorem plainName_eq_of_outline (same : message.outline = other.outline)
    : message.plainName = other.plainName := by
  simpa [plainName] using congrArg plainName same

/-- Messages of the same outline have the same fields. -/
theorem fields_eq_of_outline (same : message.outline = other.outline)
    : message.fields = other.fields := by
  simpa using congrArg fields same

theorem mapEntry_eq_of_outline (same : message.outline = other.outline)
    : message.mapEntry = other.mapEntry := by
  simpa using congrArg mapEntry same

end Message

-----------------------------------------------------------------------------------------
-- The types of an outline
-----------------------------------------------------------------------------------------

theorem Enumeration.declared_outline (outer : List String) (enumeration : Enumeration)
    : enumeration.outline.declared outer = (enumeration.declared outer).outline :=
  rfl

/-- Outlines of enums are declared as the outlines of what the enums are declared as. -/
theorem map_declared_outline (outer : List String) (enumerations : List Enumeration)
    : (enumerations.map Enumeration.outline).map (Enumeration.declared outer)
      = (enumerations.map (Enumeration.declared outer)).map Declared.outline := by
  rw [List.map_map, List.map_map]
  exact List.map_congr_left (fun enumeration _ => enumeration.declared_outline outer)

mutual
/-- The outline of a message declares the outlines of its types. -/
theorem Message.declared_outline (outer : List String)
    : ∀ message : Message,
        Message.declared outer message.outline
          = (Message.declared outer message).map Declared.outline
  | ⟨name, fields, nested, enumerations, mapEntry⟩ => by
      rw [Message.outline, Message.declared, Message.declared, List.map_cons, List.map_append,
        map_declared_outline, Message.declaredAll_outline _ nested]
      simp only [Declared.outline, Definition.outline, Message.outline]

/-- Outlines of messages are declared as the outlines of what the messages are declared
as, at any depth. Structural recursion over the messages.
-/
theorem Message.declaredAll_outline (outer : List String)
    : ∀ messages : List Message,
        Message.declaredAll outer (Message.outlineAll messages)
          = (Message.declaredAll outer messages).map Declared.outline
  | [] => rfl
  | message :: rest => by
      rw [Message.outlineAll, Message.declaredAll, Message.declaredAll, List.map_append,
        Message.declared_outline outer message, Message.declaredAll_outline outer rest]
end

/-- The outline of a file declares the outlines of its types, in the same order. -/
theorem File.declared_outline (file : File)
    : file.outline.declared = file.declared.map Declared.outline := by
  rw [declared, declared, outline, List.map_append, Message.declaredAll_outline,
    map_declared_outline]

theorem Declared.isMessage_outline (declared : Declared)
    : declared.outline.isMessage = declared.isMessage := by
  obtain ⟨names, definition⟩ := declared
  cases definition <;> rfl

/-- The outline of a file is registered in the order of the file: whether a type is a
message can be told from its outline.
-/
theorem File.registered_outline (file : File)
    : file.outline.registered = file.registered.map Declared.outline := by
  have messages : Declared.isMessage ∘ Declared.outline = Declared.isMessage :=
    funext Declared.isMessage_outline
  have others
      : (fun declared : Declared => !declared.isMessage) ∘ Declared.outline
        = fun declared => !declared.isMessage :=
    funext (fun declared => congrArg _ declared.isMessage_outline)
  rw [registered, registered, declared_outline, List.filter_map, List.filter_map, messages, others,
    List.map_append]

namespace Registry

/-- What is registered for the outline of a file is the outline of what is registered for
the file.
-/
theorem items_outline (options : Options) (files : List File)
    : items options (files.map File.outline)
      = (items options files).map (Prod.map id TypeEntry.outline) := by
  rw [items, items, List.flatMap_map, List.map_flatMap]
  refine List.flatMap_congr (fun file _ => ?_)
  rw [File.registered_outline, List.map_map, List.map_map]
  rfl

-----------------------------------------------------------------------------------------
-- Registries in which the same is found
-----------------------------------------------------------------------------------------

/-- Whether in two registries the same is found, but for the members of enums. -/
structure Agrees (left right : Registry) : Prop where
  entry
    : ∀ name,
        (left.entry name).map TypeEntry.outline = (right.entry name).map TypeEntry.outline
  identifiers : ∀ unit, left.identifiersIn unit = right.identifiersIn unit

/-- What is found under a name has the outline that is found among the outlines of all
entries.
-/
theorem entry_outline (registry : Registry) (name : String)
    : (registry.entry name).map TypeEntry.outline
      = match (registry.entries.map (Prod.map id TypeEntry.outline)).lookup name with
        | some entry => .ok entry
        | none => .error (.unknownType name) := by
  rw [lookup_map_snd, Registry.entry, get?]
  cases registry.entries.lookup name <;> rfl

/-- Which identifiers a unit has can be told from the places of the entries. -/
theorem mem_identifiersIn_iff_place {registry : Registry} {unit identifier : String}
    : identifier ∈ registry.identifiersIn unit
      ↔ (unit, identifier) ∈ registry.entries.map placeOf := by
  simp [mem_identifiersIn, placeOf]

/-- Files with the same outlines in any order have registries in which the same is found.
Their entries have permuted outlines, and a name leads to only one of them.
-/
theorem agrees_of_perm {options : Options} {leftFiles rightFiles : List File}
    {left right : Registry} (leftBuilt : ofFiles options leftFiles = .ok left)
    (rightBuilt : ofFiles options rightFiles = .ok right)
    (same : (leftFiles.map File.outline).Perm (rightFiles.map File.outline))
    : Agrees left right := by
  obtain ⟨-, leftEntries, distinct⟩ := ofFiles_eq_ok.mp leftBuilt
  obtain ⟨-, rightEntries, -⟩ := ofFiles_eq_ok.mp rightBuilt
  have outlines
      : (left.entries.map (Prod.map id TypeEntry.outline)).Perm
          (right.entries.map (Prod.map id TypeEntry.outline)) := by
    rw [leftEntries, rightEntries, ← items_outline, ← items_outline]
    exact same.flatMap_right _
  constructor
  · intro name
    have once
        : ((left.entries.map (Prod.map id TypeEntry.outline)).map Prod.fst).Nodup := by
      rw [List.map_map]
      exact distinct.names
    rw [entry_outline, entry_outline, lookup_eq_of_perm outlines once]
  · -- The names in a unit are sorted, so that it is enough to know which ones they are.
    intro unit
    have places : (left.entries.map placeOf).Perm (right.entries.map placeOf) := by
      have placed := outlines.map placeOf
      rw [List.map_map, List.map_map] at placed
      exact placed
    have listed (identifier : String)
        : identifier ∈ left.identifiersIn unit ↔ identifier ∈ right.identifiersIn unit := by
      rw [mem_identifiersIn_iff_place, mem_identifiersIn_iff_place, places.mem_iff]
    exact Text.sortDistinct_eq_of_mem_iff Text.Orders.atMost
      (fun identifier => Text.mem_sortStrings.symm.trans
        ((listed identifier).trans Text.mem_sortStrings))

end Registry

end ProtobufTypeScript.Schema
