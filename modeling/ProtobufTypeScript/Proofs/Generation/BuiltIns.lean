import ProtobufTypeScript.Proofs.Generation.ImportClashes
import ProtobufTypeScript.Proofs.Generation.ImportTargets
import ProtobufTypeScript.Proofs.Service.Conformance

/-!
Built-ins next to what a unit binds. No name of a built-in is set aside when imports are named, so
that a schema can take it; a unit binds one exactly if the schema has a type or a service of that
very name that the unit declares or mentions. No name that is made up in generation does so.
-/

namespace ProtobufTypeScript.Generation

open Schema Target

/-- The names of built-ins that generated code uses. -/
def builtIns : List String :=
  [
    "Date", "Uint8Array", "Promise", "Object", "Number", "String", "Boolean", "Math", "Function",
    "Array", "ReadonlyArray", "Partial", "globalThis", "any", "boolean", "number", "object",
    "string", "undefined", "unknown"
  ]

/-- Whether a line has a name as it is, so that the name stands for no symbol. -/
def usedIn (name : String) : Line Snippet → Bool
  | .text pieces => pieces.contains (.plain name)
  | _ => false

/-- Whether a unit uses a name that stands for no symbol. -/
def Uses (unit : SourceUnit) (name : String) : Prop :=
  ∃ item ∈ unit.items, ∃ line ∈ item.block, usedIn name line = true

instance (unit : SourceUnit) (name : String) : Decidable (Uses unit name) :=
  inferInstanceAs (Decidable (∃ item ∈ unit.items, ∃ line ∈ item.block, usedIn name line = true))

/-- Whether an import of a unit or a declaration in it binds a name. -/
def Binds (unit : SourceUnit) (name : String) : Prop :=
  name ∈ unit.boundNames ∨ name ∈ unit.declaredNames

/-- Whether a file declares a type of a given name in generated code, outside of all
messages.
-/
def HasTopLevel (options : Options) (file : File) (name : String) : Prop :=
  ∃ declared ∈ file.declared, declared.names.length = 1 ∧ declared.identifier options = name

/-- How a schema brings a name into the unit for a file. -/
inductive BroughtIn (request : Request) (file : File) (unit : SourceUnit) (name : String) : Prop
  | type (found : HasTopLevel (Options.ofParameter request.parameter) file name)
  | service (service : Service) (inFile : service ∈ file.services) (named : service.name = name)
  /-- A type of another unit is mentioned, and no type of the same unit has its name. -/
  | mention (other : File) (inFiles : other ∈ request.files)
    (apart : unitPath other.name ≠ unitPath file.name)
    (found : HasTopLevel (Options.ofParameter request.parameter) other name)
    (mentioned : Symbol.ofUnit name (unitPath other.name) ∈ unit.mentioned)
    (free
      : ∀ sibling ∈ request.files,
          unitPath sibling.name = unitPath file.name
          → ∀ declared ∈ sibling.declared,
              declared.identifier (Options.ofParameter request.parameter) ≠ name)

variable {registry : Registry} {options : Options} {file : File} {unit : SourceUnit} {name : String}

-----------------------------------------------------------------------------------------
-- Names of built-ins
-----------------------------------------------------------------------------------------

/-- No built-in is named like an import that had to be numbered: its last character is no
digit.
-/
theorem ne_numbered (builtIn : name ∈ builtIns) (stem : String) (number : Nat)
    : name ≠ stem ++ toString number := by
  have plain : ∀ name ∈ builtIns, (name.toList.getLast?.any Char.isDigit) = false := by
    decide
  rintro rfl
  have nonempty : Nat.toDigits 10 number ≠ [] := Nat.toDigits_ne_nil
  have digit : ((Nat.toDigits 10 number).getLast nonempty).isDigit = true :=
    Nat.isDigit_of_mem_toDigits (by decide) (Nat.le_refl 10) (List.getLast_mem nonempty)
  have ends := plain _ builtIn
  rw [String.toList_append, Nat.toString_eq_repr, Nat.toList_repr,
    List.getLast?_append_of_ne_nil _ nonempty, List.getLast?_eq_some_getLast nonempty,
    Option.any_some, digit] at ends
  cases ends

/-- No built-in name starts as the base instances of messages do. The list is gone
through.
-/
theorem ne_baseName (builtIn : name ∈ builtIns) (identifier : String)
    : name ≠ Message.baseName identifier := by
  have plain : ∀ name ∈ builtIns, ¬ "base".toList <+: name.toList := by decide
  rintro rfl
  exact plain _ builtIn ⟨identifier.toList, by rw [Message.baseName, String.toList_append]⟩

/-- No built-in name ends as clients do. The list is gone through. -/
theorem ne_clientName (builtIn : name ∈ builtIns) (service : String)
    : name ≠ service ++ "ClientImpl" := by
  have plain : ∀ name ∈ builtIns, ¬ "ClientImpl".toList <:+ name.toList := by decide
  rintro rfl
  exact plain _ builtIn ⟨service.toList, by rw [String.toList_append]⟩

/-- No helper has a built-in name. -/
theorem helper_name_not_mem (helper : Helper)
    : helper.name ∉ builtIns := by
  cases helper <;> decide

/-- What services share has no built-in names: the few names that it declares are others.
-/
theorem not_mem_of_shared {item : Item} (member : item ∈ Service.shared options)
    (declared : name ∈ item.declaredNames)
    : name ∉ builtIns := by
  have plain : ∀ name ∈ ["Rpc", "DataLoaderOptions", "DataLoaders"], name ∉ builtIns := by decide
  refine plain name ?_
  simp only [Service.shared, List.mem_append] at member
  rcases member with transport | loaders
  · split at transport
    · rw [List.mem_singleton.mp transport] at declared
      rw [List.mem_singleton.mp declared]
      exact List.mem_cons_self
    · cases transport
  · split at loaders
    · rcases List.mem_pair.mp loaders with rfl | rfl
      · rw [List.mem_singleton.mp declared]
        decide
      · rw [List.mem_singleton.mp declared]
        decide
    · cases loaders

/-- A type with the name of a built-in stands outside of all messages, as the names of the
others are joined by an underscore.
-/
theorem length_names (builtIn : name ∈ builtIns) {declared : Declared}
    (named : declared.identifier options = name)
    : declared.names.length = 1 := by
  have plain : ∀ name ∈ builtIns, name ≠ "" ∧ '_' ∉ name.toList := by decide
  obtain ⟨nonempty, single⟩ := plain name builtIn
  rw [← named, Declared.identifier] at nonempty single
  cases names : declared.names with
  | nil => simp [names] at nonempty
  | cons first rest =>
      cases rest with
      | nil => rfl
      | cons second others => simp [names] at single

-----------------------------------------------------------------------------------------
-- Where a bound name comes from
-----------------------------------------------------------------------------------------

/-- An import that is named like a built-in has the own name of its symbol. -/
theorem eq_own_name (builtIn : name ∈ builtIns) {entry : Import}
    (member : entry ∈ unit.importNames unit.references) (bound : entry.2 = name)
    : entry.1.name = name := by
  obtain ⟨before, after, split⟩ := List.append_of_mem member
  have least := leastFree_of_assignNames split
  rw [bound] at least
  cases least with
  | own => rfl
  | numbered number => exact absurd rfl (ne_numbered builtIn _ number)

section BroughtIn

variable {request : Request} (generated : Generated request file unit)
  (builtIn : name ∈ builtIns)

include generated builtIn

/-- A built-in name that a unit binds by an import is that of a type in another file.
Witness: the origin of what is imported, as no library is imported by such a name.
-/
theorem broughtIn_of_mem_boundNames (bound : name ∈ unit.boundNames)
    : BroughtIn request file unit name := by
  obtain ⟨registry, built, made⟩ := generated.made
  have avoided := SourceUnit.not_reserved_of_mem_boundNames bound
  obtain ⟨entry, member, named⟩ := SourceUnit.mem_boundNames.mp bound
  have own := eq_own_name builtIn member named
  obtain ⟨recorded, imported⟩ :=
    SourceUnit.mem_map_fst_importNames.mp (List.mem_map_of_mem member)
  obtain ⟨symbol, localName⟩ := entry
  have mentioned : symbol ∈ unit.mentioned := (mem_recorded_unit made symbol).mp recorded
  cases isKnown_of_mentioned made symbol mentioned with
  | library symbol inLibraries =>
      have plain : ∀ symbol ∈ librarySymbols, symbol.name ∉ builtIns := by decide
      exact absurd (own ▸ builtIn) (plain symbol inLibraries)
  | helper helper => cases imported
  | type fullName type registered =>
      rw [(Registry.ofFiles_eq_ok.mp built).2.1, Registry.mem_items] at registered
      obtain ⟨other, inFiles, declared, inFile, same⟩ := registered
      cases same
      have apart : unitPath other.name ≠ unitPath file.name := by
        rw [← generated.module_eq]
        intro same
        simp [SourceUnit.imports, TypeEntry.symbol, Symbol.ofUnit, Declared.entry, same] at imported
      refine .mention other inFiles apart ⟨declared, inFile, length_names builtIn own, own⟩
        (own ▸ mentioned) ?_
      intro sibling inFiles together type inSibling named
      refine avoided (.declared ?_)
      rw [(heading_of_unit made).2.2]
      exact ((Registry.registers_of_ofFiles built).identifiers _ _).mpr
        ⟨sibling, inFiles, together, type, inSibling, named⟩

/-- A built-in name that a unit declares is that of a type or of a service. Witness: the
kinds of items that a unit is made of, one after the other.
-/
theorem broughtIn_of_mem_declaredNames (declared : name ∈ unit.declaredNames)
    : BroughtIn request file unit name := by
  obtain ⟨registry, built, made⟩ := generated.made
  obtain ⟨item, member, inItem⟩ := List.mem_flatMap.mp declared
  have ofNode
      : ∀ {node : Node},
          (∃ nodes,
            file.nodes (.root file) (Options.ofParameter request.parameter) = .ok nodes
            ∧ node ∈ nodes)
          → name = node.identifier
          → BroughtIn request file unit name := by
    rintro node ⟨nodes, walked, inFile⟩ rfl
    obtain ⟨declared, inDeclared, named⟩ := exists_declared_of_node walked inFile
    exact .type ⟨declared, inDeclared, length_names builtIn named, named⟩
  cases makes_of_mem_unit made item member with
  | interface node message shapes found => exact ofNode found.inFile (List.mem_singleton.mp inItem)
  | base node message shapes found wanted =>
      exact absurd (List.mem_singleton.mp inItem) (ne_baseName builtIn node.identifier)
  | codec node message shapes found wanted =>
      exact ofNode found.inFile (List.mem_singleton.mp inItem)
  | enumeration node enumeration found => exact ofNode found.inFile (List.mem_singleton.mp inItem)
  | contract service cursor endpoints inFile found =>
      exact .service service inFile (List.mem_singleton.mp inItem).symm
  | client service endpoints inFile found wanted =>
      exact absurd (List.mem_singleton.mp inItem) (ne_clientName builtIn service.name)
  | shared item inShared => exact absurd builtIn (not_mem_of_shared inShared inItem)
  | helper helper item found mentioned =>
      rcases declaredNames_helper found name inItem with rfl | rfl
      · exact absurd builtIn (helper_name_not_mem helper)
      · exact absurd builtIn (by decide)

end BroughtIn

-----------------------------------------------------------------------------------------
-- What binds a name
-----------------------------------------------------------------------------------------

/-- The declarations for a type declare its identifier. -/
theorem declaredNames_nodeItems {node : Node} {items : List Item}
    (found : nodeItems registry options node = .ok items)
    : ∃ item ∈ items, node.identifier ∈ item.declaredNames := by
  cases nodeItems_eq_ok.mp found with
  | message => exact ⟨_, List.mem_cons_self, List.mem_singleton_self _⟩
  | enumeration => exact ⟨_, List.mem_cons_self, List.mem_singleton_self _⟩

/-- The unit for a file declares the types of the file, each of which has a node and the
items for it.
-/
theorem mem_declaredNames_of_declared (made : Generation.unit registry options file = .ok unit)
    {declared : Declared} (inFile : declared ∈ file.declared)
    : declared.identifier options ∈ unit.declaredNames := by
  obtain ⟨types, typesFound, -⟩ := typeItems_subset made
  obtain ⟨nodes, parts, walked, -⟩ := typeItems_eq_ok.mp typesFound
  have placed : declared.node options ∈ nodes.map Node.bare := by
    rw [(File.nodes_eq_ok_declared walked).2]
    exact List.mem_map_of_mem inFile
  obtain ⟨node, inNodes, bare⟩ := List.mem_map.mp placed
  obtain ⟨items, found, subset⟩ := exists_nodeItems_root walked made inNodes
  obtain ⟨item, inItems, named⟩ := declaredNames_nodeItems found
  have identifier : node.identifier = declared.identifier options := congrArg Node.identifier bare
  exact List.mem_flatMap.mpr ⟨item, subset inItems, identifier ▸ named⟩

/-- The unit for a file declares the interfaces of the services of the file, each of which
is the first item for its service.
-/
theorem mem_declaredNames_of_service (made : Generation.unit registry options file = .ok unit)
    {service : Service} (inFile : service ∈ file.services)
    : service.name ∈ unit.declaredNames := by
  obtain ⟨types, services, others, -, servicesFound, items⟩ := exists_items_of_unit made
  obtain ⟨parts, each, rfl⟩ := serviceItems_eq_ok.mp servicesFound
  rw [← List.zipIdx_map_fst 0 file.services] at inFile
  obtain ⟨⟨service, position⟩, located, rfl⟩ := List.mem_map.mp inFile
  obtain ⟨part, inParts, declared⟩ := exists_of_mem_left each located
  obtain ⟨endpoints, -, rfl⟩ := Service.declarations_eq_ok declared
  have inServices := List.mem_flatten.mpr ⟨_, inParts, List.mem_cons_self⟩
  have inUnit := List.mem_append_left others (List.mem_append_right types inServices)
  rw [← items] at inUnit
  exact List.mem_flatMap.mpr ⟨_, inUnit, List.mem_singleton_self service.name⟩

/-- A unit declares the names that its items keep imports from taking. -/
theorem mem_declaredNames_of_reservedName {item : Item} (member : item ∈ unit.items)
    (reserved : item.reservedName = some name)
    : name ∈ unit.declaredNames := by
  refine List.mem_flatMap.mpr ⟨item, member, ?_⟩
  cases item with
  | interface declared | classType declared | function declared exported =>
      exact List.mem_singleton.mpr (Option.some.inj reserved).symm
  | values declared | object declared | enumeration declared | code block => cases reserved

/-- What a unit mentions from a generated unit is a registered type, as neither libraries
nor helpers have such an origin.
-/
theorem mem_identifiersIn_of_mentioned (made : Generation.unit registry options file = .ok unit)
    {path : String} (mentioned : Symbol.ofUnit name path ∈ unit.mentioned)
    : name ∈ registry.identifiersIn path := by
  generalize same : Symbol.ofUnit name path = symbol at mentioned
  cases isKnown_of_mentioned made symbol mentioned with
  | library symbol inLibraries =>
      have plain
          : ∀ symbol ∈ librarySymbols, (symbol.origin matches .named (.generated _)) = false := by
        decide
      subst same
      cases plain _ inLibraries
  | helper helper => cases congrArg Symbol.origin same
  | type fullName type registered =>
      cases same
      exact Registry.mem_identifiersIn.mpr ⟨_, registered, rfl, rfl⟩

/-- The name of a built-in that no type of a unit has is reserved only by a declaration.
Witness: the reasons for which a name is reserved.
-/
theorem mem_declaredNames_of_reserved (made : Generation.unit registry options file = .ok unit)
    (builtIn : name ∈ builtIns) (free : name ∉ registry.identifiersIn unit.module)
    (reserved : unit.Reserved name)
    : name ∈ unit.declaredNames := by
  cases reserved with
  | declared aside =>
      rw [(heading_of_unit made).2.2, ← (heading_of_unit made).1] at aside
      exact absurd aside free
  | item item member named => exact mem_declaredNames_of_reservedName member named
  | helper recorded =>
      obtain ⟨helper, rfl⟩ :=
        exists_helper_of_mentioned made ((mem_recorded_unit made _).mp recorded)
      exact absurd builtIn (helper_name_not_mem helper)
  | own recorded =>
      have mentioned := (mem_recorded_unit made _).mp recorded
      exact absurd (mem_identifiersIn_of_mentioned made mentioned) free

/-- If a name is reserved for no type of a unit and is that of a built-in, then what is
mentioned under this name from another unit binds it, unless something else does.
-/
theorem binds_of_mentioned (made : Generation.unit registry options file = .ok unit)
    (builtIn : name ∈ builtIns) {path : String} (apart : path ≠ unit.module)
    (mentioned : Symbol.ofUnit name path ∈ unit.mentioned)
    (free : name ∉ registry.identifiersIn unit.module)
    : Binds unit name := by
  have imported : unit.imports (Symbol.ofUnit name path) = true := by
    simpa [SourceUnit.imports, Symbol.ofUnit] using apart
  obtain ⟨⟨symbol, localName⟩, member, rfl⟩ := List.mem_map.mp
    (SourceUnit.mem_map_fst_importNames.mpr
      ⟨(mem_recorded_unit made _).mpr mentioned, imported⟩)
  obtain ⟨before, after, split⟩ := List.append_of_mem member
  by_cases used : name ∈ unit.takenNames unit.references ++ before.map Prod.snd
  · rcases List.mem_append.mp used with taken | earlier
    · have reserved := SourceUnit.mem_takenNames.mp taken
      exact Or.inr (mem_declaredNames_of_reserved made builtIn free reserved)
    · obtain ⟨other, inBefore, named⟩ := List.mem_map.mp earlier
      refine Or.inl (SourceUnit.mem_boundNames.mpr ⟨other, ?_, named⟩)
      rw [split]
      exact List.mem_append_left _ inBefore
  · exact Or.inl
      (SourceUnit.mem_boundNames.mpr
        ⟨_, member, (leastFree_of_assignNames split).eq_of_not_mem used⟩)

/-- A unit binds the name of a built-in exactly if the schema brings it in. Witness:
imports and declarations one way, the ways of bringing a name in the other way.
-/
theorem binds_built_in_iff {request : Request} (generated : Generated request file unit)
    (builtIn : name ∈ builtIns)
    : Binds unit name ↔ BroughtIn request file unit name := by
  constructor
  · rintro (bound | declared)
    · exact broughtIn_of_mem_boundNames generated builtIn bound
    · exact broughtIn_of_mem_declaredNames generated builtIn declared
  · intro brought
    have module := generated.module_eq
    obtain ⟨registry, built, made⟩ := generated.made
    cases brought with
    | type found =>
        obtain ⟨declared, inFile, -, named⟩ := found
        exact Or.inr (named ▸ mem_declaredNames_of_declared made inFile)
    | service service inFile named =>
        exact Or.inr (named ▸ mem_declaredNames_of_service made inFile)
    | mention other inFiles apart found mentioned free =>
        refine binds_of_mentioned made builtIn (module ▸ apart) mentioned ?_
        rw [module, (Registry.registers_of_ofFiles built).identifiers]
        rintro ⟨sibling, inRequest, together, declared, inSibling, named⟩
        exact free sibling inRequest together declared inSibling named

/-- An event has a day of a type named `Date` next to a time for which the built-in
stands.
-/
theorem binds_built_in_iff_date
    : let event : File :=
        {
          name := "event.proto"
          messages :=
            [
              {
                name := "Event"
                fields :=
                  [
                    {
                      name := "at"
                      number := 1
                      type := .message
                      typeName := ".google.protobuf.Timestamp"
                    },
                    { name := "day", number := 2, type := .message, typeName := ".Date" }
                  ]
              }
            ]
        }
      let date : File := { name := "date.proto", messages := [{ name := "Date" }] }
      let timestamp : File :=
        {
          name := "google/protobuf/timestamp.proto"
          package := "google.protobuf"
          messages :=
            [
              {
                name := "Timestamp"
                fields :=
                  [
                    { name := "seconds", number := 1, type := .scalar .int64 },
                    { name := "nanos", number := 2, type := .scalar .int32 }
                  ]
              }
            ]
        }
      let request : Request :=
        {
          selected := ["event.proto"]
          parameter := "outputEncodeMethods=false,outputJsonMethods=false"
          files := [event, date, timestamp]
        }
      (outputs request).toOption.isSome = true
      ∧ ∃ unit,
          Generated request event unit
          ∧ "Date" ∈ builtIns
          ∧ Uses unit "Date"
          ∧ Binds unit "Date"
          ∧ BroughtIn request event unit "Date" := by
  intro event date timestamp request
  have accepted : (outputs request).toOption.isSome = true := by decide +kernel
  have builtIn : "Date" ∈ builtIns := by decide
  have found
      : (unit? request event).map
          (fun unit => unit.boundNames.contains "Date" && decide (Uses unit "Date"))
        = some true := by
    decide +kernel
  obtain ⟨unit, generated, both⟩ := exists_generated_of_unit? (by simp [request]) (by decide) found
  rw [Bool.and_eq_true, List.contains_iff_mem, decide_eq_true_iff] at both
  obtain ⟨bound, used⟩ := both
  exact ⟨accepted, unit, generated, builtIn, used, Or.inl bound,
    (binds_built_in_iff generated builtIn).mp (Or.inl bound)⟩

end ProtobufTypeScript.Generation
