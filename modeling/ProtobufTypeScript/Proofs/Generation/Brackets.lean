import ProtobufTypeScript.Proofs.Generation.ImportUse
import ProtobufTypeScript.Proofs.Helper.Brackets
import ProtobufTypeScript.Proofs.Helper.Closure
import ProtobufTypeScript.Proofs.Message.Brackets
import ProtobufTypeScript.Proofs.Service.Brackets
import ProtobufTypeScript.Proofs.Target.UnitBrackets

/-!
Generated code is well bracketed. All brackets of generated code come from the syntax, which writes
them in pairs, as long as the names, the paths and the comments of the files have none.
-/

namespace ProtobufTypeScript.Generation

open Schema Target
open Alphabet (unbracketed)

variable {registry : Registry} {options : Options} {file : File} {unit : SourceUnit}

-----------------------------------------------------------------------------------------
-- Items
-----------------------------------------------------------------------------------------

/-- Comments without brackets are balanced. -/
theorem balances_of_documents {cursor : Cursor} (described : unbracketed.Documents cursor)
    (place : List Int32)
    : ∀ text ∈ (cursor.descriptionAt place).text, Text.Balances text :=
  fun text found => Text.balances_of_plain (described place text found)

/-- The declarations for a type are balanced: its names and its comments have no brackets.
Messages and enums are the cases.
-/
theorem balances_nodeItems {node : Node} (named : unbracketed.Spells node.identifier)
    (plain : ∀ text ∈ node.definition.texts, unbracketed.Spells text)
    (described : unbracketed.Documents node.cursor) {items : List Item}
    (found : nodeItems registry options node = .ok items)
    : ∀ item ∈ items, item.block.Balances := by
  have typed : Text.Balances node.identifier := Text.balances_of_plain named
  have commented := balances_of_documents described
  cases nodeItems_eq_ok.mp found with
  | message message shapes definition classified =>
      rw [definition] at plain
      have fields : ∀ shape ∈ shapes, Text.Balances shape.name := fun shape member =>
        Text.balances_of_plain (Alphabet.spells_shapesOf plain classified shape member)
      refine List.forall_mem_cons.mpr ⟨?_, ?_⟩
      · exact Message.balances_interface typed fields (commented _) (fun _ => commented _)
      · split
        · refine List.forall_mem_cons.mpr ⟨?_, List.forall_mem_singleton.mpr ?_⟩
          · exact Message.balances_baseInstance typed fields
          · exact Message.balances_codec typed fields
        · simp
  | enumeration enumeration definition =>
      rw [definition] at plain
      have members : ∀ member ∈ enumeration.members, Text.Balances member.name :=
        fun member inEnumeration =>
          Text.balances_of_plain
            (plain _ (List.mem_append_right _ (List.mem_map_of_mem inEnumeration)))
      exact List.forall_mem_singleton.mpr
        (Enumeration.balances_declaration typed members (commented _) (fun _ => commented _))

section File

variable (plain : ∀ text ∈ file.texts, unbracketed.Spells text)
include plain

/-- The declarations for the types of a file are balanced, at any depth, since the walk
hands on that names and comments have no brackets.
-/
theorem balances_typeItems {items : List Item}
    (found : typeItems registry options file = .ok items)
    : ∀ item ∈ items, item.block.Balances := by
  intro item member
  obtain ⟨nodes, node, part, walked, inFile, declared, inPart⟩ :=
    exists_node_of_mem_typeItems found member
  obtain ⟨identifier, texts⟩ := Alphabet.spells_nodes plain walked node inFile
  have described := Alphabet.documents_nodes plain walked node inFile
  exact balances_nodeItems identifier texts described declared item inPart

variable (types : unbracketed.HasTypes registry)
include types

/-- The declarations for the services of a file are balanced, with and without clients.
They are made one by one from the texts of the file.
-/
theorem balances_serviceItems {items : List Item}
    (found : serviceItems registry options file = .ok items)
    : ∀ item ∈ items, item.block.Balances := by
  intro item member
  obtain ⟨service, position, part, placed, declared, inPart⟩ :=
    exists_service_of_mem_serviceItems found member
  have texts : ∀ text ∈ service.texts, unbracketed.Spells text := by
    intro text inService
    refine plain text ?_
    simp only [File.texts, List.mem_append, List.mem_flatMap]
    exact Or.inl (Or.inr ⟨service, List.fst_mem_of_mem_zipIdx placed, inService⟩)
  have commented := balances_of_documents (Alphabet.documents_root plain
    ((Cursor.root file).enter Child.serviceInFile position).path)
  obtain ⟨endpoints, known, rfl⟩ := Service.exists_endpoints_of_declarations declared
  have named : Text.Balances service.name :=
    Text.balances_of_plain (texts _ List.mem_cons_self)
  have inPackage : Text.Balances file.package :=
    Text.balances_of_plain (plain _ (by simp [File.texts]))
  have each := Service.balances_endpoints types texts known
  rcases List.mem_cons.mp inPart with rfl | inPart
  · exact Service.balances_contract named each (commented _) (fun _ => commented _)
  · split at inPart
    · rw [List.mem_singleton.mp inPart]
      exact Service.balances_client inPackage named each
    · cases inPart

/-- Every item of a unit is balanced if the texts of its file and of the registered types
have no brackets.
-/
theorem balances_of_mem_unit (found : Generation.unit registry options file = .ok unit)
    : ∀ item ∈ unit.items, item.block.Balances := by
  obtain ⟨bare, helpers, bareFound, helpersFound, rfl⟩ := unit_eq_ok.mp found
  obtain ⟨typeItems, services, typesFound, servicesFound, rfl⟩ := bareUnit_eq_ok.mp bareFound
  simp only [List.forall_mem_append]
  refine ⟨⟨⟨?_, ?_⟩, ?_⟩, ?_⟩
  · exact balances_typeItems plain typesFound
  · exact balances_serviceItems plain types servicesFound
  · split
    · simp
    · exact Service.balances_shared
  · intro item member
    obtain ⟨helper, declared, -⟩ := Helper.exists_helper_of_mem_declarations helpersFound member
    exact Helper.balances_declaration declared

end File

-----------------------------------------------------------------------------------------
-- Units
-----------------------------------------------------------------------------------------

/-- The symbols of the libraries, of the helpers and of types without brackets have none.
Each origin of a known symbol is a case.
-/
theorem hasSymbol_of_isKnown (types : unbracketed.HasTypes registry) {symbol : Symbol}
    (known : IsKnown registry symbol)
    : unbracketed.HasSymbol symbol := by
  cases known with
  | library symbol member =>
      have plain
          : ∀ symbol ∈ librarySymbols,
              Alphabet.isPlain symbol.name = true
              ∧ ∀ module ∈ symbol.origin.module?, Alphabet.isPlain module.path = true := by
        decide
      obtain ⟨name, path⟩ := plain symbol member
      exact ⟨Alphabet.spells_of_isPlain name,
        fun module origin => Alphabet.spells_of_isPlain (path module origin)⟩
  | helper helper =>
      have plain : Alphabet.isPlain helper.symbol.name = true := by cases helper <;> decide
      exact ⟨Alphabet.spells_of_isPlain plain, nofun⟩
  | type name entry member =>
      refine ⟨types.identifier _ member, ?_⟩
      rintro module ⟨⟩
      exact types.unit _ member

/-- Whether no text of a file has a bracket or a mark character. -/
def HasPlainTexts (file : File) : Prop :=
  ∀ text ∈ file.texts, ∀ c ∈ text.toList, Text.isBracket c = false ∧ ¬ IsMarkChar c

instance (file : File) : Decidable (HasPlainTexts file) :=
  -- Only the characters of the texts are looked at, not all that there are.
  have (text : String)
      : Decidable (∀ c ∈ text.toList, Text.isBracket c = false ∧ ¬ IsMarkChar c) :=
    List.decidableBAll _ text.toList
  List.decidableBAll _ file.texts

/-- The units of a request whose texts have no brackets and no mark characters are well
bracketed. Brackets are asked of its items, mark characters of the names put in.
-/
theorem Generated.isBracketed {request : Request} (generated : Generated request file unit)
    (plain : ∀ file ∈ request.files, HasPlainTexts file)
    : unit.IsBracketed := by
  obtain ⟨registry, built, made⟩ := generated.made
  have unbracketedTexts : ∀ file ∈ request.files, ∀ text ∈ file.texts, unbracketed.Spells text :=
    fun file inFiles text inFile c inText => (plain file inFiles text inFile c inText).1
  have unmarkedTexts : ∀ file ∈ request.files, ∀ text ∈ file.texts, MarkFree text.toList :=
    fun file inFiles text inFile c inText => (plain file inFiles text inFile c inText).2
  have texts := unbracketedTexts file generated.member
  have types : unbracketed.HasTypes registry := Alphabet.hasTypes_ofFiles unbracketedTexts built
  have covered := Vocabulary.covers_unit (hasRegistry_unmarked unmarkedTexts built)
    (unmarkedTexts file generated.member) made
  refine SourceUnit.isBracketed_of_items ?_ (recordsMentions_unit made) covered ?_
    (balances_of_mem_unit texts types made)
  · exact fun symbol recorded =>
      hasSymbol_of_isKnown types
        (isKnown_of_mentioned made symbol ((mem_recorded_unit made symbol).mp recorded))
  · rw [(heading_of_unit made).2.1]
    exact balances_of_documents (Alphabet.documents_root texts []) _

/-- In an accepted request without brackets and mark characters in its texts, the text of
every unit is balanced, and so is already the text of each of its items.
-/
theorem brackets_are_balanced {request : Request} {results : List Output}
    (accepted : outputs request = .ok results)
    (plain : ∀ file ∈ request.files, HasPlainTexts file)
    : List.Forall₂
        (fun file output =>
          ∃ unit,
            Generated request file unit
            ∧ output = { name := outputName file.name, content := unit.render }
            ∧ unit.IsBracketed)
        (request.files.filter (selects request)) results := by
  refine (outputs_eq_ok accepted).imp ?_
  rintro file output ⟨unit, generated, written⟩
  exact ⟨unit, generated, written, generated.isBracketed plain⟩

/-- A file with comments, a map, an enum and a service with a batch method, and a context.
-/
theorem brackets_are_balanced_service
    : let request : Request :=
        {
          parameter := "context=true"
          files :=
            [
              {
                name := "shop/users.proto"
                package := "shop"
                messages :=
                  [
                    {
                      name := "Ids"
                      fields := [{ name := "ids", label := .repeated, type := .scalar .int32 }]
                    },
                    {
                      name := "Users"
                      fields :=
                        [
                          {
                            name := "names", label := .repeated, type := .message
                            typeName := ".shop.Users.NamesEntry"
                          }
                        ]
                      nested :=
                        [
                          {
                            name := "NamesEntry"
                            fields :=
                              [
                                { name := "key", type := .scalar .int32 },
                                { name := "value", type := .scalar .string }
                              ]
                            mapEntry := true
                          }
                        ]
                    }
                  ]
                enumerations := [{ name := "Role", members := [{ name := "ADMIN" }] }]
                services :=
                  [
                    {
                      name := "Directory"
                      methods :=
                        [{ name := "BatchGetNames", input := ".shop.Ids", output := ".shop.Users" }]
                    }
                  ]
                locations := [{ path := [4, 0], leading := "All keys\nto look up" }]
              }
            ]
        }
      ∃ results,
        outputs request = .ok results
        ∧ (∀ file ∈ request.files, HasPlainTexts file)
        ∧ List.Forall₂
            (fun file output =>
              ∃ unit,
                Generated request file unit
                ∧ output = { name := outputName file.name, content := unit.render }
                ∧ unit.IsBracketed)
            (request.files.filter (selects request)) results := by
  intro request
  have some : (outputs request).toOption.isSome = true := by decide +kernel
  have plain : ∀ file ∈ request.files, HasPlainTexts file := by decide
  obtain ⟨results, kept⟩ := Option.isSome_iff_exists.mp some
  have accepted := toOption_eq_some.mp kept
  exact ⟨results, accepted, plain, brackets_are_balanced accepted plain⟩

end ProtobufTypeScript.Generation
