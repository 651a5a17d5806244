import ProtobufTypeScript.Proofs.Field.Kinds
import ProtobufTypeScript.Proofs.Field.Vocabulary
import ProtobufTypeScript.Proofs.Schema.Registry
import ProtobufTypeScript.Proofs.Schema.Vocabulary

/-!
The alphabet and the vocabulary of registered types and of classified fields: a shape is within a
vocabulary if the name of its field and the registered types are.
-/

namespace ProtobufTypeScript.Target

open ProtobufTypeScript.Field Schema

namespace Alphabet

variable {letters : Alphabet} {registry : Registry} {options : Options} {message : Message}

/-- The names, the paths and the definitions of all registered types are within an
alphabet.
-/
structure HasTypes (letters : Alphabet) (registry : Registry) : Prop where
  identifier : ∀ item ∈ registry.entries, letters.Spells item.2.identifier
  unit : ∀ item ∈ registry.entries, letters.Spells item.2.unit
  texts
    : ∀ item ∈ registry.entries, ∀ text ∈ item.2.definition.texts, letters.Spells text

/-- The types that files declare are within the alphabet of the texts of the files, since
each entry comes from a node of some file.
-/
theorem hasTypes_ofFiles {files : List File}
    (spelled : ∀ file ∈ files, ∀ text ∈ file.texts, letters.Spells text)
    (built : Registry.ofFiles options files = .ok registry)
    : letters.HasTypes registry := by
  have each
      : ∀ item ∈ registry.entries,
          letters.Spells item.2.identifier
          ∧ letters.Spells item.2.unit
          ∧ ∀ text ∈ item.2.definition.texts, letters.Spells text := by
    intro item member
    obtain ⟨file, inFiles, nodes, found, node, inNodes, rfl⟩ :=
      Registry.comesFrom_of_mem_entries built item member
    obtain ⟨identifier, texts⟩ := letters.spells_nodes (spelled file inFiles) found node inNodes
    exact ⟨identifier, letters.spells_unitPath (spelled file inFiles _ (by simp [File.texts])),
      texts⟩
  exact ⟨fun item member => (each item member).1, fun item member => (each item member).2.1,
    fun item member => (each item member).2.2⟩

/-- The names in a registered message are written in the letters that registered types
are.
-/
theorem HasTypes.spells_message (has : letters.HasTypes registry) {name : String}
    (found : registry.message name = .ok message)
    : ∀ text ∈ message.texts, letters.Spells text := by
  obtain ⟨entry, known, definition⟩ := Registry.message_eq_ok found
  have texts := has.texts _ known
  rw [definition] at texts
  exact texts

/-- The name of a classified field is written in the letters of the field's own name,
which is at most converted.
-/
theorem spells_shapeOf {field : Schema.Field} (named : letters.Spells field.name) {shape : Shape}
    (found : shapeOf registry options message field = .ok shape)
    : letters.Spells shape.name := by
  obtain ⟨kind, -, rest⟩ := bind_eq_ok.mp found
  cases rest
  exact letters.spells_identifier options named

/-- The names of shapes are within the alphabet of their message. -/
theorem spells_shapesOf (spelled : ∀ text ∈ message.texts, letters.Spells text)
    {shapes : List Shape} (found : shapesOf registry options message = .ok shapes)
    : ∀ shape ∈ shapes, letters.Spells shape.name := by
  intro shape member
  obtain ⟨field, inMessage, classified⟩ :=
    exists_of_mem_right (mapM_eq_ok.mp found) member
  exact spells_shapeOf (spelled _ (Message.fieldName_mem_texts inMessage)) classified

end Alphabet

namespace Vocabulary

variable {words : Vocabulary} {registry : Registry}

/-- The symbols and the definitions of all registered types are within a vocabulary, and
if the timestamp message is registered also the helpers that need it.
-/
structure HasRegistry (words : Vocabulary) (registry : Registry) : Prop where
  types
    : ∀ item ∈ registry.entries,
        words.symbol item.2.symbol ∧ words.HasDefinition item.2.definition
  timestamp : ∀ symbol, registry.symbol timestampName = .ok symbol → words.HasTimestampHelpers

/-- A symbol that the registry gives out is one of those it has. -/
theorem symbol_of_registry (has : words.HasRegistry registry) {name : String} {symbol : Symbol}
    (found : registry.symbol name = .ok symbol)
    : words.symbol symbol := by
  obtain ⟨entry, known, rfl⟩ := Registry.symbol_eq_ok found
  exact (has.types _ known).1

/-- The names in a message that the registry gives out are within the vocabulary of the
registry.
-/
theorem spells_of_registry (has : words.HasRegistry registry) {name : String} {message : Message}
    (found : registry.message name = .ok message)
    : ∀ text ∈ message.texts, words.Spells text := by
  obtain ⟨entry, known, definition⟩ := Registry.message_eq_ok found
  have texts := (has.types _ known).2
  rw [definition] at texts
  exact texts

/-- The kind that a message type is classified as has symbols of the registry only. The
ways to find it are the cases; a point in time has helpers besides its symbol.
-/
theorem hasKind_messageKind (has : words.HasRegistry registry) {typeName : String} {kind : Kind}
    (named : IsMessageKind registry typeName kind)
    : words.HasKind kind := by
  cases named with
  | wrapper symbol scalar wraps known => exact symbol_of_registry has known
  | timestamp symbol noWrapper named known =>
      exact ⟨symbol_of_registry has known, has.timestamp symbol (named ▸ known)⟩
  | message symbol target noWrapper notTimestamp declared known =>
      exact symbol_of_registry has known

/-- The kind of one value of a field has symbols of the registry only. The ways to find it
are the cases, and a scalar has none.
-/
theorem hasKind_elementKind (has : words.HasRegistry registry) {field : Schema.Field} {kind : Kind}
    (single : IsElementKind registry field kind)
    : words.HasKind kind := by
  cases single with
  | scalar scalar type => trivial
  | enumeration symbol type known => exact symbol_of_registry has known
  | message _ type named => exact hasKind_messageKind has named

/-- The kind of a field is within a vocabulary. For a map this is asked of the entry and
of the value, which are kinds of single values.
-/
theorem hasKind_fieldKind (has : words.HasRegistry registry) {message : Message}
    {field : Schema.Field} {kind : Kind} (found : fieldKind registry message field = .ok kind)
    : words.HasKind kind := by
  cases fieldKind_eq_ok.mp found with
  | element _ single plain => exact hasKind_elementKind has single
  | map entry key value target keyField valueField _ single declared entries fields type held =>
      exact ⟨hasKind_elementKind has single, hasKind_elementKind has held⟩

/-- A classified field is within the vocabulary of the registry if its own name is. Map
entries bring in the kinds of their key and value.
-/
theorem hasShape_shapeOf (has : words.HasRegistry registry) {options : Options}
    {message : Message} {field : Schema.Field} (named : words.Spells field.name) {shape : Shape}
    (found : shapeOf registry options message field = .ok shape)
    : words.HasShape shape := by
  have name : words.Spells shape.name :=
    words.alphabet.spells_shapeOf named found
  obtain ⟨kind, classified, rest⟩ := bind_eq_ok.mp found
  cases rest
  exact ⟨name, hasKind_fieldKind has classified⟩

/-- The shapes of the fields of a message are within a vocabulary. -/
theorem hasShape_shapesOf (has : words.HasRegistry registry) {options : Options}
    {message : Message} (spelled : ∀ text ∈ message.texts, words.Spells text)
    {shapes : List Shape} (found : shapesOf registry options message = .ok shapes)
    : ∀ shape ∈ shapes, words.HasShape shape := by
  intro shape member
  obtain ⟨field, inMessage, classified⟩ :=
    exists_of_mem_right (mapM_eq_ok.mp found) member
  exact hasShape_shapeOf has (spelled _ (Message.fieldName_mem_texts inMessage)) classified

end Vocabulary

end ProtobufTypeScript.Target
