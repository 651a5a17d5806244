import ProtobufTypeScript.Field.Shape
import ProtobufTypeScript.Proofs.Target.SyntaxVocabulary

/-!
The vocabulary of fields: the types, defaults and conversions of a field are within a vocabulary if
its name and the symbols of its kind are.
-/

namespace ProtobufTypeScript.Target.Vocabulary

open ProtobufTypeScript.Field Schema

variable {words : Vocabulary}

/-- The symbols of a kind are among those of a vocabulary, and for points in time also the
helpers that convert them.
-/
def HasKind (words : Vocabulary) : Kind → Prop
  | .scalar _ => True
  | .enumeration symbol => words.symbol symbol
  | .message symbol => words.symbol symbol
  | .wrapper symbol _ => words.symbol symbol
  | .timestamp symbol => words.symbol symbol ∧ words.HasTimestampHelpers
  | .map entry _ value => words.symbol entry ∧ HasKind words value

/-- The name of a field and the symbols of its kind are within a vocabulary. -/
structure HasShape (words : Vocabulary) (shape : Shape) : Prop where
  name : words.Spells shape.name
  kind : words.HasKind shape.kind

@[simp] theorem writes_longType (options : Options)
    : words.Writes (longType options).snippet := by
  unfold longType
  split <;> simp

/-- The type of a scalar is within every vocabulary, in each form of 64-bit integers. -/
@[simp] theorem writes_scalarType (options : Options) (scalar : Scalar)
    : words.Writes (scalarType options scalar).snippet := by
  unfold scalarType
  repeat' split
  all_goals simp

@[simp] theorem writes_wrappedType (scalar : Scalar)
    : words.Writes (wrappedType scalar).snippet := by
  unfold wrappedType
  split <;> simp

@[simp] theorem writes_keyType (options : Options) (key : Scalar)
    : words.Writes (keyType options key).snippet := by
  unfold keyType
  split <;> simp

@[simp] theorem writes_longDefault (options : Options) (unsigned : Bool)
    : words.Writes (longDefault options unsigned).snippet := by
  unfold longDefault
  cases unsigned <;> split <;> simp (disch := decide) [spells_of_isAscii]

/-- The default of a scalar is within every vocabulary. -/
@[simp] theorem writes_scalarDefault (options : Options) (scalar : Scalar)
    : words.Writes (scalarDefault options scalar).snippet := by
  unfold scalarDefault
  repeat' split
  all_goals simp (disch := decide) [spells_of_isAscii]

@[simp] theorem writes_converted {function : String} {value : Expr}
    : words.Writes (converted function value).snippet
      ↔ words.Spells function ∧ words.Writes value.snippet := by
  simp [converted]

/-- The keywords of scalars are ASCII texts. -/
@[simp] theorem spells_keyword (scalar : Scalar)
    : words.Spells scalar.keyword := by
  cases scalar <;> exact spells_of_isAscii (by decide)

/-- What makes a scalar from a JSON value is within a vocabulary if the expression for the
value is.
-/
theorem writes_scalarFromJson (options : Options) (scalar : Scalar) {value : Expr}
    (written : words.Writes value.snippet)
    : words.Writes (scalarFromJson options scalar value).snippet := by
  unfold scalarFromJson longFromJson
  repeat' split
  all_goals simp (disch := decide) [spells_of_isAscii, written]

theorem writes_wrappedFromJson (scalar : Scalar) {value : Expr}
    (written : words.Writes value.snippet)
    : words.Writes (wrappedFromJson scalar value).snippet := by
  unfold wrappedFromJson
  split <;> simp (disch := decide) [spells_of_isAscii, written]

/-- What makes a scalar from a key is within a vocabulary if the expression for the key
is.
-/
theorem writes_scalarFromKey (options : Options) (scalar : Scalar) {key : Expr}
    (written : words.Writes key.snippet)
    : words.Writes (scalarFromKey options scalar key).snippet := by
  unfold scalarFromKey longFromKey
  repeat' split
  all_goals simp (disch := decide) [spells_of_isAscii, written]

/-- The type of a value is within a vocabulary that has its kind. Induction on the kind,
for the values of maps.
-/
theorem writes_elementType (options : Options) {kind : Kind} (has : words.HasKind kind)
    : words.Writes (kind.elementType options).snippet := by
  induction kind with
  | scalar type => exact writes_scalarType options type
  | enumeration symbol => exact writes_symbolType.mpr has
  | message symbol => exact writes_symbolType.mpr has
  | wrapper symbol value => simp [Kind.elementType]
  | timestamp symbol => simp [Kind.elementType]
  | map entry key value ih => exact writes_indexType.mpr ⟨writes_keyType options key, ih has.2⟩

/-- The type of a field is within a vocabulary that has its shape. -/
theorem writes_shapeType (options : Options) {shape : Shape} (has : words.HasShape shape)
    : words.Writes (shape.type options).snippet := by
  have element := writes_elementType options has.kind
  unfold Shape.type
  repeat' split
  all_goals simpa using element

@[simp] theorem writes_kindDefault (options : Options) (kind : Kind)
    : words.Writes (kind.default options).snippet := by
  cases kind <;> simp [Kind.default]

/-- The default of a field is within every vocabulary. -/
@[simp] theorem writes_shapeDefault (options : Options) (shape : Shape)
    : words.Writes (shape.default options).snippet := by
  unfold Shape.default
  repeat' split
  all_goals simp

/-- The condition under which a field differs from its default is within a vocabulary if
the place of the field is.
-/
theorem writes_differsFromDefault (options : Options) (shape : Shape) {place : Expr}
    (written : words.Writes place.snippet)
    : ∀ condition ∈ shape.differsFromDefault? options place, words.Writes condition.snippet := by
  intro condition found
  unfold Shape.differsFromDefault? at found
  repeat' split at found
  all_goals cases found
  all_goals simp (disch := decide) [spells_of_isAscii, written]

end ProtobufTypeScript.Target.Vocabulary
