import ProtobufTypeScript.Field.Shape
import ProtobufTypeScript.Proofs.Target.SyntaxUsage

/-!
The use of symbols in fields. The types, defaults and conversions of a field use its symbols in ways
that are allowed if the methods that a run generates for them are granted.
-/

namespace ProtobufTypeScript.Target.Usage

open ProtobufTypeScript.Field Schema

variable {usage : Usage} {options : Options}

attribute [local simp] Admits AdmitsAll AdmitsType AdmitsTypes isClosed Expr.method Expr.undefined

/-- Whether the methods that a run generates for a message are granted. -/
structure GrantsMessage (usage : Usage) (options : Options) (symbol : Symbol) : Prop where
  free : usage.Frees symbol
  encode : options.binaryMethods = true → usage.Grants symbol "encode"
  decode : options.binaryMethods = true → usage.Grants symbol "decode"
  fromJson : options.jsonMethods = true → usage.Grants symbol "fromJSON"
  fromPartial : options.jsonMethods = true → usage.Grants symbol "fromPartial"
  toJson : options.jsonMethods = true → usage.Grants symbol "toJSON"

/-- Whether the methods that a run generates for an enum are granted. -/
structure GrantsEnumeration (usage : Usage) (options : Options) (symbol : Symbol) : Prop where
  free : usage.Frees symbol
  fromJson : options.jsonMethods = true → usage.Grants symbol "fromJSON"
  toJson : options.jsonMethods = true → usage.Grants symbol "toJSON"

/-- Whether the symbols of a kind may be used as the codec of a field uses them. -/
def AllowsKind (usage : Usage) (options : Options) : Kind → Prop
  | .scalar _ => True
  | .enumeration symbol => usage.GrantsEnumeration options symbol
  | .message symbol => usage.GrantsMessage options symbol
  | .wrapper symbol _ => usage.GrantsMessage options symbol
  | .timestamp symbol =>
      usage.GrantsMessage options symbol
      ∧ (options.jsonMethods = true → usage.Frees Helper.fromJsonTimestamp.symbol)
  | .map entry _ value => usage.GrantsMessage options entry ∧ AllowsKind usage options value

@[simp] theorem admits_longType
    : usage.AdmitsType (longType options) := by
  unfold longType
  split <;> simp

/-- The type of a scalar mentions at most the symbol for 64-bit integers, which every
usage allows.
-/
@[simp] theorem admits_scalarType {scalar : Scalar}
    : usage.AdmitsType (scalarType options scalar) := by
  unfold scalarType
  repeat' split
  all_goals simp

@[simp] theorem admits_wrappedType {scalar : Scalar}
    : usage.AdmitsType (wrappedType scalar) := by
  unfold wrappedType
  split <;> simp

@[simp] theorem admits_keyType {key : Scalar}
    : usage.AdmitsType (keyType options key) := by
  unfold keyType
  split <;> simp

/-- The type of a value mentions what its kind allows. Induction on the kind, for the
values of maps.
-/
theorem admits_elementType {kind : Kind} (allowed : usage.AllowsKind options kind)
    : usage.AdmitsType (kind.elementType options) := by
  induction kind with
  | scalar type => exact admits_scalarType
  | enumeration symbol => exact allowed.free
  | message symbol => exact allowed.free
  | wrapper symbol value => exact admits_optionalType.mpr admits_wrappedType
  | timestamp symbol => exact trivial
  | map entry key value ih => exact ⟨admits_keyType, ih allowed.2⟩

/-- The type of a field mentions what its kind allows. -/
theorem admits_shapeType {shape : Shape} (allowed : usage.AllowsKind options shape.kind)
    : usage.AdmitsType (shape.type options) := by
  have element := admits_elementType allowed
  unfold Shape.type
  repeat' split
  all_goals simpa using element

/-- The default of a scalar refers to at most the symbol for 64-bit integers, and to a
member that it has.
-/
@[simp] theorem admits_scalarDefault {scalar : Scalar}
    : usage.Admits (scalarDefault options scalar) := by
  unfold scalarDefault longDefault
  repeat' split
  all_goals simp

@[simp] theorem admits_converted {function : String} {value : Expr}
    : usage.Admits (converted function value) ↔ usage.Admits value := by
  simp [converted]

/-- What makes a scalar from a JSON value is allowed if the expression for the value is.
-/
theorem admits_scalarFromJson {scalar : Scalar} {value : Expr} (admitted : usage.Admits value)
    : usage.Admits (scalarFromJson options scalar value) := by
  unfold scalarFromJson longFromJson
  repeat' split
  all_goals simp [admitted]

theorem admits_wrappedFromJson {scalar : Scalar} {value : Expr} (admitted : usage.Admits value)
    : usage.Admits (wrappedFromJson scalar value) := by
  unfold wrappedFromJson
  split <;> simp [admitted]

/-- What makes a scalar from a key is allowed if the expression for the key is. -/
theorem admits_scalarFromKey {scalar : Scalar} {key : Expr} (admitted : usage.Admits key)
    : usage.Admits (scalarFromKey options scalar key) := by
  unfold scalarFromKey longFromKey
  repeat' split
  all_goals simp [admitted]

/-- The default of a field refers to at most the symbol for 64-bit integers. -/
@[simp] theorem admits_shapeDefault {shape : Shape}
    : usage.Admits (shape.default options) := by
  unfold Shape.default Kind.default
  repeat' split
  all_goals simp

/-- The condition under which a field differs from its default is allowed if the place of
the field is, and nothing can be called there.
-/
theorem admits_differsFromDefault {shape : Shape} {place : Expr} (closed : isClosed place = true)
    (admitted : usage.Admits place)
    : ∀ condition ∈ shape.differsFromDefault? options place, usage.Admits condition := by
  intro condition found
  unfold Shape.differsFromDefault? at found
  repeat' split at found
  all_goals cases found
  all_goals simp [closed, admitted]

end ProtobufTypeScript.Target.Usage
