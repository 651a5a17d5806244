import ProtobufTypeScript.Field.Shape
import ProtobufTypeScript.Proofs.Target.SyntaxBrackets

/-!
Brackets in fields: the types and defaults of fields are balanced whatever the fields are, and
conversions keep values balanced.
-/

namespace ProtobufTypeScript.Field

open Schema Target

variable {options : Options}

attribute [local simp] Expr.Balances Expr.BalancesAll TypeExpr.Balances TypeExpr.BalancesAll
  Expr.method Expr.undefined

@[simp] theorem balances_longType
    : (longType options).Balances := by
  unfold longType
  split <;> simp

/-- The type of a scalar is balanced, in each form of 64-bit integers. -/
@[simp] theorem balances_scalarType {scalar : Scalar}
    : (scalarType options scalar).Balances := by
  unfold scalarType
  repeat' split
  all_goals simp

@[simp] theorem balances_wrappedType {scalar : Scalar}
    : (wrappedType scalar).Balances := by
  unfold wrappedType
  split <;> simp

@[simp] theorem balances_keyType {key : Scalar}
    : (keyType options key).Balances := by
  unfold keyType
  split <;> simp

/-- The type of a value is balanced, whatever kind of value it is. Maps hold values of
another kind, so this is by induction on the kind.
-/
@[simp] theorem balances_elementType {kind : Kind}
    : (kind.elementType options).Balances := by
  induction kind with
  | scalar type => exact balances_scalarType
  | enumeration symbol => trivial
  | message symbol => trivial
  | wrapper symbol value => exact TypeExpr.balances_optional.mpr balances_wrappedType
  | timestamp symbol => exact TypeExpr.balances_languageTypes.2.2.2.2.2.2
  | map entry key value ih => exact ⟨balances_keyType, ih⟩

/-- The type of a field is balanced, as it is made of the type of a value. -/
@[simp] theorem balances_shapeType {shape : Shape}
    : (shape.type options).Balances := by
  unfold Shape.type
  repeat' split
  all_goals simp

@[simp] theorem balances_longDefault {unsigned : Bool}
    : (longDefault options unsigned).Balances := by
  unfold longDefault
  cases unsigned <;> split <;> simp (disch := decide) [balances_of_isPlain]

/-- The default of a scalar is balanced; only that of bytes has brackets at all. -/
@[simp] theorem balances_scalarDefault {scalar : Scalar}
    : (scalarDefault options scalar).Balances := by
  unfold scalarDefault
  repeat' split
  all_goals simp (disch := decide) [balances_of_isPlain]

@[simp] theorem balances_converted {function : String} {value : Expr}
    : (converted function value).Balances ↔ Text.Balances function ∧ value.Balances := by
  simp [converted]

@[simp] theorem balances_keyword (scalar : Scalar)
    : Text.Balances scalar.keyword := by
  cases scalar <;> exact balances_of_isPlain (by decide)

/-- What makes a scalar from a balanced expression for a JSON value is balanced. -/
theorem balances_scalarFromJson {scalar : Scalar} {value : Expr} (balanced : value.Balances)
    : (scalarFromJson options scalar value).Balances := by
  unfold scalarFromJson longFromJson
  repeat' split
  all_goals simp (disch := decide) [balances_of_isPlain, balanced]

theorem balances_wrappedFromJson {scalar : Scalar} {value : Expr} (balanced : value.Balances)
    : (wrappedFromJson scalar value).Balances := by
  unfold wrappedFromJson
  split <;> simp (disch := decide) [balances_of_isPlain, balanced]

/-- What makes a scalar from a balanced expression for a key is balanced. -/
theorem balances_scalarFromKey {scalar : Scalar} {key : Expr} (balanced : key.Balances)
    : (scalarFromKey options scalar key).Balances := by
  unfold scalarFromKey longFromKey
  repeat' split
  all_goals simp (disch := decide) [balances_of_isPlain, balanced]

/-- The default of a field is balanced: an empty list, an empty object, `undefined`, or
that of its kind.
-/
@[simp] theorem balances_shapeDefault {shape : Shape}
    : (shape.default options).Balances := by
  unfold Shape.default Kind.default
  repeat' split
  all_goals simp (disch := decide) [balances_of_isPlain]

/-- The condition under which a field differs from its default is balanced if the place of
the field is.
-/
theorem balances_differsFromDefault {shape : Shape} {place : Expr} (balanced : place.Balances)
    : ∀ condition ∈ shape.differsFromDefault? options place, condition.Balances := by
  intro condition found
  unfold Shape.differsFromDefault? at found
  repeat' split at found
  all_goals cases found
  all_goals simp (disch := decide) [balances_of_isPlain, balanced]

end ProtobufTypeScript.Field
