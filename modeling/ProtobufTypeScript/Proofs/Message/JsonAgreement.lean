import ProtobufTypeScript.Message.Codec
import ProtobufTypeScript.Proofs.Message.FromObject
import ProtobufTypeScript.Proofs.Message.Passage
import ProtobufTypeScript.Proofs.Message.WireAgreement

/-!
The functions of a message that deal with other objects agree field by field: they pass the same
fields in the same order, `fromJSON` turns values back from what `toJSON` makes of them, and all
code agrees on which keys of maps are numbers.
-/

namespace ProtobufTypeScript.Message

open ProtobufTypeScript.Field Schema Target

variable {options : Options} {shape : Shape}

-----------------------------------------------------------------------------------------
-- What is to be agreed on
-----------------------------------------------------------------------------------------

/-- What the language makes of any value so that it has a type. -/
def coercion : TypeExpr → Way
  | .simple "number" => .coerced "Number"
  | .simple "string" => .coerced "String"
  | .simple "boolean" => .coerced "Boolean"
  | _ => .plain

/-- Two ways that match, one to JSON and one back. -/
inductive Pair (options : Options) : Kind → Way → Way → Prop
  | enumeration (symbol : Symbol)
    : Pair options (.enumeration symbol) (.through symbol "toJSON") (.through symbol "fromJSON")
  | message (symbol : Symbol)
    : Pair options (.message symbol) (.through symbol "toJSON") (.through symbol "fromJSON")
  | entry (symbol : Symbol) (key : Scalar) (value : Kind)
    : Pair options (.map symbol key value) (.through symbol "toJSON") (.through symbol "fromJSON")
  | timestamp (symbol : Symbol)
    : Pair options (.timestamp symbol) (.own "toISOString")
        (.helped Helper.fromJsonTimestamp.symbol)
  | long (scalar : Scalar) (object : isLongObject options scalar = true)
    : Pair options (.scalar scalar) (.own "toString") (.through Library.long "fromValue")
  | scalar (scalar : Scalar) (plain : isLongObject options scalar = false)
    : Pair options (.scalar scalar) .plain (coercion (scalarType options scalar))
  | wrapper (symbol : Symbol) (scalar : Scalar)
    : Pair options (.wrapper symbol scalar) .plain (coercion (wrappedType scalar))

/-- The kind of the single values of a field: for a map, of those under its keys. -/
def valueKind : Kind → Kind
  | .map _ _ value => value
  | kind => kind

/-- Whether the type declared for a field is that of an object with numbers as keys. -/
def HasNumberKeys (options : Options) (shape : Shape) : Prop :=
  ∃ value, shape.type options = .index .number value

/-- What keys are turned into, which are strings. -/
def keyWay (numeric : Bool) : Way :=
  if numeric then .coerced "Number" else .plain

/-- The routes that a field takes to JSON, from JSON and from a partial message. -/
inductive Routes (options : Options) (shape : Shape) : Route → Route → Route → Prop
  | single (one : shape.isMap = false) (alone : shape.repeated = false)
    : Routes options shape .single .single .single
  | elements (list : shape.isList = true)
    : Routes options shape .elements .elements .elements
  | entries (map : shape.isMap = true) (numeric : Bool)
    (declared : numeric = true ↔ HasNumberKeys options shape)
    : Routes options shape (.entries .plain) (.entries (keyWay numeric))
        (.entries (keyWay numeric))

/-- What `toJSON`, `fromJSON` and `fromPartial` pass for a field and what `encode` does
for it go together.
-/
structure FieldAgreement (options : Options) (shape : Shape) (give take fill : Passage)
    (write : Stmt)
    : Prop where
  given : give.source = ["message", shape.name] ∧ give.target = ["obj", shape.name]
  taken : take.source = ["object", shape.name] ∧ take.target = ["message", shape.name]
  filled : fill.source = ["object", shape.name] ∧ fill.target = ["message", shape.name]
  routes : Routes options shape give.route take.route fill.route
  pair : Pair options (valueKind shape.kind) give.way take.way
  /-- `toJSON` gives just the single scalars outside oneofs a default. -/
  fallback
    : ∀ default,
        give.fallback = some default
        ↔ (∃ scalar, shape.kind = .scalar scalar) ∧ shape.repeated = false
          ∧ shape.inOneof = false ∧ default = shape.default options
  noFallback : take.fallback = none
  /-- `encode` writes the keys of a map as numbers just if they are declared as such. -/
  keys
    : shape.isMap = true
      → ∃ name key,
          writtenKey? write = some (name, key)
          ∧ (turnedVariable? name key = some (.coerced "Number") ↔ HasNumberKeys options shape)

/-- The steps of `toJSON` for a field, with what it passes; a map starts empty. -/
def giveFieldSteps (give : Shape → Passage) (shape : Shape) : List Step :=
  (if shape.isMap then [.clear ["obj", shape.name]] else []) ++ [.pass (give shape)]

/-- The steps of `toJSON`, with what it passes for a field. -/
def giveSteps (give : Shape → Passage) (shapes : List Shape) : List Step :=
  .start "obj" :: shapes.flatMap (giveFieldSteps give) ++ [.finish "obj"]

/-- The steps of a function that makes a message from an object, with what it passes for a
field; lists and maps start empty.
-/
def takeSteps (take : Shape → Passage) (shapes : List Shape) : List Step :=
  .start "message"
    :: (shapes.filter Shape.repeated).map (fun shape => .clear ["message", shape.name])
    ++ shapes.map (fun shape => .pass (take shape))
    ++ [.finish "message"]

-----------------------------------------------------------------------------------------
-- What values are turned into
-----------------------------------------------------------------------------------------

/-- What `toJSON` turns a value into. -/
def giveWay (options : Options) : Kind → Way
  | .scalar scalar => if isLongObject options scalar then .own "toString" else .plain
  | .enumeration symbol => .through symbol "toJSON"
  | .message symbol => .through symbol "toJSON"
  | .wrapper _ _ => .plain
  | .timestamp _ => .own "toISOString"
  | .map entry _ _ => .through entry "toJSON"

/-- What `fromJSON` turns a value into. -/
def takeWay (options : Options) : Kind → Way
  | .scalar scalar =>
      if isLongObject options scalar then .through Library.long "fromValue"
      else coercion (scalarType options scalar)
  | .enumeration symbol => .through symbol "fromJSON"
  | .message symbol => .through symbol "fromJSON"
  | .wrapper _ scalar => coercion (wrappedType scalar)
  | .timestamp _ => .helped Helper.fromJsonTimestamp.symbol
  | .map entry _ _ => .through entry "fromJSON"

/-- What `fromPartial` turns a value into. -/
def fillWay (options : Options) : Kind → Way
  | .scalar scalar => if isLongObject options scalar then .cast Library.long else .plain
  | .message symbol => .through symbol "fromPartial"
  | .map entry _ _ => .through entry "fromPartial"
  | _ => .plain

/-- What stands for a value in `toJSON` that counts as false. -/
def giveFallback (options : Options) (presence : Presence) : Kind → Option Expr
  | .scalar scalar => if presence = .single then some (scalarDefault options scalar) else none
  | _ => none

/-- The way a kind is given out and the way it is taken over belong together. The kinds
are the cases, and the scalars among them.
-/
theorem pair_giveWay_takeWay (kind : Kind)
    : Pair options kind (giveWay options kind) (takeWay options kind) := by
  cases kind with
  | scalar scalar =>
      cases object : isLongObject options scalar with
      | true =>
          rw [giveWay, takeWay, if_pos object, if_pos object]
          exact .long scalar object
      | false =>
          rw [giveWay, takeWay, if_neg (by simp [object]), if_neg (by simp [object])]
          exact .scalar scalar object
  | enumeration symbol => exact .enumeration symbol
  | message symbol => exact .message symbol
  | wrapper symbol scalar => exact .wrapper symbol scalar
  | timestamp symbol => exact .timestamp symbol
  | map symbol key value => exact .entry symbol key value

section Places

variable {value : Expr} {origin : List String} (located : place? value = some origin)

include located

/-- A scalar is given out in the way of its kind, and with the default of its kind where
it may be missing.
-/
theorem turned?_scalarToJson (presence : Presence) (scalar : Scalar)
    : turned? (scalarToJson options presence scalar value)
      = some
          {
            place := origin
            way := giveWay options (.scalar scalar)
            fallback := giveFallback options presence (.scalar scalar)
          } := by
  cases object : isLongObject options scalar <;> cases presence <;>
    simp [scalarToJson, giveWay, giveFallback, object, located, isMissing, valueIf, isDefined,
      decimalString, Expr.method, Expr.undefined]

/-- A value is given out in the way of its kind, and with the default of its kind where it
may be missing. The kinds are the cases.
-/
theorem turned?_valueToJson (presence : Presence) (kind : Kind)
    : turned? (valueToJson options presence kind value)
      = some
          {
            place := origin
            way := giveWay options kind
            fallback := giveFallback options presence kind
          } := by
  cases kind with
  | scalar scalar => exact turned?_scalarToJson located presence scalar
  | enumeration symbol =>
      cases presence <;>
        simp [valueToJson, giveWay, giveFallback, located, callee?, isMissing, valueIf, isDefined,
          Expr.method, Expr.undefined]
  | _ =>
      simp [valueToJson, giveWay, giveFallback, located, callee?, isMissing, valueIf, isDefined,
        Expr.method, Expr.undefined]

theorem turned?_converted (function : String)
    : turned? (converted function value) = some { place := origin, way := .coerced function } := by
  simp [converted, callee?, located]

/-- A 64-bit integer is taken over in the way of the form that is chosen, which are the
three cases.
-/
theorem turned?_longFromJson
    : turned? (longFromJson options value)
      = some
          {
            place := origin
            way :=
              if options.longForm == .long then .through Library.long "fromValue"
              else coercion (longType options)
          } := by
  unfold longFromJson longType
  cases options.longForm with
  | number => exact turned?_converted located "Number"
  | string => exact turned?_converted located "String"
  | long => simp [callee?, located, Expr.method]

/-- A scalar is taken over from JSON in the way of its kind. -/
theorem turned?_scalarFromJson (scalar : Scalar)
    : turned? (scalarFromJson options scalar value)
      = some { place := origin, way := takeWay options (.scalar scalar) } := by
  cases scalar with
  | bytes => exact turned?_of_place located
  | int64 | uint64 | sint64 | fixed64 | sfixed64 => exact turned?_longFromJson located
  | bool => exact turned?_converted located "Boolean"
  | string => exact turned?_converted located "String"
  | _ => exact turned?_converted located "Number"

/-- A value is taken over from JSON in the way of its kind. The kinds are the cases, and
for wrappers the scalars in them.
-/
theorem turned?_valueFromJson (kind : Kind)
    : turned? (valueFromJson options kind value)
      = some { place := origin, way := takeWay options kind } := by
  cases kind with
  | scalar scalar => exact turned?_scalarFromJson located scalar
  | wrapper symbol scalar =>
      cases scalar with
      | bytes => exact turned?_of_place located
      | bool => exact turned?_converted located "Boolean"
      | string => exact turned?_converted located "String"
      | _ => exact turned?_converted located "Number"
  | _ => simp [valueFromJson, takeWay, located, callee?, Expr.method]

/-- A value is taken over from a partial message in the way of its kind, which is plain
but for messages.
-/
theorem turned?_valueFromPartial (kind : Kind)
    : turned? (valueFromPartial options kind value)
      = some { place := origin, way := fillWay options kind } := by
  cases kind with
  | scalar scalar =>
      cases object : isLongObject options scalar <;>
        simp [valueFromPartial, fillWay, object, located]
  | _ => simp [valueFromPartial, fillWay, located, callee?, Expr.method]

end Places

-----------------------------------------------------------------------------------------
-- What statements pass
-----------------------------------------------------------------------------------------

/-- The route of a field, with what its keys are turned into if it is a map. -/
def routeOf (shape : Shape) (keys : Way) : Route :=
  if shape.isMap then .entries keys else if shape.repeated then .elements else .single

/-- Whether the keys of a kind are numbers. -/
def isNumeric (options : Options) : Kind → Bool
  | .map _ key _ => hasNumericKey options key
  | _ => false

/-- What `toJSON` passes for a field. -/
def givenPassage (options : Options) (shape : Shape) : Passage :=
  {
    source := ["message", shape.name]
    target := ["obj", shape.name]
    route := routeOf shape .plain
    way := giveWay options (valueKind shape.kind)
    fallback :=
      if shape.repeated then none else giveFallback options (presenceOf shape) shape.kind
  }

/-- What a function that makes a message from an object passes for a field. -/
def takenPassage (options : Options) (way : Kind → Way) (shape : Shape) : Passage :=
  {
    source := ["object", shape.name]
    target := ["message", shape.name]
    route := routeOf shape (keyWay (isNumeric options shape.kind))
    way := way (valueKind shape.kind)
  }

@[simp] theorem place?_place
    : place? (place shape) = some ["message", shape.name] :=
  rfl

@[simp] theorem place?_source
    : place? (source shape) = some ["object", shape.name] :=
  rfl

@[simp] theorem place?_output
    : place? (output shape) = some ["obj", shape.name] :=
  rfl

theorem isMap_iff
    : shape.isMap = true ↔ ∃ entry key value, shape.kind = .map entry key value := by
  unfold Shape.isMap Kind.isMap
  split
  · rename_i entry key value map
    exact iff_of_true rfl ⟨entry, key, value, map⟩
  · rename_i other
    exact iff_of_false Bool.false_ne_true (fun ⟨_, _, _, map⟩ => other _ _ _ map)

/-- The values of a field that is not a map are of the kind of the field. -/
theorem valueKind_of_not_isMap (notMap : shape.isMap = false)
    : valueKind shape.kind = shape.kind := by
  unfold valueKind
  split
  · rename_i map
    rw [isMap_iff.mpr ⟨_, _, _, map⟩] at notMap
    cases notMap
  · rfl

/-- A map is given out in one passage, entry by entry, after an empty object was put in
its place. The loop over its entries is read as the passage.
-/
theorem map_step?_giveMap {entry : Symbol} {key : Scalar} {value : Kind}
    (map : shape.kind = .map entry key value)
    : (giveMap options shape value).map step?
      = (giveFieldSteps (givenPassage options) shape).map some := by
  have content
      : turnedVariable? "v" (valueToJson options .element value (.name "v"))
        = some (giveWay options value) := by
    refine turnedVariable?_of_turned? (turned?_valueToJson rfl .element value) rfl ?_
    cases value <;> rfl
  have keys : turnedVariable? "k" (.name "k") = some .plain := rfl
  have isMap : shape.isMap = true := isMap_iff.mpr ⟨_, _, _, map⟩
  have passage
      : passed?
            (.callback none (.member (.method (.name "Object") "entries" [place shape]) "forEach")
              [] false [.pair "k" "v"]
              [
                .assign (.element (output shape) (.name "k"))
                  (valueToJson options .element value (.name "v"))
              ])
        = some (givenPassage options shape) := by
    simp [passed?, entriesOf?, storedBy?, stored?, keys, content, Expr.method, givenPassage,
      routeOf, isMap, map, valueKind, giveFallback]
  have tested : tests (givenPassage options shape).source (place shape) = true :=
    tests_of_place rfl
  simp [giveMap, giveFieldSteps, isMap, step?, Stmt.when, passage, isEmpty, tested, onlyAssigns]

/-- A list is given out in one passage, element by element. The function that is applied
to each element is read as the way of the passage.
-/
theorem step?_giveList (notMap : shape.isMap = false) (repeated : shape.repeated = true)
    : step? (giveList options shape) = some (.pass (givenPassage options shape)) := by
  have content
      : turnedVariable? "e" (valueToJson options .element shape.kind (.name "e"))
        = some (giveWay options shape.kind) := by
    refine turnedVariable?_of_turned? (turned?_valueToJson rfl .element shape.kind) rfl ?_
    cases shape.kind <;> rfl
  have passage
      : passed?
            (.assign (output shape)
              (.method (place shape) "map"
                [.arrow ["e"] (valueToJson options .element shape.kind (.name "e"))]))
        = some (givenPassage options shape) := by
    simp [passed?, assignment?, mapped?, content, Expr.method, givenPassage, routeOf, repeated,
      notMap, valueKind_of_not_isMap notMap]
  have tested : tests (givenPassage options shape).source (place shape) = true :=
    tests_of_place rfl
  have emptied
      : onlyAssigns (givenPassage options shape).target (.block [.assign (output shape) (.list [])])
        = true :=
    beq_self_eq_true _
  simp [giveList, step?, Stmt.either, passage, tested, emptied]

/-- A single value is given out in one passage, which is conditional if the value may be
missing.
-/
theorem step?_giveSingle (notMap : shape.isMap = false) (single : shape.repeated = false)
    : step?
          (.assign (output shape)
            (valueToJson options (presenceOf shape) shape.kind (place shape)))
      = some (.pass (givenPassage options shape)) := by
  have content
      : turned? (valueToJson options (presenceOf shape) shape.kind (place shape))
        = some
            {
              place := ["message", shape.name]
              way := giveWay options shape.kind
              fallback := giveFallback options (presenceOf shape) shape.kind
            } :=
    turned?_valueToJson place?_place (presenceOf shape) shape.kind
  simp [step?, isEmpty_of_turned? content, passed?, assignment?_of_turned? content, givenPassage,
    routeOf, single, notMap, valueKind_of_not_isMap notMap]

/-- A field is given out in the steps that its shape asks for. Maps, lists and single
values are the cases.
-/
theorem map_step?_giveField
    : (giveField options shape).map step?
      = (giveFieldSteps (givenPassage options) shape).map some := by
  unfold giveField
  split
  · rename_i map
    exact map_step?_giveMap map
  · rename_i other
    have notMap := isMap_eq_false other
    have steps
        : giveFieldSteps (givenPassage options) shape = [.pass (givenPassage options shape)] := by
      simp [giveFieldSteps, notMap]
    rw [steps]
    split
    · rename_i repeated
      exact congrArg (fun step => [step]) (step?_giveList notMap repeated)
    · rename_i single
      exact congrArg (fun step => [step]) (step?_giveSingle notMap (Bool.eq_false_iff.mpr single))

/-- The body that gives out a message takes the steps for its fields, in order, between
its start and its result.
-/
theorem map_step?_toJsonBody (shapes : List Shape)
    : (toJsonBody options shapes).map step?
      = (giveSteps (givenPassage options) shapes).map some := by
  have fields
      : (shapes.flatMap (giveField options)).map step?
        = (shapes.flatMap (giveFieldSteps (givenPassage options))).map some := by
    simp only [List.map_flatMap, map_step?_giveField]
  simp [toJsonBody, giveSteps, fields]

section Taking

variable {conversion : Conversion} {way : Kind → Way}
  (turns
    : ∀ kind value place,
        place? value = some place
        → turned? (conversion.value kind value) = some { place, way := way kind })

include turns

/-- A map is taken over in one passage, entry by entry, in the ways of its keys and its
values. A test that skips values does not change the passage.
-/
theorem passed?_takeMap {entry : Symbol} {key : Scalar} {value : Kind}
    (map : shape.kind = .map entry key value)
    : passed? (takeMap options conversion shape key value)
      = some (takenPassage options way shape) := by
  have keys
      : turnedVariable? "key" (mapKey options key) = some (keyWay (hasNumericKey options key)) := by
    unfold mapKey keyWay
    split <;> rfl
  have content
      : turnedVariable? "value" (conversion.value value (.name "value")) = some (way value) :=
    turnedVariable?_of_turned? (turns value _ _ rfl) rfl rfl
  have stored
      : stored? "key" "value"
          (.assign (.element (place shape) (mapKey options key))
            (conversion.value value (.name "value")))
        = some (["message", shape.name], keyWay (hasNumericKey options key), way value) := by
    simp [stored?, keys, content]
  have isMap : shape.isMap = true := isMap_iff.mpr ⟨_, _, _, map⟩
  have tested : tests ["value"] (.binary .notEqual (.name "value") .undefined) = true := rfl
  unfold takeMap
  split <;>
    simp [passed?, entriesOf?, storedBy?, stored, tested, Stmt.when, Expr.method, takenPassage,
      routeOf, isMap, map, valueKind, isNumeric]

/-- What is given for a field is taken over in the passage for the field. Maps, lists and
single values are the cases.
-/
theorem passed?_takeGiven
    : passed? (takeGiven options conversion shape) = some (takenPassage options way shape) := by
  unfold takeGiven
  split
  · rename_i entry key value map
    exact passed?_takeMap turns map
  · rename_i other
    have notMap := isMap_eq_false other
    split
    · rename_i repeated
      have content
          : turnedVariable? "e" (conversion.value shape.kind (.name "e"))
            = some (way shape.kind) :=
        turnedVariable?_of_turned? (turns shape.kind _ _ rfl) rfl rfl
      simp [passed?, added?, content, Expr.method, takenPassage, routeOf, notMap, repeated,
        valueKind_of_not_isMap notMap]
    · rename_i single
      have content := turns shape.kind (source shape) _ rfl
      simp [passed?, assignment?_of_turned? content, takenPassage, routeOf, notMap, single,
        valueKind_of_not_isMap notMap]

/-- A field is taken over in one passage if it is given, and gets its default else. The
branch tests the place that the passage reads.
-/
theorem step?_takeField
    : step? (takeField options conversion shape)
      = some (.pass (takenPassage options way shape)) := by
  have tested : tests ["object", shape.name] (isGiven shape) = true := by
    simp [isGiven, tests, isMissing, Expr.undefined]
  have repaired
      : onlyAssigns ["message", shape.name]
          (if shape.repeated then .nothing
          else .block [.assign (place shape) (missingValue options shape)])
        = true := by
    split <;> simp [onlyAssigns]
  simp [takeField, step?, passed?_takeGiven turns, takenPassage, tested, repaired]

/-- The body that makes a message takes the steps for its fields, in order, between its
seeds and its result.
-/
theorem map_step?_fromObjectBody (name : String) (shapes : List Shape)
    : (fromObjectBody options conversion name shapes).map step?
      = (takeSteps (takenPassage options way) shapes).map some := by
  have cleared (shape : Shape)
      : step? (seedField shape) = some (.clear ["message", shape.name]) := by
    unfold seedField
    split <;> rfl
  simp [fromObjectBody, seed, takeSteps, Function.comp_def, cleared, step?_takeField turns]

end Taking

-----------------------------------------------------------------------------------------
-- Keys of maps
-----------------------------------------------------------------------------------------

section Keys

variable {entry : Symbol} {key : Scalar} {value : Kind}

/-- The keys of a map are numbers in its type exactly if the scalar of the keys is numeric
under the options.
-/
theorem hasNumberKeys_iff (map : shape.kind = .map entry key value)
    : HasNumberKeys options shape ↔ hasNumericKey options key = true := by
  have declared
      : shape.type options = .index (keyType options key) (value.elementType options) := by
    simp [Shape.type, isMap_iff.mpr ⟨_, _, _, map⟩, map, Kind.elementType]
  unfold HasNumberKeys
  rw [declared, keyType]
  cases hasNumericKey options key <;> simp [TypeExpr.number, TypeExpr.string]

/-- The entries of a map are written with keys that are made from texts. -/
theorem writtenKey?_writeField (map : shape.kind = .map entry key value)
    : writtenKey? (writeField options shape)
      = some ("key", scalarFromKey options key (.name "key")) := by
  unfold writeField
  rw [map]
  rfl

/-- A key that is a 64-bit integer is coerced with `Number` exactly if these are handled
as numbers.
-/
theorem turnedVariable?_longFromKey {unsigned : Bool}
    : turnedVariable? "key" (longFromKey options unsigned (.name "key"))
        = some (.coerced "Number")
      ↔ options.longForm = .number := by
  unfold longFromKey
  cases options.longForm with
  | number => exact iff_of_true rfl rfl
  | string => exact iff_of_false nofun nofun
  | long =>
      refine iff_of_false ?_ nofun
      cases unsigned <;> nofun

/-- `encode` makes numbers of the keys that are declared as numbers. -/
theorem turnedVariable?_scalarFromKey
    : turnedVariable? "key" (scalarFromKey options key (.name "key")) = some (.coerced "Number")
      ↔ hasNumericKey options key = true := by
  cases key with
  | string => exact iff_of_false nofun nofun
  | bool => exact iff_of_false nofun nofun
  | int64 | uint64 | sint64 | fixed64 | sfixed64 =>
      exact turnedVariable?_longFromKey.trans (by simp [hasNumericKey, Scalar.isLong])
  | _ => exact iff_of_true rfl rfl

end Keys

/-- The routes for a field go through its elements or entries if it has any, in the ways
of its keys. Keys are the same for all three functions but for being read as numbers.
-/
theorem routes_routeOf
    : Routes options shape (routeOf shape .plain)
        (routeOf shape (keyWay (isNumeric options shape.kind)))
        (routeOf shape (keyWay (isNumeric options shape.kind))) := by
  unfold routeOf
  cases isMap : shape.isMap with
  | true =>
      obtain ⟨entry, key, value, map⟩ := isMap_iff.mp isMap
      refine .entries isMap (isNumeric options shape.kind) ?_
      rw [map, isNumeric, hasNumberKeys_iff map]
  | false =>
      cases repeated : shape.repeated with
      | true => exact .elements (by simp [Shape.isList, isMap, repeated])
      | false => exact .single isMap repeated

/-- A field is given out with a default in its place exactly if it is a single scalar
outside oneofs.
-/
theorem fallback_givenPassage {default : Expr}
    : (givenPassage options shape).fallback = some default
      ↔ (∃ scalar, shape.kind = .scalar scalar) ∧ shape.repeated = false
        ∧ shape.inOneof = false ∧ default = shape.default options := by
  cases kind : shape.kind with
  | scalar scalar =>
      have notMap : shape.isMap = false := by simp [Shape.isMap, kind, Kind.isMap]
      cases repeated : shape.repeated <;> cases inOneof : shape.inOneof <;>
        simp [givenPassage, giveFallback, presenceOf, Shape.default, notMap, kind, repeated,
          inOneof, Kind.default, eq_comm]
  | _ => simp [givenPassage, giveFallback, kind]

/-- All code for a field agrees on what is passed and how. Witness: the passages of the
three functions, which were made from the shape alone.
-/
theorem fieldAgreement (options : Options) (shape : Shape)
    : FieldAgreement options shape (givenPassage options shape)
        (takenPassage options (takeWay options) shape)
        (takenPassage options (fillWay options) shape) (writeField options shape) where
  given := ⟨rfl, rfl⟩
  taken := ⟨rfl, rfl⟩
  filled := ⟨rfl, rfl⟩
  routes := routes_routeOf
  pair := pair_giveWay_takeWay _
  fallback := fun _ => fallback_givenPassage
  noFallback := rfl
  keys := by
    intro isMap
    obtain ⟨entry, key, value, map⟩ := isMap_iff.mp isMap
    refine ⟨"key", scalarFromKey options key (.name "key"), writtenKey?_writeField map, ?_⟩
    rw [hasNumberKeys_iff map, turnedVariable?_scalarFromKey]

/-- The functions of a message take the steps of all its fields, in order, and agree field
by field. Witness: one passage for each field and function, read off the statements.
-/
theorem json_functions_agree (options : Options) (name : String) (shapes : List Shape)
    : ∃ give take fill : Shape → Passage,
        ∃ write : Shape → Stmt,
          Performs (toJson options name shapes) (giveSteps give shapes)
          ∧ Performs (fromJson options name shapes) (takeSteps take shapes)
          ∧ Performs (fromPartial options name shapes) (takeSteps fill shapes)
          ∧ (encode options name shapes).body.lines
            = Stmt.codeAll (shapes.map write ++ [.result (.name "writer")])
          ∧ ∀ shape ∈ shapes,
              FieldAgreement options shape (give shape) (take shape) (fill shape)
                (write shape) := by
  refine ⟨givenPassage options, takenPassage options (takeWay options),
    takenPassage options (fillWay options), writeField options, ?_, ?_, ?_, rfl,
    fun shape _ => fieldAgreement options shape⟩
  · exact ⟨_, rfl, map_step?_toJsonBody shapes⟩
  · exact ⟨_, lines_fromJson options name shapes,
      map_step?_fromObjectBody (fun kind _ _ located => turned?_valueFromJson located kind) name
        shapes⟩
  · exact ⟨_, lines_fromPartial options name shapes,
      map_step?_fromObjectBody (fun kind _ _ located => turned?_valueFromPartial located kind) name
        shapes⟩

end ProtobufTypeScript.Message
