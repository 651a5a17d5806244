import ProtobufTypeScript.Helper.Declaration
import ProtobufTypeScript.Message.Interface
import ProtobufTypeScript.Proofs.Field.Refusal
import ProtobufTypeScript.Proofs.Message.WireAgreement

/-!
The types of the values that move between a message and the wire: of what `decode` stores in a
field, and of what the targets take that `encode` hands the values of a field on to. Both are read
off the emitted code and the declarations that it refers to.
-/

namespace ProtobufTypeScript

open ProtobufTypeScript.Field Schema Target

-----------------------------------------------------------------------------------------
-- Types without `undefined`
-----------------------------------------------------------------------------------------

namespace Target.TypeExpr

/-- A type without `undefined` among its members. -/
def required : TypeExpr → TypeExpr
  | .union [type, .simple "undefined"] => type
  | type => type

/-- The type of one value of a field without `undefined`: of an element, if the field is a
list.
-/
def element : TypeExpr → TypeExpr
  | .array type => type.required
  | type => type.required

@[simp] theorem required_optional (type : TypeExpr)
    : type.optional.required = type :=
  rfl

end Target.TypeExpr

/-- The types of scalars have no `undefined` to leave out. -/
@[simp] theorem Field.required_scalarType (options : Options) (scalar : Scalar)
    : (scalarType options scalar).required = scalarType options scalar := by
  rcases options with ⟨_, _, form, _, _, _⟩
  cases scalar <;> cases form <;> rfl

/-- A field that is not a map has elements of the type of its kind. Witness: lists,
members of a oneof and other fields, for each kind of values.
-/
theorem Field.Shape.element_type (options : Options) {shape : Shape} (notMap : shape.isMap = false)
    : (shape.type options).element = (shape.kind.elementType options).required := by
  obtain ⟨name, number, repeated, inOneof, kind⟩ := shape
  have scalars (scalar : Scalar)
      : (scalarType options scalar).element = (scalarType options scalar).required := by
    rcases options with ⟨_, _, form, _, _, _⟩
    cases scalar <;> cases form <;> rfl
  cases kind with
  | map entry key value => cases notMap
  | scalar scalar =>
      cases repeated with
      | true => rfl
      | false =>
          cases inOneof with
          | true => exact (required_scalarType options scalar).symm
          | false => exact scalars scalar
  | _ => cases repeated <;> cases inOneof <;> rfl

namespace Message

/-- Whether the interface of the message that a symbol stands for declares a property of a
type.
-/
def DeclaresProperty (registry : Registry) (options : Options) (symbol : Symbol) (name : String)
    (type : TypeExpr)
    : Prop :=
  ∃ item ∈ registry.entries,
    item.2.symbol = symbol
    ∧ ∃ message shapes cursor,
        item.2.definition = .message message
        ∧ shapesOf registry options message = .ok shapes
        ∧ ∃ property ∈ (interface options item.2.identifier shapes cursor).properties,
            property.name = name ∧ property.type = type

/-- Whether an expression has a type, by the declarations it refers to. A value taken `as
any` fits every type.
-/
inductive HasType (registry : Registry) (options : Options) : Expr → TypeExpr → Prop
  | read (scalar : Scalar) (short : scalar.isLong = false)
    : HasType registry options (readWith scalar.keyword) (scalarType options scalar)
  | cast (value : Expr) (type : TypeExpr)
    : HasType registry options (.cast value type) type
  | any (value : Expr) (type : TypeExpr)
    : HasType registry options (.cast value .any) type
  | helper (helper : Helper) (function : Function) (arguments : List Expr) (type : TypeExpr)
    (declared : Helper.declaration registry options helper = .ok (.function function false))
    (returns : function.returns = some type)
    : HasType registry options (.call (.symbol helper.symbol) arguments) type
  | decode (symbol : Symbol) (arguments : List Expr)
    : HasType registry options (.method (.symbol symbol) "decode" arguments) (.symbol symbol)
  | fromJson (symbol : Symbol) (arguments : List Expr)
    : HasType registry options (.method (.symbol symbol) "fromJSON" arguments) (.symbol symbol)
  | member (object : Expr) (symbol : Symbol) (name : String) (type : TypeExpr)
    (typed : HasType registry options object (.symbol symbol))
    (declared : DeclaresProperty registry options symbol name type)
    : HasType registry options (.member object name) type

/-- Where a value of a field is handed on to. -/
inductive Sink where
  /-- A method of the writer. -/
  | writer (method : String)
  /-- The only parameter of a helper, whose result is written. -/
  | helper (function : Symbol)
  /-- A property of a message that is made for the value and written. -/
  | property (symbol : Symbol) (name : String)
  /-- The message that is written. -/
  | message (symbol : Symbol)

/-- Whether a value of a type may be handed on to a sink, by the declarations it refers
to. The members of enums are written as their numbers.
-/
inductive Sink.Takes (registry : Registry) (options : Options) : Sink → TypeExpr → Prop
  | scalar (scalar : Scalar)
    : Takes registry options (.writer scalar.keyword) (scalarType options scalar)
  | enumeration (symbol : Symbol)
    : Takes registry options (.writer "int32") (.symbol symbol)
  | helper (helper : Helper) (function : Function) (param : Param)
    (declared : Helper.declaration registry options helper = .ok (.function function false))
    (params : function.params = [param])
    : Takes registry options (.helper helper.symbol) param.type
  | property (symbol : Symbol) (name : String) (type : TypeExpr)
    (declared : DeclaresProperty registry options symbol name type)
    : Takes registry options (.property symbol name) type
  | message (symbol : Symbol)
    : Takes registry options (.message symbol) (.symbol symbol)

-----------------------------------------------------------------------------------------
-- Values in code
-----------------------------------------------------------------------------------------

/-- The value that a statement itself stores in a field of the message. -/
def storedValue? : Stmt → Option Expr
  | .assign (.member (.name "message") _) value => some value
  | .expression (.call (.member (.member (.name "message") _) "push") [value]) => some value
  | _ => none

/-- The values that statements store in fields of the message. -/
def storedValues (statements : List Stmt) : List Expr :=
  (Stmt.partsAll statements).filterMap storedValue?

/-- Where a value is handed on to that is part of what a nested message is written from.
-/
def nestedSink (symbol : Symbol) : Expr → Sink
  | .object [.keyed name _] => .property symbol name
  | .call (.symbol function) [_] => .helper function
  | _ => .message symbol

/-- Where a statement itself hands a value on to. -/
def sink? : Stmt → Option Sink
  | .expression
      (.call (.member (.call (.member (.symbol symbol) "encode") [value, _]) "ldelim") []) =>
      some (nestedSink symbol value)
  | .expression (.call (.member _ method) [_]) => some (.writer method)
  | _ => none

/-- Where a statement and the statements inside it hand values on to. -/
def sinks (statement : Stmt) : List Sink :=
  statement.parts.filterMap sink?

/-- Whether the type declared for a field is that of what some statements store in it. -/
def StoresDeclared (registry : Registry) (options : Options) (declared : TypeExpr)
    (reads : List Stmt)
    : Prop :=
  ∃ value type,
    Only (storedValues reads) value
    ∧ HasType registry options value type
    ∧ type.required = declared.element

/-- Whether the type declared for a field is that of what a statement hands its values on
to.
-/
def HandsDeclared (registry : Registry) (options : Options) (declared : TypeExpr) (write : Stmt)
    : Prop :=
  ∃ sink type,
    Only (sinks write) sink
    ∧ sink.Takes registry options type
    ∧ type.required = declared.element

/-- Where one value of a kind is handed on to. -/
def sinkOf : Kind → Sink
  | .scalar scalar => .writer scalar.keyword
  | .enumeration _ => .writer "int32"
  | .message symbol => .message symbol
  | .wrapper symbol _ => .property symbol "value"
  | .timestamp _ => .helper Helper.toTimestamp.symbol
  | .map entry _ _ => .message entry

variable {options : Options} {shape : Shape}

/-- Fields that are not maps store what is read for their kind, lists value by value. -/
theorem storedValues_readSection (notMap : shape.isMap = false)
    : Only (storedValues (readSection options shape).body) (readValue options shape.kind) := by
  unfold readSection readField
  split
  · rename_i kind
    simp [Shape.isMap, kind, Kind.isMap] at notMap
  · split
    · exact only_twice _
    · split <;> exact only_single _

/-- Writing a value hands it on as its kind has it, if it is no object or call by itself.
-/
theorem sink?_writeValue {value : Expr}
    (plain : ∀ symbol, nestedSink symbol value = .message symbol) (kind : Kind) (tag : UInt32)
    : sink? (.expression (writeValue kind tag value)) = some (sinkOf kind) := by
  cases kind with
  | message symbol => exact congrArg some (plain symbol)
  | map entry key value => exact congrArg some (plain entry)
  | _ => rfl

/-- A kind that travels by a method is handed on to that method. -/
theorem sinkOf_of_method {kind : Kind} {method : String} (bare : transferOf kind = .method method)
    : sinkOf kind = .writer method := by
  cases kind <;> simp_all [transferOf, sinkOf]

/-- A statement around the one that writes a value hands on that value alone. -/
theorem sinks_around {statement : Stmt} {value : Expr} {kind : Kind} {tag : UInt32}
    (parts : statement.parts = [statement, .expression (writeValue kind tag value)])
    (silent : sink? statement = none)
    (plain : ∀ symbol, nestedSink symbol value = .message symbol)
    : Only (sinks statement) (sinkOf kind) := by
  have only : sinks statement = [sinkOf kind] := by
    rw [sinks, parts, List.filterMap_cons_none silent,
      List.filterMap_cons_some (sink?_writeValue plain kind tag), List.filterMap_nil]
  rw [only]
  exact only_single _

/-- Fields that are not maps hand their values on as their kind has it, lists value by
value. Runs, lists and single values are the cases.
-/
theorem sinks_writeField (notMap : shape.isMap = false)
    : Only (sinks (writeField options shape)) (sinkOf shape.kind) := by
  unfold writeField
  split
  · rename_i kind
    simp [Shape.isMap, kind, Kind.isMap] at notMap
  · split
    · rcases packedMethod?_cases shape with ⟨none, -⟩ | ⟨method, some, -, bare⟩
      · rw [none]
        exact sinks_around rfl rfl (fun _ => rfl)
      · rw [some, sinkOf_of_method bare]
        exact only_single _
    · exact sinks_around rfl rfl (fun _ => rfl)

-----------------------------------------------------------------------------------------
-- Wrappers
-----------------------------------------------------------------------------------------

/-- Whether every well-known wrapper that files declare is a message with nothing but a
field `value` of the scalar that the wrapper stands for.
-/
def HasProperWrappers (files : List File) : Prop :=
  ∀ name scalar definition,
    wrapperScalar name = some scalar
    → Declares files name definition
    → ∃ message field,
        definition = .message message
        ∧ message.fields = [field]
        ∧ field.name = "value"
        ∧ field.type = .scalar scalar
        ∧ field.label ≠ .repeated

/-- Whether values are 64-bit integers in a wrapper. -/
def HoldsWrappedLong : Kind → Prop
  | .wrapper _ scalar => scalar.isLong = true
  | _ => False

/-- The identifier `value` stays as it is, with and without conversion. -/
theorem identifier_value (options : Options)
    : options.identifier "value" = "value" := by
  unfold Options.identifier
  split
  · decide +kernel
  · rfl

/-- The value of a wrapper has the type of its scalar, except that 64-bit integers are
numbers.
-/
theorem scalarType_eq_wrappedType (options : Options) (scalar : Scalar)
    : scalarType options scalar = wrappedType scalar
      ↔ ¬ (scalar.isLong = true ∧ options.longForm ≠ .number) := by
  rcases options with ⟨_, _, form, _, _, _⟩
  cases scalar <;> cases form <;>
    simp [scalarType, wrappedType, longType, Scalar.isLong, TypeExpr.number, TypeExpr.string]

/-- The shape of a single field that holds a scalar. -/
def scalarShape (options : Options) (field : Schema.Field) (scalar : Scalar) : Shape :=
  {
    name := options.identifier field.name
    number := field.number
    repeated := false
    inOneof := field.inOneof
    kind := .scalar scalar
  }

/-- A message with one single scalar field is classified as the shape of that field. -/
theorem shapesOf_single {registry : Registry} {message : Schema.Message} {field : Schema.Field}
    {scalar : Scalar} (only : message.fields = [field]) (type : field.type = .scalar scalar)
    (single : field.label ≠ .repeated)
    : shapesOf registry options message = .ok [scalarShape options field scalar] := by
  have kind : fieldKind registry message field = .ok (.scalar scalar) := by
    simp [fieldKind, elementKind, type, bind, Except.bind, pure, Except.pure]
  simp [shapesOf, only, shapeOf, kind, single, scalarShape, bind, Except.bind, pure, Except.pure]

/-- A single scalar has the type of the scalar, but for `undefined` in a oneof. -/
theorem required_type_scalarShape (field : Schema.Field) (scalar : Scalar)
    : ((scalarShape options field scalar).type options).required = scalarType options scalar := by
  simp only [scalarShape, Shape.type, Shape.isMap, Kind.isMap, Kind.isWrapper, Kind.isMessageLike,
    Kind.elementType, Bool.false_eq_true, if_false, Bool.or_false]
  split <;> simp

variable {files : List File} {registry : Registry} {name : String} {scalar : Scalar}
  {symbol : Symbol}

section Wrappers

variable (built : Registry.ofFiles options files = .ok registry)
  (proper : HasProperWrappers files) (wrapper : wrapperScalar name = some scalar)
  (known : registry.symbol name = .ok symbol)

include built proper wrapper known

/-- What stands for a wrapper is a message with nothing but a field `value` of the scalar.
The files declare wrappers as usual, and their names only once.
-/
theorem exists_wrapperMessage
    : ∃ entry message field,
        (name, entry) ∈ registry.entries
        ∧ entry.symbol = symbol
        ∧ entry.definition = .message message
        ∧ field.name = "value"
        ∧ shapesOf registry options message = .ok [scalarShape options field scalar] := by
  obtain ⟨entry, registered, rfl⟩ := Registry.symbol_eq_ok known
  obtain ⟨-, -, distinct⟩ := Registry.ofFiles_eq_ok.mp built
  have declared : Declares files name entry.definition :=
    (Registry.declares_iff_entry built).mpr
      ⟨entry, (Registry.entry_eq_ok distinct).mpr registered, rfl⟩
  obtain ⟨message, field, definition, only, named, type, single⟩ :=
    proper name scalar _ wrapper declared
  exact ⟨entry, message, field, registered, rfl, definition, named,
    shapesOf_single only type single⟩

/-- The interface of a wrapper declares the property `value`. -/
theorem exists_declaresProperty
    : ∃ type, DeclaresProperty registry options symbol "value" type := by
  obtain ⟨entry, message, field, registered, rfl, definition, named, classified⟩ :=
    exists_wrapperMessage built proper wrapper known
  refine ⟨(scalarShape options field scalar).type options, (name, entry), registered, rfl, message,
    _, {}, definition, classified, _, List.mem_cons_self, ?_, rfl⟩
  change options.identifier field.name = "value"
  rw [named, identifier_value]

/-- The property `value` of a wrapper has the type of the scalar that it stands for. No
other type has the place of the wrapper, so that this is the message meant.
-/
theorem required_of_declaresProperty {type : TypeExpr}
    (declared : DeclaresProperty registry options symbol "value" type)
    : type.required = scalarType options scalar := by
  obtain ⟨entry, held, field, registered, rfl, holds, -, single⟩ :=
    exists_wrapperMessage built proper wrapper known
  obtain ⟨item, member, same, message, shapes, cursor, definition, classified, property,
    inInterface, -, rfl⟩ := declared
  -- No other type has the place of the wrapper.
  obtain ⟨-, -, distinct⟩ := Registry.ofFiles_eq_ok.mp built
  obtain rfl : item = (name, entry) :=
    List.inj_on_of_nodup_map distinct.places member registered (Registry.placeOf_eq same)
  obtain rfl : message = held := Definition.message.inj (definition.symm.trans holds)
  rw [single] at classified
  cases classified
  obtain rfl := List.mem_singleton.mp inInterface
  exact required_type_scalarShape field scalar

end Wrappers

-----------------------------------------------------------------------------------------
-- Fields
-----------------------------------------------------------------------------------------

/-- What is registered for a kind that stands for a well-known message. -/
def IsRegistered (registry : Registry) : Kind → Prop
  | .wrapper symbol scalar =>
      ∃ name, wrapperScalar name = some scalar ∧ registry.symbol name = .ok symbol
  | .timestamp symbol => registry.symbol timestampName = .ok symbol
  | _ => True

/-- The kind that a message type is classified as refers to registered types, be it a
wrapper, a point in time or any other message.
-/
theorem isRegistered_messageKind {typeName : String} {kind : Kind}
    (named : IsMessageKind registry typeName kind)
    : IsRegistered registry kind := by
  cases named with
  | wrapper symbol scalar wraps known => exact ⟨typeName, wraps, known⟩
  | timestamp symbol noWrapper named known => rwa [named] at known
  | message symbol target noWrapper notTimestamp declared known => trivial

/-- The kind of one value of a field refers to registered types. Of scalars and enums
nothing is asked.
-/
theorem isRegistered_elementKind {field : Schema.Field} {kind : Kind}
    (single : IsElementKind registry field kind)
    : IsRegistered registry kind := by
  cases single with
  | message _ type named => exact isRegistered_messageKind named
  | _ => trivial

/-- The kind of a field refers to registered types. Of maps nothing is asked, as their
values do not move on their own.
-/
theorem isRegistered_fieldKind {message : Schema.Message} {field : Schema.Field} {kind : Kind}
    (found : fieldKind registry message field = .ok kind)
    : IsRegistered registry kind := by
  cases fieldKind_eq_ok.mp found with
  | element _ single plain => exact isRegistered_elementKind single
  | map => trivial

/-- The kinds of all fields of a message refer to registered types. -/
theorem isRegistered_shapesOf {message : Schema.Message} {shapes : List Shape}
    (found : shapesOf registry options message = .ok shapes)
    : ∀ shape ∈ shapes, IsRegistered registry shape.kind := by
  intro shape member
  obtain ⟨field, -, classified⟩ := exists_of_mem_right (mapM_eq_ok.mp found) member
  obtain ⟨kind, ofField, rest⟩ := bind_eq_ok.mp classified
  cases rest
  exact isRegistered_fieldKind ofField

/-- What is read for a scalar has the type of the scalar. Only 64-bit integers are read as
one type and kept as another.
-/
theorem hasType_readScalar (scalar : Scalar)
    : HasType registry options (readValue options (.scalar scalar))
        (scalarType options scalar) := by
  cases long : scalar.isLong with
  | false =>
      rw [readValue, long, if_neg Bool.false_ne_true]
      exact .read scalar long
  | true =>
      have isLongType : scalarType options scalar = longType options := by
        cases scalar <;> first | rfl | cases long
      rw [readValue, long, if_pos rfl, isLongType]
      rcases options with ⟨_, _, form, _, _, _⟩
      cases form with
      | number => exact .helper .longToNumber _ _ _ rfl rfl
      | long => exact .cast _ _
      | string => exact .helper .longToString _ _ _ rfl rfl

/-- A nested message that is read has no type but its own. -/
theorem eq_of_hasType_readNested {type : TypeExpr}
    (typed : HasType registry options (readNested symbol) type)
    : type = .symbol symbol := by
  rw [readNested, Expr.method] at typed
  generalize method : "decode" = name at typed
  cases typed with
  | decode => rfl
  | fromJson => exact absurd method (by decide)

/-- The type of one value of a kind as it moves between a message and the wire, without
`undefined`. Wrapped values have the type of the scalar that is wrapped.
-/
def movedType (options : Options) : Kind → TypeExpr
  | .wrapper _ scalar => scalarType options scalar
  | kind => (kind.elementType options).required

/-- Values move with the type of their kind, except for wrapped 64-bit integers. -/
theorem movedType_eq (options : Options) (kind : Kind)
    : movedType options kind = (kind.elementType options).required
      ↔ ¬ (HoldsWrappedLong kind ∧ options.longForm ≠ .number) := by
  cases kind with
  | wrapper symbol scalar => exact scalarType_eq_wrappedType options scalar
  | _ => simp [movedType, HoldsWrappedLong]

section Agreement

variable (built : Registry.ofFiles options files = .ok registry)
  (proper : HasProperWrappers files) {kind : Kind} (registered : IsRegistered registry kind)
  (notMap : kind.isMap = false)

include built proper registered notMap

/-- What is read for a kind has the type with which its values move. The kinds are the
cases; a wrapper is read as the property of a message.
-/
theorem exists_hasType_readValue
    : ∃ type,
        HasType registry options (readValue options kind) type
        ∧ type.required = movedType options kind := by
  cases kind with
  | scalar scalar => exact ⟨_, hasType_readScalar scalar, rfl⟩
  | enumeration symbol =>
      refine ⟨.symbol symbol, ?_, rfl⟩
      rw [readValue]
      split
      · exact .fromJson _ _
      · exact .any _ _
  | message symbol => exact ⟨_, .decode _ _, rfl⟩
  | wrapper symbol scalar =>
      obtain ⟨name, wrapper, known⟩ := registered
      obtain ⟨type, declared⟩ := exists_declaresProperty built proper wrapper known
      exact ⟨type, .member _ symbol _ _ (.decode _ _) declared,
        required_of_declaresProperty built proper wrapper known declared⟩
  | timestamp symbol =>
      have known : registry.symbol timestampName = .ok symbol := registered
      have declared
          : ∃ function,
              Helper.declaration registry options .fromTimestamp = .ok (.function function false)
              ∧ function.returns = some .date := by
        simp only [Helper.declaration, known]
        exact ⟨_, rfl, rfl⟩
      obtain ⟨function, declared, returns⟩ := declared
      exact ⟨.date, .helper .fromTimestamp function _ _ declared returns, rfl⟩
  | map entry key value => cases notMap

/-- What a value of a kind is handed on to takes the type with which the values move. The
kinds are the cases; a wrapper is written as the property of a message.
-/
theorem exists_takes_sinkOf
    : ∃ type,
        (sinkOf kind).Takes registry options type
        ∧ type.required = movedType options kind := by
  cases kind with
  | scalar scalar => exact ⟨_, .scalar scalar, rfl⟩
  | enumeration symbol => exact ⟨_, .enumeration symbol, rfl⟩
  | message symbol => exact ⟨_, .message symbol, rfl⟩
  | wrapper symbol scalar =>
      obtain ⟨name, wrapper, known⟩ := registered
      obtain ⟨type, declared⟩ := exists_declaresProperty built proper wrapper known
      exact ⟨type, .property _ _ _ declared,
        required_of_declaresProperty built proper wrapper known declared⟩
  | timestamp symbol =>
      have known : registry.symbol timestampName = .ok symbol := registered
      have declared
          : ∃ function param,
              Helper.declaration registry options .toTimestamp = .ok (.function function false)
              ∧ function.params = [param]
              ∧ param.type = .date := by
        simp only [Helper.declaration, known]
        exact ⟨_, _, rfl, rfl, rfl⟩
      obtain ⟨function, param, declared, params, type⟩ := declared
      exact ⟨param.type, .helper .toTimestamp function param declared params,
        congrArg TypeExpr.required type⟩
  | map entry key value => cases notMap

omit notMap

/-- What is read of wrapped 64-bit integers has no other type, because only one rule gives
a type to a property of what was read.
-/
theorem required_of_hasType {type : TypeExpr} (wrapped : HoldsWrappedLong kind)
    (typed : HasType registry options (readValue options kind) type)
    : type.required = movedType options kind := by
  cases kind with
  | wrapper symbol scalar =>
      obtain ⟨name, wrapper, known⟩ := registered
      cases typed with
      | member _ _ _ _ nested declared =>
          cases eq_of_hasType_readNested nested
          exact required_of_declaresProperty built proper wrapper known declared
  | _ => cases wrapped

/-- What wrapped 64-bit integers are handed on to takes no other type. -/
theorem required_of_takes {type : TypeExpr} (wrapped : HoldsWrappedLong kind)
    (takes : (sinkOf kind).Takes registry options type)
    : type.required = movedType options kind := by
  cases kind with
  | wrapper symbol scalar =>
      obtain ⟨name, wrapper, known⟩ := registered
      cases takes with
      | property _ _ _ declared =>
          exact required_of_declaresProperty built proper wrapper known declared
  | _ => cases wrapped

end Agreement

/-- If the values of a field move with one type, this is the declared type of the field,
except for wrapped 64-bit integers that are not chosen to be numbers. Uniqueness is only
needed for these.
-/
theorem exists_declared_iff {moves : TypeExpr → Prop} (notMap : shape.isMap = false)
    (moved : ∃ type, moves type ∧ type.required = movedType options shape.kind)
    (unique
      : HoldsWrappedLong shape.kind
        → ∀ type, moves type → type.required = movedType options shape.kind)
    : (∃ type, moves type ∧ type.required = (shape.type options).element)
      ↔ ¬ (HoldsWrappedLong shape.kind ∧ options.longForm ≠ .number) := by
  rw [shape.element_type options notMap]
  constructor
  · rintro ⟨type, held, same⟩ ⟨wrapped, form⟩
    have declared := (unique wrapped type held).symm.trans same
    exact (movedType_eq options shape.kind).mp declared ⟨wrapped, form⟩
  · intro unharmed
    obtain ⟨type, held, same⟩ := moved
    exact ⟨type, held, same.trans ((movedType_eq options shape.kind).mpr unharmed)⟩

section Declared

variable (built : Registry.ofFiles options files = .ok registry) (proper : HasProperWrappers files)
  (registered : IsRegistered registry shape.kind) (notMap : shape.isMap = false)

include built proper registered notMap

/-- A field that is not a map stores values of its declared type, except for wrapped
64-bit integers that are not chosen to be numbers.
-/
theorem storesDeclared_iff
    : StoresDeclared registry options (shape.type options) (readSection options shape).body
      ↔ ¬ (HoldsWrappedLong shape.kind ∧ options.longForm ≠ .number) := by
  simp only [StoresDeclared, only_iff (storedValues_readSection notMap), exists_and_left,
    exists_eq_left]
  exact exists_declared_iff notMap (exists_hasType_readValue built proper registered notMap)
    (fun wrapped _ typed => required_of_hasType built proper registered wrapped typed)

/-- A field that is not a map hands its values on to what takes the declared type, except
for wrapped 64-bit integers that are not chosen to be numbers.
-/
theorem handsDeclared_iff
    : HandsDeclared registry options (shape.type options) (writeField options shape)
      ↔ ¬ (HoldsWrappedLong shape.kind ∧ options.longForm ≠ .number) := by
  simp only [HandsDeclared, only_iff (sinks_writeField notMap), exists_and_left, exists_eq_left]
  exact exists_declared_iff notMap (exists_takes_sinkOf built proper registered notMap)
    (fun wrapped _ takes => required_of_takes built proper registered wrapped takes)

end Declared

end Message

end ProtobufTypeScript
