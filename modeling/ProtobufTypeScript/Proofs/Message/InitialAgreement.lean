import ProtobufTypeScript.Message.Codec
import ProtobufTypeScript.Message.Interface
import ProtobufTypeScript.Proofs.Lookup
import ProtobufTypeScript.Proofs.Message.FromObject
import ProtobufTypeScript.Proofs.Message.InitialValue

/-!
All code agrees on the initial values of fields: the base instance and the seed of a message, what
`fromJSON` and `fromPartial` give a field that is missing, the conditions in `encode` and the types
in the interface. Nothing is stored for a member of a oneof, though, so that in a fresh message the
place of such a field is empty only if objects inherit nothing under its name.
-/

namespace ProtobufTypeScript.Message

open ProtobufTypeScript.Field Schema Target

variable {env : Env} {options : Options} {name : String} {shapes : List Shape} {shape : Shape}

-----------------------------------------------------------------------------------------
-- What statements say about the message
-----------------------------------------------------------------------------------------

/-- The values that a list has under a name. -/
def valuesOf (name : String) (entries : List (String × Expr)) : List Expr :=
  (entries.filter (fun entry => entry.1 == name)).map Prod.snd

/-- The value that a statement itself declares the message with. -/
def declaredMessage? : Stmt → Option Expr
  | .const "message" _ value => some value
  | _ => none

/-- The field of the message that a statement itself gives a value, and the value. -/
def assigned? : Stmt → Option (String × Expr)
  | .assign target value => (fieldOf? target).map (fun field => (field, value))
  | _ => none

def isBranch : Stmt → Bool
  | .branch _ _ _ => true
  | _ => false

/-- The statements of a function start a message from its base instance and its seed, and
outside of branches and loops no field is given a value but by the seed.
-/
structure StartsFresh (name : String) (shapes : List Shape) (statements : List Stmt) : Prop where
  message
    : statements.filterMap declaredMessage?
      = [.cast (.object [.spread (.name (baseName name))]) (.simple name)]
  seeded
    : ∀ shape ∈ shapes,
        valuesOf shape.name (statements.filterMap assigned?)
        = if shape.repeated then [if shape.isMap then .object [] else .list []] else []
  first
    : ∃ before after,
        statements = before ++ seed name shapes ++ after ∧ before.flatMap usedFields = []

/-- A statement takes over a field of an object, and gives a single field that is missing
there what the base instance has for it.
-/
def FillsIn (options : Options) (name : String) (shapes : List Shape) (shape : Shape)
    (statement : Stmt)
    : Prop :=
  ∃ given,
    statement
    = .branch (isGiven shape) given
        (if shape.repeated then .nothing
        else
          .block
            [
              .assign (place shape)
                (((baseInstance options name shapes).values.lookup shape.name).getD .undefined)
            ])

/-- Whether a field is a single member of a oneof that is called as something which every
object inherits.
-/
def isInherited (shape : Shape) : Bool :=
  !shape.repeated && shape.inOneof && decide (shape.name ∈ inheritedNames)

/-- What a fresh message has for a field: the initial value, or what it inherits. -/
def freshValue (options : Options) (shape : Shape) : Value :=
  if isInherited shape then .inherited shape.name else initialValue options shape

/-- All code for a message agrees on the initial values of its fields. -/
structure InitialAgreement (options : Options) (name : String) (shapes : List Shape) : Prop where
  /-- The base instance has the single fields outside oneofs, each once. -/
  base
    : ∀ shape ∈ shapes,
        valuesOf shape.name (baseInstance options name shapes).values
        = if !shape.repeated && !shape.inOneof then [initial options shape] else []
  decode
    : ∃ statements,
        (decode options name shapes).body.lines = Stmt.codeAll statements
        ∧ StartsFresh name shapes statements
  fromJson
    : ∃ statements,
        (fromJson options name shapes).body.lines = Stmt.codeAll statements
        ∧ StartsFresh name shapes statements
        ∧ List.Forall₂ (FillsIn options name shapes) shapes (statements.filter isBranch)
  fromPartial
    : ∃ statements,
        (fromPartial options name shapes).body.lines = Stmt.codeAll statements
        ∧ StartsFresh name shapes statements
        ∧ List.Forall₂ (FillsIn options name shapes) shapes (statements.filter isBranch)
  /-- The initial values are values that the fields may have. -/
  allowed : ∀ shape ∈ shapes, Holds options shape (initialValue options shape)
  /-- `encode` leaves out a field just if it has its initial value. Of a fresh message it
  writes nothing just if no member of a oneof is called as something that every object
  inherits.
  -/
  encode
    : ∃ writes,
        (encode options name shapes).body.lines
          = Stmt.codeAll (writes ++ [.result (.name "writer")])
        ∧ List.Forall₂ (SkipsInitial options) shapes writes
        ∧ ((∀ shape ∈ shapes, shape.name ≠ prototypeName)
          → ∃ base,
              (∀ env, (baseInstance options name shapes).value? env = some base)
              ∧ ∀ env,
                  env (baseName name) = some base
                  → ∃ fresh entries steps,
                      (seed name shapes).foldlM Stmt.run? env = some fresh
                      ∧ fresh "message" = some (.object entries)
                      ∧ (∀ shape ∈ shapes,
                          Value.entry entries shape.name = freshValue options shape)
                      ∧ performedAll? fresh (writes ++ [.result (.name "writer")]) = some steps
                      ∧ (steps = [] ↔ ∀ shape ∈ shapes, isInherited shape = false))
  /-- Only where the type of a field says so, its initial value is `undefined`. -/
  declared
    : ∀ cursor,
        List.Forall₂
          (fun shape property =>
            property.name = shape.name
            ∧ (initialValue options shape = .undefined
              → ∃ members, property.type = .union members ∧ .undefined ∈ members))
          shapes (interface options name shapes cursor).properties

-----------------------------------------------------------------------------------------
-- Fields with different names
-----------------------------------------------------------------------------------------

section Distinct

variable (distinct : (shapes.map Shape.name).Nodup)

include distinct

/-- Fields that are picked from fields with different names have different names as well.
-/
theorem nodup_map_name_filter {α : Type} {value : Shape → α} (p : Shape → Bool)
    : (((shapes.filter p).map (fun other => (other.name, value other))).map Prod.fst).Nodup := by
  rw [List.map_map]
  exact distinct.sublist (List.filter_sublist.map _)

/-- A field that is not picked has a name that none of the picked ones has. -/
theorem not_mem_map_name_filter {p : Shape → Bool} (member : shape ∈ shapes)
    (left : p shape = false)
    : shape.name ∉ (shapes.filter p).map Shape.name := by
  intro inside
  obtain ⟨other, kept, same⟩ := List.mem_map.mp inside
  obtain ⟨inShapes, held⟩ := List.mem_filter.mp kept
  rw [List.inj_on_of_nodup_map distinct inShapes member same, left] at held
  cases held

/-- Among fields with different names just one has the name of a given one. Induction on
the fields.
-/
theorem filter_name_eq (member : shape ∈ shapes)
    : shapes.filter (fun other => other.name == shape.name) = [shape] := by
  induction shapes with
  | nil => cases member
  | cons first rest ih =>
      rw [List.map_cons, List.nodup_cons] at distinct
      rcases List.mem_cons.mp member with rfl | later
      · rw [List.filter_cons_of_pos (by simp), List.filter_eq_nil_iff.mpr]
        intro other inRest same
        exact distinct.1 (List.mem_map.mpr ⟨other, inRest, by simpa using same⟩)
      · have apart : first.name ≠ shape.name :=
          fun same => distinct.1 (same ▸ List.mem_map_of_mem later)
        rw [List.filter_cons_of_neg (by simpa using apart), ih distinct.2 later]

/-- Of fields that are chosen from some with different names, each is there once. -/
theorem valuesOf_map_filter {p : Shape → Bool} {value : Shape → Expr} (member : shape ∈ shapes)
    : valuesOf shape.name ((shapes.filter p).map (fun other => (other.name, value other)))
      = if p shape then [value shape] else [] := by
  have parts
      : valuesOf shape.name ((shapes.filter p).map (fun other => (other.name, value other)))
        = ((shapes.filter p).filter (fun other => other.name == shape.name)).map value := by
    simp [valuesOf, List.filter_map, Function.comp_def]
  rw [parts, List.filter_comm, filter_name_eq distinct member]
  cases held : p shape <;> simp [held]

/-- The base instance holds the default of a field that belongs in it, and nothing for any
other field, since no two fields have one name.
-/
theorem lookup_baseInstance (member : shape ∈ shapes)
    : (baseInstance options name shapes).values.lookup shape.name
      = if isInBase shape then some (shape.default options) else none := by
  unfold baseInstance
  dsimp only
  split
  · rename_i inBase
    refine lookup_of_mem (nodup_map_name_filter distinct isInBase) ?_
    exact List.mem_map_of_mem (List.mem_filter.mpr ⟨member, inBase⟩)
  · rename_i outside
    rw [lookup_eq_none_iff_not_mem, List.map_map]
    exact not_mem_map_name_filter distinct member (by simpa using outside)

end Distinct

-----------------------------------------------------------------------------------------
-- The start of a message
-----------------------------------------------------------------------------------------

/-- A seed assigns an empty list or map to each repeated field, and to no other. -/
theorem filterMap_assigned?_seed
    : (seed name shapes).filterMap assigned?
      = (shapes.filter Shape.repeated).map
          (fun shape => (shape.name, if shape.isMap then .object [] else .list [])) := by
  rw [seed, List.filterMap_cons_none rfl, List.filterMap_map]
  exact congrFun List.filterMap_eq_map' _

/-- A seed declares the message once, as a copy of the base instance. -/
theorem filterMap_declaredMessage?_seed
    : (seed name shapes).filterMap declaredMessage?
      = [.cast (.object [.spread (.name (baseName name))]) (.simple name)] := by
  have fields
      : ((shapes.filter Shape.repeated).map seedField).filterMap declaredMessage? = [] := by
    simp [List.filterMap_eq_nil_iff, seedField, declaredMessage?]
  rw [seed, List.filterMap_cons, fields]
  rfl

/-- Statements around a seed that neither declare the message nor give its fields values
leave it as seeded: the parts are found in the seed alone.
-/
theorem StartsFresh.of_parts (distinct : (shapes.map Shape.name).Nodup) {before after : List Stmt}
    (beforeDeclares : before.filterMap declaredMessage? = [])
    (beforeAssigns : before.filterMap assigned? = [])
    (beforeUses : before.flatMap usedFields = [])
    (afterDeclares : after.filterMap declaredMessage? = [])
    (afterAssigns : after.filterMap assigned? = [])
    : StartsFresh name shapes (before ++ seed name shapes ++ after) where
  message := by
    rw [List.filterMap_append, List.filterMap_append, beforeDeclares, afterDeclares,
      filterMap_declaredMessage?_seed]
    rfl
  seeded := by
    intro shape member
    rw [List.filterMap_append, List.filterMap_append, beforeAssigns, afterAssigns,
      filterMap_assigned?_seed, List.nil_append, List.append_nil]
    exact valuesOf_map_filter distinct member
  first := ⟨before, after, rfl, beforeUses⟩

/-- Reading a message starts from a fresh one, seeded as the fields require. -/
theorem startsFresh_decodeBody (distinct : (shapes.map Shape.name).Nodup)
    : StartsFresh name shapes (decodeBody options name shapes) :=
  .of_parts distinct rfl rfl rfl rfl rfl

/-- Making a message from an object starts from a fresh one, whatever the conversion of
values is: what comes behind the seed only has branches.
-/
theorem startsFresh_fromObjectBody (distinct : (shapes.map Shape.name).Nodup)
    (conversion : Conversion)
    : StartsFresh name shapes (fromObjectBody options conversion name shapes) := by
  have declares
      : (shapes.map (takeField options conversion)).filterMap declaredMessage? = [] := by
    simp [List.filterMap_eq_nil_iff, takeField, declaredMessage?]
  have assigns : (shapes.map (takeField options conversion)).filterMap assigned? = [] := by
    simp [List.filterMap_eq_nil_iff, takeField, assigned?]
  have fresh : StartsFresh name shapes
      ([] ++ seed name shapes
        ++ (shapes.map (takeField options conversion) ++ [.result (.name "message")])) := by
    refine .of_parts distinct rfl rfl rfl ?_ ?_
    · rw [List.filterMap_append, declares]
      rfl
    · rw [List.filterMap_append, assigns]
      rfl
  rwa [List.nil_append, ← List.append_assoc] at fresh

/-- A field that is missing is given what the base instance has for it. -/
theorem fillsIn_takeField (distinct : (shapes.map Shape.name).Nodup) (member : shape ∈ shapes)
    (conversion : Conversion)
    : FillsIn options name shapes shape (takeField options conversion shape) := by
  refine ⟨[takeGiven options conversion shape], ?_⟩
  rw [takeField, lookup_baseInstance distinct member, missingValue, isInBase]
  cases shape.repeated <;> cases shape.inOneof <;> rfl

/-- For each field that is not given, the message is filled in as the field requires. Each
field has one branch of its own.
-/
theorem fillsIn_fromObjectBody (distinct : (shapes.map Shape.name).Nodup)
    (conversion : Conversion)
    : List.Forall₂ (FillsIn options name shapes) shapes
        ((fromObjectBody options conversion name shapes).filter isBranch) := by
  have branches
      : (fromObjectBody options conversion name shapes).filter isBranch
        = shapes.map (takeField options conversion) := by
    have seeded : (seed name shapes).filter isBranch = [] := by
      rw [seed, List.filter_cons_of_neg (by simp [isBranch]), List.filter_eq_nil_iff]
      exact List.forall_mem_map.mpr (fun _ _ => by simp [seedField, isBranch])
    have taken
        : (shapes.map (takeField options conversion)).filter isBranch
          = shapes.map (takeField options conversion) := by
      simp [List.filter_map, Function.comp_def, takeField, isBranch]
    rw [fromObjectBody, List.filter_append, List.filter_append, seeded, taken, List.nil_append]
    exact List.append_nil _
  rw [branches, List.forall₂_map_right_iff, List.forall₂_same]
  exact fun shape member => fillsIn_takeField distinct member conversion

-----------------------------------------------------------------------------------------
-- A fresh message
-----------------------------------------------------------------------------------------

/-- The initial values of fields under their names. -/
def initialEntries (options : Options) (shapes : List Shape) : List (String × Value) :=
  shapes.map (fun shape => (shape.name, initialValue options shape))

/-- The base instance has the initial values of its fields, by induction on the fields
that belong in it.
-/
theorem value?_baseInstance (maps : ∀ shape ∈ shapes, shape.isMap = true → shape.repeated = true)
    (ordinary : ∀ shape ∈ shapes, shape.name ≠ prototypeName)
    : (baseInstance options name shapes).value? env
      = some (.object (Value.storeAll [] (initialEntries options (shapes.filter isInBase)))) := by
  have each
      : ∀ fields : List Shape,
          (∀ shape ∈ fields, shape ∈ shapes ∧ isInBase shape = true)
          → (fields.map (fun shape => (shape.name, shape.default options))).mapM
              (fun (entry : String × Expr) =>
                (entry.2.value? env).map (fun value => (entry.1, value)))
            = some (initialEntries options fields) := by
    intro fields chosen
    induction fields with
    | nil => rfl
    | cons shape rest ih =>
        obtain ⟨⟨member, inBase⟩, others⟩ := List.forall_mem_cons.mp chosen
        have outside : shape.inOneof = false := by
          simpa using (Bool.and_eq_true_iff.mp inBase).2
        rw [List.map_cons, List.mapM_cons, ih others,
          default_eq_initial (maps shape member) (Or.inr outside), value?_initial]
        rfl
  have named : prototypeName ∉ (baseInstance options name shapes).values.map Prod.fst := by
    intro member
    obtain ⟨shape, kept, same⟩ := List.mem_map.mp (List.map_map ▸ member)
    exact ordinary shape (List.mem_filter.mp kept).1 same
  rw [ValueObject.value?, if_neg named]
  dsimp only [baseInstance]
  rw [each _ (fun shape kept => List.mem_filter.mp kept)]
  rfl

/-- The name of a base instance is not one of the language, as none of these starts with
its first letter.
-/
theorem name?_baseName
    : env.name? (baseName name) = env (baseName name) := by
  have start : (baseName name).toList.head? = some 'b' := by simp [baseName]
  unfold Env.name?
  split <;> rename_i same
  · rw [same] at start
    simp at start
  · rw [same] at start
    simp at start
  · rw [same] at start
    simp at start
  · rfl

/-- Running the seed for a field stores an empty list or map in it, provided that the
field is not named as prototypes are.
-/
theorem run?_seedField (options : Options) {entries : List (String × Value)}
    (ordinary : shape.name ≠ prototypeName) (repeated : shape.repeated = true)
    (message : env "message" = some (.object entries))
    : (seedField shape).run? env
      = some
          (env.set "message"
            (.object (Value.store entries shape.name (initialValue options shape)))) := by
  have content
      : (if shape.isMap then Expr.object [] else .list []).value? env
        = some (initialValue options shape) := by
    rw [← value?_initial, initial, if_pos repeated]
  simp [seedField, place, Expr.field, Stmt.run?, message, content, ordinary]

/-- Running the seeds for fields stores in each of them, one after the other. Induction on
the fields.
-/
theorem run?_seedFields (options : Options) {fields : List Shape}
    (ordinary : ∀ shape ∈ fields, shape.name ≠ prototypeName)
    (repeated : ∀ shape ∈ fields, shape.repeated = true) {entries : List (String × Value)}
    (message : env "message" = some (.object entries))
    : ∃ fresh,
        (fields.map seedField).foldlM Stmt.run? env = some fresh
        ∧ fresh "message"
          = some (.object (Value.storeAll entries (initialEntries options fields))) := by
  induction fields generalizing env entries with
  | nil => exact ⟨env, rfl, message⟩
  | cons shape rest ih =>
      obtain ⟨first, others⟩ := List.forall_mem_cons.mp repeated
      obtain ⟨here, later⟩ := List.forall_mem_cons.mp ordinary
      obtain ⟨fresh, ran, stored⟩ := ih later others (Env.set_same env "message" _)
      refine ⟨fresh, ?_, stored⟩
      rw [List.map_cons, List.foldlM_cons, run?_seedField options here first message]
      exact ran

/-- Running the seed makes a message in which every field has its initial value, or what
objects inherit where nothing is stored. Witness: a copy of the base instance, and then
the seeds one by one.
-/
theorem run?_seed (distinct : (shapes.map Shape.name).Nodup)
    (ordinary : ∀ shape ∈ shapes, shape.name ≠ prototypeName)
    (base
      : env (baseName name)
        = some (.object (Value.storeAll [] (initialEntries options (shapes.filter isInBase)))))
    : ∃ fresh entries,
        (seed name shapes).foldlM Stmt.run? env = some fresh
        ∧ fresh "message" = some (.object entries)
        ∧ ∀ shape ∈ shapes, Value.entry entries shape.name = freshValue options shape := by
  have created
      : (Stmt.const "message" none
            (.cast (.object [.spread (.name (baseName name))]) (.simple name))).run? env
        = some
            (env.set "message"
              (.object (Value.storeAll [] (initialEntries options (shapes.filter isInBase))))) := by
    simp [Stmt.run?, Expr.value?, Expr.values?, Expr.written?, name?_baseName, base]
  have repeated : ∀ shape ∈ shapes.filter Shape.repeated, shape.repeated = true :=
    fun _ kept => (List.mem_filter.mp kept).2
  obtain ⟨fresh, ran, stored⟩ :=
    run?_seedFields options (fun shape kept => ordinary shape (List.mem_filter.mp kept).1) repeated
      (Env.set_same env "message" _)
  refine ⟨fresh, _, ?_, stored, ?_⟩
  · rw [seed, List.foldlM_cons, created]
    exact ran
  intro shape member
  by_cases repeated : shape.repeated = true
  · have starts : freshValue options shape = initialValue options shape := by
      simp [freshValue, isInherited, repeated]
    rw [starts]
    exact Value.entry_storeAll_of_mem (nodup_map_name_filter distinct Shape.repeated)
      (List.mem_map_of_mem (List.mem_filter.mpr ⟨member, repeated⟩))
  rw [Value.entry_storeAll_of_not_mem]
  · by_cases inBase : isInBase shape = true
    · have starts : freshValue options shape = initialValue options shape := by
        simp_all [freshValue, isInherited, isInBase]
      rw [starts]
      exact Value.entry_storeAll_of_mem (nodup_map_name_filter distinct isInBase)
        (List.mem_map_of_mem (List.mem_filter.mpr ⟨member, inBase⟩))
    · -- What is left are single fields of oneofs, which are not stored anywhere.
      have inOneof : shape.inOneof = true := by simp_all [isInBase]
      rw [Value.entry_storeAll_of_not_mem]
      · simp [freshValue, isInherited, initialValue, Value.entry, Value.absent, repeated, inOneof]
      · rw [initialEntries, List.map_map]
        exact not_mem_map_name_filter distinct member (by simpa using inBase)
  · rw [initialEntries, List.map_map]
    exact not_mem_map_name_filter distinct member (by simpa using repeated)

/-- Statements for fields that are run in turn do one after the other what each of them
does.
-/
theorem performedAll?_map {write : Shape → Stmt} {steps : Shape → List WriteStep}
    {later : List Stmt} (ends : performedAll? env later = some [])
    (each : ∀ shape ∈ shapes, performed? env (write shape) = some (steps shape))
    : performedAll? env (shapes.map write ++ later) = some (shapes.flatMap steps) := by
  induction shapes with
  | nil => exact ends
  | cons shape rest ih =>
      obtain ⟨first, others⟩ := List.forall_mem_cons.mp each
      simp [performedAll?, first, ih others]

/-- The zero of a scalar is a value that a field of the scalar may hold. -/
theorem holdsScalar_zero {scalar : Scalar}
    : HoldsScalar options scalar (zero options scalar) := by
  unfold HoldsScalar zero
  repeat' split
  all_goals simp_all

/-- The initial value of a field is one that the field may hold. Witness: maps, lists,
members of a oneof, and the kinds of all other values.
-/
theorem holds_initialValue (maps : shape.isMap = true → shape.repeated = true)
    : Holds options shape (initialValue options shape) := by
  unfold Holds initialValue
  split
  · rename_i isMap
    exact ⟨[], by simp [maps isMap]⟩
  split
  · exact ⟨[], rfl⟩
  split
  · rename_i inOneof
    exact Or.inl ⟨by simp [inOneof], rfl⟩
  · rename_i notMap _ _
    cases kind : shape.kind with
    | scalar scalar => exact Or.inr holdsScalar_zero
    | enumeration symbol => exact Or.inr ⟨_, rfl⟩
    | map entry key value => simp [Shape.isMap, kind, Kind.isMap] at notMap
    | _ => exact Or.inl ⟨by simp [Kind.isMessageLike], rfl⟩

/-- The initial value of a field is the same as itself, which is not so of all values. -/
theorem same_initialValue
    : (initialValue options shape).Same (initialValue options shape) := by
  refine Value.same_refl_of_ne ?_
  unfold initialValue zero
  repeat' split
  all_goals simp

/-- The zero of a scalar is not `undefined`, so that it can be told from an absent value.
-/
theorem zero_ne_undefined {scalar : Scalar}
    : zero options scalar ≠ .undefined := by
  unfold zero
  repeat' split
  all_goals simp

/-- Only a field whose type says so starts out as `undefined`: a single value that is in a
oneof, or of a kind without a zero.
-/
theorem type_of_undefined (maps : shape.isMap = true → shape.repeated = true)
    (starts : initialValue options shape = .undefined)
    : ∃ members, shape.type options = .union members ∧ .undefined ∈ members := by
  have single : shape.repeated = false := by
    by_contra repeated
    unfold initialValue at starts
    split at starts
    · split at starts <;> cases starts
    · simp_all
  have notMap : shape.isMap = false := by
    by_contra isMap
    simp_all
  have several (type : TypeExpr)
      : ∃ members, type.optional = .union members ∧ .undefined ∈ members :=
    ⟨[type, .undefined], rfl, by simp⟩
  unfold Shape.type
  rw [notMap, single]
  cases inOneof : shape.inOneof with
  | true =>
      cases kind : shape.kind <;> exact several _
  | false =>
      unfold initialValue at starts
      cases kind : shape.kind with
      | scalar scalar => simp [single, inOneof, kind, zero_ne_undefined] at starts
      | enumeration symbol => simp [single, inOneof, kind] at starts
      | map entry key value => simp [Shape.isMap, kind, Kind.isMap] at notMap
      | _ => exact several _

/-- What a message inherits under the name of a member of a oneof is written: it is not
`undefined`, and nothing else is asked of it.
-/
theorem performed?_writeField_of_isInherited {entries : List (String × Value)}
    (maps : shape.isMap = true → shape.repeated = true) (inherited : isInherited shape = true)
    (message : env "message" = some (.object entries))
    (found : Value.entry entries shape.name = .inherited shape.name)
    : performed? env (writeField options shape)
      = some [.value shape.tag.toNat (transferOf shape.kind)] := by
  obtain ⟨⟨single, inOneof⟩, -⟩ : (shape.repeated = false ∧ shape.inOneof = true) ∧ _ := by
    simpa [isInherited] using inherited
  have condition
      : (writeCondition options shape).value? env = some (.boolean true) := by
    simp [writeCondition, Shape.differsFromDefault?, single, inOneof, Expr.value?,
      Expr.undefined, Env.name?, value?_place shape message, found, Value.operated?,
      Value.strictlyEqual?, Value.isReference]
  unfold writeField
  split
  · rename_i kind
    have isMap : shape.isMap = true := by simp [Shape.isMap, kind, Kind.isMap]
    rw [maps isMap] at single
    cases single
  · rw [single]
    exact performed?_writeSingle condition

/-- Of a fresh message `encode` writes just the fields for which it finds what objects
inherit. All others have the initial values that are skipped.
-/
theorem performed?_writeField_fresh {entries : List (String × Value)}
    (maps : shape.isMap = true → shape.repeated = true)
    (message : env "message" = some (.object entries))
    (starts : Value.entry entries shape.name = freshValue options shape)
    : performed? env (writeField options shape)
      = some
          (if isInherited shape then [.value shape.tag.toNat (transferOf shape.kind)]
          else []) := by
  rw [freshValue] at starts
  split
  · rename_i inherited
    rw [if_pos inherited] at starts
    exact performed?_writeField_of_isInherited maps inherited message starts
  · rename_i own
    rw [if_neg own] at starts
    obtain ⟨steps, performed, skipped⟩ :=
      skipsInitial_writeField maps env entries message (starts ▸ holds_initialValue maps)
    rw [performed, skipped.mpr (starts ▸ same_initialValue)]

/-- All code for a message agrees on the initial values of its fields, if these have
different names and only repeated ones are maps; and a fresh message is written as
nothing, unless a member of a oneof is called as something that every object inherits.
-/
theorem initial_values_agree_unless_inherited (options : Options) (name : String)
    (shapes : List Shape) (distinct : (shapes.map Shape.name).Nodup)
    (maps : ∀ shape ∈ shapes, shape.isMap = true → shape.repeated = true)
    : InitialAgreement options name shapes where
  base := by
    intro shape member
    rw [baseInstance, valuesOf_map_filter distinct member, isInBase]
    split
    · rename_i inBase
      have outside : shape.inOneof = false := by
        simpa using (Bool.and_eq_true_iff.mp inBase).2
      rw [default_eq_initial (maps shape member) (Or.inr outside)]
    · rfl
  decode := ⟨_, rfl, startsFresh_decodeBody distinct⟩
  fromJson :=
    ⟨_, lines_fromJson options name shapes, startsFresh_fromObjectBody distinct _,
      fillsIn_fromObjectBody distinct _⟩
  fromPartial :=
    ⟨_, lines_fromPartial options name shapes, startsFresh_fromObjectBody distinct _,
      fillsIn_fromObjectBody distinct _⟩
  allowed := fun shape member => holds_initialValue (maps shape member)
  encode := by
    refine ⟨shapes.map (writeField options), rfl, ?_, fun ordinary =>
      ⟨_, fun env => value?_baseInstance maps ordinary, fun env base => ?_⟩⟩
    · rw [List.forall₂_map_right_iff, List.forall₂_same]
      exact fun shape member => skipsInitial_writeField (maps shape member)
    obtain ⟨fresh, entries, ran, message, starts⟩ := run?_seed distinct ordinary base
    refine ⟨fresh, entries, _, ran, message, starts, performedAll?_map rfl (fun shape member =>
      performed?_writeField_fresh (maps shape member) message (starts shape member)), ?_⟩
    rw [List.flatMap_eq_nil_iff]
    refine forall₂_congr (fun shape _ => ?_)
    cases isInherited shape <;> simp
  declared := by
    intro cursor
    have each
        : List.Forall₂ (fun shape (entry : Shape × Nat) => shape ∈ shapes ∧ shape = entry.1) shapes
            shapes.zipIdx := by
      refine (List.forall₂_and_left _ _).mpr ⟨fun shape member => member, ?_⟩
      refine (List.forall₂_map_right_iff (R := Eq) (f := Prod.fst)).mp ?_
      rw [List.zipIdx_map_fst]
      exact List.forall₂_refl shapes
    refine List.forall₂_map_right_iff.mpr (each.imp ?_)
    rintro shape ⟨_, position⟩ ⟨member, rfl⟩
    exact ⟨rfl, type_of_undefined (maps shape member)⟩

/-- A member of a oneof that is called `constructor`, beside other fields: all code agrees
on the initial values, and yet something is written of a fresh message.
-/
theorem initial_values_agree_unless_inherited_constructor
    : let shapes : List Shape :=
        [
          {
            name := "size"
            number := 1
            repeated := false
            inOneof := false
            kind := .scalar .uint64
          },
          {
            name := "ids"
            number := 2
            repeated := true
            inOneof := false
            kind := .scalar .sint64
          },
          {
            name := "constructor"
            number := 3
            repeated := false
            inOneof := true
            kind := .scalar .string
          }
        ]
      (shapes.map Shape.name).Nodup
      ∧ (∀ shape ∈ shapes, shape.isMap = true → shape.repeated = true)
      ∧ InitialAgreement { longForm := .long } "Foo" shapes
      ∧ ∃ env writes fresh steps,
          (encode { longForm := .long } "Foo" shapes).body.lines
            = Stmt.codeAll (writes ++ [.result (.name "writer")])
          ∧ (seed "Foo" shapes).foldlM Stmt.run? env = some fresh
          ∧ performedAll? fresh (writes ++ [.result (.name "writer")]) = some steps
          ∧ steps ≠ [] := by
  intro shapes
  have distinct : (shapes.map Shape.name).Nodup := by decide
  have maps : ∀ shape ∈ shapes, shape.isMap = true → shape.repeated = true := by decide
  have agreement :=
    initial_values_agree_unless_inherited { longForm := .long } "Foo" shapes distinct maps
  obtain ⟨writes, written, -, starts⟩ := agreement.encode
  obtain ⟨base, -, runs⟩ := starts (by decide)
  obtain ⟨fresh, entries, steps, ran, -, -, performed, nothing⟩ :=
    runs (fun _ => some base) rfl
  refine ⟨distinct, maps, agreement, _, writes, fresh, steps, written, ran, performed, ?_⟩
  exact fun none => absurd (nothing.mp none) (by decide)

end ProtobufTypeScript.Message
