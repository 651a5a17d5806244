import ProtobufTypeScript.Proofs.Target.SyntaxUsage
import ProtobufTypeScript.Target.Declaration

/-!
The use of symbols in declarations: functions, interfaces, classes, objects and enums use their
symbols in ways that are allowed if their types, defaults and bodies do.
-/

namespace ProtobufTypeScript.Target.Usage

variable {usage : Usage}

/-- Whether a parameter uses symbols in ways that are allowed. -/
structure AllowsParam (usage : Usage) (param : Param) : Prop where
  type : usage.AdmitsType param.type
  default : ∀ code ∈ param.default, usage.AllowsLines code.lines

/-- Whether a function uses symbols in ways that are allowed. -/
structure AllowsFunction (usage : Usage) (function : Function) : Prop where
  params : ∀ param ∈ function.params, usage.AllowsParam param
  returns : ∀ type ∈ function.returns, usage.AdmitsType type
  body : usage.AllowsLines function.body.lines

/-- Whether an entry of an object uses symbols in ways that are allowed. -/
def AllowsEntry (usage : Usage) : Entry → Prop
  | .value _ _ content => usage.Admits content
  | .method declared => usage.AllowsFunction declared
  | .gap => True

/-- A parameter is allowed if its type and its default value are. -/
theorem allowsParam_iff {param : Param}
    : usage.AllowsParam param
      ↔ usage.AdmitsType param.type ∧ ∀ code ∈ param.default, usage.AllowsLines code.lines :=
  ⟨fun allowed => ⟨allowed.type, allowed.default⟩, fun ⟨type, code⟩ => ⟨type, code⟩⟩

/-- The text of an allowed parameter mentions nothing that is not allowed, neither in its
type nor in its default.
-/
theorem allows_param {param : Param} (allowed : usage.AllowsParam param)
    : usage.Allows param.snippet := by
  have typed := allows_after_plain (param.name ++ ": ") (allows_type param.type allowed.type)
  rw [Param.snippet]
  cases found : param.default with
  | none =>
      rw [List.append_nil]
      exact typed
  | some code =>
      rw [← List.append_assoc]
      exact allows_append (allowsAnywhere_closed (by decide) typed)
        (allows_inlined (allowed.default code found))

/-- The header of an allowed function mentions nothing that is not allowed: its parameters
and its type, each of which is closed by plain text.
-/
theorem allows_header {function : Function} (allowed : usage.AllowsFunction function)
    : usage.Allows function.header := by
  have params
      : usage.Allows ([Piece.plain ", "].intercalate (function.params.map Param.snippet)) :=
    allows_intercalate (by decide)
      (List.forall_mem_map.mpr (fun param member => allows_param (allowed.params param member)))
  have start := allowsAnywhere_closed (by decide : closes ")" = true)
    (allows_after_plain (function.name ++ typeParamsText function.typeParams ++ "(") params)
  rw [Function.header]
  refine allows_append start ?_
  cases found : function.returns with
  | none => exact allows_nil
  | some type => exact allows_after_plain _ (allows_type type (allowed.returns type found))

/-- A function uses its symbols in ways that are allowed, wherever it is declared. With
and without a body are the cases.
-/
theorem allowsLines_function (placement : Placement) {function : Function}
    (allowed : usage.AllowsFunction function)
    : usage.AllowsLines (function.code placement) := by
  have header := allows_header allowed
  have opened := allowsLines_opening header
  unfold Function.code
  rw [allowsLines_append]
  refine ⟨allowsLines_doc, ?_⟩
  cases placement with
  | signature => exact allowsLines_statement header
  | topLevel exported =>
      simp only [allowsLines_append]
      exact ⟨⟨allowsLines_opening (allows_after_plain _ header), allowed.body⟩, allowsLines_closing⟩
  | method =>
      simp only [allowsLines_append]
      exact ⟨⟨opened, allowed.body⟩, allowsLines_closing⟩
  | entry =>
      simp only [allowsLines_append]
      exact ⟨⟨opened, allowed.body⟩, allowsLines_closingWith (allows_plain _)⟩

/-- Properties mention their types only. -/
theorem allowsLines_properties {properties : List Property}
    (typed : ∀ property ∈ properties, usage.AdmitsType property.type)
    : usage.AllowsLines (properties.flatMap Property.code) := by
  refine allowsLines_flatMap (fun property member => ?_)
  rw [Property.code, allowsLines_append]
  exact ⟨allowsLines_doc, allowsLines_statement
    (allows_after_plain _ (allows_type property.type (typed property member)))⟩

/-- An interface mentions the types of its properties and what its signatures do. -/
theorem allowsLines_interface {interface : Interface}
    (properties : ∀ property ∈ interface.properties, usage.AdmitsType property.type)
    (methods : ∀ method ∈ interface.methods, usage.AllowsFunction method)
    : usage.AllowsLines interface.code := by
  have signatures : usage.AllowsLines (interface.methods.flatMap (Function.code .signature)) :=
    allowsLines_flatMap
      (fun method member => allowsLines_function .signature (methods method member))
  simp only [Interface.code, allowsLines_append]
  exact ⟨⟨⟨⟨allowsLines_doc, allowsLines_opening (allows_plain _)⟩,
    allowsLines_properties properties⟩, signatures⟩, allowsLines_closing⟩

/-- A class mentions what it implements, the types of its properties and what its
functions do, and nothing else.
-/
theorem allowsLines_class {declared : ClassType}
    (implements : ∀ type ∈ declared.implements, usage.AdmitsType type)
    (properties : ∀ property ∈ declared.properties, usage.AdmitsType property.type)
    (functions : ∀ function ∈ declared.functions, usage.AllowsFunction function)
    : usage.AllowsLines declared.code := by
  have header : usage.Allows declared.header := by
    rw [ClassType.header]
    refine allows_append (allowsAnywhere_plain _) ?_
    split
    · exact allows_nil
    · exact allows_after_plain _
        (allows_joinedTypes (by decide)
          (fun type member => allows_type type (implements type member)))
  have methods
      : ∀ code ∈ declared.functions.map (Function.code .method), usage.AllowsLines code :=
    List.forall_mem_map.mpr
      (fun function member => allowsLines_function .method (functions function member))
  have separated
      : usage.AllowsLines
          (if declared.properties.isEmpty then
            [Line.blank].intercalate (declared.functions.map (Function.code .method))
          else
            (declared.functions.map (Function.code .method)).flatMap ([Line.blank] ++ ·)) := by
    split
    · exact allowsLines_intercalate methods
    · exact allowsLines_flatMap (fun code member =>
        allowsLines_append.mpr ⟨allowsLines_layout.2.2, methods code member⟩)
  simp only [ClassType.code, allowsLines_append]
  exact ⟨⟨⟨⟨allowsLines_doc, allowsLines_opening header⟩, allowsLines_properties properties⟩,
    separated⟩, allowsLines_closing⟩

/-- An object of values mentions its type and what its values do. Each value ends at a
comma, where nothing is called.
-/
theorem allowsLines_values {object : ValueObject} (inType : usage.AdmitsType object.type)
    (each : ∀ entry ∈ object.values, usage.Admits entry.2)
    : usage.AllowsLines object.code := by
  have header := allows_after_plain ("const " ++ object.name ++ ": ")
    (allows_type object.type inType)
  rw [ValueObject.code]
  split
  · exact allowsLines_statement (allowsAnywhere_closed (by decide) header).allows
  · rw [allowsLines_append, allowsLines_append]
    refine ⟨⟨allowsLines_opening (allowsAnywhere_closed (by decide) header).allows, ?_⟩,
      allowsLines_closingWith (allows_plain _)⟩
    intro line member
    obtain ⟨entry, inValues, same⟩ := List.mem_map.mp member
    cases same
    exact (allowsAnywhere_closed (by decide)
      (allows_after_plain _ (allows_expr entry.2 (each entry inValues)).1)).allows

/-- An entry of an object is allowed if what it is made with is. -/
theorem allowsLines_entry {entry : Entry} (allowed : usage.AllowsEntry entry)
    : usage.AllowsLines entry.code := by
  cases entry with
  | value doc name content =>
      have closed := allowsAnywhere_closed (by decide : closes "," = true)
        (allows_after_plain (name ++ ": ") (allows_expr content allowed).1)
      exact allowsLines_append.mpr ⟨allowsLines_doc, allowsLines_line closed.allows⟩
  | method declared => exact allowsLines_function .entry allowed
  | gap => exact allowsLines_layout.2.2

/-- An exported object is allowed if its entries are. -/
theorem allowsLines_object {object : ObjectConst}
    (entries : ∀ entry ∈ object.entries, usage.AllowsEntry entry)
    : usage.AllowsLines object.code := by
  have written : usage.AllowsLines (object.entries.flatMap Entry.code) :=
    allowsLines_flatMap (fun entry member => allowsLines_entry (entries entry member))
  simp only [ObjectConst.code, allowsLines_append]
  exact ⟨⟨⟨allowsLines_doc, allowsLines_opening (allows_plain _)⟩, written⟩,
    allowsLines_closingWith (allows_plain _)⟩

/-- An enum is allowed if the entries of its object are, since its type mentions no
symbols.
-/
theorem allowsLines_enumeration {declared : NumberedEnum}
    (entries : ∀ entry ∈ declared.object.entries, usage.AllowsEntry entry)
    : usage.AllowsLines declared.code := by
  simp only [NumberedEnum.code, allowsLines_append]
  exact ⟨⟨allowsLines_object entries, allowsLines_layout.2.2⟩,
    allowsLines_statement (allows_plain _)⟩

end ProtobufTypeScript.Target.Usage
