import ProtobufTypeScript.Proofs.Message.WireAgreement
import ProtobufTypeScript.Proofs.Target.Evaluation

/-!
What the statements of `encode` have the writer do when they run on a message. A list or a map is
written as soon as it is not empty, and a single value as soon as its condition holds.
-/

namespace ProtobufTypeScript.Message

open ProtobufTypeScript.Field Schema Target

/-- What is run through and the names for the keys and the values, for a call that runs
through pairs.
-/
def loopOver? : Option String → Expr → List Expr → List Binding → Option (Expr × String × String)
  | none, .member pairs "forEach", [], [.pair key value] => some (pairs, key, value)
  | _, _, _, _ => none

/-- The key and the value of a pair. -/
def pair? : Value → Option (Value × Value)
  | .list [key, value] => some (key, value)
  | _ => none

mutual
/-- What a statement has the writer do when it runs. -/
def performed? : Env → Stmt → Option (List WriteStep)
  | _, .expression value => (writeStep? (.expression value)).map (fun step => [step])
  | env, .branch condition body otherwise =>
      match condition.value? env with
      | some (.boolean true) => performedAll? env body
      | some (.boolean false) => performedOtherwise? env otherwise
      | _ => none
  | env, .each name values body =>
      match values.value? env with
      | some (.list elements) =>
          (elements.mapM (fun element => performedAll? (env.set name element) body)).map
            List.flatten
      | _ => none
  | env, .callback name callee arguments _ parameters body =>
      match loopOver? name callee arguments parameters with
      | some (pairs, first, second) =>
          match pairs.value? env with
          | some (.list elements) =>
              (elements.mapM
                  (fun element =>
                    (pair? element).bind
                      (fun (key, value) =>
                        performedAll? ((env.set first key).set second value) body))).map
                List.flatten
          | _ => none
      | none => none
  | _, .result _ => some []
  | _, _ => none

/-- What statements in sequence have the writer do when they run. -/
def performedAll? : Env → List Stmt → Option (List WriteStep)
  | _, [] => some []
  | env, statement :: rest =>
      (performed? env statement).bind
        (fun steps => (performedAll? env rest).map (fun more => steps ++ more))

/-- What is done where the condition of a branch is false. -/
def performedOtherwise? : Env → Otherwise → Option (List WriteStep)
  | _, .nothing => some []
  | env, .block body => performedAll? env body
  | _, _ => none
end

variable {env : Env} {entries : List (String × Value)} {options : Options} {shape : Shape}

/-- The place of a field has the value that the message has for the field. -/
theorem value?_place (shape : Shape) (message : env "message" = some (.object entries))
    : (place shape).value? env = some (Value.entry entries shape.name) := by
  simp [place, Expr.field, Expr.value?, Env.name?, message, Value.property?]

/-- A property of a place is that of the value which the message has for the field. -/
theorem value?_property (shape : Shape) (message : env "message" = some (.object entries))
    (property : String)
    : Expr.value? env (.member (place shape) property)
      = (Value.entry entries shape.name).property? property := by
  rw [Expr.value?, value?_place shape message, Option.bind_some]
  exact nofun

/-- Writing one value is one step, with the tag and the way its kind travels. -/
theorem performedAll?_write {kind : Kind} {tag : UInt32} {value : Expr}
    : performedAll? env [.expression (writeValue kind tag value)]
      = some [.value tag.toNat (transferOf kind)] := by
  simp [performedAll?, performed?, writeStep?_writeValue]

/-- A loop that takes the same steps each time. -/
theorem mapM_const {elements : List Value} {run : Value → Option (List WriteStep)}
    {steps : List WriteStep} (each : ∀ element ∈ elements, run element = some steps)
    : (elements.mapM run).map List.flatten = some (elements.flatMap (fun _ => steps)) := by
  induction elements with
  | nil => rfl
  | cons element rest ih =>
      obtain ⟨first, others⟩ := List.forall_mem_cons.mp each
      obtain ⟨later, found, same⟩ := Option.map_eq_some_iff.mp (ih others)
      simp [first, found, same]

/-- A map is written entry by entry. Witness: the list of pairs that its content comes to,
and the loop over that list.
-/
theorem performed?_writeMap {symbol : Symbol} {key : Scalar} {content : List (String × Value)}
    (message : env "message" = some (.object entries))
    (field : Value.entry entries shape.name = .object content)
    : performed? env (writeMap options shape symbol key)
      = some (content.flatMap (fun _ => [.value shape.tag.toNat (.nested symbol)])) := by
  have pairs
      : Expr.value? env (.method (.name "Object") "entries" [place shape])
        = some (.list (content.map (fun entry => .list [.text entry.1, entry.2]))) := by
    simp [Expr.method, Expr.value?, Expr.values?, value?_place shape message, field, Expr.invoked?]
  have loop
      : loopOver? none (.member (.method (.name "Object") "entries" [place shape]) "forEach") []
          [.pair "key" "value"]
        = some (.method (.name "Object") "entries" [place shape], "key", "value") :=
    rfl
  rw [writeMap, performed?, loop]
  dsimp only
  rw [pairs]
  dsimp only
  rw [mapM_const (List.forall_mem_map.mpr (fun entry _ => rfl)), List.flatMap_map]
  rfl

/-- A packable list is written as one run unless it is empty. Witness: its length, which
the condition compares with zero, and the loop over its elements.
-/
theorem performed?_writePacked {method : String} {elements : List Value}
    (message : env "message" = some (.object entries))
    (field : Value.entry entries shape.name = .list elements)
    : performed? env (writePacked shape method)
      = some
          (if elements = [] then []
          else
            .openRun shape.packedTag.toNat
              :: elements.flatMap (fun _ => [.bare (.method method)]) ++ [.closeRun]) := by
  have found := value?_place shape message
  rw [field] at found
  have condition
      : Expr.value? env (.binary .greater (.member (place shape) "length") (.number 0))
        = some (.boolean (decide (0 < elements.length))) := by
    simp only [Expr.value?, value?_property shape message, field, Value.property?,
      Option.bind_some, Value.operated?, Rat.intCast_zero, Rat.natCast_pos]
  have values
      : performed? env
            (.each "v" (place shape) [.expression (.method (.name "writer") method [.name "v"])])
        = some (elements.flatMap (fun _ => [.bare (.method method)])) := by
    rw [performed?, found]
    exact mapM_const (fun element _ => rfl)
  have opened
      : performed? env (.expression (.method (writeTag shape.packedTag) "fork" []))
        = some [.openRun shape.packedTag.toNat] :=
    rfl
  have closed
      : performed? env (.expression (.method (.name "writer") "ldelim" [])) = some [.closeRun] :=
    rfl
  rw [writePacked, Stmt.when, performed?, condition]
  cases elements with
  | nil => rfl
  | cons element rest => simp [performedAll?, opened, values, closed]

/-- Any other list is written value by value. -/
theorem performed?_writeEach {elements : List Value}
    (message : env "message" = some (.object entries))
    (field : Value.entry entries shape.name = .list elements)
    : performed? env (writeEach shape)
      = some
          (elements.flatMap
            (fun _ => [.value shape.tag.toNat (transferOf shape.kind)])) := by
  have found := value?_place shape message
  rw [field] at found
  rw [writeEach, performed?, found]
  exact mapM_const (fun element _ => performedAll?_write)

/-- A single value is written if its condition holds. -/
theorem performed?_writeSingle {isWritten : Bool}
    (condition : (writeCondition options shape).value? env = some (.boolean isWritten))
    : performed? env (writeSingle options shape)
      = some (if isWritten then [.value shape.tag.toNat (transferOf shape.kind)] else []) := by
  cases isWritten <;>
    simp [writeSingle, Stmt.when, performed?, condition, performedAll?_write, performedOtherwise?]

end ProtobufTypeScript.Message
