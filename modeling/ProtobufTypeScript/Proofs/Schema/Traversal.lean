import ProtobufTypeScript.Proofs.Schema.Declared
import ProtobufTypeScript.Schema.Registry

/-!
The walk over a file with a function that may fail and that keeps a state of its own. It goes
through the types of the file from left to right, calls the function on some or all of the nodes,
and ends with the first type that lacks a name or the first call that fails; what was done before
that stays done.
-/

namespace ProtobufTypeScript.Schema

/-- A function that is called on some of the nodes only. -/
def onlyOn {m : Type → Type} [Monad m] (chosen : Node → Bool) (onNode : Visitor m) : Visitor m :=
  fun node => if chosen node then onNode node else pure ()

/-- A function that also keeps the nodes it is called on, in order. -/
def recorded {σ : Type} (onNode : Visitor (StateM σ)) : Visitor (StateM (σ × List Node)) :=
  fun node =>
    ExceptT.mk fun (state, visited) =>
      let (outcome, next) := (onNode node).run.run state
      (outcome, next, visited ++ [node])

section Endings

variable {σ : Type} (options : Options) (cursor : Cursor) (chosen : Node → Bool)
  (onNode : Visitor (StateM σ))

/-- A function has a result for each of the nodes, one after the other, which takes the
state from the first one to the second.
-/
inductive Passes : List Node → σ → σ → Prop
  | nil (state : σ) : Passes [] state state
  | cons {node : Node} {rest : List Node} {before between after : σ}
      (first : (onNode node).run.run before = (.ok (), between))
      (later : Passes rest between after)
    : Passes (node :: rest) before after

/-- The chosen ones among the nodes of types, which have names. -/
def chosenNodes (types : List Placed) : List Node :=
  (types.map (Placed.node options cursor)).filter chosen

/-- How a walk over types ends that calls a function on the chosen nodes: with which
state, which nodes it has visited by then, and its outcome.
-/
inductive Ending (types : List Placed) (before : σ)
    : σ → List Node → Except GenerationError Unit → Prop
  | complete {after : σ}
      (named : ∀ placed ∈ types, placed.IsNamed)
      (passes : Passes onNode (chosenNodes options cursor chosen types) before after)
    : Ending types before after (chosenNodes options cursor chosen types) (.ok ())
  | unnamed {earlier later : List Placed} {placed : Placed} {after : σ}
      (parted : types = earlier ++ placed :: later)
      (earlierNamed : ∀ placed ∈ earlier, placed.IsNamed)
      (unnamed : ¬ placed.IsNamed)
      (passes : Passes onNode (chosenNodes options cursor chosen earlier) before after)
    : Ending types before after (chosenNodes options cursor chosen earlier)
        (.error (.unnamed placed.scope))
  | failed {earlier later : List Placed} {placed : Placed} {between after : σ}
      {error : GenerationError}
      (parted : types = earlier ++ placed :: later)
      (earlierNamed : ∀ placed ∈ earlier, placed.IsNamed)
      (named : placed.IsNamed)
      (isChosen : chosen (placed.node options cursor) = true)
      (passes : Passes onNode (chosenNodes options cursor chosen earlier) before between)
      (fails
        : (onNode (placed.node options cursor)).run.run between = (.error error, after))
    : Ending types before after
        (chosenNodes options cursor chosen earlier ++ [placed.node options cursor])
        (.error error)

end Endings

/-- What it is for a walk to go through types in order and to call its function on the
chosen nodes.
-/
structure Traverses (options : Options) (cursor : Cursor) (chosen : Node → Bool)
    (types : List Placed)
    (walk : ∀ {σ : Type}, Visitor (StateM σ) → ExceptT GenerationError (StateM σ) Unit)
    : Prop where
  /-- The walk is a fold that stops at the first error. -/
  fold
    : ∀ {σ : Type} (onNode : Visitor (StateM σ)),
        walk onNode
          = types.foldlM
              (fun _ placed => visitStep (onlyOn chosen onNode) (placed.node? options cursor)) ()
  ending
    : ∀ {σ : Type} (onNode : Visitor (StateM σ)) (before after : σ) (visited : List Node)
        (outcome : Except GenerationError Unit),
        (walk (recorded onNode)).run.run (before, []) = (outcome, after, visited)
          ↔ Ending options cursor chosen onNode types before after visited outcome

-----------------------------------------------------------------------------------------
-- One node after the other
-----------------------------------------------------------------------------------------

variable {σ : Type} {options : Options} {cursor : Cursor} {chosen : Node → Bool}
  {onNode : Visitor (StateM σ)} {types rest : List Placed} {placed : Placed}
  {before between after : σ} {visited seen : List Node} {outcome : Except GenerationError Unit}

/-- What running through types gives when the visited nodes are kept, with the state then
and the nodes kept by then.
-/
def traced (options : Options) (cursor : Cursor) (chosen : Node → Bool)
    (onNode : Visitor (StateM σ)) (types : List Placed) (before : σ) (seen : List Node)
    : Except GenerationError Unit × σ × List Node :=
  (forM (types.map (Placed.node? options cursor)) (visitStep (onlyOn chosen (recorded onNode)))
    : ExceptT GenerationError (StateM (σ × List Node)) Unit).run.run (before, seen)

theorem Placed.node?_of_named (named : placed.IsNamed)
    : placed.node? options cursor = .ok (placed.node options cursor) := by
  rw [Placed.node?, Declared.node?_of_named options named]
  rfl

theorem Placed.node?_of_unnamed (unnamed : ¬ placed.IsNamed)
    : placed.node? options cursor = .error (.unnamed placed.scope) := by
  rw [Placed.node?, Declared.node?_of_unnamed options unnamed]
  rfl

theorem chosenNodes_cons_of_chosen (isChosen : chosen (placed.node options cursor) = true)
    : chosenNodes options cursor chosen (placed :: rest)
      = placed.node options cursor :: chosenNodes options cursor chosen rest := by
  simp [chosenNodes, isChosen]

theorem chosenNodes_cons_of_not_chosen (notChosen : chosen (placed.node options cursor) = false)
    : chosenNodes options cursor chosen (placed :: rest)
      = chosenNodes options cursor chosen rest := by
  simp [chosenNodes, notChosen]

/-- The walk stops at a type without a name, after what was visited before it. -/
theorem traced_of_unnamed (unnamed : ¬ placed.IsNamed)
    : traced options cursor chosen onNode (placed :: rest) before seen
      = (.error (.unnamed placed.scope), before, seen) := by
  rw [traced, List.map_cons, List.forM_cons, Placed.node?_of_unnamed unnamed,
    visitStep_error_bind]
  rfl

/-- A type that is not chosen is passed without a visit. -/
theorem traced_of_not_chosen (named : placed.IsNamed)
    (notChosen : chosen (placed.node options cursor) = false)
    : traced options cursor chosen onNode (placed :: rest) before seen
      = traced options cursor chosen onNode rest before seen := by
  rw [traced, List.map_cons, List.forM_cons, Placed.node?_of_named named, visitStep_ok, onlyOn,
    notChosen]
  rfl

/-- A call leaves what the function leaves, with its node behind those visited before. -/
theorem run_recorded (onNode : Visitor (StateM σ)) (node : Node) (before : σ) (seen : List Node)
    : (recorded onNode node).run.run (before, seen)
      = (((onNode node).run.run before).1, ((onNode node).run.run before).2, seen ++ [node]) :=
  rfl

/-- A visit that goes well is recorded, and the walk goes on from the state after it. -/
theorem traced_of_passed (named : placed.IsNamed)
    (isChosen : chosen (placed.node options cursor) = true)
    (passed : (onNode (placed.node options cursor)).run.run before = (.ok (), between))
    : traced options cursor chosen onNode (placed :: rest) before seen
      = traced options cursor chosen onNode rest between
          (seen ++ [placed.node options cursor]) := by
  have call := run_recorded onNode (placed.node options cursor) before seen
  rw [passed] at call
  rw [traced, List.map_cons, List.forM_cons, Placed.node?_of_named named, visitStep_ok, onlyOn,
    if_pos isChosen, ExceptT.run_bind, StateT.run_bind, call]
  rfl

/-- A visit that fails is recorded too, and the walk stops with its error. -/
theorem traced_of_failed {error : GenerationError} (named : placed.IsNamed)
    (isChosen : chosen (placed.node options cursor) = true)
    (fails : (onNode (placed.node options cursor)).run.run before = (.error error, after))
    : traced options cursor chosen onNode (placed :: rest) before seen
      = (.error error, after, seen ++ [placed.node options cursor]) := by
  have call := run_recorded onNode (placed.node options cursor) before seen
  rw [fails] at call
  rw [traced, List.map_cons, List.forM_cons, Placed.node?_of_named named, visitStep_ok, onlyOn,
    if_pos isChosen, ExceptT.run_bind, StateT.run_bind, call]
  rfl

-----------------------------------------------------------------------------------------
-- How a walk ends
-----------------------------------------------------------------------------------------

/-- Types whose chosen nodes all have results are passed over, by induction on the types.
Those that are not chosen leave the state alone.
-/
theorem traced_of_passes {later : List Placed} (named : ∀ placed ∈ types, placed.IsNamed)
    (passes : Passes onNode (chosenNodes options cursor chosen types) before between)
    : traced options cursor chosen onNode (types ++ later) before seen
      = traced options cursor chosen onNode later between
          (seen ++ chosenNodes options cursor chosen types) := by
  induction types generalizing before seen with
  | nil =>
      cases passes
      simp [chosenNodes]
  | cons placed rest ih =>
      rw [List.forall_mem_cons] at named
      cases isChosen : chosen (placed.node options cursor) with
      | false =>
          rw [chosenNodes_cons_of_not_chosen isChosen] at passes ⊢
          rw [List.cons_append, traced_of_not_chosen named.1 isChosen, ih named.2 passes]
      | true =>
          rw [chosenNodes_cons_of_chosen isChosen] at passes ⊢
          cases passes with
          | cons first rest =>
              rw [List.cons_append, traced_of_passed named.1 isChosen first, ih named.2 rest,
                List.append_assoc, List.singleton_append]

/-- A walk that is to end in a way does so: it passes over what comes before its end, and
stops there.
-/
theorem traced_of_ending
    (ending : Ending options cursor chosen onNode types before after visited outcome)
    : traced options cursor chosen onNode types before [] = (outcome, after, visited) := by
  cases ending with
  | complete named passes =>
      rw [← List.append_nil types, traced_of_passes named passes, List.append_nil]
      rfl
  | unnamed parted earlierNamed unnamed passes =>
      rw [parted, traced_of_passes earlierNamed passes, traced_of_unnamed unnamed]
      rfl
  | failed parted earlierNamed named isChosen passes fails =>
      rw [parted, traced_of_passes earlierNamed passes, traced_of_failed named isChosen fails]
      rfl

/-- Visits that go well one after the other go well as a whole. Induction on the first
ones.
-/
theorem Passes.append {first second : List Node} (left : Passes onNode first before between)
    (right : Passes onNode second between after)
    : Passes onNode (first ++ second) before after := by
  induction left with
  | nil => exact right
  | cons call _ ih => exact .cons call (ih right)

theorem chosenNodes_cons (placed : Placed) (types : List Placed)
    : chosenNodes options cursor chosen (placed :: types)
      = chosenNodes options cursor chosen [placed] ++ chosenNodes options cursor chosen types := by
  rw [chosenNodes, chosenNodes, chosenNodes, ← List.filter_append, ← List.map_append]
  rfl

/-- A type that is passed before the others comes first in what is visited, in whichever
way the walk over the others ends.
-/
theorem Ending.cons
    (ending : Ending options cursor chosen onNode rest between after visited outcome)
    (named : placed.IsNamed)
    (passes : Passes onNode (chosenNodes options cursor chosen [placed]) before between)
    : Ending options cursor chosen onNode (placed :: rest) before after
        (chosenNodes options cursor chosen [placed] ++ visited) outcome := by
  cases ending with
  | complete others later =>
      rw [← chosenNodes_cons]
      refine .complete (List.forall_mem_cons.mpr ⟨named, others⟩) ?_
      rw [chosenNodes_cons]
      exact passes.append later
  | @unnamed earlier _ _ _ parted earlierNamed unnamed later =>
      rw [← chosenNodes_cons]
      refine .unnamed (congrArg (placed :: ·) parted)
        (List.forall_mem_cons.mpr ⟨named, earlierNamed⟩) unnamed ?_
      rw [chosenNodes_cons]
      exact passes.append later
  | @failed earlier _ _ _ _ _ parted earlierNamed isNamed isChosen later fails =>
      rw [← List.append_assoc, ← chosenNodes_cons]
      refine .failed (congrArg (placed :: ·) parted)
        (List.forall_mem_cons.mpr ⟨named, earlierNamed⟩) isNamed isChosen ?_ fails
      rw [chosenNodes_cons]
      exact passes.append later

/-- Every walk ends in one of the ways. Witness: induction on the types, of which the
first one has no name, is not chosen, fails or is passed.
-/
theorem exists_ending (options : Options) (cursor : Cursor) (chosen : Node → Bool)
    (onNode : Visitor (StateM σ)) (types : List Placed) (before : σ)
    : ∃ after visited outcome,
        Ending options cursor chosen onNode types before after visited outcome := by
  induction types generalizing before with
  | nil => exact ⟨before, _, _, .complete nofun (.nil before)⟩
  | cons placed rest ih =>
      by_cases named : placed.IsNamed
      case neg =>
        have parted : placed :: rest = [] ++ placed :: rest := rfl
        exact ⟨before, _, _, .unnamed parted nofun named (.nil before)⟩
      case pos =>
        cases isChosen : chosen (placed.node options cursor) with
        | false =>
            obtain ⟨after, visited, outcome, ending⟩ := ih before
            refine ⟨after, _, outcome, ending.cons named ?_⟩
            rw [chosenNodes_cons_of_not_chosen isChosen]
            exact .nil before
        | true =>
            cases call : (onNode (placed.node options cursor)).run.run before with
            | mk result between =>
                cases result with
                | error error =>
                    have parted : placed :: rest = [] ++ placed :: rest := rfl
                    exact ⟨between, _, _, .failed parted nofun named isChosen (.nil before) call⟩
                | ok _ =>
                    obtain ⟨after, visited, outcome, ending⟩ := ih between
                    refine ⟨after, _, outcome, ending.cons named ?_⟩
                    rw [chosenNodes_cons_of_chosen isChosen]
                    exact .cons call (.nil between)

/-- A walk ends as it is to end, and in no other way. -/
theorem traced_eq_iff
    : traced options cursor chosen onNode types before [] = (outcome, after, visited)
      ↔ Ending options cursor chosen onNode types before after visited outcome := by
  refine ⟨fun run => ?_, traced_of_ending⟩
  obtain ⟨_, _, _, ending⟩ := exists_ending options cursor chosen onNode types before
  rw [traced_of_ending ending] at run
  cases run
  exact ending

-----------------------------------------------------------------------------------------
-- The walks over a file
-----------------------------------------------------------------------------------------

/-- Visiting in sequence is folding without a result. Induction on the sequence. -/
theorem forM_eq_foldlM {α : Type} {m : Type → Type} [Monad m] (f : α → m Unit) (inputs : List α)
    : forM inputs f = inputs.foldlM (fun _ input => f input) () := by
  induction inputs with
  | nil => rfl
  | cons input rest ih => rw [List.forM_cons, List.foldlM_cons, ih]

/-- Going through the types is a walk in order. -/
theorem traverses_forM (options : Options) (cursor : Cursor) (chosen : Node → Bool)
    (types : List Placed)
    : Traverses options cursor chosen types fun onNode =>
        forM (types.map (Placed.node? options cursor)) (visitStep (onlyOn chosen onNode)) where
  fold onNode := by rw [List.forM_map, forM_eq_foldlM]
  ending _ _ _ _ _ := traced_eq_iff

/-- Whatever does the same as a traversal, with every visitor, is a traversal as well. -/
theorem Traverses.of_eq
    {walk other : ∀ {σ : Type}, Visitor (StateM σ) → ExceptT GenerationError (StateM σ) Unit}
    (traverses : Traverses options cursor chosen types other)
    (same : ∀ {σ : Type} (onNode : Visitor (StateM σ)), walk onNode = other onNode)
    : Traverses options cursor chosen types walk where
  fold onNode := (same onNode).trans (traverses.fold onNode)
  ending onNode before after visited outcome := by
    rw [same]
    exact traverses.ending onNode before after visited outcome

/-- To visit the messages only is to call the function on these only. -/
theorem File.visitOnlyMessages_eq {m : Type → Type} [Monad m] (file : File) (cursor : Cursor)
    (options : Options) (onNode : Visitor m)
    : file.visitOnlyMessages cursor options onNode
      = file.visit cursor options (onlyOn Registry.isMessage onNode) := by
  unfold visitOnlyMessages onlyOn Registry.isMessage
  congr
  funext node
  cases node.definition <;> rfl

/-- A type without a name is reported as `<unnamed>` behind the names around it. -/
theorem message_unnamed (scope : String)
    : (GenerationError.unnamed scope).message
      = "descriptor '" ++ (scope ++ "<unnamed>") ++ "' has no name" := by
  have joined : "<unnamed>' has no name" = "<unnamed>" ++ "' has no name" := by decide +kernel
  unfold GenerationError.message
  simp only [String.append_assoc]
  exact congrArg _ (congrArg _ joined)

/-- Both walks go through the types of the file in order. One of them calls its function
on all nodes, the other one on those of messages.
-/
theorem File.walks_in_order (file : File) (cursor : Cursor) (options : Options)
    : Traverses options cursor (fun _ => true) file.placed (file.visit cursor options)
      ∧ Traverses options cursor Registry.isMessage file.placed
          (file.visitOnlyMessages cursor options)
      ∧ ∀ placed : Placed,
          (GenerationError.unnamed placed.scope).message
            = "descriptor '" ++ (placed.scope ++ "<unnamed>") ++ "' has no name" := by
  refine ⟨?_, ?_, ?_⟩
  · exact (traverses_forM options cursor _ file.placed).of_eq
      (fun onNode => File.visit_placed onNode file cursor options)
  · refine (traverses_forM options cursor _ file.placed).of_eq (fun onNode => ?_)
    rw [File.visitOnlyMessages_eq, File.visit_placed]
  · exact fun placed => message_unnamed placed.scope

end ProtobufTypeScript.Schema
