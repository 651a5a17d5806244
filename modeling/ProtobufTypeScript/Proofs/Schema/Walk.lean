import ProtobufTypeScript.Proofs.Except
import ProtobufTypeScript.Schema.Walk

/-!
The walk as a list. What the walk meets is a list of steps in the order of the visits, each of which
is a node or the error of a missing name. Visiting is running through this list from left to right
up to the first error.
-/

namespace ProtobufTypeScript.Schema

/-- What is met among the enums of a scope, the first of which has the given position. -/
def enumerationSteps (options : Options) (scope : Scope)
    : Nat → List Enumeration → List (Except GenerationError Node)
  | _, [] => []
  | position, enumeration :: rest =>
      scope.node? options enumeration.name (.enumeration enumeration) scope.enumField position
        :: enumerationSteps options scope (position + 1) rest

mutual
/-- What is met at a message and inside it. Nothing is inside a message without a name. -/
def messageSteps (options : Options) (scope : Scope) (position : Nat)
    : Message → List (Except GenerationError Node)
  | ⟨name, fields, nested, enumerations, mapEntry⟩ =>
      let step :=
        scope.node? options name (.message ⟨name, fields, nested, enumerations, mapEntry⟩)
          scope.messageField position
      step ::
        match step with
        | .ok node =>
            enumerationSteps options (Scope.inside node) 0 enumerations
              ++ messagesSteps options (Scope.inside node) 0 nested
        | .error _ => []

/-- What is met among the messages of a scope, the first of which has the given position.
-/
def messagesSteps (options : Options) (scope : Scope)
    : Nat → List Message → List (Except GenerationError Node)
  | _, [] => []
  | position, message :: rest =>
      messageSteps options scope position message
        ++ messagesSteps options scope (position + 1) rest
end

/-- What is met in a file. -/
def File.steps (file : File) (cursor : Cursor) (options : Options)
    : List (Except GenerationError Node) :=
  enumerationSteps options (Scope.ofFile cursor) 0 file.enumerations
    ++ messagesSteps options (Scope.ofFile cursor) 0 file.messages

variable {m : Type → Type} [Monad m]

/-- Visits the node of a step, or ends with its error. -/
def visitStep (visit : Visitor m) (step : Except GenerationError Node)
    : ExceptT GenerationError m Unit :=
  MonadExcept.ofExcept step >>= visit

-----------------------------------------------------------------------------------------
-- The walk runs through its steps
-----------------------------------------------------------------------------------------

section Run

variable [LawfulMonad m] (options : Options) (visit : Visitor m)

/-- After an error nothing is visited. -/
theorem visitStep_error_bind (error : GenerationError)
    (next : Unit → ExceptT GenerationError m Unit)
    : visitStep visit (.error error) >>= next = throw error := by
  simp [visitStep, MonadExcept.ofExcept]

theorem visitStep_ok (node : Node)
    : visitStep visit (.ok node) = visit node := by
  simp [visitStep, MonadExcept.ofExcept]

/-- Visiting enums is going through the steps for them. Induction on the enums, with the
position of the first one.
-/
theorem visitEnumerations_eq_forM (scope : Scope) (position : Nat)
    (enumerations : List Enumeration)
    : visitEnumerations options visit scope position enumerations
      = forM (enumerationSteps options scope position enumerations) (visitStep visit) := by
  induction enumerations generalizing position with
  | nil => rfl
  | cons enumeration rest ih =>
      rw [visitEnumerations, enumerationSteps, List.forM_cons, visitStep, bind_assoc]
      exact congrArg _ (funext fun node => congrArg _ (funext fun _ => ih _))

mutual
/-- The walk over a message runs through its steps. -/
theorem visitMessage_eq_forM (scope : Scope) (position : Nat)
    : ∀ message,
        visitMessage options visit scope position message
          = forM (messageSteps options scope position message) (visitStep visit)
  | ⟨name, fields, nested, enumerations, mapEntry⟩ => by
      rw [visitMessage, messageSteps, List.forM_cons]
      cases scope.node? options name (.message ⟨name, fields, nested, enumerations, mapEntry⟩)
          scope.messageField position with
      | error error =>
          rw [visitStep_error_bind]
          simp [MonadExcept.ofExcept]
      | ok node =>
          rw [visitStep_ok, List.forM_append,
            ← visitEnumerations_eq_forM options visit (Scope.inside node) 0 enumerations,
            ← visitMessages_eq_forM (Scope.inside node) 0 nested]
          simp [MonadExcept.ofExcept]

/-- Visiting messages is going through the steps for them and for all that they hold. This
goes along with the statement for one message.
-/
theorem visitMessages_eq_forM (scope : Scope) (position : Nat)
    : ∀ messages,
        visitMessages options visit scope position messages
          = forM (messagesSteps options scope position messages) (visitStep visit)
  | [] => by rw [visitMessages, messagesSteps, List.forM_nil]
  | message :: rest => by
      rw [visitMessages, messagesSteps, List.forM_append,
        visitMessage_eq_forM scope position message,
        visitMessages_eq_forM scope (position + 1) rest]
end

/-- The walk over a file runs through its steps. -/
theorem File.visit_eq_forM (file : File) (cursor : Cursor)
    : file.visit cursor options visit
      = forM (file.steps cursor options) (visitStep visit) := by
  rw [File.visit, File.steps, List.forM_append, visitEnumerations_eq_forM,
    visitMessages_eq_forM]

end Run

-----------------------------------------------------------------------------------------
-- The nodes of a file
-----------------------------------------------------------------------------------------

/-- Keeps each node before those that were met earlier. -/
def collect : Visitor (StateM (List Node)) :=
  fun node => modify (node :: ·)

/-- What running through steps gives when the nodes are kept, and the nodes kept then. -/
def collected (steps : List (Except GenerationError Node)) (found : List Node)
    : Except GenerationError Unit × List Node :=
  (forM steps (visitStep collect) : ExceptT GenerationError (StateM (List Node)) Unit).run.run found

/-- The nodes kept from steps are those of the steps, unless one of these is an error.
Witness: induction on the steps, with the nodes kept so far generalised.
-/
theorem collected_eq_mapM (steps : List (Except GenerationError Node)) (found : List Node)
    : (collected steps found).1.map (fun _ => (collected steps found).2.reverse)
      = (steps.mapM id).map (found.reverse ++ ·) := by
  -- The nodes kept so far are generalised, since each step adds to them.
  induction steps generalizing found with
  | nil =>
      have nothing : collected [] found = (.ok (), found) := rfl
      rw [nothing]
      simp [Except.map, pure, Except.pure]
  | cons step rest ih =>
      cases step with
      | error error => rfl
      | ok node =>
          have step : collected (.ok node :: rest) found = collected rest (node :: found) := rfl
          rw [step, ih, List.mapM_cons]
          cases rest.mapM id with
          | error error => rfl
          | ok nodes => simp [Except.map, pure, Except.pure, bind, Except.bind]

/-- The nodes of a file are its steps, if none of them has an error. -/
theorem File.nodes_eq_mapM (file : File) (cursor : Cursor) (options : Options)
    : file.nodes cursor options = (file.steps cursor options).mapM id := by
  have run := collected_eq_mapM (file.steps cursor options) []
  rw [collected, ← File.visit_eq_forM] at run
  refine Eq.trans run ?_
  cases (file.steps cursor options).mapM id <;> rfl

/-- A file has nodes exactly if each of its steps is one. -/
theorem File.nodes_eq_ok {file : File} {cursor : Cursor} {options : Options} {nodes : List Node}
    : file.nodes cursor options = .ok nodes ↔ file.steps cursor options = nodes.map .ok := by
  rw [File.nodes_eq_mapM, mapM_eq_ok, ← List.forall₂_eq_eq_eq, List.forall₂_map_right_iff]
  rfl

-----------------------------------------------------------------------------------------
-- The cursor of the walk
-----------------------------------------------------------------------------------------

/-- The cursor at the same path below another cursor. -/
def Cursor.below (outer inner : Cursor) : Cursor :=
  { locations := outer.locations, path := outer.path ++ inner.path }

/-- The node as it is met below a cursor. -/
def Node.below (outer : Cursor) (node : Node) : Node :=
  { node with cursor := outer.below node.cursor }

/-- The scope as it is entered below a cursor. -/
def Scope.below (outer : Cursor) (scope : Scope) : Scope :=
  { scope with cursor := outer.below scope.cursor }

/-- A scope below a cursor has its nodes below that cursor. Witness: whether there is a
name, without which the errors are the same.
-/
theorem Scope.node?_below (outer : Cursor) (scope : Scope) (options : Options)
    (name : Option String) (definition : Definition) (field : Int32) (position : Nat)
    : (scope.below outer).node? options name definition field position
      = (scope.node? options name definition field position).map (Node.below outer) := by
  unfold Scope.node?
  cases name with
  | none => rfl
  | some name =>
      simp only
      split
      · rfl
      · simp [Scope.below, Node.below, Cursor.below, Cursor.enter, Cursor.childPath, Except.map]

/-- What is found below another cursor is the same, but for the cursor. -/
theorem enumerationSteps_below (outer : Cursor) (options : Options) (scope : Scope)
    (position : Nat) (enumerations : List Enumeration)
    : enumerationSteps options (scope.below outer) position enumerations
      = (enumerationSteps options scope position enumerations).map
          (Except.map (Node.below outer)) := by
  induction enumerations generalizing position with
  | nil => rfl
  | cons enumeration rest ih =>
      rw [enumerationSteps, Scope.node?_below, ih]
      rfl

mutual
/-- A message below another cursor has the same steps, but for the cursor, at any depth.
Witness: recursion on the message, along with the statement for lists of messages.
-/
theorem messageSteps_below (outer : Cursor) (options : Options) (scope : Scope) (position : Nat)
    : ∀ message,
        messageSteps options (scope.below outer) position message
          = (messageSteps options scope position message).map (Except.map (Node.below outer))
  | ⟨name, fields, nested, enumerations, mapEntry⟩ => by
      rw [messageSteps, messageSteps]
      simp only [List.map_cons]
      have step :=
        Scope.node?_below outer scope options name
          (.message ⟨name, fields, nested, enumerations, mapEntry⟩) scope.messageField position
      have field : (scope.below outer).messageField = scope.messageField := rfl
      rw [field, step]
      cases scope.node? options name (.message ⟨name, fields, nested, enumerations, mapEntry⟩)
          scope.messageField position with
      | error error => rfl
      | ok node =>
          have inside : Scope.inside (node.below outer) = (Scope.inside node).below outer := rfl
          simp only [Except.map, inside, List.map_append]
          rw [enumerationSteps_below outer options (Scope.inside node) 0 enumerations,
            messagesSteps_below outer options (Scope.inside node) 0 nested]

theorem messagesSteps_below (outer : Cursor) (options : Options) (scope : Scope) (position : Nat)
    : ∀ messages,
        messagesSteps options (scope.below outer) position messages
          = (messagesSteps options scope position messages).map (Except.map (Node.below outer))
  | [] => rfl
  | message :: rest => by
      rw [messagesSteps, messagesSteps, List.map_append,
        messageSteps_below outer options scope position message,
        messagesSteps_below outer options scope (position + 1) rest]
end

/-- The cursor decides nothing but where the comments of the nodes are found: the scope of
the file is the blind one below the cursor, and so are all steps.
-/
theorem File.nodes_below (file : File) (cursor : Cursor) (options : Options)
    : file.nodes cursor options
      = (file.nodes .blind options).map (List.map (Node.below cursor)) := by
  have start : Scope.ofFile cursor = (Scope.ofFile .blind).below cursor := by
    simp [Scope.ofFile, Scope.below, Cursor.below, Cursor.blind]
  have steps
      : file.steps cursor options
        = (file.steps .blind options).map (Except.map (Node.below cursor)) := by
    rw [File.steps, File.steps, start, enumerationSteps_below, messagesSteps_below,
      List.map_append]
  rw [File.nodes_eq_mapM, File.nodes_eq_mapM, steps, map_mapM, List.mapM_map]
  rfl

-----------------------------------------------------------------------------------------
-- What the walk passes on
-----------------------------------------------------------------------------------------

/-- The name of a definition, if it has one. -/
def Definition.name? : Definition → Option String
  | .message held => held.name
  | .enumeration held => held.name

/-- A condition that the walk passes on: from a scope and a definition to the node for it,
from a node to the scope inside it, and from a message to the definitions in it.
-/
structure PassesOn (options : Options) (within : Scope → Prop) (allowed : Definition → Prop)
    (met : Node → Prop)
    : Prop where
  node
    : ∀ {scope : Scope} {definition : Definition} {field : Int32} {position : Nat} {node : Node},
        within scope → allowed definition
        → scope.node? options definition.name? definition field position = .ok node → met node
  inside : ∀ {node : Node}, met node → within (Scope.inside node)
  enumerations
    : ∀ {message : Message},
        allowed (.message message)
        → ∀ enumeration ∈ message.enumerations, allowed (.enumeration enumeration)
  nested
    : ∀ {message : Message},
        allowed (.message message) → ∀ inner ∈ message.nested, allowed (.message inner)

namespace PassesOn

variable {options : Options} {within : Scope → Prop} {allowed : Definition → Prop}
  {met : Node → Prop}

/-- What passes on to enums is met at each step for them. Induction on the enums. -/
theorem of_mem_enumerationSteps (passes : PassesOn options within allowed met) {scope : Scope}
    {position : Nat} {enumerations : List Enumeration} (here : within scope)
    (each : ∀ enumeration ∈ enumerations, allowed (.enumeration enumeration))
    : ∀ node, .ok node ∈ enumerationSteps options scope position enumerations → met node := by
  induction enumerations generalizing position with
  | nil => simp [enumerationSteps]
  | cons enumeration rest ih =>
      rw [List.forall_mem_cons] at each
      intro node member
      rcases List.mem_cons.mp member with step | later
      · exact passes.node here each.1 step.symm
      · exact ih each.2 node later

mutual
/-- A condition that is passed on holds of a message and of what is inside it. Witness:
recursion on the message, whose own node comes before its enums and its messages.
-/
theorem of_mem_messageSteps (passes : PassesOn options within allowed met) {scope : Scope}
    {position : Nat} (here : within scope)
    : ∀ message : Message,
        allowed (.message message)
        → ∀ node, .ok node ∈ messageSteps options scope position message → met node
  | ⟨name, fields, nested, enumerations, mapEntry⟩ => by
      intro permitted node member
      rw [messageSteps] at member
      cases step : scope.node? options name
          (.message ⟨name, fields, nested, enumerations, mapEntry⟩) scope.messageField position with
      | error error => simp [step] at member
      | ok outer =>
          have first : met outer := passes.node here permitted step
          have inside := passes.inside first
          simp only [step, List.mem_cons, List.mem_append, Except.ok.injEq] at member
          rcases member with rfl | inEnum | inMessage
          · exact first
          · exact passes.of_mem_enumerationSteps inside (passes.enumerations permitted) node inEnum
          · exact of_mem_messagesSteps passes inside nested (passes.nested permitted) node inMessage

/-- What passes on to messages is met at each step for them, at any depth. This goes along
with the statement for one message.
-/
theorem of_mem_messagesSteps (passes : PassesOn options within allowed met) {scope : Scope}
    {position : Nat} (here : within scope)
    : ∀ messages : List Message,
        (∀ message ∈ messages, allowed (.message message))
        → ∀ node, .ok node ∈ messagesSteps options scope position messages → met node
  | [] => by simp [messagesSteps]
  | message :: rest => by
      intro each node member
      rw [List.forall_mem_cons] at each
      rw [messagesSteps, List.mem_append] at member
      rcases member with first | later
      · exact of_mem_messageSteps passes here message each.1 node first
      · exact of_mem_messagesSteps passes here rest each.2 node later
end

/-- A condition that is passed on holds of all nodes of a file, as it holds at each step
for its enums and for its messages.
-/
theorem of_mem_nodes (passes : PassesOn options within allowed met) {file : File}
    {cursor : Cursor} {nodes : List Node} (start : within (Scope.ofFile cursor))
    (enumerations : ∀ enumeration ∈ file.enumerations, allowed (.enumeration enumeration))
    (messages : ∀ message ∈ file.messages, allowed (.message message))
    (found : file.nodes cursor options = .ok nodes)
    : ∀ node ∈ nodes, met node := by
  intro node member
  have step : .ok node ∈ file.steps cursor options := by
    rw [File.nodes_eq_ok.mp found]
    exact List.mem_map_of_mem member
  rcases List.mem_append.mp step with inEnum | inMessage
  · exact passes.of_mem_enumerationSteps start enumerations node inEnum
  · exact passes.of_mem_messagesSteps start file.messages messages node inMessage

end PassesOn

end ProtobufTypeScript.Schema
