import ProtobufTypeScript.Proofs.Schema.Walk

/-!
The types that a file declares, at any depth, each with the names on the way to it and the place it
stands at. The walk meets exactly these and in this order, up to the first one that lacks a name,
and stands with its cursor at their places.
-/

namespace ProtobufTypeScript.Schema

/-- A type that is declared somewhere in a file. -/
structure Declared where
  /-- The names of the messages around it from the outside in, and then its own. -/
  names : List String
  definition : Definition

/-- An enum inside the messages of given names. -/
def Enumeration.declared (outer : List String) (enumeration : Enumeration) : Declared :=
  { names := outer ++ [enumeration.plainName], definition := .enumeration enumeration }

mutual
/-- A message inside the messages of given names, and the types declared in it. -/
def Message.declared (outer : List String) : Message → List Declared
  | ⟨name, fields, nested, enumerations, mapEntry⟩ =>
      let names := outer ++ [name.getD ""]
      { names, definition := .message ⟨name, fields, nested, enumerations, mapEntry⟩ }
        :: (enumerations.map (Enumeration.declared names) ++ Message.declaredAll names nested)

/-- Messages inside the messages of given names, each followed by the types declared in
it.
-/
def Message.declaredAll (outer : List String) : List Message → List Declared
  | [] => []
  | message :: rest => Message.declared outer message ++ Message.declaredAll outer rest
end

/-- All types that a file declares. -/
def File.declared (file : File) : List Declared :=
  file.enumerations.map (Enumeration.declared []) ++ Message.declaredAll [] file.messages

namespace Declared

/-- Whether a type has a name of its own. -/
def IsNamed (declared : Declared) : Prop :=
  declared.definition.name?.getD "" ≠ ""

instance (declared : Declared) : Decidable declared.IsNamed :=
  inferInstanceAs (Decidable (_ ≠ _))

/-- The names around a type, each with a dot behind it. -/
def scope (declared : Declared) : String :=
  String.join (declared.names.dropLast.map (· ++ "."))

/-- The name of a type within its package. -/
def schemaName (declared : Declared) : String :=
  ".".intercalate declared.names

/-- The name of a type in generated code. -/
def identifier (options : Options) (declared : Declared) : String :=
  "_".intercalate (declared.names.map options.identifier)

/-- The node for a type that has a name, without its place among the comments. -/
def node (options : Options) (declared : Declared) : Node :=
  {
    identifier := declared.identifier options
    schemaName := declared.schemaName
    definition := declared.definition
    cursor := {}
  }

/-- The node for a type, or the error that it has no name. -/
def node? (options : Options) (declared : Declared) : Except GenerationError Node :=
  if declared.IsNamed then .ok (declared.node options) else .error (.unnamed declared.scope)

theorem node?_of_unnamed {declared : Declared} (options : Options) (unnamed : ¬ declared.IsNamed)
    : declared.node? options = .error (.unnamed declared.scope) :=
  if_neg unnamed

theorem node?_of_named {declared : Declared} (options : Options) (named : declared.IsNamed)
    : declared.node? options = .ok (declared.node options) :=
  if_pos named

/-- A type is visited exactly if it has a name, and then as the node that it is declared
as.
-/
theorem node?_eq_ok {options : Options} {declared : Declared} {node : Node}
    : declared.node? options = .ok node ↔ declared.IsNamed ∧ node = declared.node options := by
  by_cases named : declared.IsNamed
  · simp [node?_of_named options named, named, eq_comm]
  · simp [node?_of_unnamed options named, named]

/-- A type without a name is refused with the names of the types around it. -/
theorem node?_eq_error {options : Options} {declared : Declared} {error : GenerationError}
    : declared.node? options = .error error
      ↔ ¬ declared.IsNamed ∧ error = .unnamed declared.scope := by
  by_cases named : declared.IsNamed
  · simp [node?_of_named options named, named]
  · simp [node?_of_unnamed options named, named, eq_comm]

end Declared

/-- A node without its place among the comments. -/
def Node.bare (node : Node) : Node :=
  { node with cursor := {} }

-----------------------------------------------------------------------------------------
-- The places of the declared types
-----------------------------------------------------------------------------------------

/-- Where something stands in a file: for each step on the way to it, the number of the
list that the step goes into and the position there.
-/
abbrev Place := List (Int32 × Nat)

/-- A type that is declared at a place of a file. -/
structure Placed extends Declared where
  place : Place

/-- An enum at a place. -/
def Enumeration.placed (outer : List String) (place : Place) (enumeration : Enumeration)
    : Placed :=
  { enumeration.declared outer with place }

/-- Enums in a list around which are messages of given names. The list is found under a
number at the given place, and the first enum has the given position in it.
-/
def Enumeration.placedAll (outer : List String) (around : Place) (field : Int32)
    : Nat → List Enumeration → List Placed
  | _, [] => []
  | position, enumeration :: rest =>
      enumeration.placed outer (around ++ [(field, position)])
        :: placedAll outer around field (position + 1) rest

mutual
/-- A message at a place, and the types declared in it. -/
def Message.placed (outer : List String) (place : Place) : Message → List Placed
  | ⟨name, fields, nested, enumerations, mapEntry⟩ =>
      let names := outer ++ [name.getD ""]
      { names, definition := .message ⟨name, fields, nested, enumerations, mapEntry⟩, place }
        :: (Enumeration.placedAll names place Child.enumInMessage 0 enumerations
          ++ Message.placedAll names place Child.messageInMessage 0 nested)

/-- Messages in a list, as for enums, each followed by the types declared in it. -/
def Message.placedAll (outer : List String) (around : Place) (field : Int32)
    : Nat → List Message → List Placed
  | _, [] => []
  | position, message :: rest =>
      Message.placed outer (around ++ [(field, position)]) message
        ++ Message.placedAll outer around field (position + 1) rest
end

/-- All types that a file declares, at their places. -/
def File.placed (file : File) : List Placed :=
  Enumeration.placedAll [] [] Child.enumInFile 0 file.enumerations
    ++ Message.placedAll [] [] Child.messageInFile 0 file.messages

/-- The places of enums are of no account for what the enums are declared as. Induction on
the enums, with the position of the first one.
-/
theorem Enumeration.map_placedAll (outer : List String) (around : Place) (field : Int32)
    (position : Nat) (enumerations : List Enumeration)
    : (Enumeration.placedAll outer around field position enumerations).map Placed.toDeclared
      = enumerations.map (Enumeration.declared outer) := by
  induction enumerations generalizing position with
  | nil => rfl
  | cons enumeration rest ih =>
      rw [placedAll, List.map_cons, List.map_cons, ih]
      rfl

mutual
/-- The places of a message and of all that it holds are of no account for what they are
declared as.
-/
theorem Message.map_placed (outer : List String) (place : Place)
    : ∀ message : Message,
        (Message.placed outer place message).map Placed.toDeclared
          = Message.declared outer message
  | ⟨name, fields, nested, enumerations, mapEntry⟩ => by
      rw [placed, declared, List.map_cons, List.map_append, Enumeration.map_placedAll,
        Message.map_placedAll _ place Child.messageInMessage 0 nested]

/-- This holds of messages side by side, and is proved along with the statement for one
message.
-/
theorem Message.map_placedAll (outer : List String) (around : Place) (field : Int32)
    (position : Nat)
    : ∀ messages : List Message,
        (Message.placedAll outer around field position messages).map Placed.toDeclared
          = Message.declaredAll outer messages
  | [] => rfl
  | message :: rest => by
      rw [placedAll, declaredAll, List.map_append,
        Message.map_placed outer (around ++ [(field, position)]) message,
        Message.map_placedAll outer around field (position + 1) rest]
end

/-- What a file declares with places is what it declares, in the same order. -/
theorem File.map_placed (file : File)
    : file.placed.map Placed.toDeclared = file.declared := by
  rw [placed, declared, List.map_append, Enumeration.map_placedAll, Message.map_placedAll]

/-- The path to a place. -/
def Place.path (place : Place) : List Int32 :=
  place.flatMap (fun step => [step.1, Int32.ofNat step.2])

/-- The cursor at a place below another. -/
def Cursor.at (cursor : Cursor) (place : Place) : Cursor :=
  { cursor with path := cursor.path ++ place.path }

/-- One step further is one child further. -/
theorem Cursor.at_concat (cursor : Cursor) (place : Place) (field : Int32) (position : Nat)
    : cursor.at (place ++ [(field, position)]) = (cursor.at place).enter field position := by
  simp [Cursor.at, Place.path, Cursor.enter, Cursor.childPath]

/-- The node for a type that has a name, at its place below a cursor. -/
def Placed.node (options : Options) (cursor : Cursor) (placed : Placed) : Node :=
  { placed.toDeclared.node options with cursor := cursor.at placed.place }

/-- The node for a type at its place, or the error that the type has no name. -/
def Placed.node? (options : Options) (cursor : Cursor) (placed : Placed)
    : Except GenerationError Node :=
  (placed.toDeclared.node? options).map (fun node => { node with cursor := cursor.at placed.place })

-----------------------------------------------------------------------------------------
-- The walk meets the declared types
-----------------------------------------------------------------------------------------

/-- The last of several names follows the others, each of which has the separator behind
it, by induction on the others.
-/
theorem intercalate_concat (separator : String) (before : List String) (last : String)
    : separator.intercalate (before ++ [last])
      = String.join (before.map (· ++ separator)) ++ last := by
  induction before with
  | nil => simp
  | cons first rest ih =>
      rw [List.map_cons, String.join_cons, String.append_assoc, ← ih]
      cases rest with
      | nil => simp [String.append_assoc]
      | cons second others => simp [String.append_assoc]

/-- Whether a scope of the walk is inside the messages of given names at a place. -/
structure Scope.IsInside (options : Options) (start : Cursor) (scope : Scope)
    (outer : List String) (around : Place)
    : Prop where
  identifierStem
    : scope.identifierStem = String.join ((outer.map options.identifier).map (· ++ "_"))
  schemaStem : scope.schemaStem = String.join (outer.map (· ++ "."))
  cursor : scope.cursor = start.at around

variable {options : Options} {start : Cursor} {scope : Scope} {outer : List String}
  {around : Place}

/-- A scope has the nodes of the types declared in it. Witness: whether the type has a
name, without which both are the same error.
-/
theorem Scope.node?_placed (inside : scope.IsInside options start outer around)
    (definition : Definition) (field : Int32) (position : Nat)
    : scope.node? options definition.name? definition field position
      = Placed.node? options start
          {
            names := outer ++ [definition.name?.getD ""]
            definition
            place := around ++ [(field, position)]
          } := by
  by_cases given : definition.name?.getD "" = ""
  case pos =>
    have missing
        : scope.node? options definition.name? definition field position
          = .error (.unnamed scope.schemaStem) := by
      unfold Scope.node?
      split
      · rfl
      · rename_i name named
        rw [named, Option.getD_some] at given
        rw [given]
        rfl
    rw [missing, Placed.node?, Declared.node?_of_unnamed options (not_not.mpr given)]
    simp [Except.map, Declared.scope, inside.schemaStem]
  case neg =>
    obtain ⟨name, named⟩ : ∃ name, definition.name? = some name := by
      cases named : definition.name? with
      | none => simp [named] at given
      | some name => exact ⟨name, rfl⟩
    rw [named, Option.getD_some] at given
    have proper : name.isEmpty = false := by simpa using given
    have isNamed : Declared.IsNamed { names := outer ++ [name], definition } := by
      simpa [Declared.IsNamed, named] using given
    rw [Placed.node?, named, Option.getD_some, Declared.node?_of_named options isNamed]
    simp [Scope.node?, proper, Except.map, Declared.node, Declared.identifier,
      Declared.schemaName, intercalate_concat, inside.identifierStem, inside.schemaStem,
      inside.cursor, Cursor.at_concat]

/-- The scope inside a type is that of the names and the place of the type. The step into
the type adds to both.
-/
theorem Scope.isInside_inside (inside : scope.IsInside options start outer around)
    (definition : Definition) {field : Int32} {position : Nat} {node : Node}
    (found : scope.node? options definition.name? definition field position = .ok node)
    : (Scope.inside node).IsInside options start (outer ++ [definition.name?.getD ""])
        (around ++ [(field, position)]) := by
  unfold Scope.node? at found
  split at found
  · cases found
  · rename_i name named
    split at found
    · cases found
    · cases found
      constructor <;>
        simp [Scope.inside, named, inside.identifierStem, inside.schemaStem, inside.cursor,
          Cursor.at_concat, String.append_assoc]

/-- The walk over enums visits them as they are placed, by induction on the enums with the
position of the first one generalised.
-/
theorem enumerationSteps_placed (inside : scope.IsInside options start outer around)
    (position : Nat) (enumerations : List Enumeration)
    : enumerationSteps options scope position enumerations
      = (Enumeration.placedAll outer around scope.enumField position enumerations).map
          (Placed.node? options start) := by
  induction enumerations generalizing position with
  | nil => rfl
  | cons enumeration rest ih =>
      rw [enumerationSteps, Enumeration.placedAll, List.map_cons]
      exact congrArg₂ _
        (Scope.node?_placed inside (.enumeration enumeration) scope.enumField position)
        (ih (position + 1))

section Run

variable {m : Type → Type} [Monad m] [LawfulMonad m] (visit : Visitor m)

mutual
/-- Running through the steps at a message is running through the types declared there:
where a name is missing, both end.
-/
theorem forM_messageSteps {scope : Scope} {outer : List String} {around : Place}
    (inside : scope.IsInside options start outer around) (position : Nat)
    : ∀ message,
        forM (messageSteps options scope position message) (visitStep visit)
          = forM
              ((Message.placed outer (around ++ [(scope.messageField, position)]) message).map
                (Placed.node? options start))
              (visitStep visit)
  | ⟨name, fields, nested, enumerations, mapEntry⟩ => by
      have here
          : scope.node? options name
              (.message ⟨name, fields, nested, enumerations, mapEntry⟩) scope.messageField
              position
            = Placed.node? options start
                {
                  names := outer ++ [name.getD ""]
                  definition := .message ⟨name, fields, nested, enumerations, mapEntry⟩
                  place := around ++ [(scope.messageField, position)]
                } :=
        Scope.node?_placed inside (.message ⟨name, fields, nested, enumerations, mapEntry⟩)
          scope.messageField position
      rw [messageSteps, Message.placed, List.map_cons, List.forM_cons, List.forM_cons, ← here]
      cases step : scope.node? options name
          (.message ⟨name, fields, nested, enumerations, mapEntry⟩) scope.messageField position with
      | error error => rw [visitStep_error_bind, visitStep_error_bind]
      | ok node =>
          have deeper
              : (Scope.inside node).IsInside options start (outer ++ [name.getD ""])
                  (around ++ [(scope.messageField, position)]) :=
            Scope.isInside_inside inside
              (.message ⟨name, fields, nested, enumerations, mapEntry⟩) step
          have contents := forM_messagesSteps deeper 0 nested
          simp only [List.map_append, List.forM_append] at contents ⊢
          rw [contents, enumerationSteps_placed deeper]
          rfl

/-- The walk over messages visits all types at any depth as they are placed, one message
after the other.
-/
theorem forM_messagesSteps {scope : Scope} {outer : List String} {around : Place}
    (inside : scope.IsInside options start outer around) (position : Nat)
    : ∀ messages,
        forM (messagesSteps options scope position messages) (visitStep visit)
          = forM
              ((Message.placedAll outer around scope.messageField position messages).map
                (Placed.node? options start))
              (visitStep visit)
  | [] => rfl
  | message :: rest => by
      rw [messagesSteps, Message.placedAll, List.map_append, List.forM_append, List.forM_append,
        forM_messageSteps inside position message,
        forM_messagesSteps inside (position + 1) rest]
end

/-- The walk over a file runs through the types declared there, at their places. -/
theorem File.visit_placed (file : File) (cursor : Cursor) (options : Options)
    : file.visit cursor options visit
      = forM (file.placed.map (Placed.node? options cursor)) (visitStep visit) := by
  have start : (Scope.ofFile cursor).IsInside options cursor [] [] :=
    ⟨rfl, rfl, by simp [Scope.ofFile, Cursor.at, Place.path]⟩
  rw [File.visit_eq_forM, File.steps, File.placed, List.map_append, List.forM_append,
    List.forM_append, forM_messagesSteps visit start, enumerationSteps_placed start]
  rfl

end Run

/-- The nodes of a file are those of its declared types at their places, up to the first
one without a name.
-/
theorem File.nodes_placed (file : File) (cursor : Cursor) (options : Options)
    : file.nodes cursor options = file.placed.mapM (Placed.node? options cursor) := by
  have run := collected_eq_mapM (file.placed.map (Placed.node? options cursor)) []
  rw [collected, ← File.visit_placed, List.mapM_map] at run
  refine Eq.trans run ?_
  change (file.placed.mapM (Placed.node? options cursor)).map ([] ++ ·) = _
  cases file.placed.mapM (Placed.node? options cursor) <;> rfl

/-- The nodes of a file are those of its declared types, up to the first one without a
name. Both are made one by one, and agree at each type.
-/
theorem File.nodes_bare (file : File) (cursor : Cursor) (options : Options)
    : (file.nodes cursor options).map (List.map Node.bare)
      = file.declared.mapM (Declared.node? options) := by
  have each (placed : Placed)
      : (Placed.node? options cursor placed).map Node.bare
        = Declared.node? options placed.toDeclared := by
    rw [Placed.node?, Declared.node?]
    split <;> rfl
  rw [File.nodes_placed, map_mapM, funext each, ← File.map_placed, List.mapM_map]
  rfl

/-- If a file has nodes, all its types have names, and the nodes are those of the types:
each of them was made from its type.
-/
theorem File.nodes_eq_ok_declared {file : File} {cursor : Cursor} {options : Options}
    {nodes : List Node} (found : file.nodes cursor options = .ok nodes)
    : (∀ declared ∈ file.declared, declared.IsNamed)
      ∧ nodes.map Node.bare = file.declared.map (Declared.node options) := by
  have bare := File.nodes_bare file cursor options
  rw [found, eq_comm] at bare
  have each := (mapM_eq_ok.mp bare).imp (fun _ _ made => Declared.node?_eq_ok.mp made)
  constructor
  · intro declared member
    obtain ⟨_, -, named, -⟩ := exists_of_mem_left each member
    exact named
  · rw [← List.forall₂_eq_eq_eq, List.forall₂_map_right_iff]
    exact each.flip.imp (fun _ _ made => made.2)

/-- If a file has nodes, they are those of its types at their places, since no step of the
walk may have failed.
-/
theorem File.nodes_eq_ok_placed {file : File} {cursor : Cursor} {options : Options}
    {nodes : List Node} (found : file.nodes cursor options = .ok nodes)
    : nodes = file.placed.map (Placed.node options cursor) := by
  rw [File.nodes_placed, mapM_eq_ok] at found
  rw [← List.forall₂_eq_eq_eq, List.forall₂_map_right_iff]
  refine found.flip.imp ?_
  intro node placed made
  obtain ⟨_, named, rfl⟩ := map_eq_ok.mp made
  rw [(Declared.node?_eq_ok.mp named).2]
  rfl

/-- A file has no nodes exactly if one of its types has no name, and the first of these is
the error.
-/
theorem File.nodes_eq_error {file : File} {cursor : Cursor} {options : Options}
    {error : GenerationError}
    : file.nodes cursor options = .error error
      ↔ ∃ before declared after,
          file.declared = before ++ declared :: after
          ∧ (∀ earlier ∈ before, earlier.IsNamed)
          ∧ ¬ declared.IsNamed
          ∧ error = .unnamed declared.scope := by
  rw [← map_eq_error, File.nodes_bare, mapM_eq_error]
  simp only [Declared.node?_eq_ok, Declared.node?_eq_error, exists_and_left, exists_eq, and_true]

/-- A file whose types all have names is walked to its end. -/
theorem File.exists_nodes {file : File} (cursor : Cursor) (options : Options)
    (named : ∀ declared ∈ file.declared, declared.IsNamed)
    : ∃ nodes, file.nodes cursor options = .ok nodes := by
  cases found : file.nodes cursor options with
  | ok nodes => exact ⟨nodes, rfl⟩
  | error error =>
      obtain ⟨before, declared, after, parted, -, unnamed, -⟩ := File.nodes_eq_error.mp found
      exact absurd (named declared (by simp [parted])) unnamed

end ProtobufTypeScript.Schema
