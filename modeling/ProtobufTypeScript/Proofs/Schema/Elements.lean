import Mathlib.Algebra.Group.Nat.Defs
import Mathlib.Data.List.Induction
import ProtobufTypeScript.Proofs.Schema.Declared

/-!
The elements of a file and the comments that are about them. A path leads from the file to an
element: each step has the number of a list in the descriptor format and a position in this list.
Of the comments whose path leads to an element the last one documents it.
-/

namespace ProtobufTypeScript.Schema

/-- A file, or a part of one that comments can be about. -/
inductive Element where
  | file (held : File)
  | message (held : Message)
  | enumeration (held : Enumeration)
  | service (held : Service)
  | field (held : Field)
  | member (held : Member)
  | method (held : Method)

/-- A definition as an element. -/
def Definition.element : Definition → Element
  | .message held => .message held
  | .enumeration held => .enumeration held

namespace Element

/-- The child at a position of the list with a given number. -/
def child? : Element → Int32 → Nat → Option Element
  | file held, number, position =>
      if number = 4 then held.messages[position]?.map message
      else if number = 5 then held.enumerations[position]?.map enumeration
      else if number = 6 then held.services[position]?.map service
      else none
  | message held, number, position =>
      if number = 2 then held.fields[position]?.map field
      else if number = 3 then held.nested[position]?.map message
      else if number = 4 then held.enumerations[position]?.map enumeration
      else none
  | enumeration held, number, position =>
      if number = 2 then held.members[position]?.map member else none
  | service held, number, position =>
      if number = 2 then held.methods[position]?.map method else none
  | _, _, _ => none

/-- The element at a place below an element. -/
def at? : Element → Place → Option Element
  | element, [] => some element
  | element, (number, position) :: rest =>
      (element.child? number position).bind (fun child => child.at? rest)

/-- The place that a path leads to from an element, if there is something at each of its
steps.
-/
def follow? : Element → List Int32 → Option Place
  | _, [] => some []
  | _, [_] => none
  | element, number :: index :: rest =>
      if index < 0 then none
      else
        (element.child? number index.toNatClampNeg).bind
          (fun child => (child.follow? rest).map ((number, index.toNatClampNeg) :: ·))

/-- Whether an element has fewer children in each of its lists than positions can be told
apart.
-/
def HasFewChildren : Element → Prop
  | file held =>
      held.messages.length < 2 ^ 31 ∧ held.enumerations.length < 2 ^ 31
        ∧ held.services.length < 2 ^ 31
  | message held =>
      held.fields.length < 2 ^ 31 ∧ held.nested.length < 2 ^ 31
        ∧ held.enumerations.length < 2 ^ 31
  | enumeration held => held.members.length < 2 ^ 31
  | service held => held.methods.length < 2 ^ 31
  | _ => True

instance : DecidablePred HasFewChildren
  | file _ => inferInstanceAs (Decidable (_ ∧ _ ∧ _))
  | message _ => inferInstanceAs (Decidable (_ ∧ _ ∧ _))
  | enumeration _ => inferInstanceAs (Decidable (_ < _))
  | service _ => inferInstanceAs (Decidable (_ < _))
  | field _ => isTrue trivial
  | member _ => isTrue trivial
  | method _ => isTrue trivial

end Element

namespace File

/-- The element at a place of a file. -/
def at? (file : File) (place : Place) : Option Element :=
  (Element.file file).at? place

/-- The last location with a comment whose path leads to a place. -/
def locationAt? (file : File) (place : Place) : Option Location :=
  (file.locations.filter
    (fun location =>
      location.isCommented && (Element.file file).follow? location.path == some place)).getLast?

/-- The text that documents the element at a place. -/
def docAt (file : File) (place : Place) : Option String :=
  (file.locationAt? place).bind
    (fun location =>
      Description.text { leading := location.leading, trailing := location.trailing })

/-- Whether a file has few elements in each list at any depth. -/
structure HasFewSiblings (file : File) : Prop where
  lists : (Element.file file).HasFewChildren
  types : ∀ declared ∈ file.declared, declared.definition.element.HasFewChildren
  services : ∀ service ∈ file.services, (Element.service service).HasFewChildren

instance (file : File) : Decidable file.HasFewSiblings :=
  decidable_of_iff
    ((Element.file file).HasFewChildren
      ∧ (∀ declared ∈ file.declared, declared.definition.element.HasFewChildren)
      ∧ ∀ service ∈ file.services, (Element.service service).HasFewChildren)
    ⟨fun ⟨lists, types, services⟩ => ⟨lists, types, services⟩,
      fun few => ⟨few.lists, few.types, few.services⟩⟩

/-- What the types of a list consist of, by places: the types themselves, and the fields
and members that they list.
-/
inductive Covers (types : List Placed) : Place → Element → Prop
  | type (placed : Placed) (declared : placed ∈ types)
    : Covers types placed.place placed.definition.element
  | field (placed : Placed) (message : Message) (position : Nat) (field : Field)
    (declared : placed ∈ types) (definition : placed.definition = .message message)
    (listed : message.fields[position]? = some field)
    : Covers types (placed.place ++ [(2, position)]) (.field field)
  | member (placed : Placed) (enumeration : Enumeration) (position : Nat) (member : Member)
    (declared : placed ∈ types) (definition : placed.definition = .enumeration enumeration)
    (listed : enumeration.members[position]? = some member)
    : Covers types (placed.place ++ [(2, position)]) (.member member)

/-- The elements inside a file by their places: its types at any depth, its services, and
what these list.
-/
inductive Holds (file : File) : Place → Element → Prop
  | ofType {place : Place} {element : Element} (covered : Covers file.placed place element)
    : Holds file place element
  | service (index : Nat) (service : Service) (listed : file.services[index]? = some service)
    : Holds file [(6, index)] (.service service)
  | method (index : Nat) (service : Service) (position : Nat) (method : Method)
    (listed : file.services[index]? = some service)
    (inService : service.methods[position]? = some method)
    : Holds file [(6, index), (2, position)] (.method method)

end File

-----------------------------------------------------------------------------------------
-- Paths
-----------------------------------------------------------------------------------------

namespace Element

variable {element target : Element} {place : Place}

/-- The element at a longer place is the child of the element at the shorter one. -/
theorem at?_concat (element : Element) (place : Place) (number : Int32) (position : Nat)
    : element.at? (place ++ [(number, position)])
      = (element.at? place).bind (fun parent => parent.child? number position) := by
  induction place generalizing element with
  | nil => simp [at?]
  | cons step rest ih =>
      rw [List.cons_append, at?, at?, Option.bind_assoc]
      exact congrArg _ (funext fun child => ih child)

/-- A path leads on through a child: its first two numbers tell the field and the
position, which must not be negative, and the rest leads on from there.
-/
theorem follow?_cons_eq_some {number index : Int32} {path : List Int32}
    : element.follow? (number :: index :: path) = some place
      ↔ 0 ≤ index
        ∧ ∃ child rest,
            element.child? number index.toNatClampNeg = some child
            ∧ child.follow? path = some rest
            ∧ place = (number, index.toNatClampNeg) :: rest := by
  rw [follow?]
  split
  · rename_i negative
    simp [Int32.not_le.mpr negative]
  · rename_i positive
    simp only [Int32.not_lt.mp positive, true_and, Option.bind_eq_some_iff, Option.map_eq_some_iff,
      exists_and_left, eq_comm (a := place)]

/-- Where positions are small, the path to a place is the only one that leads there.
Witness: induction on the place, as each step takes two numbers from the path.
-/
theorem follow?_eq_some_iff (found : element.at? place = some target)
    (few : ∀ step ∈ place, step.2 < 2 ^ 31) (path : List Int32)
    : element.follow? path = some place ↔ path = place.path := by
  induction place generalizing element path with
  | nil =>
      match path with
      | [] => simp [follow?, Place.path]
      | [_] => simp [follow?, Place.path]
      | number :: index :: rest => simp [follow?_cons_eq_some, Place.path]
  | cons step rest ih =>
      obtain ⟨number, position⟩ := step
      obtain ⟨child, isChild, below⟩ := Option.bind_eq_some_iff.mp found
      obtain ⟨here, later⟩ := List.forall_mem_cons.mp few
      match path with
      | [] => simp [follow?, Place.path]
      | [_] => simp [follow?, Place.path]
      | other :: index :: further =>
          have spelled
              : other :: index :: further = Place.path ((number, position) :: rest)
                ↔ other = number ∧ index = Int32.ofNat position ∧ further = Place.path rest := by
            simp [Place.path]
          rw [follow?_cons_eq_some, spelled]
          constructor
          · rintro ⟨positive, reached, _, isReached, follows, same⟩
            obtain ⟨step, rfl⟩ := List.cons.inj same
            obtain ⟨rfl, rfl⟩ := Prod.mk.inj step
            obtain rfl := Option.some.inj (isChild.symm.trans isReached)
            exact ⟨rfl, (Int32.ofNat_toNatClampNeg index positive).symm,
              (ih below later further).mp follows⟩
          · rintro ⟨rfl, rfl, same⟩
            have positive : 0 ≤ Int32.ofNat position := by
              rw [Int32.le_iff_toInt_le, Int32.toInt_ofNat_of_lt here]
              exact Int.natCast_nonneg position
            rw [Int32.toNatClampNeg_ofNat_of_lt here]
            exact ⟨positive, child, rest, isChild, (ih below later further).mpr same, rfl⟩

-----------------------------------------------------------------------------------------
-- Children
-----------------------------------------------------------------------------------------

variable {number : Int32} {position : Nat} {child : Element}

/-- The children of a file that comments may be about are its messages, enums and
services.
-/
theorem child?_file {held : File}
    : (file held).child? number position = some child
      ↔ (number = 4 ∧ ∃ inner, held.messages[position]? = some inner ∧ message inner = child)
        ∨ (number = 5
          ∧ ∃ inner, held.enumerations[position]? = some inner ∧ enumeration inner = child)
        ∨ (number = 6
          ∧ ∃ inner, held.services[position]? = some inner ∧ service inner = child) := by
  rw [child?]
  split_ifs <;> simp_all [Option.map_eq_some_iff]

/-- The children of a message are its fields, the messages and the enums inside it. -/
theorem child?_message {held : Message}
    : (message held).child? number position = some child
      ↔ (number = 2 ∧ ∃ inner, held.fields[position]? = some inner ∧ field inner = child)
        ∨ (number = 3 ∧ ∃ inner, held.nested[position]? = some inner ∧ message inner = child)
        ∨ (number = 4
          ∧ ∃ inner, held.enumerations[position]? = some inner ∧ enumeration inner = child) := by
  rw [child?]
  split_ifs <;> simp_all [Option.map_eq_some_iff]

/-- The children of an enum are its members. -/
theorem child?_enumeration {held : Enumeration}
    : (enumeration held).child? number position = some child
      ↔ number = 2 ∧ ∃ inner, held.members[position]? = some inner ∧ member inner = child := by
  rw [child?]
  split_ifs <;> simp_all [Option.map_eq_some_iff]

/-- The children of a service are its methods. -/
theorem child?_service {held : Service}
    : (service held).child? number position = some child
      ↔ number = 2 ∧ ∃ inner, held.methods[position]? = some inner ∧ method inner = child := by
  rw [child?]
  split_ifs <;> simp_all [Option.map_eq_some_iff]

/-- Below an element without children there is nothing but the element. -/
theorem eq_of_at? (childless : ∀ number position, element.child? number position = none)
    (found : element.at? place = some target)
    : place = [] ∧ target = element := by
  cases place with
  | nil => exact ⟨rfl, (Option.some.inj found).symm⟩
  | cons step rest => simp [at?, childless] at found

end Element

-----------------------------------------------------------------------------------------
-- The declared types are at their places
-----------------------------------------------------------------------------------------

/-- The members of a list at their positions are the first one and those of the rest, one
further on.
-/
theorem exists_getElem?_cons {α : Type} {first : α} {rest : List α} {p : Nat → α → Prop}
    : (∃ position member, (first :: rest)[position]? = some member ∧ p position member)
      ↔ p 0 first ∨ ∃ position member, rest[position]? = some member ∧ p (position + 1) member := by
  constructor
  · rintro ⟨position, member, listed, held⟩
    cases position with
    | zero =>
        obtain rfl := Option.some.inj listed
        exact Or.inl held
    | succ position => exact Or.inr ⟨position, member, listed, held⟩
  · rintro (held | ⟨position, member, listed, held⟩)
    · exact ⟨0, first, rfl, held⟩
    · exact ⟨position + 1, member, listed, held⟩

/-- An enum in a sequence is placed at its position. Induction on the enums, with the
position of the first one.
-/
theorem Enumeration.mem_placedAll {outer : List String} {around : Place} {number : Int32}
    {start : Nat} {enumerations : List Enumeration} {placed : Placed}
    : placed ∈ Enumeration.placedAll outer around number start enumerations
      ↔ ∃ position, ∃ enumeration : Enumeration,
          enumerations[position]? = some enumeration
          ∧ placed = enumeration.placed outer (around ++ [(number, start + position)]) := by
  induction enumerations generalizing start with
  | nil => simp [placedAll]
  | cons first rest ih =>
      rw [placedAll, List.mem_cons, ih, exists_getElem?_cons]
      simp only [Nat.add_zero, Nat.add_assoc, Nat.add_comm 1]

/-- What is placed for a sequence of messages is placed for one of them, at its position.
Induction on the messages.
-/
theorem Message.mem_placedAll {outer : List String} {around : Place} {number : Int32}
    {start : Nat} {messages : List Message} {placed : Placed}
    : placed ∈ Message.placedAll outer around number start messages
      ↔ ∃ position message,
          messages[position]? = some message
          ∧ placed ∈ Message.placed outer (around ++ [(number, start + position)]) message := by
  induction messages generalizing start with
  | nil => simp [placedAll]
  | cons first rest ih =>
      rw [placedAll, List.mem_append, ih, exists_getElem?_cons]
      simp only [Nat.add_zero, Nat.add_assoc, Nat.add_comm 1]

/-- The types in a message are the message itself, its enums, and the types in its
messages. The lists are read with the position that each of their members has.
-/
theorem Message.mem_placed {outer : List String} {place : Place} {message : Message}
    {placed : Placed}
    : placed ∈ Message.placed outer place message
      ↔ placed
          = {
            names := outer ++ [message.plainName]
            definition := .message message
            place
          }
        ∨ (∃ position, ∃ enumeration : Enumeration,
            message.enumerations[position]? = some enumeration
            ∧ placed
              = enumeration.placed (outer ++ [message.plainName]) (place ++ [(4, position)]))
        ∨ ∃ position inner,
            message.nested[position]? = some inner
            ∧ placed
              ∈ Message.placed (outer ++ [message.plainName]) (place ++ [(3, position)]) inner := by
  obtain ⟨name, fields, nested, enumerations, mapEntry⟩ := message
  rw [Message.placed, List.mem_cons, List.mem_append, Enumeration.mem_placedAll,
    Message.mem_placedAll]
  simp only [Nat.zero_add]
  rfl

/-- Whether messages hand something on to the messages in them, from which a property of
the types declared there follows. What is handed on may depend on the names around a
message and its place.
-/
structure Message.HandsOn (I : List String → Place → Message → Prop) (p : Placed → Prop)
    : Prop where
  itself
    : ∀ {outer : List String} {place : Place} {message : Message},
        I outer place message
        → p { names := outer ++ [message.plainName], definition := .message message, place }
  enums
    : ∀ {outer : List String} {place : Place} {message : Message} {position : Nat}
        {enumeration : Enumeration},
        I outer place message
        → message.enumerations[position]? = some enumeration
        → p (enumeration.placed (outer ++ [message.plainName]) (place ++ [(4, position)]))
  deeper
    : ∀ {outer : List String} {place : Place} {message inner : Message} {position : Nat},
        I outer place message
        → message.nested[position]? = some inner
        → I (outer ++ [message.plainName]) (place ++ [(3, position)]) inner

section Induction

variable {I : List String → Place → Message → Prop} {p : Placed → Prop}

mutual
/-- All types in a message have what follows from what the messages hand on, at any depth.
-/
theorem Message.forall_mem_placed (handsOn : Message.HandsOn I p)
    : ∀ (message : Message) (outer : List String) (place : Place),
        I outer place message → ∀ placed ∈ Message.placed outer place message, p placed
  | ⟨name, fields, nested, enumerations, mapEntry⟩ => by
      intro outer place here placed member
      rcases Message.mem_placed.mp member with
        rfl | ⟨position, enumeration, listed, rfl⟩ | ⟨position, inner, listed, inside⟩
      · exact handsOn.itself here
      · exact handsOn.enums here listed
      · exact forall_mem_placedAll handsOn nested inner (List.mem_of_getElem? listed) _ _
          (handsOn.deeper here listed) placed inside

/-- What is handed on from messages to what they hold is true of all that is placed for a
sequence of them. This goes along with the statement for one message.
-/
theorem Message.forall_mem_placedAll (handsOn : Message.HandsOn I p)
    : ∀ messages : List Message, ∀ message ∈ messages, ∀ (outer : List String) (place : Place),
        I outer place message → ∀ placed ∈ Message.placed outer place message, p placed
  | [] => nofun
  | first :: rest => by
      intro message member
      rcases List.mem_cons.mp member with same | later
      · rw [same]
        exact forall_mem_placed handsOn first
      · exact forall_mem_placedAll handsOn rest message later
end

end Induction

namespace File

variable {file : File} {types : List Placed} {outer : List String} {place rest : Place}
  {element : Element}

theorem at?_concat (file : File) (place : Place) (number : Int32) (position : Nat)
    : file.at? (place ++ [(number, position)])
      = (file.at? place).bind (fun parent => parent.child? number position) :=
  Element.at?_concat ..

/-- If a message is at a place of a file, so are the types in it at theirs. Witness: being
at its place is handed on from a message to its enums and to its messages.
-/
theorem at?_of_mem_placed (message : Message) (outer : List String) (place : Place)
    (here : file.at? place = some (.message message))
    : ∀ placed ∈ Message.placed outer place message,
        file.at? placed.place = some placed.definition.element := by
  have handsOn
      : Message.HandsOn (fun _ place message => file.at? place = some (.message message))
          (fun placed => file.at? placed.place = some placed.definition.element) := by
    constructor
    · exact fun here => here
    · intro outer place message position enumeration here listed
      have reached : file.at? (place ++ [(4, position)]) = some (.enumeration enumeration) := by
        rw [at?_concat, here, Option.bind_some, Element.child?_message]
        exact Or.inr (Or.inr ⟨rfl, enumeration, listed, rfl⟩)
      exact reached
    · intro outer place message inner position here listed
      rw [at?_concat, here, Option.bind_some, Element.child?_message]
      exact Or.inr (Or.inl ⟨rfl, inner, listed, rfl⟩)
  exact Message.forall_mem_placed handsOn message outer place here

/-- The types of a file are its enums and the types in its messages. -/
theorem mem_placed {placed : Placed}
    : placed ∈ file.placed
      ↔ (∃ position, ∃ enumeration : Enumeration,
            file.enumerations[position]? = some enumeration
            ∧ placed = enumeration.placed [] [(5, position)])
        ∨ ∃ position message,
            file.messages[position]? = some message
            ∧ placed ∈ Message.placed [] [(4, position)] message := by
  rw [File.placed, List.mem_append, Enumeration.mem_placedAll, Message.mem_placedAll]
  simp only [List.nil_append, Nat.zero_add]
  rfl

/-- The types that a file declares are at their places, those of its enums at once and
those of its messages with what is inside them.
-/
theorem at?_placed {placed : Placed} (declared : placed ∈ file.placed)
    : file.at? placed.place = some placed.definition.element := by
  rcases mem_placed.mp declared with
    ⟨position, enumeration, listed, rfl⟩ | ⟨position, message, listed, inside⟩
  · have reached : file.at? [(5, position)] = some (.enumeration enumeration) := by
      simp [at?, Element.at?, Element.child?, listed]
    exact reached
  · refine at?_of_mem_placed message [] [(4, position)] ?_ placed inside
    simp [at?, Element.at?, Element.child?, listed]

/-- What is at a place below an enum is the enum or one of its members, which have nothing
below them.
-/
theorem covers_enumeration {enumeration : Enumeration}
    (declared : enumeration.placed outer place ∈ types)
    (found : (Element.enumeration enumeration).at? rest = some element)
    : Covers types (place ++ rest) element := by
  cases rest with
  | nil =>
      obtain rfl := Option.some.inj found
      rw [List.append_nil]
      exact .type (enumeration.placed outer place) declared
  | cons step others =>
      obtain ⟨number, position⟩ := step
      obtain ⟨child, isChild, below⟩ := Option.bind_eq_some_iff.mp found
      obtain ⟨rfl, member, listed, rfl⟩ := Element.child?_enumeration.mp isChild
      obtain ⟨rfl, rfl⟩ := Element.eq_of_at? (fun _ _ => rfl) below
      exact .member (enumeration.placed outer place) enumeration position member declared rfl listed

/-- What is at a place below a message is a type in it, or is listed by such a type.
Witness: induction on the place, whose first step leads to a field, a message or an enum.
-/
theorem covers_message {message : Message} (declared : Message.placed outer place message ⊆ types)
    (found : (Element.message message).at? rest = some element)
    : Covers types (place ++ rest) element := by
  -- The induction is on the place: its first step leads to a field, a message or an enum.
  induction rest generalizing message outer place with
  | nil =>
      obtain rfl := Option.some.inj found
      rw [List.append_nil]
      exact .type _ (declared (Message.mem_placed.mpr (Or.inl rfl)))
  | cons step others ih =>
      obtain ⟨number, position⟩ := step
      obtain ⟨child, isChild, below⟩ := Option.bind_eq_some_iff.mp found
      rcases Element.child?_message.mp isChild with
        ⟨rfl, field, listed, rfl⟩ | ⟨rfl, inner, listed, rfl⟩ | ⟨rfl, enumeration, listed, rfl⟩
      · obtain ⟨rfl, rfl⟩ := Element.eq_of_at? (fun _ _ => rfl) below
        exact .field _ message position field (declared (Message.mem_placed.mpr (Or.inl rfl))) rfl
          listed
      · have included
            : Message.placed (outer ++ [message.plainName]) (place ++ [(3, position)]) inner
              ⊆ types :=
          fun placed inside =>
            declared (Message.mem_placed.mpr (Or.inr (Or.inr ⟨position, inner, listed, inside⟩)))
        rw [List.append_cons]
        exact ih included below
      · have included
            : enumeration.placed (outer ++ [message.plainName]) (place ++ [(4, position)])
              ∈ types :=
          declared (Message.mem_placed.mpr (Or.inr (Or.inl ⟨position, enumeration, listed, rfl⟩)))
        rw [List.append_cons]
        exact covers_enumeration included below

/-- What is at a place in a file is one of the elements that the file holds. Witness: the
kind of list that the first step leads into.
-/
theorem holds_of_at? (inside : place ≠ []) (found : file.at? place = some element)
    : file.Holds place element := by
  cases place with
  | nil => exact absurd rfl inside
  | cons step rest =>
      obtain ⟨number, position⟩ := step
      obtain ⟨child, isChild, below⟩ := Option.bind_eq_some_iff.mp found
      rcases Element.child?_file.mp isChild with
        ⟨rfl, message, listed, rfl⟩ | ⟨rfl, enumeration, listed, rfl⟩ | ⟨rfl, service, listed, rfl⟩
      · have included : Message.placed [] [(4, position)] message ⊆ file.placed :=
          fun placed inMessage =>
            mem_placed.mpr (Or.inr ⟨position, message, listed, inMessage⟩)
        exact .ofType (covers_message included below)
      · have included : enumeration.placed [] [(5, position)] ∈ file.placed :=
          mem_placed.mpr (Or.inl ⟨position, enumeration, listed, rfl⟩)
        exact .ofType (covers_enumeration included below)
      · cases rest with
        | nil =>
            obtain rfl := Option.some.inj below
            exact .service position service listed
        | cons step others =>
            obtain ⟨number, index⟩ := step
            obtain ⟨child, isChild, below⟩ := Option.bind_eq_some_iff.mp below
            obtain ⟨rfl, method, inService, rfl⟩ := Element.child?_service.mp isChild
            obtain ⟨rfl, rfl⟩ := Element.eq_of_at? (fun _ _ => rfl) below
            exact .method position service index method listed inService

/-- The elements that a file holds are at their places. Witness: the ways in which a file
holds an element, each one step below a place that is settled.
-/
theorem at?_of_holds (held : file.Holds place element)
    : file.at? place = some element := by
  cases held with
  | ofType covered =>
      cases covered with
      | type placed declared => exact at?_placed declared
      | field placed message position field declared definition listed =>
          rw [at?_concat, at?_placed declared, Option.bind_some, definition]
          exact Element.child?_message.mpr (Or.inl ⟨rfl, field, listed, rfl⟩)
      | member placed enumeration position member declared definition listed =>
          rw [at?_concat, at?_placed declared, Option.bind_some, definition]
          exact Element.child?_enumeration.mpr ⟨rfl, member, listed, rfl⟩
  | service index service listed => simp [at?, Element.at?, Element.child?, listed]
  | method index service position method listed inService =>
      simp [at?, Element.at?, Element.child?, listed, inService]

-----------------------------------------------------------------------------------------
-- Few siblings
-----------------------------------------------------------------------------------------

/-- No position in the lists of an element is too large, as each list has few members. -/
theorem lt_of_child? {parent child : Element} (few : parent.HasFewChildren)
    {number : Int32} {position : Nat} (found : parent.child? number position = some child)
    : position < 2 ^ 31 := by
  have small {α : Type} {inner : α} {list : List α} (few : list.length < 2 ^ 31)
      (listed : list[position]? = some inner)
      : position < 2 ^ 31 :=
    Nat.lt_trans (List.getElem?_eq_some_iff.mp listed).1 few
  cases parent with
  | file held =>
      rcases Element.child?_file.mp found with
        ⟨-, _, listed, -⟩ | ⟨-, _, listed, -⟩ | ⟨-, _, listed, -⟩
      · exact small few.1 listed
      · exact small few.2.1 listed
      · exact small few.2.2 listed
  | message held =>
      rcases Element.child?_message.mp found with
        ⟨-, _, listed, -⟩ | ⟨-, _, listed, -⟩ | ⟨-, _, listed, -⟩
      · exact small few.1 listed
      · exact small few.2.1 listed
      · exact small few.2.2 listed
  | enumeration held =>
      obtain ⟨-, _, listed, -⟩ := Element.child?_enumeration.mp found
      exact small few listed
  | service held =>
      obtain ⟨-, _, listed, -⟩ := Element.child?_service.mp found
      exact small few listed
  | field held => cases found
  | member held => cases found
  | method held => cases found

/-- Where a file has few siblings on each level, so has every element in it. The elements
that a file holds are the cases.
-/
theorem hasFewChildren (few : file.HasFewSiblings) (found : file.at? place = some element)
    : element.HasFewChildren := by
  by_cases inside : place = []
  · subst inside
    obtain rfl := Option.some.inj found
    exact few.lists
  · cases holds_of_at? inside found with
    | ofType covered =>
        cases covered with
        | type placed declared =>
            refine few.types placed.toDeclared ?_
            rw [← File.map_placed]
            exact List.mem_map_of_mem declared
        | field => trivial
        | member => trivial
    | service index service listed => exact few.services service (List.mem_of_getElem? listed)
    | method => trivial

/-- On the way to an element no position is too large, by induction from the last step to
the first.
-/
theorem lt_of_mem_place (few : file.HasFewSiblings) (found : file.at? place = some element)
    : ∀ step ∈ place, step.2 < 2 ^ 31 := by
  induction place using List.reverseRecOn generalizing element with
  | nil => simp
  | append_singleton before last ih =>
      obtain ⟨number, position⟩ := last
      rw [at?_concat] at found
      obtain ⟨parent, reached, isChild⟩ := Option.bind_eq_some_iff.mp found
      refine List.forall_mem_append.mpr ⟨ih reached, List.forall_mem_singleton.mpr ?_⟩
      exact lt_of_child? (hasFewChildren few reached) isChild

-----------------------------------------------------------------------------------------
-- Comments
-----------------------------------------------------------------------------------------

/-- What the cursor at a place finds is what documents the element there. Both take the
last location that leads to it, by its path or by following it.
-/
theorem text_description_at (few : file.HasFewSiblings) (found : file.at? place = some element)
    : ((Cursor.root file).at place).description.text = file.docAt place := by
  have leads (location : Location)
      : ((Element.file file).follow? location.path == some place)
        = (location.path == place.path) := by
    rw [Bool.eq_iff_iff, beq_iff_eq, beq_iff_eq]
    exact Element.follow?_eq_some_iff found (lt_of_mem_place few found) location.path
  rw [docAt, locationAt?, List.getLast?_filter]
  simp only [leads, Cursor.description, Cursor.descriptionAt, Cursor.at, Cursor.root,
    List.nil_append]
  split
  · rename_i location last
    rw [last, Option.bind_some]
  · rename_i none
    rw [none]
    rfl

/-- The comment that a cursor looks up for a child is the one documented at the place of
the child.
-/
theorem text_lookup_at (few : file.HasFewSiblings) {number : Int32} {position : Nat}
    (found : file.at? (place ++ [(number, position)]) = some element)
    : (((Cursor.root file).at place).lookup number position).text
      = file.docAt (place ++ [(number, position)]) := by
  rw [← text_description_at few found, Cursor.at_concat]
  rfl

end File

end ProtobufTypeScript.Schema
