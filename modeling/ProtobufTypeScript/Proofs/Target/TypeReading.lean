import ProtobufTypeScript.Proofs.Target.Marks
import ProtobufTypeScript.Proofs.Text.Casing
import ProtobufTypeScript.Target.TypeExpr

/-!
Types read back from their text. A scan from the start to the end of the text of a type finds the
type again, up to what is not written: how unions are nested in each other, whether a union has a
single member, and whether a name is that of a symbol. Types of one text are therefore the same but
for these.
-/

namespace ProtobufTypeScript.Target.TypeExpr

-----------------------------------------------------------------------------------------
-- Types up to what is not written
-----------------------------------------------------------------------------------------

/-- The signs that a name ends at in the text of a type. -/
def signs : List Char :=
  [' ', '|', '(', ')', '[', ']', '\x7b', '\x7d', '<', '>', ',']

/-- Whether a text can be read as one name. -/
def IsName (text : String) : Prop :=
  text ≠ "" ∧ ∀ c ∈ text.toList, c ∉ signs

/-- Identifiers hold none of the signs that types are written with. -/
theorem isName_of_isIdentifier {text : String} (identifier : Text.isIdentifier text = true)
    : IsName text := by
  refine ⟨Text.ne_empty_of_isIdentifier identifier, fun c member sign => ?_⟩
  have apart : signs.all (fun c => !Text.isWordPart c) = true := by decide
  have none := List.all_eq_true.mp apart c sign
  rw [Text.isWordPart_of_isIdentifier identifier c member] at none
  cases none

/-- Whether a type is a name, be it that of a symbol of the unit. -/
def IsNamed : TypeExpr → Prop
  | .simple name => IsName name
  | .symbol referent => referent.origin = .own ∧ IsName referent.name
  | _ => False

/-- Types that are built from names. A union has members, and the base of a generic type
is a name.
-/
inductive IsRegular : TypeExpr → Prop
  | named {type : TypeExpr} (named : type.IsNamed) : IsRegular type
  | union {members : List TypeExpr} (some : members ≠ [])
    (each : ∀ member ∈ members, IsRegular member)
    : IsRegular (.union members)
  | array {element : TypeExpr} (inner : IsRegular element) : IsRegular (.array element)
  | index {key value : TypeExpr} (left : IsRegular key) (right : IsRegular value)
    : IsRegular (.index key value)
  | generic {base : TypeExpr} {arguments : List TypeExpr} (named : base.IsNamed)
    (each : ∀ argument ∈ arguments, IsRegular argument)
    : IsRegular (.generic base arguments)

/-- The members of a union; another type is its own only member. -/
def members : TypeExpr → List TypeExpr
  | .union members => members
  | type => [type]

/-- The union of types, which is the type itself if there is just one. -/
def ofMembers : List TypeExpr → TypeExpr
  | [type] => type
  | types => .union types

mutual
/-- A type with the unions in unions flattened, each union of a single member replaced by
that member, and each symbol of the unit by its name.
-/
def normal : TypeExpr → TypeExpr
  | .simple name => .simple name
  | .symbol referent =>
      if referent.origin = .own then .simple referent.name else .symbol referent
  | .union types => ofMembers (normalMembers types)
  | .array element => .array (normal element)
  | .index key value => .index (normal key) (normal value)
  | .generic base arguments => .generic (normal base) (normalAll arguments)

/-- The members of the types of a union, one after the other. -/
def normalMembers : List TypeExpr → List TypeExpr
  | [] => []
  | type :: rest => (normal type).members ++ normalMembers rest

/-- The types of a list one by one. -/
def normalAll : List TypeExpr → List TypeExpr
  | [] => []
  | type :: rest => normal type :: normalAll rest
end

section Normal

variable {type : TypeExpr} {types : List TypeExpr}

theorem IsNamed.isUnion_eq (named : type.IsNamed)
    : type.isUnion = false := by
  cases type with
  | union types => cases named
  | _ => rfl

/-- A type that is no union is its only member. -/
theorem members_of_isUnion (plain : type.isUnion = false)
    : type.members = [type] := by
  cases type with
  | union types => cases plain
  | _ => rfl

/-- Bringing a type into its normal form makes no union of it, unless it is one. -/
theorem isUnion_normal (plain : type.isUnion = false)
    : type.normal.isUnion = false := by
  cases type with
  | symbol referent =>
      rw [normal]
      split <;> rfl
  | union types => cases plain
  | _ => rfl

/-- A type that is no union is its own only member, also in its normal form. -/
theorem members_normal (plain : type.isUnion = false)
    : type.normal.members = [type.normal] :=
  members_of_isUnion (isUnion_normal plain)

/-- The members of a union are the types that it was made of, if none of them is a union.
-/
theorem members_ofMembers (plain : ∀ type ∈ types, type.isUnion = false)
    : (ofMembers types).members = types := by
  unfold ofMembers
  split
  · exact members_of_isUnion (plain _ List.mem_cons_self)
  · rfl

/-- The members of types in normal form are those of each of them. -/
theorem mem_normalMembers
    : type ∈ normalMembers types ↔ ∃ outer ∈ types, type ∈ outer.normal.members := by
  induction types with
  | nil => simp [normalMembers]
  | cons first rest ih => simp [normalMembers, ih]

namespace IsRegular

/-- No member of a type in normal form is a union, by induction on the type: members that
are unions have been put in place of themselves.
-/
theorem isUnion_of_mem (regular : type.IsRegular)
    : ∀ member ∈ type.normal.members, member.isUnion = false := by
  have single {type : TypeExpr} (plain : type.isUnion = false)
      : ∀ member ∈ type.normal.members, member.isUnion = false := by
    rw [members_normal plain]
    exact List.forall_mem_singleton.mpr (isUnion_normal plain)
  induction regular with
  | named named => exact single named.isUnion_eq
  | @union types some each ih =>
      have plain : ∀ member ∈ normalMembers types, member.isUnion = false := by
        intro member inTypes
        obtain ⟨outer, inUnion, inOuter⟩ := mem_normalMembers.mp inTypes
        exact ih outer inUnion member inOuter
      rw [normal, members_ofMembers plain]
      exact plain
  | array inner ih => exact single rfl
  | index left right ihLeft ihRight => exact single rfl
  | generic named each ih => exact single rfl

/-- The normal form of a union has the members of its members' normal forms, so that
unions inside of unions disappear.
-/
theorem members_normal_union (each : ∀ member ∈ types, IsRegular member)
    : (normal (.union types)).members = normalMembers types := by
  rw [normal, members_ofMembers]
  intro member inTypes
  obtain ⟨outer, inUnion, inOuter⟩ := mem_normalMembers.mp inTypes
  exact (each outer inUnion).isUnion_of_mem member inOuter

/-- A type in normal form is the union of its members. Witness: whether it is a union; a
single member stands for itself.
-/
theorem ofMembers_members (regular : type.IsRegular)
    : ofMembers type.normal.members = type.normal := by
  cases kind : type.isUnion with
  | false =>
      rw [members_normal kind]
      rfl
  | true =>
      cases regular with
      | named named => exact absurd kind (by rw [named.isUnion_eq]; exact Bool.false_ne_true)
      | union some each => rw [members_normal_union each, normal]
      | array inner => cases kind
      | index left right => cases kind
      | generic named each => cases kind

/-- A regular type has at least one member in its normal form. Induction on the type. -/
theorem members_ne_nil (regular : type.IsRegular)
    : type.normal.members ≠ [] := by
  have single {type : TypeExpr} (plain : type.isUnion = false) : type.normal.members ≠ [] := by
    rw [members_normal plain]
    exact List.cons_ne_nil _ _
  induction regular with
  | named named => exact single named.isUnion_eq
  | @union types some each ih =>
      obtain ⟨first, rest, rfl⟩ := List.exists_cons_of_ne_nil some
      rw [members_normal_union each, normalMembers]
      exact List.append_ne_nil_of_left_ne_nil (ih first List.mem_cons_self) _
  | array inner ih => exact single rfl
  | index left right ihLeft ihRight => exact single rfl
  | generic named each ih => exact single rfl

end IsRegular

end Normal

-----------------------------------------------------------------------------------------
-- The scan
-----------------------------------------------------------------------------------------

/-- What a type stands in while its text is read: what was read before, the last one
first.
-/
inductive Frame where
  /-- Parentheses. -/
  | group (before : List TypeExpr)
  /-- The brackets for the keys of an index type. -/
  | key (before : List TypeExpr)
  /-- The rest of an index type, behind its keys. -/
  | value (before : List TypeExpr) (key : TypeExpr)
  /-- The arguments of a generic type. -/
  | argument (before : List TypeExpr) (base : TypeExpr) (arguments : List TypeExpr)

/-- What the scan waits for. -/
inductive Mode where
  /-- A type. -/
  | start
  /-- What follows a type, or more of its name. -/
  | within
  /-- The end of the brackets behind the element of an array. -/
  | suffix
  /-- The colon in front of a type. -/
  | colon

/-- How far a text has been read: what is open, the members that the innermost union has
so far, the last one first, and what comes next.
-/
structure Reading where
  frames : List Frame
  types : List TypeExpr
  mode : Mode

namespace Reading

/-- The scan takes a character of a name. -/
def spell (reading : Reading) (c : Char) : Reading :=
  match reading.mode, reading.types with
  | .within, .simple name :: before =>
      { reading with types := .simple (name.push c) :: before }
  | _, before =>
      { reading with types := .simple (String.singleton c) :: before, mode := .within }

/-- The scan leaves what is innermost, with the type that was read there, if there was
one.
-/
def close (reading : Reading) (c : Char) : Reading :=
  let type := ofMembers reading.types.reverse
  match reading.frames with
  | .group before :: outer => ⟨outer, type :: before, .within⟩
  | .key before :: outer => ⟨.value before type :: outer, [], .colon⟩
  | .value before key :: outer => ⟨outer, .index key type :: before, .within⟩
  | .argument before base arguments :: outer =>
      let all := if reading.types.isEmpty then arguments else arguments ++ [type]
      if c = ',' then ⟨.argument before base all :: outer, [], .start⟩
      else ⟨outer, .generic base all :: before, .within⟩
  | [] => reading

/-- The scan takes a character. Texts that are not those of types are of no interest here.
-/
def step (reading : Reading) (c : Char) : Reading :=
  match reading.mode, reading.types with
  | .colon, _ => if c = ':' then { reading with mode := .start } else reading
  | .suffix, type :: before => { reading with types := .array type :: before, mode := .within }
  | _, types =>
      match c with
      | ' ' => reading
      | '|' => { reading with mode := .start }
      | '(' => ⟨.group types :: reading.frames, [], .start⟩
      | '\x7b' => ⟨.key types :: reading.frames, [], .colon⟩
      | '[' => { reading with mode := .suffix }
      | '<' =>
          match types with
          | base :: before => ⟨.argument before base [] :: reading.frames, [], .start⟩
          | [] => reading
      | ')' => reading.close c
      | ']' => reading.close c
      | '\x7d' => reading.close c
      | ',' => reading.close c
      | '>' => reading.close c
      | c => reading.spell c

/-- The scan takes a text. -/
def run (reading : Reading) (text : List Char) : Reading :=
  text.foldl step reading

/-- Reading a text goes on where the reading of its first part ended. -/
theorem run_append (reading : Reading) (first second : List Char)
    : reading.run (first ++ second) = (reading.run first).run second :=
  List.foldl_append

variable {frames : List Frame} {types : List TypeExpr}

/-- A character that is no sign of types is added to the name that is being read. -/
theorem step_of_not_mem_signs {mode : Mode} {c : Char} (plain : c ∉ signs)
    (ready : mode = .start ∨ mode = .within)
    : step ⟨frames, types, mode⟩ c = spell ⟨frames, types, mode⟩ c := by
  simp only [signs, List.mem_cons, List.not_mem_nil, not_or] at plain
  rcases ready with rfl | rfl
  · unfold step
    simp [plain]
  · unfold step
    simp [plain]

/-- The rest of a name is added to what there is of it. -/
theorem run_within (name : String) {rest : List Char} (plain : ∀ c ∈ rest, c ∉ signs)
    : run ⟨frames, .simple name :: types, .within⟩ rest
      = ⟨frames, .simple (name ++ String.ofList rest) :: types, .within⟩ := by
  induction rest generalizing name with
  | nil => simp [run]
  | cons c rest ih =>
      rw [List.forall_mem_cons] at plain
      have longer : name.push c ++ String.ofList rest = name ++ String.ofList (c :: rest) := by
        rw [← String.toList_inj]
        simp
      rw [run, List.foldl_cons, step_of_not_mem_signs plain.1 (.inr rfl), ← longer]
      exact ih (name.push c) plain.2

/-- Reading a name from the start of a type gives the type of that name. -/
theorem run_name {name : String} (known : IsName name)
    : run ⟨frames, types, .start⟩ name.toList = ⟨frames, .simple name :: types, .within⟩ := by
  obtain ⟨some, plain⟩ := known
  obtain ⟨c, rest, chars⟩ := List.exists_cons_of_ne_nil (mt String.toList_eq_nil_iff.mp some)
  rw [chars, List.forall_mem_cons] at plain
  have whole : String.singleton c ++ String.ofList rest = name := by
    rw [← String.toList_inj, chars]
    simp
  rw [chars, run, List.foldl_cons, step_of_not_mem_signs plain.1 (.inl rfl), ← whole]
  exact run_within (String.singleton c) plain.2

/-- Whether the scan reads the text of a type, wherever it stands, as the members of its
normal form.
-/
def Reads (type : TypeExpr) : Prop :=
  ∀ frames types,
    run ⟨frames, types, .start⟩ (Snippet.written type.snippet)
      = ⟨frames, type.normal.members.reverse ++ types, .within⟩

/-- A type that is a name is read back, and so is a symbol: the reader takes its
characters until another one comes.
-/
theorem reads_of_isNamed {type : TypeExpr} (named : type.IsNamed)
    : Reads type := by
  intro frames types
  cases type with
  | simple name =>
      have written : Snippet.written (TypeExpr.simple name).snippet = name.toList := by
        simp [snippet, Snippet.written]
      rw [written, run_name named]
      rfl
  | symbol referent =>
      obtain ⟨own, known⟩ := named
      have here : referent.isFromModule = false := by rw [Symbol.isFromModule, own]; rfl
      have written : Snippet.written (TypeExpr.symbol referent).snippet = referent.name.toList := by
        simp [snippet, Snippet.written, Symbol.mark_of_local here]
      rw [written, run_name known, normal, if_pos own]
      rfl
  | union types => cases named
  | array element => cases named
  | index key value => cases named
  | generic base arguments => cases named

/-- The members of a union are read one after the other, by induction on them with the
types read before generalised.
-/
theorem run_union {members : List TypeExpr} (some : members ≠ [])
    (each : ∀ member ∈ members, Reads member)
    : run ⟨frames, types, .start⟩ (Snippet.written (joined " | " members))
      = ⟨frames, (normalMembers members).reverse ++ types, .within⟩ := by
  induction members generalizing types with
  | nil => exact absurd rfl some
  | cons first rest ih =>
      rw [List.forall_mem_cons] at each
      cases rest with
      | nil => simpa [joined, normalMembers] using each.1 frames types
      | cons second others =>
          have written
              : Snippet.written (joined " | " (first :: second :: others))
                = Snippet.written first.snippet ++ " | ".toList
                  ++ Snippet.written (joined " | " (second :: others)) := by
            simp [joined, Snippet.written]
          have between (read : List TypeExpr)
              : run ⟨frames, read, .within⟩ " | ".toList = ⟨frames, read, .start⟩ :=
            rfl
          have flattened
              : normalMembers (first :: second :: others)
                = first.normal.members ++ normalMembers (second :: others) := by
            rw [normalMembers]
          rw [written, run_append, run_append, each.1, between,
            ih (List.cons_ne_nil _ _) each.2, flattened, List.reverse_append, List.append_assoc]

/-- The arguments of a generic type are read one after the other, by induction on them
with those that are done generalised.
-/
theorem run_arguments {before : List TypeExpr} {base : TypeExpr} (done : List TypeExpr)
    {arguments : List TypeExpr} (regular : ∀ argument ∈ arguments, IsRegular argument)
    (each : ∀ argument ∈ arguments, Reads argument)
    : run ⟨.argument before base done :: frames, [], .start⟩
        (Snippet.written (joined ", " arguments) ++ ['>'])
      = ⟨frames, .generic base (done ++ normalAll arguments) :: before, .within⟩ := by
  induction arguments generalizing done with
  | nil => simp [joined, Snippet.written, normalAll, run, step, close]
  | cons first rest ih =>
      rw [List.forall_mem_cons] at regular each
      have some := regular.1.members_ne_nil
      have type := regular.1.ofMembers_members
      cases rest with
      | nil =>
          have ended
              : run ⟨.argument before base done :: frames, first.normal.members.reverse, .within⟩
                  ['>']
                = ⟨frames, .generic base (done ++ [first.normal]) :: before, .within⟩ := by
            simp [run, step, close, some, type]
          rw [joined, run_append, each.1, List.append_nil, ended]
          rfl
      | cons second others =>
          have between
              : run ⟨.argument before base done :: frames, first.normal.members.reverse, .within⟩
                  ", ".toList
                = ⟨.argument before base (done ++ [first.normal]) :: frames, [], .start⟩ := by
            simp [run, step, close, some, type]
          have written
              : Snippet.written (joined ", " (first :: second :: others)) ++ ['>']
                = Snippet.written first.snippet
                  ++ (", ".toList
                    ++ (Snippet.written (joined ", " (second :: others)) ++ ['>'])) := by
            simp [joined, Snippet.written]
          have listed
              : normalAll (first :: second :: others)
                = [first.normal] ++ normalAll (second :: others) :=
            rfl
          rw [written, run_append, each.1, List.append_nil, run_append, between,
            ih _ regular.2 each.2, listed, List.append_assoc]

/-- A union is read back if its members are. The bar between two of them is what tells
them apart.
-/
theorem reads_union {members : List TypeExpr} (some : members ≠ [])
    (regular : ∀ member ∈ members, IsRegular member) (each : ∀ member ∈ members, Reads member)
    : Reads (.union members) := by
  intro frames types
  rw [snippet, run_union some each, IsRegular.members_normal_union regular]

/-- An element that is a union is read inside its parentheses, and any other one as it
stands.
-/
theorem reads_array {element : TypeExpr} (regular : element.IsRegular) (inner : Reads element)
    : Reads (.array element) := by
  intro frames types
  rw [snippet]
  cases kind : element.isUnion with
  | false =>
      have written
          : Snippet.written (element.snippet ++ [.plain "[]"])
            = Snippet.written element.snippet ++ "[]".toList := by
        simp [Snippet.written]
      rw [if_neg Bool.false_ne_true, written, run_append, inner, members_normal kind]
      rfl
  | true =>
      have written
          : Snippet.written ([.plain "("] ++ element.snippet ++ [.plain ")[]"])
            = "(".toList ++ (Snippet.written element.snippet ++ ")[]".toList) := by
        simp [Snippet.written]
      have opened
          : run ⟨frames, types, .start⟩ "(".toList = ⟨.group types :: frames, [], .start⟩ :=
        rfl
      have closed (read : List TypeExpr)
          : run ⟨.group types :: frames, read, .within⟩ ")[]".toList
            = ⟨frames, .array (ofMembers read.reverse) :: types, .within⟩ :=
        rfl
      rw [if_pos rfl, written, run_append, opened, run_append, inner, closed, List.append_nil,
        List.reverse_reverse, regular.ofMembers_members]
      rfl

/-- The type of an object with keys and values is read back if both are: the brackets
around the key tell where it ends.
-/
theorem reads_index {key value : TypeExpr} (left : key.IsRegular) (right : value.IsRegular)
    (ofKey : Reads key) (ofValue : Reads value)
    : Reads (.index key value) := by
  intro frames types
  have written
      : Snippet.written (TypeExpr.index key value).snippet
        = "\x7b [key: ".toList
          ++ (Snippet.written key.snippet
            ++ ("]: ".toList ++ (Snippet.written value.snippet ++ " \x7d".toList))) := by
    simp [snippet, Snippet.written]
  have opened
      : run ⟨frames, types, .start⟩ "\x7b [key: ".toList = ⟨.key types :: frames, [], .start⟩ :=
    rfl
  have between (read : List TypeExpr)
      : run ⟨.key types :: frames, read, .within⟩ "]: ".toList
        = ⟨.value types (ofMembers read.reverse) :: frames, [], .start⟩ :=
    rfl
  have closed (type : TypeExpr) (read : List TypeExpr)
      : run ⟨.value types type :: frames, read, .within⟩ " \x7d".toList
        = ⟨frames, .index type (ofMembers read.reverse) :: types, .within⟩ :=
    rfl
  rw [written, run_append, opened, run_append, ofKey, run_append, between, run_append, ofValue,
    closed]
  simp only [List.append_nil, List.reverse_reverse, left.ofMembers_members,
    right.ofMembers_members]
  rfl

/-- A type with arguments is read back if the arguments are. The angle after its name
opens them, and the last one closes them.
-/
theorem reads_generic {base : TypeExpr} {arguments : List TypeExpr} (named : base.IsNamed)
    (regular : ∀ argument ∈ arguments, IsRegular argument)
    (each : ∀ argument ∈ arguments, Reads argument)
    : Reads (.generic base arguments) := by
  intro frames types
  have written
      : Snippet.written (TypeExpr.generic base arguments).snippet
        = Snippet.written base.snippet
          ++ ("<".toList ++ (Snippet.written (joined ", " arguments) ++ ['>'])) := by
    simp [snippet, Snippet.written]
  have opened
      : run ⟨frames, base.normal :: types, .within⟩ "<".toList
        = ⟨.argument types base.normal [] :: frames, [], .start⟩ :=
    rfl
  rw [written, run_append, reads_of_isNamed named, members_normal named.isUnion_eq,
    List.reverse_singleton, List.singleton_append, run_append, opened,
    run_arguments [] regular each]
  rfl

/-- The text of a type is read as the members of its normal form. -/
theorem reads_of_isRegular {type : TypeExpr} (regular : type.IsRegular)
    : Reads type := by
  induction regular with
  | named named => exact reads_of_isNamed named
  | union some each ih => exact reads_union some each ih
  | array inner ih => exact reads_array inner ih
  | index left right ihKey ihValue => exact reads_index left right ihKey ihValue
  | generic named each ih => exact reads_generic named each ih

end Reading

-----------------------------------------------------------------------------------------
-- Types of one text
-----------------------------------------------------------------------------------------

/-- The text of a type tells its normal form. -/
theorem normal_eq_of_written_eq {left right : TypeExpr} (first : left.IsRegular)
    (second : right.IsRegular)
    (same : Snippet.written left.snippet = Snippet.written right.snippet)
    : left.normal = right.normal := by
  have read := Reading.reads_of_isRegular first [] []
  rw [same, Reading.reads_of_isRegular second [] [], List.append_nil, List.append_nil] at read
  have members : right.normal.members = left.normal.members :=
    List.reverse_inj.mp (congrArg Reading.types read)
  rw [← first.ofMembers_members, ← second.ofMembers_members, members]

/-- A union that comes down to a type that is no union has just one member, which comes
down to this type itself.
-/
theorem eq_singleton_of_normal_union {types : List TypeExpr} {type : TypeExpr}
    (each : ∀ member ∈ types, IsRegular member) (plain : type.isUnion = false)
    (same : normal (.union types) = type.normal)
    : ∃ member, types = [member] ∧ member.normal = type.normal := by
  have members : normalMembers types = [type.normal] := by
    rw [← IsRegular.members_normal_union each, same, members_normal plain]
  rcases types with _ | ⟨first, _ | ⟨second, others⟩⟩
  · cases members
  · rw [normalMembers, normalMembers, List.append_nil] at members
    refine ⟨first, rfl, ?_⟩
    rw [← (each first List.mem_cons_self).ofMembers_members, members]
    rfl
  · have one := congrArg List.length members
    have here := List.length_pos_iff.mpr (each first (by simp)).members_ne_nil
    have there := List.length_pos_iff.mpr (each second (by simp)).members_ne_nil
    simp only [normalMembers, List.length_append, List.length_singleton] at one
    omega

/-- Types of one text have the same normal form. So an array, be it one of a union, is
written like a union only if it is the single member of that union, and never like one
that has an array as its last member behind others.
-/
theorem text_tells_types_apart
    : (∀ left right : TypeExpr,
        left.IsRegular
        → right.IsRegular
        → Snippet.written left.snippet = Snippet.written right.snippet
        → left.normal = right.normal)
      ∧ ∀ (element : TypeExpr) (types : List TypeExpr),
          (TypeExpr.array element).IsRegular
          → (TypeExpr.union types).IsRegular
          → Snippet.written (TypeExpr.array element).snippet
            = Snippet.written (TypeExpr.union types).snippet
          → ∃ member, types = [member] ∧ member.normal = (TypeExpr.array element).normal := by
  constructor
  · intro left right first second same
    exact normal_eq_of_written_eq first second same
  · intro element types first second same
    cases second with
    | named named => cases named
    | union some each =>
        apply eq_singleton_of_normal_union each rfl
        exact (normal_eq_of_written_eq first (.union some each) same).symm

/-- An array of a union, told from a union that ends in an array, and made of the same
members in another nesting.
-/
theorem text_tells_types_apart_nested
    : let cart : TypeExpr := .symbol { name := "Cart", origin := .own }
      let counts : TypeExpr := .index string (.generic (.simple "Promise") [number])
      let left : TypeExpr := .array (.union [.union [cart, counts], undefined])
      let right : TypeExpr := .array (.union [.simple "Cart", .union [counts, .union [undefined]]])
      let union : TypeExpr := .union [cart, counts, .array undefined]
      left.IsRegular
      ∧ right.IsRegular
      ∧ union.IsRegular
      ∧ Snippet.written left.snippet
        = "(Cart | \x7b [key: string]: Promise<number> \x7d | undefined)[]".toList
      ∧ Snippet.written right.snippet = Snippet.written left.snippet
      ∧ right.normal = left.normal
      ∧ Snippet.written left.snippet ≠ Snippet.written union.snippet := by
  intro cart counts left right union
  have name (text : String) (identifier : Text.isIdentifier text = true)
      : IsRegular (.simple text) :=
    .named (isName_of_isIdentifier identifier)
  have regularCart : cart.IsRegular := .named ⟨rfl, isName_of_isIdentifier (by decide)⟩
  have regularCounts : counts.IsRegular := by
    refine .index (name _ (by decide)) (.generic (isName_of_isIdentifier (by decide)) ?_)
    exact List.forall_mem_singleton.mpr (name _ (by decide))
  have regularNone : undefined.IsRegular := name _ (by decide)
  have two {first second : TypeExpr} (one : first.IsRegular) (other : second.IsRegular)
      : (TypeExpr.union [first, second]).IsRegular :=
    .union (List.cons_ne_nil _ _) (by simpa using ⟨one, other⟩)
  have regularLeft : left.IsRegular := .array (two (two regularCart regularCounts) regularNone)
  have regularRight : right.IsRegular := by
    have inner : (TypeExpr.union [undefined]).IsRegular :=
      .union (List.cons_ne_nil _ _) (List.forall_mem_singleton.mpr regularNone)
    exact .array (two (name _ (by decide)) (two regularCounts inner))
  have regularUnion : union.IsRegular :=
    .union (List.cons_ne_nil _ _) (by simpa using ⟨regularCart, regularCounts, .array regularNone⟩)
  have same : Snippet.written right.snippet = Snippet.written left.snippet := by decide
  obtain ⟨normal, single⟩ := text_tells_types_apart
  refine ⟨regularLeft, regularRight, regularUnion, by decide, same, ?_, ?_⟩
  · exact normal right left regularRight regularLeft same
  · intro like
    obtain ⟨member, only, -⟩ := single _ _ regularLeft regularUnion like
    cases only

end ProtobufTypeScript.Target.TypeExpr
