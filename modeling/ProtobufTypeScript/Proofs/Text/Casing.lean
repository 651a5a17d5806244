import ProtobufTypeScript.Text.Casing

/-!
Camel case of identifiers. On their characters the wide notions of letters, digits and capitals are
those of ASCII, so an underscore is dropped wherever something follows it. What comes out is an
identifier again, unless the underscore stood at the start and a digit behind it; and names in the
usual style can be read back from it.
-/

namespace ProtobufTypeScript.Text

/-- Whether an identifier may start with a character: a letter or an underscore. -/
def isWordStart (c : Char) : Bool :=
  c.isAlpha || c == '_'

/-- Whether an identifier may go on with a character: a letter, a digit or an underscore.
-/
def isWordPart (c : Char) : Bool :=
  c.isAlphanum || c == '_'

/-- Whether a name is an identifier. -/
def isIdentifier (name : String) : Bool :=
  match name.toList with
  | [] => false
  | first :: rest => isWordStart first && rest.all isWordPart

/-- Whether a name starts with an underscore and has a digit behind it. -/
def hidesDigit (name : String) : Bool :=
  match name.toList with
  | '_' :: next :: _ => next.isDigit
  | _ => false

/-- Whether a name is in the usual style: it has small letters and digits, and underscores
only before small letters.
-/
def isSnakeCase : List Char → Bool
  | [] => true
  | '_' :: next :: rest => next.isLower && isSnakeCase rest
  | c :: rest => (c.isLower || c.isDigit) && isSnakeCase rest

/-- A name with an underscore and the small letter for each capital. -/
def snakeChars (text : List Char) : List Char :=
  text.flatMap (fun c => if c.isUpper then ['_', c.toLower] else [c])

variable {c next : Char} {text rest : List Char} {name : String}

-----------------------------------------------------------------------------------------
-- The characters of identifiers
-----------------------------------------------------------------------------------------

/-- Identifiers start with a letter or an underscore. -/
theorem isWordStart_iff
    : isWordStart c = true ↔ c.isUpper = true ∨ c.isLower = true ∨ c = '_' := by
  change ((c.isUpper || c.isLower) || c == '_') = true ↔ _
  simp only [Bool.or_eq_true, beq_iff_eq, or_assoc]

/-- Besides what they start with, identifiers have digits. -/
theorem isWordPart_iff
    : isWordPart c = true ↔ c.isUpper = true ∨ c.isLower = true ∨ c.isDigit = true ∨ c = '_' := by
  change (((c.isUpper || c.isLower) || c.isDigit) || c == '_') = true ↔ _
  simp only [Bool.or_eq_true, beq_iff_eq, or_assoc]

/-- What an identifier may start with may also stand inside it. -/
theorem isWordPart_of_isWordStart (start : isWordStart c = true)
    : isWordPart c = true := by
  rw [isWordStart_iff] at start
  rw [isWordPart_iff]
  exact start.imp_right (Or.imp_right .inr)

theorem isWordPart_of_small (small : (c.isLower || c.isDigit) = true)
    : isWordPart c = true := by
  rw [Bool.or_eq_true] at small
  rw [isWordPart_iff]
  exact .inr (small.imp_right .inl)

/-- Characters of identifiers are ASCII characters. Each of the four kinds has its range
of codes, which is bounded by the last one of it.
-/
theorem toNat_lt_of_isWordPart (part : isWordPart c = true)
    : c.toNat < 128 := by
  -- The last letter or digit of each range bounds the others.
  have bound (last : Char) (below : c.val ≤ last.val) (ascii : last.toNat < 128)
      : c.toNat < 128 :=
    Nat.lt_of_le_of_lt (UInt32.le_iff_toNat_le.mp below) ascii
  rcases isWordPart_iff.mp part with upper | lower | digit | rfl
  · exact bound 'Z' (of_decide_eq_true upper).2 (by decide)
  · exact bound 'z' (of_decide_eq_true (Bool.and_eq_true_iff.mp lower).2) (by decide)
  · exact bound '9' (of_decide_eq_true (Bool.and_eq_true_iff.mp digit).2) (by decide)
  · decide

/-- What holds of the characters of identifiers is found in a table of ASCII. -/
theorem forall_isWordPart {p : Char → Prop}
    (table : ∀ code < 128, isWordPart (Char.ofNat code) = true → p (Char.ofNat code)) (c : Char)
    (part : isWordPart c = true)
    : p c := by
  have entry := table c.toNat (toNat_lt_of_isWordPart part)
  rw [Char.ofNat_toNat] at entry
  exact entry part

/-- What casing does with a character of an identifier: it takes it for one that may
follow an underscore, and its one capital is such a character again, and a digit only
where it was one.
-/
theorem casing_of_isWordPart
    : ∀ c : Char,
        isWordPart c = true
        → (isAlphanumeric c || c == '_') = true
          ∧ upperCase c = [c.toUpper]
          ∧ isWordPart c.toUpper = true
          ∧ isWordStart c.toUpper = !c.isDigit :=
  forall_isWordPart (by decide +kernel)

/-- A small letter of an identifier has a capital that it is the small form of. There are
finitely many characters in identifiers, and each is tried.
-/
theorem toUpper_of_isLower
    : ∀ c : Char,
        isWordPart c = true
        → c.isLower = true → c.toUpper.isUpper = true ∧ c.toUpper.toLower = c :=
  forall_isWordPart (by decide +kernel)

/-- Small letters and digits are no capitals, which is tried for each character of
identifiers.
-/
theorem not_isUpper_of_small
    : ∀ c : Char, isWordPart c = true → (c.isLower || c.isDigit) = true → c.isUpper = false :=
  forall_isWordPart (by decide +kernel)

-----------------------------------------------------------------------------------------
-- Camel case, character by character
-----------------------------------------------------------------------------------------

/-- An underscore before another character is dropped, and the character is capitalised.
-/
theorem camelChars_underscore_cons (part : isWordPart next = true)
    : camelChars ('_' :: next :: rest) = next.toUpper :: camelChars rest := by
  obtain ⟨followed, capital, -, -⟩ := casing_of_isWordPart next part
  rw [camelChars, if_pos followed, capital]
  rfl

/-- Any other character stays, and what follows it is converted on its own. -/
theorem camelChars_cons (other : c ≠ '_')
    : camelChars (c :: rest) = c :: camelChars rest := by
  rw [camelChars]
  rintro _ _ rfl
  exact absurd rfl other

/-- Camel case consists of characters of the name and capitals of them. Witness: the
recursion of the conversion, which takes one character or two at a time.
-/
theorem mem_camelChars (member : c ∈ camelChars text)
    : c ∈ text ∨ ∃ small ∈ text, c ∈ upperCase small := by
  have further {first : Char} {rest : List Char}
      (found : c ∈ rest ∨ ∃ small ∈ rest, c ∈ upperCase small)
      : c ∈ first :: rest ∨ ∃ small ∈ first :: rest, c ∈ upperCase small :=
    found.imp (List.mem_cons_of_mem _)
      (Exists.imp fun _ => And.imp_left (List.mem_cons_of_mem _))
  induction text using camelChars.induct with
  | case1 => cases member
  | case2 next rest followed ih =>
      rw [camelChars, if_pos followed, List.mem_append] at member
      rcases member with capital | later
      · exact .inr ⟨next, by simp, capital⟩
      · exact further (further (ih later))
  | case3 next rest unfollowed ih =>
      rw [camelChars, if_neg unfollowed, List.mem_cons] at member
      rcases member with rfl | later
      · exact .inl List.mem_cons_self
      · exact further (ih later)
  | case4 d rest alone ih =>
      rw [camelChars, List.mem_cons] at member
      · rcases member with rfl | later
        · exact .inl List.mem_cons_self
        · exact further (ih later)
      · exact alone

/-- A converted identifier is made of characters of identifiers: those of the identifier,
and capitals of them, each of which is a single letter.
-/
theorem isWordPart_camelChars (parts : ∀ c ∈ text, isWordPart c = true)
    : ∀ c ∈ camelChars text, isWordPart c = true := by
  intro c member
  rcases mem_camelChars member with inText | ⟨small, inText, capital⟩
  · exact parts c inText
  · obtain ⟨-, single, part, -⟩ := casing_of_isWordPart small (parts small inText)
    rw [single] at capital
    rwa [List.mem_singleton.mp capital]

-----------------------------------------------------------------------------------------
-- Identifiers
-----------------------------------------------------------------------------------------

/-- An identifier has a first character, which may start one, and only characters of
identifiers after it.
-/
theorem exists_chars_of_isIdentifier (identifier : isIdentifier name = true)
    : ∃ first rest,
        name.toList = first :: rest
        ∧ isWordStart first = true
        ∧ ∀ c ∈ rest, isWordPart c = true := by
  unfold isIdentifier at identifier
  split at identifier
  · cases identifier
  · rename_i first rest named
    rw [Bool.and_eq_true, List.all_eq_true] at identifier
    exact ⟨first, rest, named, identifier⟩

/-- Whether a text of the right characters is an identifier is up to its first one. -/
theorem isIdentifier_of_chars {first : Char} (named : name.toList = first :: rest)
    (parts : ∀ c ∈ rest, isWordPart c = true)
    : isIdentifier name = isWordStart first := by
  unfold isIdentifier
  rw [named]
  simp only [List.all_eq_true.mpr parts, Bool.and_true]

theorem isWordPart_of_isIdentifier (identifier : isIdentifier name = true)
    : ∀ c ∈ name.toList, isWordPart c = true := by
  obtain ⟨first, rest, named, start, parts⟩ := exists_chars_of_isIdentifier identifier
  rw [named, List.forall_mem_cons]
  exact ⟨isWordPart_of_isWordStart start, parts⟩

/-- An identifier has at least one character. -/
theorem ne_empty_of_isIdentifier (identifier : isIdentifier name = true)
    : name ≠ "" := by
  rintro rfl
  cases identifier

/-- Whether a name is an identifier is seen from its beginning, if the rest is as in
identifiers: only the first character is asked for more.
-/
theorem isIdentifier_append {rest : String} (nonempty : name ≠ "")
    (parts : ∀ c ∈ name.toList, isWordPart c = true)
    (laterParts : ∀ c ∈ rest.toList, isWordPart c = true)
    : isIdentifier (name ++ rest) = isIdentifier name := by
  have some : name.toList ≠ [] := by simpa using nonempty
  obtain ⟨first, others, named⟩ := List.exists_cons_of_ne_nil some
  rw [named, List.forall_mem_cons] at parts
  have whole : (name ++ rest).toList = first :: (others ++ rest.toList) := by
    rw [String.toList_append, named, List.cons_append]
  rw [isIdentifier_of_chars named parts.2,
    isIdentifier_of_chars whole (List.forall_mem_append.mpr ⟨parts.2, laterParts⟩)]

theorem isWordPart_underscore
    : ∀ c ∈ "_".toList, isWordPart c = true :=
  List.all_eq_true.mp (by decide)

/-- Words that are joined with underscores give characters of identifiers only, by
induction on the words.
-/
theorem isWordPart_intercalate {names : List String}
    (parts : ∀ name ∈ names, ∀ c ∈ name.toList, isWordPart c = true)
    : ∀ c ∈ ("_".intercalate names).toList, isWordPart c = true := by
  induction names with
  | nil => simp
  | cons name others ih =>
      rw [List.forall_mem_cons] at parts
      cases others with
      | nil => simpa using parts.1
      | cons second others =>
          simp only [String.intercalate_cons_cons, String.toList_append, List.forall_mem_append]
          exact ⟨⟨parts.1, isWordPart_underscore⟩, ih parts.2⟩

/-- Names with underscores between them make an identifier exactly if the first one is
one, as an underscore is as good as a letter from then on.
-/
theorem isIdentifier_intercalate {others : List String} (nonempty : name ≠ "")
    (parts : ∀ part ∈ name :: others, ∀ c ∈ part.toList, isWordPart c = true)
    : isIdentifier ("_".intercalate (name :: others)) = isIdentifier name := by
  cases others with
  | nil => rw [String.intercalate_singleton]
  | cons second others =>
      rw [List.forall_mem_cons] at parts
      rw [String.intercalate_cons_cons, String.append_assoc]
      refine isIdentifier_append nonempty parts.1 ?_
      rw [String.toList_append, List.forall_mem_append]
      exact ⟨isWordPart_underscore, isWordPart_intercalate parts.2⟩

/-- The camel case of an identifier goes on as an identifier does, and starts like one
unless a digit loses the underscore in front of it. Witness: whether the first character
is an underscore, and whether anything comes behind it.
-/
theorem exists_chars_camelCase (identifier : isIdentifier name = true)
    : ∃ first rest,
        (camelCase name).toList = first :: rest
        ∧ isWordStart first = !hidesDigit name
        ∧ ∀ c ∈ rest, isWordPart c = true := by
  obtain ⟨first, rest, named, start, parts⟩ := exists_chars_of_isIdentifier identifier
  unfold hidesDigit camelCase
  rw [String.toList_ofList, named]
  by_cases underscore : first = '_'
  case neg =>
    refine ⟨_, _, camelChars_cons underscore, ?_, isWordPart_camelChars parts⟩
    simpa [underscore] using start
  case pos =>
    subst underscore
    cases rest with
    | nil => exact ⟨'_', [], rfl, rfl, nofun⟩
    | cons next rest =>
        rw [List.forall_mem_cons] at parts
        obtain ⟨-, -, -, start⟩ := casing_of_isWordPart next parts.1
        exact ⟨_, _, camelChars_underscore_cons parts.1, start, isWordPart_camelChars parts.2⟩

/-- Camel case makes an identifier of an identifier exactly if no digit loses the
underscore in front of it.
-/
theorem isIdentifier_camelCase (identifier : isIdentifier name = true)
    : isIdentifier (camelCase name) = !hidesDigit name := by
  obtain ⟨first, rest, named, start, parts⟩ := exists_chars_camelCase identifier
  rw [isIdentifier_of_chars named parts, start]

/-- A converted identifier is not empty: at least the character after a leading underscore
is left.
-/
theorem camelCase_ne_empty (identifier : isIdentifier name = true)
    : camelCase name ≠ "" := by
  obtain ⟨first, rest, named, -⟩ := exists_chars_camelCase identifier
  intro empty
  rw [empty] at named
  cases named

theorem isWordPart_camelCase (identifier : isIdentifier name = true)
    : ∀ c ∈ (camelCase name).toList, isWordPart c = true := by
  rw [camelCase, String.toList_ofList]
  exact isWordPart_camelChars (isWordPart_of_isIdentifier identifier)

-----------------------------------------------------------------------------------------
-- Names in the usual style
-----------------------------------------------------------------------------------------

theorem snakeChars_cons_of_isUpper (upper : c.isUpper = true)
    : snakeChars (c :: rest) = '_' :: c.toLower :: snakeChars rest := by
  simp [snakeChars, upper]

theorem snakeChars_cons_of_not_isUpper (small : c.isUpper = false)
    : snakeChars (c :: rest) = c :: snakeChars rest := by
  simp [snakeChars, small]

/-- A name in the usual style is read back from its camel case. Witness: the recursion of
the test for that style, where each underscore has a small letter behind it.
-/
theorem snakeChars_camelChars (style : isSnakeCase text = true)
    : snakeChars (camelChars text) = text := by
  induction text using isSnakeCase.induct with
  | case1 => rfl
  | case2 next rest ih =>
      rw [isSnakeCase, Bool.and_eq_true] at style
      have part : isWordPart next = true := isWordPart_of_small (by simp [style.1])
      obtain ⟨upper, back⟩ := toUpper_of_isLower next part style.1
      rw [camelChars_underscore_cons part, snakeChars_cons_of_isUpper upper, back, ih style.2]
  | case3 c rest alone ih =>
      rw [isSnakeCase, Bool.and_eq_true] at style
      · have small := not_isUpper_of_small c (isWordPart_of_small style.1) style.1
        have other : c ≠ '_' := by
          rintro rfl
          exact absurd style.1 (by decide)
        rw [camelChars_cons other, snakeChars_cons_of_not_isUpper small, ih style.2]
      · exact alone

/-- Names in the style of schemas are told apart by their converted forms. Turning the
converted form back gives the name.
-/
theorem eq_of_camelCase_eq {other : String} (style : isSnakeCase name.toList = true)
    (otherStyle : isSnakeCase other.toList = true) (same : camelCase name = camelCase other)
    : name = other := by
  have chars : camelChars name.toList = camelChars other.toList := String.ofList_injective same
  rw [← String.toList_inj, ← snakeChars_camelChars style, chars, snakeChars_camelChars otherStyle]

end ProtobufTypeScript.Text
