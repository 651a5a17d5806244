import ProtobufTypeScript.Options
import ProtobufTypeScript.Proofs.Lookup
import ProtobufTypeScript.Proofs.Text.Ends
import ProtobufTypeScript.Proofs.Text.Lines

/-!
What the parts of a parameter say about each choice. A part says something about at most one choice:
the one of its key, if its value is recognised for that. Of the parts that do so the last one
decides, and all other parts make no difference.
-/

namespace ProtobufTypeScript.Options

open Text (cutAt cutAt_append_cons cutAt_eq_none dropEnds dropEnds_append_cons dropEnds_dropWhile
  dropEnds_rdropWhile dropEnds_subset isSpace partsAt trimChars)

-----------------------------------------------------------------------------------------
-- Choices
-----------------------------------------------------------------------------------------

/-- The choices of a run that a parameter can make. -/
inductive Choice where
  | context
  | camelCase
  | longForm
  | binaryMethods
  | jsonMethods
  | clients
deriving DecidableEq, Repr

namespace Choice

/-- What there is to choose from. -/
def Value : Choice → Type
  | .longForm => LongForm
  | _ => Bool

instance : (choice : Choice) → DecidableEq choice.Value
  | .longForm => inferInstanceAs (DecidableEq LongForm)
  | .context => inferInstanceAs (DecidableEq Bool)
  | .camelCase => inferInstanceAs (DecidableEq Bool)
  | .binaryMethods => inferInstanceAs (DecidableEq Bool)
  | .jsonMethods => inferInstanceAs (DecidableEq Bool)
  | .clients => inferInstanceAs (DecidableEq Bool)

/-- The key of a choice. -/
def key : Choice → String
  | .context => "context"
  | .camelCase => "snakeToCamel"
  | .longForm => "forceLong"
  | .binaryMethods => "outputEncodeMethods"
  | .jsonMethods => "outputJsonMethods"
  | .clients => "outputClientImpl"

/-- The values of a switch. -/
def switchWords : List (String × Bool) :=
  [("true", true), ("false", false)]

/-- The values for 64-bit integers. -/
def longWords : List (String × LongForm) :=
  [
    ("true", .long), ("long", .long), ("string", .string), ("false", .number),
    ("number", .number)
  ]

/-- The values that are recognised for a choice, and what they choose. -/
def words : (choice : Choice) → List (String × choice.Value)
  | .longForm => longWords
  | .context => switchWords
  | .camelCase => switchWords
  | .binaryMethods => switchWords
  | .jsonMethods => switchWords
  | .clients => switchWords

/-- What is chosen where a parameter says nothing. -/
def standard : (choice : Choice) → choice.Value
  | .context => false
  | .camelCase => true
  | .longForm => LongForm.number
  | .binaryMethods => true
  | .jsonMethods => true
  | .clients => true

/-- What some options have chosen. -/
def valueIn : (choice : Choice) → Options → choice.Value
  | .context, options => options.context
  | .camelCase, options => options.camelCase
  | .longForm, options => options.longForm
  | .binaryMethods, options => options.binaryMethods
  | .jsonMethods, options => options.jsonMethods
  | .clients, options => options.clients

/-- What a key and a value choose, if the key is that of a choice and the value is
recognised.
-/
def read? (choice : Choice) (key value : String) : Option choice.Value :=
  if key = choice.key then choice.words.lookup value else none

end Choice

-----------------------------------------------------------------------------------------
-- Keys and values of a part
-----------------------------------------------------------------------------------------

/-- The text of a part before its first equals sign, without white space around it. -/
def keyOf (part : String) : String :=
  String.ofList (trimChars (part.toList.takeWhile (· != '=')))

/-- The text of a part after its first equals sign, without white space around it; empty
if there is no equals sign.
-/
def valueOf (part : String) : String :=
  String.ofList (trimChars (part.toList.dropWhile (· != '=')).tail)

/-- A part makes a choice if its key is that of the choice and its value is recognised for
it.
-/
def Makes (part : String) (choice : Choice) (value : choice.Value) : Prop :=
  keyOf part = choice.key ∧ (valueOf part, value) ∈ choice.words

/-- What the parts of a parameter choose, in order, as far as they say something about a
choice.
-/
def recognised (choice : Choice) (parameter : String) : List choice.Value :=
  (partsAt ',' parameter).filterMap (fun part => choice.read? (keyOf part) (valueOf part))

variable {choice : Choice}

theorem trimChars_eq_dropEnds (text : List Char)
    : trimChars text = dropEnds isSpace text :=
  rfl

/-- White space around a part is around its key or its value, so that it does not have to
be dropped from the part itself.
-/
theorem assignment_eq (part : String)
    : assignment part = (keyOf part, valueOf part) := by
  have different {text : List Char} (absent : '=' ∉ text) : ∀ c ∈ text, (c != '=') = true :=
    fun c member => bne_iff_ne.mpr (fun same => absent (same ▸ member))
  unfold assignment keyOf valueOf Text.trim
  generalize part.toList = text
  by_cases present : '=' ∈ text
  case pos =>
    obtain ⟨key, value, rfl, absent⟩ := List.eq_append_cons_of_mem present
    have absentTrimmed : '=' ∉ key.dropWhile isSpace :=
      fun member => absent ((List.dropWhile_sublist _).subset member)
    simp only [trimChars_eq_dropEnds]
    rw [dropEnds_append_cons (by decide), cutAt_append_cons absentTrimmed,
      List.takeWhile_append_of_pos (different absent),
      List.dropWhile_append_of_pos (different absent)]
    simp only [dropEnds_dropWhile, dropEnds_rdropWhile]
    simp
  case neg =>
    have absentTrimmed : '=' ∉ trimChars text :=
      fun member => present (dropEnds_subset member)
    rw [cutAt_eq_none absentTrimmed, List.takeWhile_eq_self_iff.mpr (different present),
      List.dropWhile_eq_nil_iff.mpr (different present)]
    rfl

/-- A choice reads a setting exactly if the key is its own and the word is one of those it
knows. No choice has a word twice, so the table gives the value of each.
-/
theorem read?_eq_some_iff {key word : String} {value : choice.Value}
    : choice.read? key word = some value ↔ key = choice.key ∧ (word, value) ∈ choice.words := by
  have once : (choice.words.map Prod.fst).Nodup := by cases choice <;> decide
  unfold Choice.read?
  split
  · rename_i same
    simp only [same, true_and]
    exact lookup_eq_some_iff_mem once
  · rename_i other
    simp [other]

/-- A part of the parameter is not read for a choice exactly if it makes no value of it.
-/
theorem read?_eq_none_iff {part : String}
    : choice.read? (keyOf part) (valueOf part) = none ↔ ∀ value, ¬ Makes part choice value := by
  rw [Option.eq_none_iff_forall_ne_some]
  exact forall_congr' (fun value => not_congr read?_eq_some_iff)

-----------------------------------------------------------------------------------------
-- Going through the parts
-----------------------------------------------------------------------------------------

/-- Options that nothing was set in have the standard value of every choice. -/
theorem valueIn_empty (choice : Choice)
    : choice.valueIn {} = choice.standard := by
  cases choice <;> rfl

/-- The words for switches are those of the table, and no others, which the cases of the
definition list one by one.
-/
theorem switch?_eq_lookup (word : String)
    : switch? word = Choice.switchWords.lookup word := by
  unfold switch?
  split
  case h_3 =>
    symm
    rw [lookup_eq_none_iff_not_mem]
    simp_all [Choice.switchWords]
  all_goals rfl

/-- The words for the forms of 64-bit integers are those of the table, and no others,
which the cases of the definition list one by one.
-/
theorem longForm?_eq_lookup (word : String)
    : longForm? word = Choice.longWords.lookup word := by
  unfold longForm?
  split
  case h_6 =>
    symm
    rw [lookup_eq_none_iff_not_mem]
    simp_all [Choice.longWords]
  all_goals rfl

/-- Setting the key of a choice to a word takes the value of the word, or leaves the
choice as it was if the word is unknown. Each choice is looked at by itself.
-/
theorem valueIn_set_key (choice : Choice) (options : Options) (word : String)
    : choice.valueIn (options.set choice.key word)
      = (choice.words.lookup word).getD (choice.valueIn options) := by
  cases choice with
  | longForm => exact congrArg (Option.getD · options.longForm) (longForm?_eq_lookup word)
  | _ => exact congrArg (Option.getD · _) (switch?_eq_lookup word)

/-- Setting another key leaves a choice as it was. -/
theorem valueIn_set_of_ne {key : String} (other : key ≠ choice.key) (options : Options)
    (word : String)
    : choice.valueIn (options.set key word) = choice.valueIn options := by
  unfold set
  split <;> cases choice <;> first | rfl | exact absurd rfl other

/-- A key and a value make a choice if they are recognised for it, and else leave it as it
is. Witness: whether the key is that of the choice.
-/
theorem valueIn_set (options : Options) (key word : String)
    : choice.valueIn (options.set key word)
      = (choice.read? key word).getD (choice.valueIn options) := by
  unfold Choice.read?
  by_cases same : key = choice.key
  · rw [if_pos same, same, valueIn_set_key]
  · rw [if_neg same, valueIn_set_of_ne same]
    rfl

/-- Of the values that are recognised for a choice the last one is taken. Witness:
induction on the settings, with the options made so far generalised.
-/
theorem valueIn_foldl (entries : List (String × String)) (options : Options)
    : choice.valueIn (entries.foldl (fun options entry => options.set entry.1 entry.2) options)
      = ((entries.filterMap (fun entry => choice.read? entry.1 entry.2)).getLast?).getD
          (choice.valueIn options) := by
  induction entries generalizing options with
  | nil => rfl
  | cons entry rest ih =>
      rw [List.foldl_cons, ih, valueIn_set]
      cases recognised : choice.read? entry.1 entry.2 with
      | none => simp [recognised]
      | some value => simp [recognised, List.getLast?_cons]

/-- A choice has the last value that the parameter has for it, or its standard. Witness:
the settings are folded from the left, and each either takes its value or changes nothing.
-/
theorem valueIn_ofParameter (choice : Choice) (parameter : String)
    : choice.valueIn (ofParameter parameter)
      = (recognised choice parameter).getLast?.getD choice.standard := by
  rw [ofParameter, valueIn_foldl, valueIn_empty, List.filterMap_map, recognised]
  simp only [Function.comp_def, assignment_eq]

/-- The last of the values that are kept comes from an entry that is followed by none with
a value. Parting the list at that entry gives what stands before and after it.
-/
theorem getLast?_filterMap_eq_some_iff {α β : Type} {f : α → Option β} {inputs : List α}
    {value : β}
    : (inputs.filterMap f).getLast? = some value
      ↔ ∃ before last after,
          inputs = before ++ last :: after
          ∧ f last = some value
          ∧ ∀ later ∈ after, f later = none := by
  rw [List.getLast?_filterMap, List.findSome?_eq_some_iff]
  constructor
  · rintro ⟨after, last, before, parted, found, none⟩
    refine ⟨before.reverse, last, after.reverse, ?_, found, by simpa using none⟩
    rw [List.reverse_eq_iff.mp parted]
    simp
  · rintro ⟨before, last, after, rfl, found, none⟩
    exact ⟨after.reverse, last, before.reverse, by simp, found, by simpa using none⟩

/-- Every choice is what the last part says that makes it, or else the standard. What
other parts say, and how all of them are spaced, makes no difference to it.
-/
theorem last_recognised_setting_wins (choice : Choice) (parameter : String)
    : (∀ value,
        choice.valueIn (ofParameter parameter) = value
        ↔ (∃ before last after,
            partsAt ',' parameter = before ++ last :: after
            ∧ Makes last choice value
            ∧ ∀ later ∈ after, ∀ other, ¬ Makes later choice other)
          ∨ (∀ part ∈ partsAt ',' parameter, ∀ other, ¬ Makes part choice other)
            ∧ choice.standard = value)
      ∧ ∀ other,
          recognised choice other = recognised choice parameter
          → choice.valueIn (ofParameter other) = choice.valueIn (ofParameter parameter) := by
  constructor
  · intro value
    rw [valueIn_ofParameter, Option.getD_eq_iff, recognised, getLast?_filterMap_eq_some_iff,
      List.getLast?_eq_none_iff, List.filterMap_eq_nil_iff]
    simp only [read?_eq_none_iff]
    simp only [read?_eq_some_iff, Makes]
  · intro other same
    rw [valueIn_ofParameter, valueIn_ofParameter, same]

/-- Space, an unknown key, values that are not recognised, an empty part and a part with
another key are all passed over.
-/
theorem last_recognised_setting_wins_spaced
    : recognised .longForm "forceLong=string,forceLong=long"
        = recognised .longForm
            " forceLong = string ,bogus=true,,forceLong=long\t, context=true,forceLong=long=1"
      ∧ Choice.longForm.valueIn (ofParameter "forceLong=string,forceLong=long")
        = Choice.longForm.valueIn
            (ofParameter
              " forceLong = string ,bogus=true,,forceLong=long\t, context=true,forceLong=long=1") :=
  have same
      : recognised .longForm "forceLong=string,forceLong=long"
        = recognised .longForm
            " forceLong = string ,bogus=true,,forceLong=long\t, context=true,forceLong=long=1" := by
    decide +kernel
  ⟨same, (last_recognised_setting_wins .longForm _).2 _ same⟩

end ProtobufTypeScript.Options
