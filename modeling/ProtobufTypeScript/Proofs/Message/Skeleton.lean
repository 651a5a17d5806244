import ProtobufTypeScript.Message.Codec
import ProtobufTypeScript.Proofs.Message.JsonAgreement

/-!
The two functions that make a message from an object have one skeleton: with the converted values
taken out of the lines of both, and without the tests by which `fromPartial` skips undefined values
of maps, the lines are the same.
-/

namespace ProtobufTypeScript.Message

open ProtobufTypeScript.Field Schema Target

-----------------------------------------------------------------------------------------
-- Converted values in emitted code
-----------------------------------------------------------------------------------------

mutual
/-- A statement with a function applied to each value that it assigns or pushes on a list.
What follows a condition that is false is left alone.
-/
def mapStored (f : Expr → Expr) : Stmt → Stmt
  | .assign target value => .assign target (f value)
  | .expression (.call (.member target "push") [value]) =>
      .expression (.call (.member target "push") [f value])
  | .branch condition body otherwise => .branch condition (mapStoredAll f body) otherwise
  | .each name values body => .each name values (mapStoredAll f body)
  | .callback name callee arguments isAsync parameters body =>
      .callback name callee arguments isAsync parameters (mapStoredAll f body)
  | statement => statement

def mapStoredAll (f : Expr → Expr) : List Stmt → List Stmt
  | [] => []
  | statement :: rest => mapStored f statement :: mapStoredAll f rest
end

mutual
/-- The values that a statement assigns or pushes on a list, but for what follows a
condition that is false.
-/
def stored : Stmt → List Expr
  | .assign _ value => [value]
  | .expression (.call (.member _ "push") [value]) => [value]
  | .branch _ body _ => storedAll body
  | .each _ _ body => storedAll body
  | .callback _ _ _ _ _ body => storedAll body
  | _ => []

def storedAll : List Stmt → List Expr
  | [] => []
  | statement :: rest => stored statement ++ storedAll rest
end

/-- A statement with a function applied to each value that it stores where its condition
holds.
-/
def mapTaken (f : Expr → Expr) : Stmt → Stmt
  | .branch condition body otherwise => .branch condition (mapStoredAll f body) otherwise
  | statement => statement

/-- The values that a statement stores where its condition holds. -/
def takenValues : Stmt → List Expr
  | .branch _ body _ => storedAll body
  | _ => []

/-- The lines of statements in which a hole stands for each value that a statement stores
where its condition holds.
-/
def skeleton (hole : Expr) (statements : List Stmt) : Block :=
  Stmt.codeAll (statements.map (mapTaken fun _ => hole))

/-- The line that tests whether a value is there. -/
def valueTest : Snippet :=
  conditionSnippet "if" (.binary .notEqual (.name "value") .undefined) ++ [.plain " \x7b"]

/-- The line inside such a test at the beginning of some lines, and the lines behind its
end.
-/
def tested? : Block → Option (Line Snippet × Block)
  | .text opening :: .indent :: line :: .dedent :: .text closing :: rest =>
      if opening = valueTest ∧ closing = [.plain "\x7d"] then some (line, rest) else none
  | _ => none

/-- After the test of a value fewer lines are left, so that taking out tests comes to an
end.
-/
theorem length_lt_of_tested? {lines later : Block} {line : Line Snippet}
    (found : tested? lines = some (line, later))
    : later.length < lines.length := by
  unfold tested? at found
  split at found
  · split at found
    · cases found
      simp only [List.length_cons]
      omega
    · cases found
  · cases found

/-- Lines without the tests whether a value is there: the first and the last line of each
go, and the indentation between them.
-/
def withoutValueTests : Block → Block
  | [] => []
  | line :: rest =>
      match _ : tested? (line :: rest) with
      | some (inner, later) => inner :: withoutValueTests later
      | none => line :: withoutValueTests rest
termination_by lines => lines.length
decreasing_by
  · exact length_lt_of_tested? ‹_›
  · exact Nat.lt_succ_self _

/-- Whether no line of some lines is a test whether a value is there. -/
def TestsNoValue (lines : Block) : Prop :=
  ∀ line ∈ lines, line ≠ .text valueTest

/-- Lines without tests of values stay as they are, and what follows loses its tests.
Induction on the lines.
-/
theorem withoutValueTests_append {lines : Block} (free : TestsNoValue lines) (rest : Block)
    : withoutValueTests (lines ++ rest) = lines ++ withoutValueTests rest := by
  induction lines with
  | nil => rfl
  | cons line others ih =>
      obtain ⟨other, later⟩ := List.forall_mem_cons.mp free
      have notTested : tested? (line :: (others ++ rest)) = none := by
        unfold tested?
        split
        · rename_i opening inner closing rest same
          have here : line = .text opening := (List.cons.inj same).1
          exact if_neg (fun found => other (here.trans (congrArg Line.text found.1)))
        · rfl
      rw [List.cons_append, withoutValueTests]
      split
      · rename_i found
        rw [notTested] at found
        cases found
      · rw [ih later]
        rfl

/-- A test around one line gives way to the line. -/
theorem withoutValueTests_test (line : Line Snippet) (rest : Block)
    : withoutValueTests
        (.text valueTest :: .indent :: line :: .dedent :: .text [.plain "\x7d"] :: rest)
      = line :: withoutValueTests rest := by
  rw [withoutValueTests]
  split
  · rename_i found
    simp [tested?] at found
    rw [found.1, found.2]
  · rename_i found
    simp [tested?] at found

-----------------------------------------------------------------------------------------
-- Fields
-----------------------------------------------------------------------------------------

variable {options : Options} {conversion : Conversion} {shape : Shape}

/-- A conversion with a function applied to its values. -/
def Conversion.map (f : Expr → Expr) (conversion : Conversion) : Conversion :=
  { conversion with value := fun kind value => f (conversion.value kind value) }

/-- Where the object has one value of a field: in the field itself, or in the variable of
a loop.
-/
def valueSource (shape : Shape) : Expr :=
  if shape.isMap then .name "value" else if shape.repeated then .name "e" else source shape

/-- Changing the stored values of what takes over a field is changing the conversion. -/
theorem mapStored_takeGiven (f : Expr → Expr)
    : mapStored f (takeGiven options conversion shape)
      = takeGiven options (conversion.map f) shape := by
  unfold takeGiven
  split
  · unfold takeMap
    cases skips : conversion.skipsUndefined <;>
      simp [mapStored, mapStoredAll, Conversion.map, skips, Stmt.when]
  · split <;> rfl

/-- What takes over a field stores one value, the one that the conversion makes. Maps,
lists and single values are the cases.
-/
theorem stored_takeGiven
    : stored (takeGiven options conversion shape)
      = [conversion.value (valueKind shape.kind) (valueSource shape)] := by
  unfold takeGiven valueSource
  split
  · rename_i entry key value map
    rw [if_pos (isMap_iff.mpr ⟨entry, key, value, map⟩), map]
    unfold takeMap
    cases conversion.skipsUndefined <;> rfl
  · rename_i other
    have notMap := isMap_eq_false other
    rw [valueKind_of_not_isMap notMap, notMap]
    split <;> simp_all [stored, storedAll, Expr.method]

/-- Changing the values that a field is taken over with is changing the conversion. -/
theorem mapTaken_takeField (f : Expr → Expr)
    : mapTaken f (takeField options conversion shape)
      = takeField options (conversion.map f) shape := by
  simp only [takeField, mapTaken, mapStoredAll, mapStored_takeGiven]

/-- A field is taken over with one value, the one that the conversion makes. -/
theorem takenValues_takeField
    : takenValues (takeField options conversion shape)
      = [conversion.value (valueKind shape.kind) (valueSource shape)] := by
  simp only [takeField, takenValues, storedAll, stored_takeGiven, List.append_nil]

/-- Lines without tests of values stay so when one part follows another. -/
theorem TestsNoValue.append {lines others : Block} (first : TestsNoValue lines)
    (second : TestsNoValue others)
    : TestsNoValue (lines ++ others) :=
  List.forall_mem_append.mpr ⟨first, second⟩

/-- A statement that does not start as a condition is no test. -/
theorem testsNoValue_statement (text : String) {rest : Snippet} (other : text ≠ "if (")
    : TestsNoValue (Block.statement (.plain text :: rest)) := by
  refine List.forall_mem_singleton.mpr (fun same => other ?_)
  exact Piece.plain.inj (List.cons.inj (Line.text.inj same)).1

/-- A header that does not start as a condition is no test. -/
theorem testsNoValue_opening (text : String) {rest : Snippet} (other : text ≠ "if (")
    : TestsNoValue (Block.opening (.plain text :: rest)) := by
  refine List.forall_mem_cons.mpr ⟨fun same => other ?_, List.forall_mem_singleton.mpr nofun⟩
  exact Piece.plain.inj (List.cons.inj (Line.text.inj same)).1

/-- The test whether a field is given is not one of an entry's value. -/
theorem testsNoValue_given (shape : Shape)
    : TestsNoValue (Block.opening (conditionSnippet "if" (isGiven shape))) := by
  simp [TestsNoValue, Block.opening, conditionSnippet, isGiven, source, Expr.field, Expr.snippet,
    valueTest]

theorem testsNoValue_closing (tail : Snippet)
    : TestsNoValue (Block.closingWith tail) := by
  simp [TestsNoValue, Block.closingWith, valueTest, conditionSnippet]

/-- What follows a branch for a field is the same for all conversions. -/
theorem testsNoValue_missing (shape : Shape)
    : TestsNoValue
        (Otherwise.code
          (if shape.repeated then .nothing
          else .block [.assign (place shape) (missingValue options shape)])) := by
  split
  · exact testsNoValue_closing []
  · refine TestsNoValue.append (TestsNoValue.append ?_ ?_) (testsNoValue_closing [])
    · simp [TestsNoValue, Block.between, valueTest, conditionSnippet]
    · rw [Stmt.codeAll, Stmt.codeAll, List.append_nil]
      exact testsNoValue_statement _ (by decide)

/-- Without tests of values, taking over a map is what it is for a conversion that has
none.
-/
theorem withoutValueTests_takeMap (value : Kind → Expr → Expr) (key : Scalar) (kind : Kind)
    (rest : Block)
    : withoutValueTests (Stmt.code (takeMap options ⟨value, true⟩ shape key kind) ++ rest)
      = Stmt.code (takeMap options ⟨value, false⟩ shape key kind) ++ withoutValueTests rest := by
  let store : Stmt :=
    .assign (.element (place shape) (mapKey options key)) (value kind (.name "value"))
  obtain ⟨line, stores⟩ : ∃ line, Stmt.codeAll [store] = [line] := ⟨_, rfl⟩
  have tests
      : Stmt.codeAll [.when (.binary .notEqual (.name "value") .undefined) [store]]
        = [.text valueTest, .indent] ++ Stmt.codeAll [store] ++ [.dedent, .text [.plain "\x7d"]] :=
    rfl
  have opening
      : TestsNoValue
          (Block.opening
            (callbackSnippet none
              (.member (.method (.name "Object") "entries" [source shape]) "forEach") [] false
              [.pair "key" "value"])) :=
    testsNoValue_opening "Object" (by decide)
  have inside := withoutValueTests_test line (Block.closingWith [.plain ");"] ++ rest)
  rw [withoutValueTests_append (testsNoValue_closing [.plain ");"])] at inside
  unfold takeMap
  simp only [Stmt.code, if_true, Bool.false_eq_true, if_false, List.append_assoc]
  rw [withoutValueTests_append opening, tests, stores]
  exact congrArg _ inside

/-- A field that is no map is taken without a test of its values: a list in a loop, a
single value in one statement.
-/
theorem testsNoValue_takeGiven (notMap : shape.isMap = false)
    : TestsNoValue (Stmt.code (takeGiven options conversion shape)) := by
  unfold takeGiven
  split
  · rename_i map
    rw [isMap_iff.mpr ⟨_, _, _, map⟩] at notMap
    cases notMap
  · split
    · refine TestsNoValue.append (TestsNoValue.append ?_ ?_) (testsNoValue_closing [])
      · exact testsNoValue_opening _ (by decide)
      · rw [Stmt.codeAll, Stmt.codeAll, List.append_nil]
        exact testsNoValue_statement "message" (by decide)
    · exact testsNoValue_statement "message" (by decide)

/-- Fields that are not maps have no tests of values to begin with. -/
theorem takeGiven_eq_of_not_isMap {value : Kind → Expr → Expr} (notMap : shape.isMap = false)
    : takeGiven options ⟨value, true⟩ shape = takeGiven options ⟨value, false⟩ shape := by
  unfold takeGiven
  split
  · rename_i map
    rw [isMap_iff.mpr ⟨_, _, _, map⟩] at notMap
    cases notMap
  · rfl

/-- Without tests of values, what takes over a field is what it is for a conversion that
has none. Only maps have such tests.
-/
theorem withoutValueTests_takeGiven (value : Kind → Expr → Expr) (rest : Block)
    : withoutValueTests (Stmt.code (takeGiven options ⟨value, true⟩ shape) ++ rest)
      = Stmt.code (takeGiven options ⟨value, false⟩ shape) ++ withoutValueTests rest := by
  cases isMap : shape.isMap with
  | false =>
      rw [takeGiven_eq_of_not_isMap isMap,
        withoutValueTests_append (testsNoValue_takeGiven isMap)]
  | true =>
      obtain ⟨entry, key, kind, map⟩ := isMap_iff.mp isMap
      unfold takeGiven
      rw [map]
      exact withoutValueTests_takeMap value key kind rest

/-- This holds of a whole field, whose default has no tests either. -/
theorem withoutValueTests_takeField (value : Kind → Expr → Expr) (rest : Block)
    : withoutValueTests (Stmt.code (takeField options ⟨value, true⟩ shape) ++ rest)
      = Stmt.code (takeField options ⟨value, false⟩ shape) ++ withoutValueTests rest := by
  unfold takeField
  simp only [Stmt.code, Stmt.codeAll, List.append_nil, List.append_assoc]
  rw [withoutValueTests_append (testsNoValue_given shape), withoutValueTests_takeGiven,
    withoutValueTests_append (testsNoValue_missing shape)]

/-- This holds of all fields in order. Induction on the fields. -/
theorem withoutValueTests_takeFields (value : Kind → Expr → Expr) (shapes : List Shape)
    (rest : Block)
    : withoutValueTests
          (Stmt.codeAll (shapes.map (takeField options ⟨value, true⟩)) ++ rest)
      = Stmt.codeAll (shapes.map (takeField options ⟨value, false⟩)) ++ withoutValueTests rest := by
  induction shapes with
  | nil => rfl
  | cons shape others ih =>
      simp only [List.map_cons, Stmt.codeAll, List.append_assoc]
      rw [withoutValueTests_takeField, ih]

-----------------------------------------------------------------------------------------
-- Functions
-----------------------------------------------------------------------------------------

/-- The code of statements in sequence is that of the first ones and then that of the
others.
-/
theorem codeAll_append (first second : List Stmt)
    : Stmt.codeAll (first ++ second) = Stmt.codeAll first ++ Stmt.codeAll second := by
  induction first with
  | nil => rfl
  | cons statement rest ih =>
      rw [List.cons_append, Stmt.codeAll, Stmt.codeAll, ih, List.append_assoc]

/-- What makes a new message has no tests. -/
theorem testsNoValue_seed (name : String) (shapes : List Shape)
    : TestsNoValue (Stmt.codeAll (seed name shapes)) := by
  refine TestsNoValue.append (testsNoValue_statement _ (by decide)) ?_
  induction shapes.filter Shape.repeated with
  | nil => exact nofun
  | cons shape rest ih =>
      exact TestsNoValue.append (testsNoValue_statement "message" (by decide)) ih

/-- Changing the values that a message is made with is changing the conversion. Witness:
the seeds take no value, and each field takes its own.
-/
theorem mapTaken_fromObjectBody (f : Expr → Expr) (name : String) (shapes : List Shape)
    : (fromObjectBody options conversion name shapes).map (mapTaken f)
      = fromObjectBody options (conversion.map f) name shapes := by
  have seeds : (seed name shapes).map (mapTaken f) = seed name shapes := by
    rw [seed, List.map_cons, List.map_map]
    rfl
  have fields
      : (shapes.map (takeField options conversion)).map (mapTaken f)
        = shapes.map (takeField options (conversion.map f)) := by
    rw [List.map_map]
    exact List.map_congr_left (fun shape _ => mapTaken_takeField f)
  rw [fromObjectBody, List.map_append, List.map_append, seeds, fields]
  rfl

/-- A message is made with one value for each field, in order, the one that the conversion
makes. The seeds take no value.
-/
theorem takenValues_fromObjectBody (name : String) (shapes : List Shape)
    : (fromObjectBody options conversion name shapes).flatMap takenValues
      = shapes.map (fun shape => conversion.value (valueKind shape.kind) (valueSource shape)) := by
  have seeds : (seed name shapes).flatMap takenValues = [] := by
    refine List.flatMap_eq_nil_iff.mpr (List.forall_mem_cons.mpr ⟨rfl, ?_⟩)
    exact List.forall_mem_map.mpr (fun shape _ => rfl)
  have fields
      : (shapes.map (takeField options conversion)).flatMap takenValues
        = shapes.map
            (fun shape => conversion.value (valueKind shape.kind) (valueSource shape)) := by
    simp only [List.flatMap_map, takenValues_takeField]
    exact List.map_eq_flatMap.symm
  rw [fromObjectBody, List.flatMap_append, List.flatMap_append, seeds, fields, List.nil_append]
  exact List.append_nil _

/-- Without tests of values, making a message is what it is for a conversion that has
none.
-/
theorem withoutValueTests_fromObjectBody (value : Kind → Expr → Expr) (name : String)
    (shapes : List Shape)
    : withoutValueTests (Stmt.codeAll (fromObjectBody options ⟨value, true⟩ name shapes))
      = Stmt.codeAll (fromObjectBody options ⟨value, false⟩ name shapes) := by
  have finish : TestsNoValue (Stmt.codeAll [.result (.name "message")]) :=
    testsNoValue_statement "return " (by decide)
  have last := withoutValueTests_append finish []
  rw [withoutValueTests, List.append_nil] at last
  simp only [fromObjectBody, codeAll_append, List.append_assoc]
  rw [withoutValueTests_append (testsNoValue_seed name shapes), withoutValueTests_takeFields, last]

/-- Both functions have one skeleton, whatever stands for the holes, but for the tests of
values in `fromPartial`; in the holes are the same values in the same order, converted in
two ways. Witness: the statements that both come to, made with their conversions.
-/
theorem fromJson_fromPartial_agree (options : Options) (name : String) (shapes : List Shape)
    : ∃ json partials : List Stmt,
        (fromJson options name shapes).body.lines = Stmt.codeAll json
        ∧ (fromPartial options name shapes).body.lines = Stmt.codeAll partials
        ∧ (∀ hole, skeleton hole json = withoutValueTests (skeleton hole partials))
        ∧ json.flatMap takenValues
          = shapes.map
              (fun shape => valueFromJson options (valueKind shape.kind) (valueSource shape))
        ∧ partials.flatMap takenValues
          = shapes.map (fun shape =>
              valueFromPartial options (valueKind shape.kind) (valueSource shape)) := by
  refine ⟨fromObjectBody options (jsonConversion options) name shapes,
    fromObjectBody options (partialConversion options) name shapes,
    lines_fromJson options name shapes, lines_fromPartial options name shapes, fun hole => ?_,
    takenValues_fromObjectBody name shapes, takenValues_fromObjectBody name shapes⟩
  rw [skeleton, skeleton, mapTaken_fromObjectBody, mapTaken_fromObjectBody]
  exact (withoutValueTests_fromObjectBody (fun _ _ => hole) name shapes).symm

end ProtobufTypeScript.Message
