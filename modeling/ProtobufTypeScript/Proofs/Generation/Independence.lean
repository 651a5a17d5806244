import ProtobufTypeScript.Proofs.Generation.Generated
import ProtobufTypeScript.Proofs.Schema.Outline

/-!
What a unit depends on: its own file, and the outlines of the others. Every stage of generation
gives the same with registries in which the same is found.
-/

namespace ProtobufTypeScript

open Schema Target

/-- Of its messages a batch method depends on nothing but their fields. -/
theorem Service.ofMethod?_eq_of_outline {input otherInput output otherOutput : Message}
    (method : Method) (sameInput : input.outline = otherInput.outline)
    (sameOutput : output.outline = otherOutput.outline)
    : Batch.ofMethod? method input output = Batch.ofMethod? method otherInput otherOutput := by
  rw [Batch.ofMethod?, Batch.ofMethod?, onlyRepeatedField?, onlyRepeatedField?,
    onlyRepeatedField?, onlyRepeatedField?, Message.fields_eq_of_outline sameInput,
    Message.fields_eq_of_outline sameOutput]

namespace Schema.Registry.Agrees

variable {left right : Registry} {options : Options}

/-- Registries that agree give out the same symbols. -/
theorem symbol (agrees : left.Agrees right) (name : String)
    : left.symbol name = right.symbol name := by
  have forgets (found : Except GenerationError TypeEntry)
      : found.map TypeEntry.symbol = (found.map TypeEntry.outline).map TypeEntry.symbol := by
    cases found <;> rfl
  rw [Registry.symbol, Registry.symbol, forgets, agrees.entry, ← forgets]

/-- Registries that agree give out messages of the same outlines. -/
theorem message (agrees : left.Agrees right) (name : String)
    : (left.message name).map Message.outline = (right.message name).map Message.outline := by
  show Message.outline <$> left.message name = Message.outline <$> right.message name
  rw [Registry.message, Registry.message, map_bind, map_bind]
  refine bind_congr_of_map (agrees.entry name) (fun leftEntry rightEntry same => ?_)
  have definitions := congrArg TypeEntry.definition same
  simp only [TypeEntry.outline] at definitions
  cases leftHeld : leftEntry.definition <;> cases rightHeld : rightEntry.definition <;>
    simp_all [Definition.outline]

-----------------------------------------------------------------------------------------
-- Fields
-----------------------------------------------------------------------------------------

/-- Registries that agree classify message types in the same way, which is decided by
symbols and outlines.
-/
theorem messageKind (agrees : left.Agrees right) (typeName : String)
    : Field.messageKind left typeName = Field.messageKind right typeName := by
  unfold Field.messageKind
  rw [agrees.symbol typeName]
  split
  · rfl
  · split
    · rfl
    · exact bind_congr_of_map (agrees.message typeName) (fun _ _ _ => rfl)

/-- Of the message around a field only the name matters, which errors report. -/
theorem elementKind (agrees : left.Agrees right) {message other : Message}
    (same : message.outline = other.outline) (field : Schema.Field)
    : Field.elementKind left message field = Field.elementKind right other field := by
  unfold Field.elementKind
  rw [Message.plainName_eq_of_outline same, agrees.symbol field.typeName,
    agrees.messageKind field.typeName]

/-- Registries that agree classify the fields of messages with one outline in the same
way.
-/
theorem fieldKind (agrees : left.Agrees right) {message other : Message}
    (same : message.outline = other.outline) (field : Schema.Field)
    : Field.fieldKind left message field = Field.fieldKind right other field := by
  unfold Field.fieldKind
  rw [agrees.elementKind same field, Message.plainName_eq_of_outline same]
  refine bind_congr (fun kind => ?_)
  cases kind with
  | message symbol =>
      refine bind_congr_of_map (agrees.message field.typeName) (fun target reached equal => ?_)
      simp only [Message.fields_eq_of_outline equal, Message.mapEntry_eq_of_outline equal,
        agrees.elementKind equal]
  | _ => rfl

/-- Registries that agree give the fields of such messages the same shapes. -/
theorem shapeOf (agrees : left.Agrees right) {message other : Message}
    (same : message.outline = other.outline) (field : Schema.Field)
    : Field.shapeOf left options message field = Field.shapeOf right options other field := by
  rw [Field.shapeOf, Field.shapeOf, agrees.fieldKind same]

theorem shapesOf (agrees : left.Agrees right) (message : Message)
    : Field.shapesOf left options message = Field.shapesOf right options message :=
  congrArg message.fields.mapM (funext (agrees.shapeOf rfl))

-----------------------------------------------------------------------------------------
-- Services
-----------------------------------------------------------------------------------------

/-- Registries that agree make the same companions from requests and responses of the same
outlines.
-/
theorem companionOf (agrees : left.Agrees right) {input otherInput output otherOutput : Message}
    (sameInput : input.outline = otherInput.outline)
    (sameOutput : output.outline = otherOutput.outline) (batch : Service.Batch)
    : Service.companionOf left options input output batch
      = Service.companionOf right options otherInput otherOutput batch := by
  rw [Service.companionOf, Service.companionOf, agrees.shapeOf sameInput,
    agrees.shapeOf sameOutput]

/-- Registries that agree find the same companions for methods. -/
theorem companion? (agrees : left.Agrees right) (service : Schema.Service) (method : Method)
    : Service.companion? left options service method
      = Service.companion? right options service method := by
  unfold Service.companion?
  split
  · refine bind_congr_of_map (agrees.message method.input) (fun input _ sameInput => ?_)
    refine bind_congr_of_map (agrees.message method.output) (fun output _ sameOutput => ?_)
    rw [Service.ofMethod?_eq_of_outline method sameInput sameOutput]
    split
    · rfl
    · rw [agrees.companionOf sameInput sameOutput]
  · rfl

/-- Registries that agree find out the same about the methods of a service. -/
theorem endpoints (agrees : left.Agrees right) (service : Schema.Service)
    : Service.endpoints left options service = Service.endpoints right options service := by
  have each (method : Method)
      : Service.endpoint left options service method
        = Service.endpoint right options service method := by
    rw [Service.endpoint, Service.endpoint, agrees.symbol, agrees.symbol, agrees.companion?]
  rw [Service.endpoints, Service.endpoints, funext each]

-----------------------------------------------------------------------------------------
-- Units
-----------------------------------------------------------------------------------------

/-- Registries that agree lead to the same declarations for the types of a file. -/
theorem typeItems (agrees : left.Agrees right) (file : File)
    : Generation.typeItems left options file = Generation.typeItems right options file := by
  have each (node : Node)
      : Generation.nodeItems left options node = Generation.nodeItems right options node := by
    unfold Generation.nodeItems Generation.messageItems
    split
    · rw [agrees.shapesOf]
    · rfl
  rw [Generation.typeItems, Generation.typeItems, funext each]

/-- Registries that agree lead to the same declarations for the services of a file. -/
theorem serviceItems (agrees : left.Agrees right) (file : File)
    : Generation.serviceItems left options file = Generation.serviceItems right options file := by
  simp only [Generation.serviceItems, Service.declarations_eq_map, agrees.endpoints]

/-- Registries that agree lead to the same unit, up to its helpers. -/
theorem bareUnit (agrees : left.Agrees right) (file : File)
    : Generation.bareUnit left options file = Generation.bareUnit right options file := by
  rw [Generation.bareUnit, Generation.bareUnit, agrees.typeItems, agrees.serviceItems,
    agrees.identifiers]

/-- Registries that agree lead to the same declarations of helpers. -/
theorem declarations (agrees : left.Agrees right) (names : List String)
    : Helper.declarations left options names = Helper.declarations right options names := by
  have each (helper : Helper)
      : Helper.declaration left options helper = Helper.declaration right options helper := by
    simp only [Helper.declaration, agrees.symbol]
  simp only [Helper.declarations, funext each]

/-- The unit for a file is the same with registries in which the same is found. -/
theorem unit (agrees : left.Agrees right) (file : File)
    : Generation.unit left options file = Generation.unit right options file := by
  simp only [Generation.unit, agrees.bareUnit, agrees.declarations]

end Schema.Registry.Agrees

namespace Generation

/-- Whether an output stands for a file among the results of a request. -/
def IsOutputFor (request : Request) (results : List Output) (file : File) (output : Output)
    : Prop :=
  (file, output) ∈ (request.files.filter (selects request)).zip results

/-- The results of a request hold one output for a selected file, however often it is
listed, since its output is made in the same way each time.
-/
theorem exists_output {request : Request} {results : List Output} {registry : Registry}
    {file : File}
    (built : Registry.ofFiles (Options.ofParameter request.parameter) request.files = .ok registry)
    (accepted : outputs request = .ok results) (member : file ∈ request.files)
    (selected : selects request file = true)
    : ∃ output,
        Generation.output registry (Options.ofParameter request.parameter) file = .ok output
        ∧ ∀ other, IsOutputFor request results file other ↔ other = output := by
  obtain ⟨_, known, accepted⟩ := bind_eq_ok.mp accepted
  obtain rfl : registry = _ := Except.ok.inj (built.symm.trans known)
  obtain ⟨-, -, accepted⟩ := bind_eq_ok.mp accepted
  obtain ⟨lengths, each⟩ := List.forall₂_iff_zip.mp (mapM_eq_ok.mp accepted)
  have kept : file ∈ request.files.filter (selects request) :=
    List.mem_filter.mpr ⟨member, selected⟩
  rw [← List.map_fst_zip (Nat.le_of_eq lengths)] at kept
  obtain ⟨⟨_, output⟩, placed, rfl⟩ := List.mem_map.mp kept
  refine ⟨output, each placed, fun other => ⟨fun also => ?_, fun same => same ▸ placed⟩⟩
  exact Except.ok.inj ((each also).symm.trans (each placed))

/-- What is generated for a file depends on the file itself and on the outlines of the
others, in whatever order they are listed. Witness: the registries of both requests, in
which the same is found.
-/
theorem output_depends_on_outlines {first second : Request}
    {firstResults secondResults : List Output} {file : File}
    (firstAccepted : outputs first = .ok firstResults)
    (secondAccepted : outputs second = .ok secondResults)
    (sameParameter : first.parameter = second.parameter)
    (sameOutlines : (first.files.map File.outline).Perm (second.files.map File.outline))
    (inFirst : file ∈ first.files) (inSecond : file ∈ second.files)
    (selectedFirst : selects first file = true) (selectedSecond : selects second file = true)
    : ∃ output,
        (∀ other, IsOutputFor first firstResults file other ↔ other = output)
        ∧ ∀ other, IsOutputFor second secondResults file other ↔ other = output := by
  obtain ⟨left, leftBuilt, -⟩ := bind_eq_ok.mp firstAccepted
  obtain ⟨right, rightBuilt, -⟩ := bind_eq_ok.mp secondAccepted
  obtain ⟨output, made, first⟩ := exists_output leftBuilt firstAccepted inFirst selectedFirst
  obtain ⟨other, also, second⟩ := exists_output rightBuilt secondAccepted inSecond selectedSecond
  rw [← sameParameter] at rightBuilt also
  have agrees := Registry.agrees_of_perm leftBuilt rightBuilt sameOutlines
  rw [Generation.output, agrees.unit, ← Generation.output, also] at made
  obtain rfl : other = output := Except.ok.inj made
  exact ⟨other, first, second⟩

/-- The other file comes first instead of last, has comments, another enum member and a
service.
-/
theorem output_depends_on_outlines_two_files
    : let cart : File :=
        {
          name := "shop/cart.proto"
          package := "shop"
          messages :=
            [
              {
                name := "Cart"
                fields :=
                  [
                    { name := "owner", type := .message, typeName := ".base.User" },
                    { name := "role", number := 1, type := .enumeration, typeName := ".base.Role" }
                  ]
              }
            ]
        }
      let user : File :=
        {
          name := "base/user.proto"
          package := "base"
          messages := [{ name := "User" }]
          enumerations := [{ name := "Role", members := [{ name := "GUEST" }] }]
        }
      let changed : File :=
        {
          user with
          enumerations := [{ name := "Role", members := [{ name := "ADMIN", number := 1 }] }]
          services := [{ name := "Users" }]
          locations := [{ path := [4, 0], leading := some "A user." }]
        }
      let parameter := "outputEncodeMethods=false,outputJsonMethods=false"
      let first : Request := { parameter, files := [cart, user] }
      let second : Request := { parameter, selected := [cart.name], files := [changed, cart] }
      ∃ firstResults secondResults output,
        outputs first = .ok firstResults
        ∧ outputs second = .ok secondResults
        ∧ (first.files.map File.outline).Perm (second.files.map File.outline)
        ∧ (∀ other, IsOutputFor first firstResults cart other ↔ other = output)
        ∧ ∀ other, IsOutputFor second secondResults cart other ↔ other = output := by
  intro cart user changed parameter first second
  have someFirst : (outputs first).toOption.isSome = true := by decide +kernel
  have someSecond : (outputs second).toOption.isSome = true := by decide +kernel
  obtain ⟨firstResults, keptFirst⟩ := Option.isSome_iff_exists.mp someFirst
  obtain ⟨secondResults, keptSecond⟩ := Option.isSome_iff_exists.mp someSecond
  have firstAccepted := toOption_eq_some.mp keptFirst
  have secondAccepted := toOption_eq_some.mp keptSecond
  have sameOutlines : (first.files.map File.outline).Perm (second.files.map File.outline) :=
    .swap user.outline cart.outline []
  obtain ⟨output, inFirst, inSecond⟩ :=
    output_depends_on_outlines firstAccepted secondAccepted rfl sameOutlines
      (List.mem_cons_self : cart ∈ first.files)
      (List.mem_cons_of_mem _ List.mem_cons_self : cart ∈ second.files) rfl (by decide)
  exact ⟨firstResults, secondResults, output, firstAccepted, secondAccepted, sameOutlines, inFirst,
    inSecond⟩

end Generation

end ProtobufTypeScript
