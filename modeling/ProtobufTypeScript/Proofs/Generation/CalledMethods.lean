import ProtobufTypeScript.Proofs.Generation.ImportTargets
import ProtobufTypeScript.Proofs.Generation.Usage

/-!
Calls of codec methods. When code is generated for all files of a request, every method of a
registered type that a unit calls is one that the unit of this type generates for it.
-/

namespace ProtobufTypeScript

open Schema Target

namespace Target

/-- The object that an item exports, if it does. -/
def Item.object? : Item → Option ObjectConst
  | .object declared => some declared
  | .enumeration declared => some declared.object
  | _ => none

namespace SourceUnit

/-- Whether a unit calls a method of a symbol: the text of the call stands right behind
the symbol in a line of the unit's code.
-/
def Calls (unit : SourceUnit) (symbol : Symbol) (method : String) : Prop :=
  ∃ item ∈ unit.items, ∃ before after,
    .text (before ++ .symbol symbol :: after) ∈ item.block
    ∧ ("." ++ method ++ "(").toList <+: Snippet.written after

/-- Whether an object that a unit exports under a name has a method. -/
def Offers (unit : SourceUnit) (name method : String) : Prop :=
  ∃ object ∈ unit.items.filterMap Item.object?,
    object.name = name ∧ ∃ function, .method function ∈ object.entries ∧ function.name = method

end SourceUnit

end Target

namespace Generation

/-- The methods of codecs. -/
def codecMethods : List String :=
  ["encode", "decode", "fromJSON", "toJSON", "fromPartial"]

/-- The methods that a run generates for a type. -/
def providedMethods (options : Options) : Definition → List String
  | .message _ =>
      (if options.binaryMethods then ["encode", "decode"] else [])
        ++ if options.jsonMethods then ["fromJSON", "fromPartial", "toJSON"] else []
  | .enumeration _ => if options.jsonMethods then ["fromJSON", "toJSON"] else []

variable {registry : Registry} {options : Options} {files : List File} {file : File}
  {unit : SourceUnit} {method : String}

/-- No registered type has a symbol of a library, as it comes from a generated unit. -/
theorem symbol_ne_library {type : TypeEntry} {symbol : Symbol} (member : symbol ∈ librarySymbols)
    : type.symbol ≠ symbol := by
  rintro rfl
  simp [librarySymbols, TypeEntry.symbol, Symbol.ofUnit, Library.reader, Library.writer,
    Library.long, Library.dataLoader, Library.hash, Symbol.ofPackage, Symbol.wholePackage] at member

-----------------------------------------------------------------------------------------
-- The timestamp message is there where points in time are read
-----------------------------------------------------------------------------------------

/-- The helper that reads points in time is used only if the timestamp message has
`fromJSON`.
-/
def timestampUsage (registry : Registry) (options : Options) : Usage where
  allows symbol _ :=
    symbol = Helper.fromJsonTimestamp.symbol
    → options.jsonMethods = true ∧ registry.HasMessage Field.timestampName
  reader _ := nofun
  writer _ := nofun
  long _ := nofun
  dataLoader _ := nofun
  hash _ := nofun
  helper helper _ ordinary same := by
    cases helper with
    | fromJsonTimestamp => exact absurd rfl ordinary
    | _ => exact absurd same (by decide)

/-- Registered types may be used in every way as far as timestamps are concerned. -/
theorem timestampUsage_allows_type {name : String} {symbol : Symbol} {next : List Char}
    (registered : registry.symbol name = .ok symbol)
    : (timestampUsage registry options).allows symbol next := by
  obtain ⟨type, -, rfl⟩ := Registry.symbol_eq_ok registered
  exact fun same => absurd same symbol_ne_helper

/-- Helpers for timestamps only need the timestamp message to be registered, which every
use of a registered type entails.
-/
theorem timestampUsage_grantsProvided
    : (timestampUsage registry options).GrantsProvided registry options where
  type _ _ registered _ _ := timestampUsage_allows_type registered
  message _ _ registered _ :=
    {
      free := fun _ _ => timestampUsage_allows_type registered
      encode := fun _ _ _ => timestampUsage_allows_type registered
      decode := fun _ _ _ => timestampUsage_allows_type registered
      fromJson := fun _ _ _ => timestampUsage_allows_type registered
      fromPartial := fun _ _ _ => timestampUsage_allows_type registered
      toJson := fun _ _ _ => timestampUsage_allows_type registered
    }
  enumeration _ _ registered _ :=
    {
      free := fun _ _ => timestampUsage_allows_type registered
      fromJson := fun _ _ _ => timestampUsage_allows_type registered
      toJson := fun _ _ _ => timestampUsage_allows_type registered
    }
  timestamp wanted isMessage _ _ _ := ⟨wanted, isMessage⟩

/-- A unit that mentions the helper that reads points in time is generated with the
methods for JSON, and the timestamp message is registered.
-/
theorem hasTimestamp_of_mentioned (built : Registry.ofFiles options files = .ok registry)
    (resolved : ∀ file ∈ files, file.Resolves registry) (inFiles : file ∈ files)
    (made : Generation.unit registry options file = .ok unit)
    (mentioned : Helper.fromJsonTimestamp.symbol ∈ unit.mentioned)
    : options.jsonMethods = true ∧ registry.HasMessage Field.timestampName := by
  obtain ⟨item, inUnit, inBlock⟩ := List.mem_flatMap.mp mentioned
  obtain ⟨line, inLines, inLine⟩ := Block.mem_symbols_iff.mp inBlock
  obtain ⟨before, after, parted⟩ := List.append_of_mem (Snippet.mem_symbols_iff.mp inLine)
  have allowed := Usage.allowsLines_of_makes built resolved timestampUsage_grantsProvided inFiles
    (fun _ symbol registered _ _ => timestampUsage_allows_type registered)
    (makes_of_mem_unit made item inUnit)
  exact allowed line inLines [] closes_nil before _ after parted rfl

-----------------------------------------------------------------------------------------
-- Calls of methods
-----------------------------------------------------------------------------------------

/-- Methods of codecs are called on registered types only if the run generates them. -/
def callUsage (registry : Registry) (options : Options) : Usage where
  allows symbol next :=
    ∀ item ∈ registry.entries,
      item.2.symbol = symbol
      → ∀ method ∈ codecMethods,
          ("." ++ method ++ "(").toList <+: next
          → method ∈ providedMethods options item.2.definition
  reader _ _ _ same := absurd same (symbol_ne_library (by decide))
  writer _ _ _ same := absurd same (symbol_ne_library (by decide))
  long _ _ _ same := absurd same (symbol_ne_library (by decide))
  dataLoader _ _ _ same := absurd same (symbol_ne_library (by decide))
  hash _ _ _ same := absurd same (symbol_ne_library (by decide))
  helper _ _ _ _ _ same := absurd same symbol_ne_helper

/-- The names of methods have letters and digits only. The list is gone through. -/
theorem isAlphanum_of_mem_codecMethods (member : method ∈ codecMethods)
    : ∀ c ∈ method.toList, c.isAlphanum = true := by
  have words : codecMethods.all (fun method => method.toList.all Char.isAlphanum) = true := by
    decide
  exact List.all_eq_true.mp (List.all_eq_true.mp words method member)

/-- A word is told from what comes behind it, as it is as long as letters and digits go
on.
-/
theorem append_inj_of_isAlphanum {left right before after : List Char}
    (leftWord : ∀ c ∈ left, c.isAlphanum = true) (rightWord : ∀ c ∈ right, c.isAlphanum = true)
    (leftEnd : ∀ c ∈ before.head?, c.isAlphanum = false)
    (rightEnd : ∀ c ∈ after.head?, c.isAlphanum = false)
    (same : left ++ before = right ++ after)
    : left = right := by
  have ended
      : ∀ {rest : List Char},
          (∀ c ∈ rest.head?, c.isAlphanum = false) → rest.takeWhile Char.isAlphanum = [] := by
    intro rest closing
    cases rest with
    | nil => rfl
    | cons c others => simp [closing c rfl]
  calc left = (left ++ before).takeWhile Char.isAlphanum := by
        rw [List.takeWhile_append_of_pos leftWord, ended leftEnd, List.append_nil]
    _ = (right ++ after).takeWhile Char.isAlphanum := by rw [same]
    _ = right := by
        rw [List.takeWhile_append_of_pos rightWord, ended rightEnd, List.append_nil]

/-- A method that is called is the member whose call it starts: names end where the
brackets start.
-/
theorem eq_of_isPrefix_member {member : String} {next : List Char}
    (isMethod : method ∈ codecMethods) (isMember : member ∈ codecMethods) (closing : Closes next)
    (called : ("." ++ method ++ "(").toList <+: ("." ++ member).toList ++ next)
    : method = member := by
  obtain ⟨rest, same⟩ := called
  have words : method.toList ++ '(' :: rest = member.toList ++ next := by simpa using same
  exact String.toList_inj.mp
    (append_inj_of_isAlphanum (isAlphanum_of_mem_codecMethods isMethod)
      (isAlphanum_of_mem_codecMethods isMember) (by simp)
      (fun c first => (closing c first).2) words)

/-- Every symbol may be used as it is, as long as nothing is called on it. -/
theorem frees_symbol {symbol : Symbol}
    : (callUsage registry options).Frees symbol := by
  intro next closing item _ _ method _ called
  obtain ⟨rest, rfl⟩ := called
  simp [Closes] at closing

/-- A method that the run generates for a type may be called. The names of the methods are
words, so that no other one is taken for it.
-/
theorem grants_provided (built : Registry.ofFiles options files = .ok registry) {name : String}
    {symbol : Symbol} {type : TypeEntry} (registered : registry.symbol name = .ok symbol)
    (found : registry.entry name = .ok type) (isMethod : method ∈ codecMethods)
    (provided : method ∈ providedMethods options type.definition)
    : (callUsage registry options).Grants symbol method := by
  intro next closing item member same called isCalled prefixed
  obtain ⟨-, -, distinct⟩ := Registry.ofFiles_eq_ok.mp built
  have known : registry.symbol item.1 = .ok symbol := by
    rw [Registry.symbol, (Registry.entry_eq_ok distinct).mpr member, ← same]
    rfl
  have named : item.1 = name := Registry.symbol_injective distinct known registered
  have held : registry.entry name = .ok item.2 :=
    (Registry.entry_eq_ok distinct).mpr (named ▸ member)
  have equal : type = item.2 := Except.ok.inj (found.symm.trans held)
  rw [eq_of_isPrefix_member isCalled isMethod closing prefixed, ← equal]
  exact provided

/-- What the generators call on registered types is offered by the objects of these types,
under the options that have the callers generated.
-/
theorem callUsage_grantsProvided (built : Registry.ofFiles options files = .ok registry)
    : (callUsage registry options).GrantsProvided registry options where
  type _ _ _ := frees_symbol
  message name symbol registered isMessage := by
    obtain ⟨type, message, found, definition⟩ := isMessage
    have grants
        : ∀ method ∈ codecMethods,
            method ∈ providedMethods options (.message message)
            → (callUsage registry options).Grants symbol method := by
      intro method isMethod provided
      rw [← definition] at provided
      exact grants_provided built registered found isMethod provided
    exact {
      free := frees_symbol
      encode := fun wanted => grants _ (by decide) (by simp [providedMethods, wanted])
      decode := fun wanted => grants _ (by decide) (by simp [providedMethods, wanted])
      fromJson := fun wanted => grants _ (by decide) (by simp [providedMethods, wanted])
      fromPartial := fun wanted => grants _ (by decide) (by simp [providedMethods, wanted])
      toJson := fun wanted => grants _ (by decide) (by simp [providedMethods, wanted])
    }
  enumeration name symbol registered isEnumeration := by
    obtain ⟨type, enumeration, found, definition⟩ := isEnumeration
    have grants
        : ∀ method ∈ codecMethods,
            method ∈ providedMethods options (.enumeration enumeration)
            → (callUsage registry options).Grants symbol method := by
      intro method isMethod provided
      rw [← definition] at provided
      exact grants_provided built registered found isMethod provided
    exact {
      free := frees_symbol
      fromJson := fun wanted => grants _ (by decide) (by simp [providedMethods, wanted])
      toJson := fun wanted => grants _ (by decide) (by simp [providedMethods, wanted])
    }
  timestamp _ _ := frees_symbol

/-- A unit calls only methods that the run generates. Witness: the item that has the call,
which was made under a usage that allows only such calls.
-/
theorem provided_of_calls (built : Registry.ofFiles options files = .ok registry)
    (resolved : ∀ file ∈ files, file.Resolves registry) (inFiles : file ∈ files)
    (made : Generation.unit registry options file = .ok unit) {item : String × TypeEntry}
    (registered : item ∈ registry.entries) (isMethod : method ∈ codecMethods)
    (called : unit.Calls item.2.symbol method)
    : method ∈ providedMethods options item.2.definition := by
  obtain ⟨declared, inUnit, before, after, inBlock, prefixed⟩ := called
  have grants := callUsage_grantsProvided built
  have timestamp
      : Helper.fromJsonTimestamp.symbol ∈ unit.mentioned
        → ∀ symbol,
            registry.symbol Field.timestampName = .ok symbol
            → (callUsage registry options).Grants symbol "fromJSON" := by
    intro mentioned symbol known
    obtain ⟨wanted, isMessage⟩ := hasTimestamp_of_mentioned built resolved inFiles made mentioned
    exact (grants.message Field.timestampName symbol known isMessage).fromJson wanted
  have allowed := Usage.allowsLines_of_makes built resolved grants inFiles timestamp
    (makes_of_mem_unit made declared inUnit)
  refine allowed _ inBlock [] closes_nil before _ after rfl item registered rfl method isMethod ?_
  rw [List.append_nil]
  exact prefixed

-----------------------------------------------------------------------------------------
-- The methods of a unit
-----------------------------------------------------------------------------------------

/-- The functions of a message are entries of its object. -/
theorem method_mem_entries_codec {name : String} {shapes : List Field.Shape} {function : Function}
    (member : function ∈ Message.codecFunctions options name shapes)
    : .method function ∈ (Message.codec options name shapes).entries := by
  by_contra absent
  have others := (forall_mem_intercalate (p := (· ≠ Entry.method function))
    (by simp)).mp (fun _ inEntries same => absent (same ▸ inEntries))
  exact others _ (List.mem_map_of_mem member) _ (List.mem_singleton_self _) rfl

/-- A codec has a function for each method that the run generates for a message. -/
theorem exists_codecFunction {message : Message} (name : String) (shapes : List Field.Shape)
    (provided : method ∈ providedMethods options (.message message))
    : ∃ function ∈ Message.codecFunctions options name shapes, function.name = method := by
  have names
      : (Message.codecFunctions options name shapes).map Function.name
        = providedMethods options (.message message) := by
    unfold Message.codecFunctions providedMethods
    split <;> split <;> rfl
  rw [← names] at provided
  exact List.mem_map.mp provided

/-- An enum has a conversion for each method that the run generates for it, which are none
without methods for JSON.
-/
theorem exists_conversion {enumeration : Enumeration} (name : String)
    (provided : method ∈ providedMethods options (.enumeration enumeration))
    : ∃ function,
        .method function ∈ Enumeration.conversions options name enumeration.members
        ∧ function.name = method := by
  rw [providedMethods] at provided
  rw [Enumeration.conversions]
  split at provided
  · rename_i wanted
    rw [if_pos wanted]
    rcases List.mem_pair.mp provided with rfl | rfl
    · exact ⟨_, List.mem_cons_self, rfl⟩
    · exact ⟨_, List.mem_cons_of_mem _ List.mem_cons_self, rfl⟩
  · cases provided

/-- The unit for a file offers the methods that the run generates for each type of the
file. Messages and enums are the cases, each with an object that has its methods.
-/
theorem offers_of_provided {nodes : List Node} {node : Node}
    (walked : file.nodes .blind options = .ok nodes)
    (made : Generation.unit registry options file = .ok unit) (inFile : node ∈ nodes)
    (provided : method ∈ providedMethods options node.definition)
    : unit.Offers node.identifier method := by
  obtain ⟨items, declared, subset⟩ := exists_nodeItems walked made inFile
  have exported
      : ∀ item ∈ items,
          ∀ object,
            item.object? = some object → object ∈ unit.items.filterMap Item.object? :=
    fun item inItems object found => List.mem_filterMap.mpr ⟨item, subset inItems, found⟩
  cases nodeItems_eq_ok.mp declared with
  | message message shapes definition =>
      rw [show node.definition = _ from definition] at provided
      obtain ⟨function, inCodec, named⟩ := exists_codecFunction node.identifier shapes provided
      have wanted : options.hasCodecs = true := by
        unfold Options.hasCodecs
        by_contra none
        rw [Bool.not_eq_true, Bool.or_eq_false_iff] at none
        simp [providedMethods, none] at provided
      refine ⟨_, exported (.object (Message.codec options node.identifier shapes)) ?_ _ rfl, rfl,
        function, method_mem_entries_codec inCodec, named⟩
      simp [wanted, Node.below]
  | enumeration enumeration definition =>
      rw [show node.definition = _ from definition] at provided
      obtain ⟨function, converts, named⟩ := exists_conversion node.identifier provided
      exact ⟨_, exported _ List.mem_cons_self _ rfl, rfl, function,
        List.mem_append_right _ converts, named⟩

-----------------------------------------------------------------------------------------
-- Called methods are there
-----------------------------------------------------------------------------------------

/-- When code is generated for all files and every module is that of one file, a method
that a unit calls on a registered type is offered by the unit of the module that the type
belongs to.
-/
theorem called_methods_are_offered {request : Request} {results : List Output}
    (everything : request.selected = []) (accepted : outputs request = .ok results)
    (apart : (request.files.map (fun file => unitPath file.name)).Nodup)
    (built
      : Registry.ofFiles (Options.ofParameter request.parameter) request.files = .ok registry)
    (resolved : ∀ file ∈ request.files, file.Resolves registry)
    (generated : Generated request file unit) {name : String} {type : TypeEntry}
    (registered : (name, type) ∈ registry.entries) (isMethod : method ∈ codecMethods)
    (called : unit.Calls type.symbol method)
    : ∃ owner ownerUnit,
        Generated request owner ownerUnit
        ∧ { name := outputName owner.name, content := ownerUnit.render } ∈ results
        ∧ ownerUnit.module = type.unit
        ∧ (∀ other ∈ request.files, unitPath other.name = type.unit → other = owner)
        ∧ ownerUnit.Offers type.identifier method := by
  obtain ⟨_, sameBuilt, made⟩ := generated.made
  cases Except.ok.inj (built.symm.trans sameBuilt)
  have provided := provided_of_calls built resolved generated.member made registered isMethod called
  obtain ⟨owner, inFiles, nodes, walked, node, inFile, same⟩ :=
    Registry.comesFrom_of_mem_entries built _ registered
  cases same
  obtain ⟨ownerUnit, ownerGenerated, inResults⟩ := exists_generated everything accepted inFiles
  obtain ⟨_, sameBuilt, ownerMade⟩ := ownerGenerated.made
  cases Except.ok.inj (built.symm.trans sameBuilt)
  exact ⟨owner, ownerUnit, ownerGenerated, inResults, ownerGenerated.module_eq,
    fun other member place => List.inj_on_of_nodup_map apart member inFiles place,
    offers_of_provided walked ownerMade inFile provided⟩

/-- A message with a field whose type belongs to another file and has a field of an enum,
and a service that works on both messages.
-/
theorem called_methods_are_offered_two_files
    : let cartMessage : Message :=
        {
          name := "Cart"
          fields := [{ name := "owner", type := .message, typeName := ".base.User" }]
        }
      let userMessage : Message :=
        {
          name := "User"
          fields := [{ name := "role", type := .enumeration, typeName := ".base.Role" }]
        }
      let role : Enumeration := { name := "Role", members := [{ name := "ADMIN" }] }
      let cart : File :=
        {
          name := "shop/cart.proto"
          package := "shop"
          messages := [cartMessage]
          services :=
            [
              {
                name := "Carts"
                methods := [{ name := "Find", input := ".base.User", output := ".shop.Cart" }]
              }
            ]
        }
      let user : File :=
        {
          name := "base/user.proto"
          package := "base"
          messages := [userMessage]
          enumerations := [role]
        }
      let request : Request := { files := [cart, user] }
      request.selected = []
      ∧ (request.files.map (fun file => unitPath file.name)).Nodup
      ∧ "fromJSON" ∈ codecMethods
      ∧ ∃ results registry unit type,
          outputs request = .ok results
          ∧ Registry.ofFiles (Options.ofParameter request.parameter) request.files = .ok registry
          ∧ (∀ file ∈ request.files, file.Resolves registry)
          ∧ Generated request cart unit
          ∧ (".base.User", type) ∈ registry.entries
          ∧ unit.Calls type.symbol "fromJSON"
          ∧ ∃ owner ownerUnit,
              Generated request owner ownerUnit
              ∧ { name := outputName owner.name, content := ownerUnit.render } ∈ results
              ∧ ownerUnit.module = type.unit
              ∧ (∀ other ∈ request.files, unitPath other.name = type.unit → other = owner)
              ∧ ownerUnit.Offers type.identifier "fromJSON" := by
  intro cartMessage userMessage role cart user request
  have some : (outputs request).toOption.isSome = true := by decide +kernel
  have apart : (request.files.map (fun file => unitPath file.name)).Nodup := by decide +kernel
  -- The line of code that makes the owner of a cart from that of an object.
  let before : Snippet := [.plain "message", .plain ".owner", .plain " = "]
  let after : Snippet :=
    [
      .plain ".fromJSON", .plain "(", .plain "object", .plain ".owner", .plain ")", .plain ";"
    ]
  let line : Line Snippet := .text (before ++ .symbol (.ofUnit "User" "base/user") :: after)
  have written
      : (unit? request cart).map
            (fun unit => unit.items.any (fun item => item.block.contains line))
        = .some true := by
    decide +kernel
  obtain ⟨results, kept⟩ := Option.isSome_iff_exists.mp some
  have accepted := toOption_eq_some.mp kept
  obtain ⟨unit, generated, found⟩ := exists_generated_of_unit? List.mem_cons_self rfl written
  obtain ⟨registry, built, made⟩ := generated.made
  obtain ⟨item, inUnit, inBlock⟩ := List.any_eq_true.mp found
  -- The registered types are those that the files declare.
  have known := (Registry.registers_of_ofFiles built).known
  let userType : Declared := { names := ["User"], definition := .message userMessage }
  let cartType : Declared := { names := ["Cart"], definition := .message cartMessage }
  let roleType : Declared := { names := ["Role"], definition := .enumeration role }
  have inUser : user.declared = [roleType, userType] := rfl
  have inCart : cart.declared = [cartType] := rfl
  have userFound := known user (by simp [request]) userType (by simp [inUser])
  have cartFound := known cart (by simp [request]) cartType (by simp [inCart])
  have roleFound := known user (by simp [request]) roleType (by simp [inUser])
  rw [show userType.fullName user.package = ".base.User" by decide +kernel] at userFound
  rw [show cartType.fullName cart.package = ".shop.Cart" by decide +kernel] at cartFound
  rw [show roleType.fullName user.package = ".base.Role" by decide +kernel] at roleFound
  have hasUser : registry.HasMessage ".base.User" := ⟨_, userMessage, userFound, rfl⟩
  have hasCart : registry.HasMessage ".shop.Cart" := ⟨_, cartMessage, cartFound, rfl⟩
  have hasRole : registry.HasEnumeration ".base.Role" := ⟨_, role, roleFound, rfl⟩
  have resolved : ∀ file ∈ request.files, file.Resolves registry := by
    refine List.forall_mem_cons.mpr ⟨⟨?_, ?_⟩, List.forall_mem_singleton.mpr ⟨?_, ?_⟩⟩
    · rw [inCart]
      refine List.forall_mem_singleton.mpr ?_
      rintro _ ⟨⟩
      exact ⟨by simp [cartMessage], by simp [cartMessage, hasUser]⟩
    · simp [cart, hasUser, hasCart]
    · rw [inUser]
      refine List.forall_mem_cons.mpr ⟨nofun, List.forall_mem_singleton.mpr ?_⟩
      rintro _ ⟨⟩
      exact ⟨by simp [userMessage, hasRole], by simp [userMessage]⟩
    · simp [user]
  have placed
      : (userType.entry (Options.ofParameter request.parameter) user).symbol
        = .ofUnit "User" "base/user" := by
    decide +kernel
  have registered := Registry.mem_entries_of_entry userFound
  have called
      : unit.Calls (userType.entry (Options.ofParameter request.parameter) user).symbol
          "fromJSON" := by
    rw [placed]
    exact ⟨item, inUnit, before, after, by simpa using inBlock, by decide⟩
  exact ⟨rfl, apart, by decide, results, registry, unit, _, accepted, built, resolved, generated,
    registered, called, called_methods_are_offered rfl accepted apart built resolved generated
      registered (by decide) called⟩

end Generation

end ProtobufTypeScript
