import Playbook.Proofs.Number.Coerced
import Playbook.Proofs.Play.Ends
import Playbook.Proofs.Text.OneLine
import Playbook.Proofs.Vocabulary.Core
import Playbook.Proofs.Vocabulary.PriceOracle

/-! # What the standard commands are bound to

A parameter that is bound has been given what its coercion reads, or what it falls back on. So the
handlers of the standard commands find every argument that they ask for, and find it to be of the
kind that they expect.
-/

namespace Playbook

/-! ### Bound parameters -/

/-- What a parameter may be bound to in a world. -/
def Parameter.Supplies (parameter : Parameter) (world : World) (datum : Datum) : Prop :=
  match parameter.intake with
  | .implicit => parameter.coercion world none = .ok datum
  | .single .required => ∃ event, parameter.coercion world (some event) = .ok datum
  | .single .null =>
    datum = .absent ∨ ∃ event, parameter.coercion world (some event) = .ok datum
  | .single (.default value) =>
    datum = .value value ∨ ∃ event, parameter.coercion world (some event) = .ok datum
  | .remainder => ∃ events, parameter.coercion world (some (.group events)) = .ok datum
  | .each => ∃ value, datum = .value value

/-- What parameters are bound to in a world, under their names and in their order. -/
inductive Supplied (world : World) : List Parameter → Bound → Prop where
  | nil : Supplied world [] []
  | cons {parameter : Parameter} {parameters : List Parameter} {datum : Datum} {bound : Bound}
      (supplies : parameter.Supplies world datum) (others : Supplied world parameters bound) :
      Supplied world (parameter :: parameters) ((parameter.name, datum) :: bound)

/-! ### The coercions of the standard commands -/

/-- The coercions that the parameters of the standard commands have. -/
inductive Coercion.IsStandard : Coercion → Prop where
  | address : IsStandard Coerce.address
  | string : IsStandard Coerce.string
  | mantissa : IsStandard Coerce.mantissa
  | count : IsStandard Coerce.count
  | event : IsStandard Coerce.event
  | contract (name : String) : IsStandard (Coerce.contract name)

namespace Coerce

/-- What is read as a string is a string. -/
theorem string_eq_ok {world : World} {event : Option Event} {datum : Datum}
    (reads : string world event = .ok datum) : ∃ text, datum = .value (.string text) := by
  cases event with
  | none => cases reads
  | some content =>
      cases content with
      | atom text quoted => exact ⟨text, (Except.ok.inj reads).symm⟩
      | group items => cases reads

/-- What is read as the contract of a name is that contract. -/
theorem contract_eq_ok {name : String} {world : World} {event : Option Event} {datum : Datum}
    (reads : contract name world event = .ok datum) :
    ∃ handle, world.contract? name = some handle ∧ datum = .contract handle := by
  rw [contract, Records.resolveContract] at reads
  cases found : world.contract? name with
  | none =>
      rw [found] at reads
      cases reads
  | some handle =>
      rw [found] at reads
      exact ⟨handle, rfl, (Except.ok.inj reads).symm⟩

/-- A count is a whole number that is not negative. -/
theorem count_eq_ok {world : World} {event : Option Event} {datum : Datum}
    (reads : count world event = .ok datum) :
    ∃ val scale, datum = .value (.number val scale) ∧ val.isWhole = true ∧
      val.isBelowZero = false := by
  obtain ⟨content, value, -, read, rfl⟩ := ofEvent_eq_ok reads
  cases number : numberOfEvent 0 content with
  | error failure =>
      rw [number] at read
      cases read
  | ok result =>
      obtain ⟨val, scale, rfl, -⟩ := numberOfEvent_eq_ok (.inl rfl) number
      rw [number] at read
      change (if val.isBelowZero || !val.isWhole then _ else _) = _ at read
      split at read
      · cases read
      next natural =>
        rw [Bool.or_eq_true, not_or, Bool.not_eq_true, Bool.not_eq_true,
          Bool.not_eq_false'] at natural
        obtain rfl := Except.ok.inj read
        exact ⟨val, scale, rfl, natural.2, natural.1⟩

end Coerce

/-! ### How coercions fail -/

/-- The cause is that an event is not of the kind that was expected, or that a name is not
registered. What was expected or sought is told on one line. -/
inductive Cause.IsMisreading : Cause → Prop where
  | coercion {expected : String} (oneLine : Text.IsOneLine expected) (received : String) :
      IsMisreading (.coercion expected received)
  | lookup {what : String} (oneLine : Text.IsOneLine what) (name : String) :
      IsMisreading (.lookup name what)

/-- The failure is a misreading of which nothing has been noted. -/
def Failure.IsMisreading (failure : Failure) : Prop :=
  ∃ cause : Cause, cause.IsMisreading ∧ failure = .ofCause cause

/-- A misreading has no context yet. -/
theorem Failure.IsMisreading.isBare {failure : Failure} (misreading : failure.IsMisreading) :
    failure.IsBare := by
  obtain ⟨cause, -, rfl⟩ := misreading
  exact isBare_ofCause cause

/-- If there is a failure, it is a misreading. -/
abbrev Misreads {α : Type} (result : Except Failure α) : Prop :=
  EndsWith (fun _ => True) Failure.IsMisreading result

namespace Coerce

/-- A token that is not what was expected is a misreading. -/
theorem misreads_tokenMismatch {α : Type} {expected : String} (oneLine : Text.IsOneLine expected)
    (token : String) : Misreads (tokenMismatch expected token : Except Failure α) :=
  ⟨_, .coercion oneLine token, rfl⟩

/-- An event that is not what was expected is a misreading. -/
theorem misreads_mismatch {α : Type} {expected : String} (oneLine : Text.IsOneLine expected)
    (event : Option Event) : Misreads (mismatch expected event : Except Failure α) :=
  ⟨_, .coercion oneLine _, rfl⟩

/-- Reading a token fails with misreadings only. -/
theorem misreads_token {expected : String} (oneLine : Text.IsOneLine expected)
    (event : Option Event) : Misreads (token expected event) := by
  unfold token
  split
  · trivial
  · exact misreads_mismatch oneLine _

/-- A coercion of values fails with misreadings if its reading does. -/
theorem misreads_ofEvent {expected : String} {read : World → Event → Except Failure Value}
    {world : World} (oneLine : Text.IsOneLine expected)
    (misreads : ∀ event, Misreads (read world event))
    (event : Option Event) : Misreads (ofEvent expected read world event) := by
  cases event with
  | none => exact misreads_mismatch oneLine none
  | some content => exact (misreads content).map fun _ _ => trivial

/-- Reading the address of a token fails with misreadings only. -/
theorem misreads_addressOfToken (world : World) (token : String) :
    Misreads (addressOfToken world token) := by
  unfold addressOfToken
  split
  · trivial
  split
  · trivial
  · rw [Records.resolveAddress]
    cases world.address? token with
    | none => exact ⟨_, .lookup (by decide) token, rfl⟩
    | some address => trivial

/-- Reading the address of an event fails with misreadings only. -/
theorem misreads_addressOfEvent (world : World) (event : Event) :
    Misreads (addressOfEvent world event) := by
  fun_induction addressOfEvent world event with
  | case1 token quoted => exact misreads_addressOfToken world token
  | case2 tag inner isTag ih => exact ih
  | case3 tag inner notTag => exact misreads_mismatch (by decide) _
  | case4 items notPair => exact misreads_mismatch (by decide) _

/-- Reading the number of a token fails with misreadings only. -/
theorem misreads_scaledNumber {scale : Int} (scaled : scale = 0 ∨ scale = mantissaScale)
    (token : String) : Misreads (scaledNumber scale token) := by
  have denoted : Misreads (decimal token) := by
    unfold decimal
    cases Decimal.ofToken? token with
    | none => exact misreads_tokenMismatch (by decide) token
    | some val => trivial
  apply denoted.bind
  intro val _
  rw [fitsWord_eq val scaled]
  change Misreads (if decide _ then _ else _)
  split
  · trivial
  · exact misreads_tokenMismatch (by decide) token

/-- A pair that is tagged as a number is one, or is misread. -/
theorem misreads_taggedNumber {items : List Event} {result : Except Failure Value}
    (tagged : taggedNumber items = some result) : Misreads result := by
  have read {scale : Int} (scaled : scale = 0 ∨ scale = mantissaScale) (inner : Event) :
      Misreads (token "number" (some inner) >>= scaledNumber scale) :=
    (misreads_token (by decide) _).bind fun token _ => misreads_scaledNumber scaled token
  rw [taggedNumber.eq_def] at tagged
  split at tagged
  next tag inner =>
    split_ifs at tagged
    · exact Option.some.inj tagged ▸ read (.inl rfl) inner
    · exact Option.some.inj tagged ▸ read (.inr rfl) inner
  · cases tagged

/-- Reading the number of an event fails with misreadings only. -/
theorem misreads_numberOfEvent {scale : Int} (scaled : scale = 0 ∨ scale = mantissaScale)
    (event : Event) : Misreads (numberOfEvent scale event) := by
  cases event with
  | atom token quoted => exact misreads_scaledNumber scaled token
  | group items =>
      rw [numberOfEvent]
      cases tagged : taggedNumber items with
      | none => exact misreads_mismatch (by decide) _
      | some result => exact misreads_taggedNumber tagged

end Coerce

/-- Every standard coercion fails with misreadings only. -/
theorem Coercion.IsStandard.misreads {coercion : Coercion} (standard : coercion.IsStandard)
    (world : World) (event : Option Event) : Misreads (coercion world event) := by
  cases standard with
  | address =>
      exact Coerce.misreads_ofEvent (by decide) (Coerce.misreads_addressOfEvent world) event
  | string => exact (Coerce.misreads_token (by decide) event).map fun _ _ => trivial
  | mantissa =>
      exact Coerce.misreads_ofEvent (by decide) (Coerce.misreads_numberOfEvent (.inr rfl)) event
  | count =>
      apply Coerce.misreads_ofEvent (by decide)
      intro content
      apply (Coerce.misreads_numberOfEvent (.inl rfl) content).bind
      intro value _
      split
      · split
        · exact Coerce.misreads_mismatch (by decide) _
        · trivial
      · trivial
  | event =>
      apply Coerce.misreads_ofEvent (by decide)
      intro content
      trivial
  | contract name =>
      rw [Coerce.contract, Records.resolveContract]
      cases world.contract? name with
      | none => exact ⟨_, .lookup (by decide) name, rfl⟩
      | some handle => trivial

/-! ### Bound parameters -/

/-- The parameter reads as those of the standard commands do, and takes no list. -/
structure Parameter.IsStandard (parameter : Parameter) : Prop where
  coercion : parameter.coercion.IsStandard
  intake : parameter.intake ≠ .each

/-- How parameters fail to be bound to events: an argument is misread, it is missing, or there are
events left over. The command is noted, and the parameter unless it is all of them that are at
fault. -/
inductive Misbinds (command : String) (parameters : List Parameter) (events : List Event) :
    Failure → Prop where
  | misread {parameter : Parameter} (member : parameter ∈ parameters) {cause : Cause}
      (misreading : cause.IsMisreading) (position : Option Nat) :
      Misbinds command parameters events ((Failure.ofCause cause).annotate
        { command := some command, argument := some parameter.name, position })
  | missing {parameter : Parameter} (member : parameter ∈ parameters) (position : Option Nat) :
      Misbinds command parameters events
        ((Failure.ofCause (.missingArgument parameter.name)).annotate
        { command := some command, argument := some parameter.name, position })
  | surplus {rest : List Event} (left : rest <:+ events) (position : Option Nat) :
      Misbinds command parameters events
        ((Failure.ofCause (.extraArguments (rest.map (·.render)))).annotate
          { command := some command, position })

namespace Misbinds
variable {command : String} {parameters : List Parameter} {events : List Event} {failure : Failure}

/-- A failure of binding is an error of the script. -/
theorem isScript (misbinds : Misbinds command parameters events failure) : failure.IsScript := by
  cases misbinds with
  | misread | missing | surplus => exact keepsNotes_isScript _ _ (Failure.isScript_ofCause _)

/-- What fails for the last parameters on the last events fails for all of them. -/
theorem mono (misbinds : Misbinds command parameters events failure) {more : List Parameter}
    {others : List Event} (subset : parameters ⊆ more) (suffix : events <:+ others) :
    Misbinds command more others failure := by
  cases misbinds with
  | misread member misreading position => exact .misread (subset member) misreading position
  | missing member position => exact .missing (subset member) position
  | surplus left position => exact .surplus (left.trans suffix) position

end Misbinds

/-- A standard parameter takes what it supplies from the start of the events, or fails as binding
may. -/
theorem Parameter.ends_take {parameter : Parameter} (standard : parameter.IsStandard)
    (command : String) (world : World) (position : Nat) (events : List Event) :
    EndsWith (fun taken => parameter.Supplies world taken.1 ∧ taken.2 <:+ events)
      (Misbinds command [parameter] events) (parameter.take command world position events) := by
  obtain ⟨name, coercion, intake⟩ := parameter
  have reads (event : Option Event) (position : Option Nat) :
      EndsWith (fun datum => coercion world event = .ok datum)
        (Misbinds command [⟨name, coercion, intake⟩] events)
        (annotateResult { command := some command, argument := some name, position }
          (coercion world event)) := by
    apply (standard.coercion.misreads world event).self.marked
    rintro _ ⟨cause, misreading, rfl⟩
    exact .misread (List.mem_singleton_self _) misreading position
  cases intake with
  | implicit => exact (reads none _).map fun _ found => ⟨found, List.suffix_rfl⟩
  | single fallback =>
      cases events with
      | nil =>
          cases fallback with
          | required => exact .missing (List.mem_singleton_self _) _
          | null => exact ⟨.inl rfl, List.suffix_rfl⟩
          | default value => exact ⟨.inl rfl, List.suffix_rfl⟩
      | cons event events =>
          have rest := List.suffix_cons event events
          cases fallback with
          | required => exact (reads (some event) _).map fun _ found => ⟨⟨event, found⟩, rest⟩
          | null => exact (reads (some event) _).map fun _ found => ⟨.inr ⟨event, found⟩, rest⟩
          | default value =>
              exact (reads (some event) _).map fun _ found => ⟨.inr ⟨event, found⟩, rest⟩
  | remainder =>
      exact (reads (some (.group events)) _).map fun _ found => ⟨⟨events, found⟩, List.nil_suffix⟩
  | each => exact absurd rfl standard.intake

/-- Standard parameters are all supplied, or binding fails as it may. -/
theorem ends_bindFrom {parameters : List Parameter}
    (standard : ∀ parameter ∈ parameters, parameter.IsStandard) (command : String) (world : World)
    (position : Nat) (events : List Event) :
    EndsWith (Supplied world parameters) (Misbinds command parameters events)
      (bindFrom command world parameters position events) := by
  induction parameters generalizing position events with
  | nil =>
      cases events with
      | nil => exact .nil
      | cons event events => exact .surplus List.suffix_rfl _
  | cons parameter parameters ih =>
      obtain ⟨first, others⟩ := List.forall_mem_cons.mp standard
      have isFirst : [parameter] ⊆ parameter :: parameters :=
        List.cons_subset_cons parameter (List.nil_subset parameters)
      have takes := (Parameter.ends_take first command world position events).imp
        fun _ misbinds => misbinds.mono isFirst List.suffix_rfl
      apply takes.bind
      rintro ⟨datum, rest⟩ ⟨supplies, suffix⟩
      have binds := (ih others (position + (events.length - rest.length)) rest).imp
        fun _ misbinds => misbinds.mono (List.subset_cons_self parameter parameters) suffix
      exact binds.map fun bound supplied => .cons supplies supplied

/-! ### The standard commands -/

/-- The commands of the standard engine. -/
def Command.IsStandard (command : Command) : Prop :=
  command ∈ Core.table.commands ∨ command ∈ PriceOracle.commands

/-- What the standard commands are bound to in a world. -/
inductive StandardBound (world : World) : Command → Bound → Prop where
  | from (account : String) (statement : List Event) :
      StandardBound world Core.fromCommand
        [("account", .value (.address account)), ("event", .value (.event (.group statement)))]
  | print (items : List Event) :
      StandardBound world Core.printCommand [("message", .value (.event (.group items)))]
  | history : StandardBound world Core.historyCommand [("count", .absent)]
  | historyOf {val : Decimal} (scale : Int) (whole : val.isWhole = true)
      (natural : val.isBelowZero = false) :
      StandardBound world Core.historyCommand [("count", .value (.number val scale))]
  | set (kind address : String) :
      StandardBound world PriceOracle.setCommand
        [("kind", .value (.string kind)), ("address", .value (.address address)),
          ("description", .absent)]
  | setDescribed (kind address description : String) :
      StandardBound world PriceOracle.setCommand
        [("kind", .value (.string kind)), ("address", .value (.address address)),
          ("description", .value (.string description))]
  | setRefAddress {oracle : Contract} (found : world.contract? PriceOracle.name = some oracle)
      (address : String) :
      StandardBound world PriceOracle.setRefAddressCommand
        [("priceOracle", .contract oracle), ("ref", .value (.address address))]
  | setPrice {oracle : Contract} {val : Decimal} {scale : Int}
      (found : world.contract? PriceOracle.name = some oracle) (token : String)
      (coerced : IsCoerced val scale) :
      StandardBound world PriceOracle.setPriceCommand
        [("priceOracle", .contract oracle), ("sToken", .value (.address token)),
          ("amount", .value (.number val scale))]
  | setDirectPrice {oracle : Contract} {val : Decimal} {scale : Int}
      (found : world.contract? PriceOracle.name = some oracle) (address : String)
      (coerced : IsCoerced val scale) :
      StandardBound world PriceOracle.setDirectPriceCommand
        [("priceOracle", .contract oracle), ("address", .value (.address address)),
          ("amount", .value (.number val scale))]
  | address {oracle : Contract} (found : world.contract? PriceOracle.name = some oracle) :
      StandardBound world PriceOracle.addressCommand [("priceOracle", .contract oracle)]
  | verify {oracle : Contract} (found : world.contract? PriceOracle.name = some oracle)
      (apiKey contractName : String) :
      StandardBound world PriceOracle.verifyCommand
        [("priceOracle", .contract oracle), ("apiKey", .value (.string apiKey)),
          ("contractName", .value (.string contractName))]

/-- The parameters of a standard command are standard. -/
theorem Command.IsStandard.parameters {command : Command} (standard : command.IsStandard) :
    ∀ parameter ∈ command.parameters, parameter.IsStandard := by
  have oracle : PriceOracle.oracle.IsStandard := ⟨.contract PriceOracle.name, nofun⟩
  rcases standard with core | oracles
  · rcases Core.mem_table_iff.mp core with rfl | rfl | rfl
    · exact List.forall_mem_cons.mpr ⟨⟨.address, nofun⟩,
        List.forall_mem_singleton.mpr ⟨.event, nofun⟩⟩
    · exact List.forall_mem_singleton.mpr ⟨.event, nofun⟩
    · exact List.forall_mem_singleton.mpr ⟨.count, nofun⟩
  · rcases PriceOracle.mem_commands_iff.mp oracles with rfl | rfl | rfl | rfl | rfl | rfl
    · exact List.forall_mem_cons.mpr ⟨⟨.string, nofun⟩, List.forall_mem_cons.mpr
        ⟨⟨.address, nofun⟩, List.forall_mem_singleton.mpr ⟨.string, nofun⟩⟩⟩
    · exact List.forall_mem_cons.mpr ⟨oracle, List.forall_mem_singleton.mpr ⟨.address, nofun⟩⟩
    · exact List.forall_mem_cons.mpr ⟨oracle, List.forall_mem_cons.mpr
        ⟨⟨.address, nofun⟩, List.forall_mem_singleton.mpr ⟨.mantissa, nofun⟩⟩⟩
    · exact List.forall_mem_cons.mpr ⟨oracle, List.forall_mem_cons.mpr
        ⟨⟨.address, nofun⟩, List.forall_mem_singleton.mpr ⟨.mantissa, nofun⟩⟩⟩
    · exact List.forall_mem_singleton.mpr oracle
    · exact List.forall_mem_cons.mpr ⟨oracle, List.forall_mem_cons.mpr
        ⟨⟨.string, nofun⟩, List.forall_mem_singleton.mpr ⟨.string, nofun⟩⟩⟩

section
variable {name : String} {world : World} {datum : Datum}

/-- A nullable parameter supplies nothing or what a required one does. -/
theorem supplies_nullable {coercion : Coercion} :
    (Parameter.nullable name coercion).Supplies world datum ↔
      datum = .absent ∨ (Parameter.required name coercion).Supplies world datum :=
  Iff.rfl

/-- A parameter with a default supplies the default or what a required one does. -/
theorem supplies_defaulted {coercion : Coercion} {value : Value} :
    (Parameter.defaulted name coercion value).Supplies world datum ↔
      datum = .value value ∨ (Parameter.required name coercion).Supplies world datum :=
  Iff.rfl

/-- A parameter of addresses supplies an address. -/
theorem supplies_address
    (supplies : (Parameter.required name Coerce.address).Supplies world datum) :
    ∃ address, datum = .value (.address address) := by
  obtain ⟨event, reads⟩ := supplies
  exact @Coerce.address_eq_ok world (some event) datum reads

/-- A parameter of strings supplies a string. -/
theorem supplies_string (supplies : (Parameter.required name Coerce.string).Supplies world datum) :
    ∃ text, datum = .value (.string text) := by
  obtain ⟨event, reads⟩ := supplies
  exact @Coerce.string_eq_ok world (some event) datum reads

/-- A parameter of mantissas supplies a coerced number. -/
theorem supplies_mantissa
    (supplies : (Parameter.required name Coerce.mantissa).Supplies world datum) :
    ∃ val scale, datum = .value (.number val scale) ∧ IsCoerced val scale := by
  obtain ⟨event, reads⟩ := supplies
  exact @Coerce.exists_isCoerced world (some event) datum (.inr reads)

/-- A parameter of counts supplies a whole number that is not negative. -/
theorem supplies_count (supplies : (Parameter.required name Coerce.count).Supplies world datum) :
    ∃ val scale, datum = .value (.number val scale) ∧ val.isWhole = true ∧
      val.isBelowZero = false := by
  obtain ⟨event, reads⟩ := supplies
  exact @Coerce.count_eq_ok world (some event) datum reads

/-- A parameter of all remaining events supplies them as a group. -/
theorem supplies_event (supplies : (Parameter.remainder name Coerce.event).Supplies world datum) :
    ∃ items, datum = .value (.event (.group items)) := by
  obtain ⟨items, reads⟩ := supplies
  exact ⟨items, (Except.ok.inj reads).symm⟩

/-- The oracle is supplied as the contract of its name. -/
theorem supplies_oracle (supplies : PriceOracle.oracle.Supplies world datum) :
    ∃ oracle, world.contract? PriceOracle.name = some oracle ∧ datum = .contract oracle :=
  @Coerce.contract_eq_ok PriceOracle.name world none datum supplies

end

/-- Where its parameters are supplied, a core command has all that its handler asks for. -/
theorem StandardBound.of_core {world : World} {command : Command} {bound : Bound}
    (member : command ∈ Core.table.commands) (supplied : Supplied world command.parameters bound) :
    StandardBound world command bound := by
  rcases Core.mem_table_iff.mp member with rfl | rfl | rfl
  · obtain _ | ⟨first, _ | ⟨second, _ | _⟩⟩ := supplied
    obtain ⟨account, rfl⟩ := supplies_address first
    obtain ⟨items, rfl⟩ := supplies_event second
    exact .from account items
  · obtain _ | ⟨first, _ | _⟩ := supplied
    obtain ⟨items, rfl⟩ := supplies_event first
    exact .print items
  · obtain _ | ⟨first, _ | _⟩ := supplied
    rcases supplies_nullable.mp first with rfl | first
    · exact .history
    · obtain ⟨val, scale, rfl, whole, natural⟩ := supplies_count first
      exact .historyOf scale whole natural

/-- Where its parameters are supplied, a command of the oracle has all that its handler asks for. -/
theorem StandardBound.of_priceOracle {world : World} {command : Command} {bound : Bound}
    (member : command ∈ PriceOracle.commands) (supplied : Supplied world command.parameters bound) :
    StandardBound world command bound := by
  rcases PriceOracle.mem_commands_iff.mp member with rfl | rfl | rfl | rfl | rfl | rfl
  · obtain _ | ⟨first, _ | ⟨second, _ | ⟨third, _ | _⟩⟩⟩ := supplied
    obtain ⟨kind, rfl⟩ := supplies_string first
    obtain ⟨address, rfl⟩ := supplies_address second
    rcases supplies_nullable.mp third with rfl | third
    · exact .set kind address
    · obtain ⟨description, rfl⟩ := supplies_string third
      exact .setDescribed kind address description
  · obtain _ | ⟨first, _ | ⟨second, _ | _⟩⟩ := supplied
    obtain ⟨oracle, found, rfl⟩ := supplies_oracle first
    obtain ⟨address, rfl⟩ := supplies_address second
    exact .setRefAddress found address
  · obtain _ | ⟨first, _ | ⟨second, _ | ⟨third, _ | _⟩⟩⟩ := supplied
    obtain ⟨oracle, found, rfl⟩ := supplies_oracle first
    obtain ⟨token, rfl⟩ := supplies_address second
    obtain ⟨val, scale, rfl, coerced⟩ := supplies_mantissa third
    exact .setPrice found token coerced
  · obtain _ | ⟨first, _ | ⟨second, _ | ⟨third, _ | _⟩⟩⟩ := supplied
    obtain ⟨oracle, found, rfl⟩ := supplies_oracle first
    obtain ⟨address, rfl⟩ := supplies_address second
    obtain ⟨val, scale, rfl, coerced⟩ := supplies_mantissa third
    exact .setDirectPrice found address coerced
  · obtain _ | ⟨first, _ | _⟩ := supplied
    obtain ⟨oracle, found, rfl⟩ := supplies_oracle first
    exact .address found
  · obtain _ | ⟨first, _ | ⟨second, _ | ⟨third, _ | _⟩⟩⟩ := supplied
    obtain ⟨oracle, found, rfl⟩ := supplies_oracle first
    obtain ⟨apiKey, rfl⟩ := supplies_string second
    rcases supplies_defaulted.mp third with rfl | third
    · exact .verify found apiKey "PriceOracle"
    · obtain ⟨contractName, rfl⟩ := supplies_string third
      exact .verify found apiKey contractName

/-- Binding a standard command gives what its handler expects, or an error of the script. -/
theorem Command.IsStandard.ends_bind {command : Command} (standard : command.IsStandard)
    (world : World) (events : List Event) :
    EndsWith (StandardBound world command) (Misbinds command.name command.parameters events)
      (command.bind world events) :=
  (ends_bindFrom standard.parameters command.name world 1 events).weaken fun _ supplied =>
    standard.elim (fun core => .of_core core supplied) (fun oracle =>
      .of_priceOracle oracle supplied)

end Playbook
