import Playbook.Proofs.Script.RoundTrip
import Playbook.Proofs.Vocabulary.Handlers

/-! # Texts that commands are bound to

What a standard command is bound to has its texts from the tokens of the statement, or from the
names and the addresses in the world. So where no line break is in these, there is none in a call
that the command makes or in what it has verified.
-/

namespace Playbook

open Text

/-! ### Tokens -/

namespace Event

/-- More atoms have the line breaks of fewer. -/
theorem HasLineBreak.mono {first second : List (String × Bool)} (subset : first ⊆ second)
    (broken : HasLineBreak first) : HasLineBreak second := by
  obtain ⟨atom, member, lineBreak⟩ := broken
  exact ⟨atom, subset member, lineBreak⟩

/-- More items have the atoms of fewer. -/
theorem atomsOfItems_subset {items others : List Event} (subset : items ⊆ others) :
    atomsOfItems items ⊆ atomsOfItems others := by
  induction items with
  | nil => exact List.nil_subset _
  | cons item items ih =>
      obtain ⟨first, rest⟩ := List.cons_subset.mp subset
      exact List.append_subset.mpr ⟨atoms_subset_of_mem first, ih rest⟩

/-- Parentheses around a statement that From has run make no difference. -/
theorem atomsOfItems_redirected (items : List Event) :
    atomsOfItems (Core.redirected items) = atomsOfItems items := by
  unfold Core.redirected
  split
  · rw [atomsOfItems, atomsOfItems, List.append_nil, atoms]
  · rfl

/-- Quotation marks neither add nor remove line breaks. -/
theorem lineBreak_mem_quoteToken_iff {token : List Char} :
    '\n' ∈ quoteToken token ↔ '\n' ∈ token := by
  have escaped (c : Char) : '\n' ∈ (if c = '\\' ∨ c = '"' then ['\\', c] else [c]) ↔ c = '\n' := by
    split <;> simp [eq_comm]
  have mark : ('\n' : Char) ≠ '"' := by decide
  simp only [quoteToken, List.cons_append, List.mem_cons, List.mem_append, List.mem_flatMap,
    escaped, mark, List.not_mem_nil, false_or, or_false, exists_eq_right]

mutual

/-- Quotation and parentheses add no line break to what is written. -/
theorem lineBreak_mem_written_iff : (event : Event) →
    ('\n' ∈ event.written ↔ HasLineBreak event.atoms)
  | .atom token quoted => by
      have ofToken : HasLineBreak (Event.atom token quoted).atoms ↔ '\n' ∈ token.toList := by
        simp [HasLineBreak, atoms]
      rw [ofToken, written]
      split
      · exact Iff.rfl
      · exact lineBreak_mem_quoteToken_iff
  | .group items => by
      have inside := lineBreak_mem_writtenItems_iff items
      simpa [written, atoms] using inside

/-- Items are written with a line break just where one of their tokens has one. -/
theorem lineBreak_mem_writtenItems_iff : (items : List Event) →
    ('\n' ∈ writtenItems items ↔ HasLineBreak (atomsOfItems items))
  | [] => by simp [writtenItems, atomsOfItems, HasLineBreak]
  | [item] => by
      rw [writtenItems, atomsOfItems, atomsOfItems, List.append_nil]
      exact lineBreak_mem_written_iff item
  | item :: next :: items => by
      have first := lineBreak_mem_written_iff item
      have others := lineBreak_mem_writtenItems_iff (next :: items)
      have blank : ('\n' : Char) ≠ ' ' := by decide
      rw [atomsOfItems, HasLineBreak.append, ← first, ← others, writtenItems, List.mem_append,
        List.mem_cons, or_iff_right blank]
      simp

end

/-- An event is written on one line just where none of its tokens has a line break. -/
theorem isOneLine_render_iff {event : Event} :
    IsOneLine event.render ↔ ¬HasLineBreak event.atoms := by
  rw [render, isOneLine_ofList, lineBreak_mem_written_iff]

end Event

/-! ### Names and addresses -/

/-- The name and the address of the contract have no line breaks. -/
structure Contract.IsOneLine (contract : Contract) : Prop where
  name : Text.IsOneLine contract.name
  address : Text.IsOneLine contract.address

/-- The addresses of the accounts and the names and addresses of the contracts have no line breaks.
-/
structure Records.IsOneLine (records : Records) : Prop where
  accounts : ∀ account ∈ records.accounts, Text.IsOneLine account.2
  contracts : ∀ contract ∈ records.contracts, contract.2.IsOneLine

/-- Setting an entry adds no other. -/
theorem Table.eq_or_mem_of_mem_set {α : Type} {table : Table α} {key : String} {entry : α}
    {item : String × α} (member : item ∈ table.set key entry) :
    item = (key, entry) ∨ item ∈ table := by
  induction table with
  | nil => exact .inl (List.mem_singleton.mp member)
  | cons head rest ih =>
      rw [set] at member
      split at member
      · exact (List.mem_cons.mp member).imp_right (List.mem_cons_of_mem head)
      · rcases List.mem_cons.mp member with rfl | later
        · exact .inr List.mem_cons_self
        · exact (ih later).imp_right (List.mem_cons_of_mem head)

namespace Records
variable {records : Records} {name : String}

/-- What is found under a name is registered under a key that equals it up to case. -/
theorem exists_mem_of_findByName {α : Type} {table : Table α} {entry : α}
    (found : findByName table name = some entry) :
    ∃ key, (key, entry) ∈ table ∧ Text.lower key = Text.lower name := by
  obtain ⟨⟨key, _⟩, finds, rfl⟩ := Option.map_eq_some_iff.mp found
  exact ⟨key, List.mem_of_find?_eq_some finds, by simpa using List.find?_some finds⟩

/-- A contract that is found has no line breaks where the records have none. -/
theorem IsOneLine.contract? (oneLine : records.IsOneLine) {contract : Contract}
    (found : records.contract? name = some contract) : contract.IsOneLine := by
  rcases Option.or_eq_some_iff.mp found with exactly | ⟨-, byName⟩
  · exact oneLine.contracts _ (Table.mem_of_get? exactly)
  · obtain ⟨key, member, -⟩ := exists_mem_of_findByName byName
    exact oneLine.contracts _ member

/-- An address that is found has no line breaks where the records have none. -/
theorem IsOneLine.address? (oneLine : records.IsOneLine) {address : String}
    (found : records.address? name = some address) : Text.IsOneLine address := by
  rcases Option.or_eq_some_iff.mp found with account | ⟨-, byName⟩
  · obtain ⟨key, member, -⟩ := exists_mem_of_findByName account
    exact oneLine.accounts _ member
  · obtain ⟨contract, named, rfl⟩ := Option.map_eq_some_iff.mp byName
    obtain ⟨key, member, -⟩ := exists_mem_of_findByName named
    exact (oneLine.contracts _ member).address

end Records

/-! ### What is bound -/

/-- An address, a string or a contract without line breaks, or anything else. -/
def Datum.IsOneLine : Datum → Prop
  | .value (.address text) | .value (.string text) => Text.IsOneLine text
  | .contract handle => handle.IsOneLine
  | _ => True

/-- All that the parameters are bound to is without line breaks. -/
def Bound.IsOneLine (bound : Bound) : Prop := ∀ argument ∈ bound, argument.2.IsOneLine

namespace Bound
variable {bound : Bound}

/-- The text of an argument has no line breaks where the arguments have none. -/
theorem IsOneLine.text (oneLine : bound.IsOneLine) (name : String) :
    Text.IsOneLine (bound.text name) := by
  have empty : Text.IsOneLine "" := by decide
  unfold Bound.text text?
  split
  next found => exact oneLine _ (Table.mem_of_get? found)
  next found => exact oneLine _ (Table.mem_of_get? found)
  · exact empty

/-- The contract of an argument has no line breaks where the arguments have none. -/
theorem IsOneLine.contract (oneLine : bound.IsOneLine) (name : String) :
    (bound.contract name).IsOneLine := by
  unfold Bound.contract
  split
  next found => exact oneLine _ (Table.mem_of_get? found)
  · exact ⟨by decide, by decide⟩

end Bound

/-- A call is told on one line if what the command is bound to is. -/
theorem MethodCall.IsMadeOf.isOneLine_describe {call : MethodCall} {bound : Bound}
    (made : call.IsMadeOf bound) (oneLine : bound.IsOneLine) : Text.IsOneLine call.describe := by
  have contract : Text.IsOneLine call.contract.name :=
    made.contract ▸ (oneLine.contract "priceOracle").name
  have method : Text.IsOneLine call.method := by
    have listed : ∀ method ∈ ["setRefAddress", "setUnderlyingPrice", "setDirectPrice"],
        Text.IsOneLine method := by decide
    exact listed _ made.method
  have arguments : Text.IsOneLine (", ".intercalate (call.arguments.map (·.text))) := by
    rw [isOneLine_intercalate (by decide), List.forall_mem_map]
    intro argument member
    rcases made.arguments argument member with ⟨name, rfl⟩ | ⟨number, rfl⟩
    · exact oneLine.text name
    · exact isOneLine_toString_int number
  have dot : Text.IsOneLine "." := by decide
  have opener : Text.IsOneLine "(" := by decide
  have closer : Text.IsOneLine ")" := by decide
  simp only [describe, isOneLine_append, contract, method, arguments, dot, opener, closer, and_self]

/-- The only default of the standard commands is the name of the contract that is verified. -/
theorem Command.IsStandard.default_eq {command : Command} (standard : command.IsStandard) :
    ∀ parameter ∈ command.parameters, ∀ value,
      parameter.intake = .single (.default value) → value = .string PriceOracle.name := by
  rcases standard with core | oracles
  · rcases Core.mem_table_iff.mp core with rfl | rfl | rfl
    · exact List.forall_mem_cons.mpr ⟨nofun, List.forall_mem_singleton.mpr nofun⟩
    · exact List.forall_mem_singleton.mpr nofun
    · exact List.forall_mem_singleton.mpr nofun
  · rcases PriceOracle.mem_commands_iff.mp oracles with rfl | rfl | rfl | rfl | rfl | rfl
    · exact List.forall_mem_cons.mpr ⟨nofun, List.forall_mem_cons.mpr
        ⟨nofun, List.forall_mem_singleton.mpr nofun⟩⟩
    · exact List.forall_mem_cons.mpr ⟨nofun, List.forall_mem_singleton.mpr nofun⟩
    · exact List.forall_mem_cons.mpr ⟨nofun, List.forall_mem_cons.mpr
        ⟨nofun, List.forall_mem_singleton.mpr nofun⟩⟩
    · exact List.forall_mem_cons.mpr ⟨nofun, List.forall_mem_cons.mpr
        ⟨nofun, List.forall_mem_singleton.mpr nofun⟩⟩
    · exact List.forall_mem_singleton.mpr nofun
    · refine List.forall_mem_cons.mpr ⟨nofun, List.forall_mem_cons.mpr
        ⟨nofun, List.forall_mem_singleton.mpr ?_⟩⟩
      rintro _ ⟨⟩
      rfl

section
variable {world : World} (oneLine : world.IsOneLine)
include oneLine

/-- The address of an event has no line breaks where the event and the records have none. -/
theorem Coerce.isOneLine_addressOfEvent {event : Event} (unbroken : ¬Event.HasLineBreak event.atoms)
    {value : Value} (reads : addressOfEvent world event = .ok value) :
    (Datum.value value).IsOneLine := by
  fun_induction addressOfEvent world event with
  | case1 token quoted =>
      have ofToken : Text.IsOneLine token :=
        fun member => unbroken ⟨(token, quoted), List.mem_singleton_self _, member⟩
      unfold addressOfToken at reads
      split at reads
      · obtain rfl := Except.ok.inj reads
        exact ofToken
      split at reads
      · obtain rfl := Except.ok.inj reads
        exact (by decide : Text.IsOneLine zeroAddress)
      · rw [Records.resolveAddress] at reads
        cases found : world.address? token with
        | none =>
            rw [found] at reads
            cases reads
        | some address =>
            rw [found] at reads
            obtain rfl := Except.ok.inj reads
            exact oneLine.address? found
  | case2 tag inner isTag ih =>
      refine ih (fun broken => unbroken (broken.mono ?_)) reads
      exact Event.atoms_subset_of_mem (List.mem_cons_of_mem tag (List.mem_singleton_self inner))
  | case3 => cases reads
  | case4 => cases reads

/-- What a standard coercion reads of an event without line breaks has none. -/
theorem Coercion.IsStandard.isOneLine {coercion : Coercion} (standard : coercion.IsStandard)
    {event : Option Event} (unbroken : ∀ content ∈ event, ¬Event.HasLineBreak content.atoms)
    {datum : Datum} (reads : coercion world event = .ok datum) : datum.IsOneLine := by
  cases standard with
  | address =>
      obtain ⟨content, value, rfl, found, rfl⟩ := Coerce.ofEvent_eq_ok reads
      exact Coerce.isOneLine_addressOfEvent oneLine (unbroken content rfl) found
  | string =>
      cases event with
      | none => cases reads
      | some content =>
          cases content with
          | group items => cases reads
          | atom token quoted =>
              obtain rfl := Except.ok.inj reads
              exact fun member =>
                unbroken _ rfl ⟨(token, quoted), List.mem_singleton_self _, member⟩
  | mantissa =>
      obtain ⟨val, scale, rfl, -⟩ := @Coerce.exists_isCoerced world event datum (.inr reads)
      trivial
  | count =>
      obtain ⟨val, scale, rfl, -⟩ := Coerce.count_eq_ok reads
      trivial
  | event =>
      obtain ⟨content, value, -, keeps, rfl⟩ := Coerce.ofEvent_eq_ok reads
      obtain rfl := Except.ok.inj keeps
      trivial
  | contract name =>
      obtain ⟨handle, found, rfl⟩ := Coerce.contract_eq_ok reads
      exact oneLine.contract? found

/-- A parameter that falls back on a default without line breaks. -/
theorem Parameter.isOneLine_of_take {parameter : Parameter} (standard : parameter.IsStandard)
    (default : ∀ value, parameter.intake = .single (.default value) → (Datum.value value).IsOneLine)
    {command : String} {position : Nat} {events rest : List Event} {datum : Datum}
    (unbroken : ¬Event.HasLineBreak (Event.atomsOfItems events))
    (takes : parameter.take command world position events = .ok (datum, rest)) :
    datum.IsOneLine := by
  obtain ⟨name, coercion, intake⟩ := parameter
  have reads {event : Option Event} {position : Option Nat} {left : List Event}
      (fromEvents : ∀ content ∈ event, content.atoms ⊆ Event.atomsOfItems events)
      (pairs : (·, left) <$> Parameter.read ⟨name, coercion, intake⟩ command world event position =
        .ok (datum, rest)) : datum.IsOneLine :=
    standard.coercion.isOneLine oneLine
      (fun content isEvent broken => unbroken (broken.mono (fromEvents content isEvent)))
      (pair_annotateResult_eq_ok.mp pairs).1
  cases intake with
  | implicit =>
      refine reads ?_ takes
      rintro _ ⟨⟩
  | single fallback =>
      cases events with
      | nil =>
          cases fallback with
          | required => cases takes
          | null =>
              obtain ⟨rfl, -⟩ := Prod.mk.inj (Except.ok.inj takes)
              trivial
          | default value =>
              obtain ⟨rfl, -⟩ := Prod.mk.inj (Except.ok.inj takes)
              exact default value rfl
      | cons event events =>
          refine reads ?_ takes
          rintro _ ⟨⟩
          exact List.subset_append_left _ _
  | remainder =>
      refine reads ?_ takes
      rintro _ ⟨⟩
      exact List.Subset.refl _
  | each => exact absurd rfl standard.intake

/-- Arguments have no line breaks where the events, the defaults and the records have none. -/
theorem isOneLine_of_bindFrom {parameters : List Parameter}
    (standard : ∀ parameter ∈ parameters, parameter.IsStandard)
    (defaults : ∀ parameter ∈ parameters, ∀ value,
      parameter.intake = .single (.default value) → (Datum.value value).IsOneLine)
    {command : String} {position : Nat} {events : List Event} {bound : Bound}
    (unbroken : ¬Event.HasLineBreak (Event.atomsOfItems events))
    (binds : bindFrom command world parameters position events = .ok bound) : bound.IsOneLine := by
  induction parameters generalizing position events bound with
  | nil =>
      cases events with
      | nil =>
          obtain rfl := Except.ok.inj binds
          exact List.forall_mem_nil _
      | cons event events => cases binds
  | cons parameter parameters ih =>
      obtain ⟨first, others⟩ := List.forall_mem_cons.mp standard
      obtain ⟨firstDefault, otherDefaults⟩ := List.forall_mem_cons.mp defaults
      obtain ⟨datum, rest, otherBound, takes, bindsOthers, rfl⟩ := bindFrom_cons_eq_ok.mp binds
      have suffix := Parameter.ends_take first command world position events
      rw [takes] at suffix
      have left : ¬Event.HasLineBreak (Event.atomsOfItems rest) :=
        fun broken => unbroken (broken.mono (Event.atomsOfItems_subset suffix.2.subset))
      exact List.forall_mem_cons.mpr
        ⟨Parameter.isOneLine_of_take oneLine first firstDefault unbroken takes,
          ih others otherDefaults left bindsOthers⟩

/-- The arguments of a standard command have no line breaks where the events and the records have
none. -/
theorem Command.IsStandard.isOneLine_of_bind {command : Command} (standard : command.IsStandard)
    {events : List Event} {bound : Bound}
    (unbroken : ¬Event.HasLineBreak (Event.atomsOfItems events))
    (binds : command.bind world events = .ok bound) : bound.IsOneLine := by
  refine isOneLine_of_bindFrom oneLine standard.parameters ?_ unbroken binds
  intro parameter member value falls
  obtain rfl := standard.default_eq parameter member value falls
  exact (by decide : Text.IsOneLine PriceOracle.name)

end
end Playbook
