import Playbook.Proofs.Play.Observation
import Playbook.Vocabulary.Core

/-! # What the core commands do

From reads an account before the statement that it passes on; the account is the address that its
first argument stands for. The other core commands are views, which make no calls.
-/

namespace Playbook

namespace Coerce

/-- What a token stands for as an address is an address. -/
theorem addressOfToken_eq_ok {world : World} {token : String} {value : Value}
    (reads : addressOfToken world token = .ok value) : ∃ account, value = .address account := by
  unfold addressOfToken at reads
  split at reads
  · exact ⟨token, (Except.ok.inj reads).symm⟩
  split at reads
  · exact ⟨zeroAddress, (Except.ok.inj reads).symm⟩
  · cases found : world.resolveAddress token with
    | error cause =>
        rw [found] at reads
        cases reads
    | ok account =>
        rw [found] at reads
        exact ⟨account, (Except.ok.inj reads).symm⟩

/-- What an event stands for as an address is an address. -/
theorem addressOfEvent_eq_ok {world : World} {event : Event} {value : Value}
    (reads : addressOfEvent world event = .ok value) : ∃ account, value = .address account := by
  fun_induction addressOfEvent world event with
  | case1 token quoted => exact addressOfToken_eq_ok reads
  | case2 tag inner isTag ih => exact ih reads
  | case3 tag inner notTag => cases reads
  | case4 items notPair => cases reads

/-- What is read as an address is one. -/
theorem address_eq_ok {world : World} {event : Option Event} {datum : Datum}
    (reads : address world event = .ok datum) : ∃ account, datum = .value (.address account) := by
  obtain ⟨content, value, -, found, rfl⟩ := ofEvent_eq_ok reads
  obtain ⟨account, rfl⟩ := addressOfEvent_eq_ok found
  exact ⟨account, rfl⟩

end Coerce

/-- Binding succeeds when the first parameter takes its argument and the others are bound to the
rest. -/
theorem bindFrom_cons_eq_ok {command : String} {world : World} {parameter : Parameter}
    {parameters : List Parameter} {position : Nat} {events : List Event} {bound : Bound} :
    bindFrom command world (parameter :: parameters) position events = .ok bound ↔
      ∃ datum rest others, parameter.take command world position events = .ok (datum, rest) ∧
        bindFrom command world parameters (position + (events.length - rest.length)) rest =
          .ok others ∧ bound = (parameter.name, datum) :: others := by
  rw [bindFrom]
  constructor
  · intro binds
    cases takes : parameter.take command world position events with
    | error failure =>
        rw [takes] at binds
        cases binds
    | ok taken =>
        obtain ⟨datum, rest⟩ := taken
        rw [takes] at binds
        simp only [bind, Except.bind] at binds
        split at binds
        · cases binds
        next others bindsOthers =>
            exact ⟨datum, rest, others, rfl, bindsOthers, (Except.ok.inj binds).symm⟩
  · rintro ⟨datum, rest, others, takes, bindsOthers, rfl⟩
    simp only [takes, bind, Except.bind, bindsOthers]
    rfl

/-- An argument is taken with the events that are left if it is read at all. -/
theorem pair_annotateResult_eq_ok {notes : Context} {result : Except Failure Datum} {datum : Datum}
    {left rest : List Event} :
    (·, left) <$> annotateResult notes result = .ok (datum, rest) ↔
      result = .ok datum ∧ left = rest := by
  cases result with
  | error failure => exact iff_of_false nofun nofun
  | ok read =>
      constructor
      · intro pairs
        obtain ⟨rfl, rfl⟩ := Prod.mk.inj (Except.ok.inj pairs)
        exact ⟨rfl, rfl⟩
      · rintro ⟨same, rfl⟩
        obtain rfl := Except.ok.inj same
        rfl

/-- A parameter that requires an event is bound to what is read of the first. -/
theorem take_required_eq_ok {name command : String} {coercion : Coercion} {world : World}
    {position : Nat} {events rest : List Event} {datum : Datum}
    (takes : (Parameter.required name coercion).take command world position events =
      .ok (datum, rest)) : coercion world events.head? = .ok datum := by
  cases events with
  | nil => cases takes
  | cons event events => exact (pair_annotateResult_eq_ok.mp takes).1

namespace Core

/-- The account of From is the address of its first argument. -/
theorem account_of_bind {world : World} {events : List Event} {bound : Bound}
    (binds : fromCommand.bind world events = .ok bound) :
    ∃ account, Coerce.address world events.head? = .ok (.value (.address account)) ∧
      bound.text? "account" = some account := by
  obtain ⟨datum, rest, others, takes, -, rfl⟩ := bindFrom_cons_eq_ok.mp binds
  have reads := take_required_eq_ok takes
  obtain ⟨account, rfl⟩ := Coerce.address_eq_ok reads
  exact ⟨account, reads, rfl⟩

/-- There are three core commands. -/
theorem mem_table_iff {command : Command} :
    command ∈ table.commands ↔
      command = fromCommand ∨ command = printCommand ∨ command = historyCommand := by
  simp only [table, List.mem_cons, List.not_mem_nil, or_false]

/-- The core views make no call. -/
theorem exchanges_of_view {command : Command} (member : command ∈ table.commands)
    {play : World → Bound → Play Returned} (view : command.handler = .view play) (world : World)
    (bound : Bound) (earlier : List Request) : (play world bound).exchanges earlier = [] := by
  rcases mem_table_iff.mp member with rfl | rfl | rfl
  · cases view
  · obtain rfl := Handler.view.inj view
    rfl
  · obtain rfl := Handler.view.inj view
    exact (Play.exchanges_bind_of_none (fun _ _ => rfl) earlier _).trans
      (Play.exchanges_printLines earlier _)

end Core
end Playbook
