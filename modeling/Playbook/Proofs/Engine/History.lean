import Playbook.Proofs.Engine.ActionLog
import Playbook.Proofs.Number.Coerced

/-! # History

History takes the number of actions that are listed as a decimal number in any notation. What is
accepted is decided by the value alone: it must be a natural number that fits into a word. The
number is then cut to the length of the log, and nothing but the lines of the list comes of the
statement.
-/

namespace Playbook

open Decimal

namespace Coerce
variable {token : String} {val : Decimal}

/-- A count is read of every notation of a natural number that fits into a word. -/
theorem count_of_natCast {n : Nat} (denoted : decimal token = .ok val) (whole : val.value = n)
    (below : n < 2 ^ 256) (world : World) (quoted : Bool) :
    count world (some (.atom token quoted)) = .ok (.value (.number val 0)) := by
  obtain ⟨nonneg, isWhole, -⟩ := value_eq_natCast_iff.mp whole
  have magnitude : val.magnitude = n := by rw [← abs_value, whole, Nat.abs_cast]
  have read : numberOfEvent 0 (.atom token quoted) = .ok (.number val 0) := by
    rw [numberOfEvent, scaledNumber, denoted]
    simp only [bind, Except.bind, fitsWord_of_natCast magnitude below]
    rfl
  simp only [count, ofEvent, read, bind, Except.bind, nonneg, isWhole]
  rfl

/-- Any other number is refused. -/
theorem count_of_not_natCast (denoted : decimal token = .ok val)
    (unfit : ¬ ∃ n : Nat, val.value = n ∧ n < 2 ^ 256) (world : World) (quoted : Bool) :
    ∃ expected received, count world (some (.atom token quoted)) =
      .error (.ofCause (.coercion expected received)) := by
  cases fits : fitsWord val 0 with
  | error signal => cases (fitsWord_eq val (.inl rfl)).symm.trans fits
  | ok isWord =>
      have read : numberOfEvent 0 (.atom token quoted) =
          if isWord then .ok (.number val 0) else tokenMismatch "number below 2**256" token := by
        rw [numberOfEvent, scaledNumber, denoted]
        simp only [bind, Except.bind, fits]
        rfl
      cases isWord with
      | false =>
          refine ⟨"number below 2**256", token, ?_⟩
          simp only [count, ofEvent, read, bind, Except.bind]
          rfl
      | true =>
          have refused : (val.isBelowZero || !val.isWhole) = true := by
            by_contra accepted
            obtain ⟨nonneg, whole⟩ : val.isBelowZero = false ∧ val.isWhole = true := by
              simpa using accepted
            have value : val.value = val.truncate := value_eq_natCast_iff.mpr ⟨nonneg, whole, rfl⟩
            have bounded := (IsCoerced.mk (.inl rfl) fits).lt_wordBound
            rw [zpow_zero, mul_one, isWhole_iff.mp whole] at bounded
            exact unfit ⟨val.truncate, value, by exact_mod_cast bounded⟩
          refine ⟨"non-negative integer", Event.render (.atom token quoted), ?_⟩
          simp only [count, ofEvent, read, bind, Except.bind, if_true, refused]
          rfl

end Coerce

namespace Core

/-- The last actions of a log are listed, with their places in the list. -/
theorem history_eq (actions : List Action) (count : Nat) : ∃ older shown, actions = older ++ shown ∧
    shown.length = min count actions.length ∧
    history actions (some count) =
      if min count actions.length = 0 then ["No actions recorded."]
      else (shown.zipIdx 1).map fun (action, number) =>
        Text.alignRight 4 (toString number) ++ ". " ++ action.description := by
  have length : (actions.drop (actions.length - count)).length = min count actions.length := by
    rw [List.length_drop]
    omega
  refine ⟨_, _, (List.take_append_drop (actions.length - count) actions).symm, length, ?_⟩
  rw [history, ← length]
  cases actions.drop (actions.length - count) with
  | nil => rfl
  | cons action rest =>
      rw [List.zipIdx_succ, List.map_map]
      rfl

/-- History is bound to the count that is read. -/
theorem bind_history_of_count {world : World} {event : Event} {datum : Datum}
    (reads : Coerce.count world (some event) = .ok datum) :
    historyCommand.bind world [event] = .ok [("count", datum)] := by
  simp only [Command.bind, historyCommand, Parameter.nullable, bindFrom, Parameter.take,
    Parameter.read, reads]
  rfl

/-- A count that is refused is refused in its place. -/
theorem bind_history_of_error {world : World} {event : Event} {failure : Failure}
    (fails : Coerce.count world (some event) = .error failure) :
    historyCommand.bind world [event] = .error
      (failure.annotate
        { command := some "History", argument := some "count", position := some 1 }) := by
  simp only [Command.bind, historyCommand, Parameter.nullable, bindFrom, Parameter.take,
    Parameter.read, fails]
  rfl

/-- History prints the last actions and leaves the world as it is. -/
theorem observe_perform_history (world : World) (sender : Option String) (val : Decimal) (scale : ℤ)
    (redirect : Option String → Play Returned) (earlier : List Request) :
    (historyCommand.perform world sender [("count", .value (.number val scale))]
      redirect).observe earlier =
      ⟨⟨.ok world, (history world.actions (some val.truncate)).map .printed⟩, []⟩ := by
  have performs :
      historyCommand.perform world sender [("count", .value (.number val scale))] redirect =
      Play.printLines (history world.actions (some val.truncate)) >>= fun _ => Play.done world := by
    simp only [Command.perform, historyCommand, bind_assoc]
    rfl
  rw [performs, Play.observe_bind, Play.observe_printLines, Observation.andThen_ok,
    Play.observe_done, Observation.after, List.append_nil]
  rfl

end Core

namespace Engine

/-- **History.** A statement with History and a number succeeds exactly if the number, in whatever
notation, has the value of a natural number that fits into a word. It then lists so many of the last
actions, or all of a shorter log, in their order and numbered from one, or says that there are none,
and leaves the world as it is. Otherwise the error tells that the count was not what was expected,
and nothing is printed. -/
theorem history_isExact (world : World) (terse : world.printer.verbose = false) {token : String}
    {val : Decimal} (denoted : Coerce.decimal token = .ok val) (quoted : Bool) (line : Option Nat)
    (sender : Option String) (earlier : List Request) :
    let outcome :=
      (standard.process world ⟨[.bare "History", .atom token quoted], line⟩ sender).run earlier
    ((∃ after, outcome.result = .ok after) ↔ ∃ n : Nat, val.value = n ∧ n < 2 ^ 256) ∧
    (∀ n : Nat, val.value = n → n < 2 ^ 256 →
      ∃ older shown, world.actions = older ++ shown ∧ shown.length = min n world.actions.length ∧
        outcome = ⟨.ok world, .map .printed <|
          if min n world.actions.length = 0 then ["No actions recorded."]
          else (shown.zipIdx 1).map fun (action, number) =>
            Text.alignRight 4 (toString number) ++ ". " ++ action.description⟩) ∧
    ((¬ ∃ n : Nat, val.value = n ∧ n < 2 ^ 256) →
      ∃ error expected received, outcome = ⟨.error (.script error), []⟩ ∧
        error.cause = .coercion expected received ∧ error.context.argument = some "count") := by
  intro outcome
  have routed : standard.route ⟨[.bare "History", .atom token quoted], line⟩ =
      .ok ⟨Core.table, ⟨[.bare "History", .atom token quoted], line⟩⟩ := rfl
  have found : Core.table.find ⟨[.bare "History", .atom token quoted], line⟩ =
      .ok Core.historyCommand := rfl
  have observed : outcome = Observation.toOutcome _ :=
    congrArg Observation.toOutcome (observe_process_found routed found world earlier sender)
  simp only [List.tail_cons, Printer.log_debug_of_terse terse] at observed
  have succeeds (n : Nat) (whole : val.value = n) (below : n < 2 ^ 256) :
      outcome = ⟨.ok world, (Core.history world.actions (some n)).map .printed⟩ := by
    have binds :=
      Core.bind_history_of_count (Coerce.count_of_natCast denoted whole below world quoted)
    obtain ⟨-, -, rfl⟩ := value_eq_natCast_iff.mp whole
    rw [observed, binds, Play.observe_bind, Play.observe_ofResult, Observation.andThen_ok,
      Core.observe_perform_history]
    rfl
  have fails (unfit : ¬ ∃ n : Nat, val.value = n ∧ n < 2 ^ 256) :
      ∃ error expected received, outcome = ⟨.error (.script error), []⟩ ∧
        error.cause = .coercion expected received ∧ error.context.argument = some "count" := by
    obtain ⟨expected, received, refused⟩ := Coerce.count_of_not_natCast denoted unfit world quoted
    rw [observed, Core.bind_history_of_error refused]
    exact ⟨_, expected, received, rfl, rfl, rfl⟩
  refine ⟨⟨fun ⟨after, result⟩ => ?_, fun ⟨n, whole, below⟩ => ⟨world, ?_⟩⟩,
    fun n whole below => ?_, fails⟩
  · by_contra unfit
    obtain ⟨error, -, -, failed, -⟩ := fails unfit
    rw [failed] at result
    cases result
  · rw [succeeds n whole below]
  · obtain ⟨older, shown, split, length, lines⟩ := Core.history_eq world.actions n
    exact ⟨older, shown, split, length, by rw [succeeds n whole below, lines]⟩

/-- A world with three actions in its log. -/
def busyWorld : World where
  actions := [⟨"First", none⟩, ⟨"Second", none⟩, ⟨"Third", none⟩]

/-- The last two of three actions are asked for by a number that is written with a sign and an
exponent. -/
theorem history_isExact_lastTwo :
    Coerce.decimal "+0.20e1" = .ok ⟨false, 20, -1⟩ ∧
      (standard.process busyWorld ⟨[.bare "History", .atom "+0.20e1" false], none⟩ none).run [] =
        ⟨.ok busyWorld, [.printed "   1. Second", .printed "   2. Third"]⟩ := by
  have denoted : Coerce.decimal "+0.20e1" = .ok ⟨false, 20, -1⟩ := rfl
  have value : (⟨false, 20, -1⟩ : Decimal).value = (2 : Nat) := by
    simp [Decimal.value, Decimal.magnitude]
    norm_num
  obtain ⟨-, lists, -⟩ := history_isExact busyWorld rfl denoted false none none []
  obtain ⟨older, shown, split, length, outcome⟩ := lists 2 value (by norm_num)
  have parts : [⟨"First", none⟩] ++ [⟨"Second", none⟩, ⟨"Third", none⟩] = older ++ shown := split
  obtain ⟨rfl, rfl⟩ := List.append_inj' parts length.symm
  exact ⟨denoted, outcome⟩

end Engine
end Playbook
