import Playbook.Proofs.Command.Failures
import Playbook.Proofs.Command.Perform

/-! # Views that are run and views that are evaluated

The value of a view can be told on a line, as a statement of a script does, or asked for. Both go
through the same steps until there is a value or a failure, so the one comes to what the other does,
up to one key of the context: only where the view is run, an error of its handler is marked with the
command. An error that arises while the view is bound has been marked by then.
-/

namespace Playbook

/-! ### Errors that name a command -/

/-- The error with a command filled in where none is noted, and with all else as it is. -/
def ScriptError.naming (error : ScriptError) (command : String) : ScriptError :=
  { error with
    context := { error.context with command := error.context.command.or (some command) } }

/-- Naming a command changes an error if and only if the error names none so far. -/
theorem ScriptError.naming_eq_self_iff {error : ScriptError} {command : String} :
    error.naming command = error ↔ error.context.command.isSome := by
  obtain ⟨cause, context⟩ := error
  obtain ⟨subsystem, noted, argument, position, token, line, remarks⟩ := context
  cases noted <;> simp [naming]

/-- A note of the command that comes with others is the same as one that comes after them. -/
theorem ScriptError.annotate_naming (error : ScriptError) (subsystem : Option String)
    (command : String) (line : Option Nat) :
    error.annotate { subsystem, command := some command, line } =
      (error.annotate { subsystem, line }).naming command := by
  obtain ⟨cause, context⟩ := error
  obtain ⟨known, noted, argument, position, token, known', remarks⟩ := context
  simp [annotate, naming, Context.annotate]

/-- The failure, if it is an error of the script, names a command. -/
def Failure.NamesCommand (failure : Failure) : Prop :=
  ∀ error, failure = .script error → error.context.command.isSome

/-- A failure names a command once notes that do are filled in. -/
theorem Failure.namesCommand_annotate {notes : Context} (names : notes.command.isSome)
    (failure : Failure) : (failure.annotate notes).NamesCommand := by
  rintro error marked
  cases failure with
  | script inner =>
      obtain rfl := Failure.script.inj marked
      change (inner.context.command.or notes.command).isSome
      rw [Option.isSome_or, names, Bool.or_true]
  | arithmetic | invalid | exhausted => cases marked

/-- A failure goes on naming its command, whatever is filled in. -/
theorem keepsNotes_namesCommand : KeepsNotes Failure.NamesCommand := by
  rintro notes failure names error marked
  cases failure with
  | script inner =>
      obtain rfl := Failure.script.inj marked
      change (inner.context.command.or notes.command).isSome
      rw [Option.isSome_or, names inner rfl, Bool.true_or]
  | arithmetic | invalid | exhausted => cases marked

/-- What fails to be bound names the command, or is no error of the script. -/
theorem namesCommand_of_bind {command : Command} {world : World} {events : List Event}
    {failure : Failure} (fails : command.bind world events = .error failure) :
    failure.NamesCommand := by
  have covers : CoversBinder command.name Failure.NamesCommand := by
    constructor
    · exact fun cause _ _ => (Failure.ofCause cause).namesCommand_annotate rfl
    · rintro fault error marked
      cases marked
  have reads : ∀ parameter ∈ command.parameters, ∀ event position,
      EndsWith (fun _ => True) Failure.NamesCommand
        (parameter.read command.name world event position) :=
    fun parameter _ event position => (EndsWith.any (parameter.coercion world event)).marked
      fun failure _ => failure.namesCommand_annotate rfl
  have binds := covers.bindFrom reads 1 events
  rw [Command.bind] at fails
  rw [fails] at binds
  exact binds

/-- The failure with the command filled in, if it is an error of the script. -/
def Failure.naming (failure : Failure) (command : String) : Failure :=
  match failure with
  | .script error => .script (error.naming command)
  | other => other

/-- Filling in a whole place is to name the command and to fill in the rest. -/
theorem Failure.annotate_naming (failure : Failure) (subsystem : Option String) (command : String)
    (line : Option Nat) :
    failure.annotate { subsystem, command := some command, line } =
      (failure.annotate { subsystem, line }).naming command := by
  cases failure with
  | script error => exact congrArg Failure.script (error.annotate_naming subsystem command line)
  | arithmetic | invalid | exhausted => rfl

/-- A failure that names a command is not named anew. -/
theorem Failure.naming_eq_self {failure : Failure} (names : failure.NamesCommand)
    (command : String) :
    failure.naming command = failure := by
  cases failure with
  | script error =>
      exact congrArg Failure.script (ScriptError.naming_eq_self_iff.mpr (names error rfl))
  | arithmetic | invalid | exhausted => rfl

/-! ### Telling a value -/

namespace Command

variable {command : Command} {world : World} {value : Value} {text : String}

/-- The lines that tell a value that is shown as the text: none for nothing. -/
def telling (command : Command) (value : Value) (text : String) : List String :=
  match value with
  | .nothing => []
  | _ => [command.name ++ ": " ++ text]

/-- A value with a shown form is announced by the lines that tell it. -/
theorem observe_announce_of_render (shown : value.render = .ok text) (earlier : List Request) :
    (command.announce value).observe earlier =
      ⟨⟨.ok (), (command.telling value text).map .printed⟩, []⟩ := by
  cases value with
  | nothing => rfl
  | address | number | string | bool | event | list | map =>
      rw [announce, Printer.value, shown]
      · rfl
      · exact nofun

/-- A value without a shown form cannot be announced. -/
theorem observe_announce_of_unshown {signal : Decimal.Signal}
    (unshown : value.render = .error signal) (earlier : List Request) :
    (command.announce value).observe earlier = ⟨⟨.error (.arithmetic signal), []⟩, []⟩ := by
  cases value with
  | nothing => cases unshown
  | address | number | string | bool | event | list | map =>
      rw [announce, Printer.value, unshown]
      · rfl
      · exact nofun

/-- The value of a view for the arguments, before any failure is marked. -/
def viewed (command : Command) (play : World → Bound → Play Returned) (world : World)
    (events : List Event) : Play Value := do
  let bound ← Play.ofResult (command.bind world events)
  play world.asReadOnly bound >>= command.expectValue

end Command

/-! ### The two agree -/

namespace CommandTable

variable {table : CommandTable} {statement : Statement} {command : Command} {world : World}
  {play : World → Bound → Play Returned} {sender : Option String}
  {redirect : Option String → Play Returned} {earlier : List Request}

/-- Evaluating a view is to view it, with the subsystem and the line filled into the failure. -/
theorem evaluate_of_view (found : table.find statement = .ok command)
    (view : command.handler = .view play) :
    table.evaluate world statement =
      (command.viewed play world statement.items.tail).annotate
        { subsystem := table.subsystem, line := statement.line } := by
  obtain ⟨name, parameters, handler, doc, wellFormed⟩ := command
  obtain rfl : handler = .view play := view
  rw [evaluate, found]
  rfl

/-- Running a view is to view it and to announce the value, with the whole place filled in. -/
theorem run_of_view (found : table.find statement = .ok command)
    (view : command.handler = .view play) :
    table.run world statement sender redirect =
      Play.annotate
        { subsystem := table.subsystem, command := some command.name, line := statement.line } (do
          let value ← command.viewed play world statement.items.tail
          command.announce value
          return world) := by
  rw [run, found, Command.viewed]
  simp only [Command.perform, view, bind_assoc]

/-- Where asking for the value fails, so does running the view, and no more is printed or asked. -/
theorem run_of_evaluate_error {failure : Failure} (found : table.find statement = .ok command)
    (view : command.handler = .view play)
    (fails : ((table.evaluate world statement).run earlier).result = .error failure) :
    (table.run world statement sender redirect).run earlier =
      ⟨.error (failure.naming command.name),
        ((table.evaluate world statement).run earlier).trace⟩ := by
  rw [evaluate_of_view found view] at fails ⊢
  rw [run_of_view found view]
  simp only [← Play.observe_toOutcome, Play.observe_annotate, Play.observe_bind] at fails ⊢
  generalize (command.viewed play world _).observe earlier = asked at fails ⊢
  obtain ⟨⟨inner | value, trace⟩, exchanges⟩ := asked
  · obtain rfl := Except.error.inj fails
    rw [← Failure.annotate_naming]
    rfl
  · cases fails

/-- Where a value is given, the run goes on as the telling of it does. -/
theorem run_of_evaluate_ok {value : Value} {result : Except Failure Unit} {effects : List Effect}
    (found : table.find statement = .ok command) (view : command.handler = .view play)
    (gives : ((table.evaluate world statement).run earlier).result = .ok value)
    (tells : ∀ earlier, (command.announce value).observe earlier = ⟨⟨result, effects⟩, []⟩) :
    (table.run world statement sender redirect).run earlier =
      ⟨annotateResult
          { subsystem := table.subsystem, command := some command.name, line := statement.line }
          ((fun _ => world) <$> result),
        ((table.evaluate world statement).run earlier).trace ++ effects⟩ := by
  rw [evaluate_of_view found view] at gives ⊢
  rw [run_of_view found view]
  simp only [← Play.observe_toOutcome, Play.observe_annotate, Play.observe_bind] at gives ⊢
  generalize (command.viewed play world _).observe earlier = asked at gives ⊢
  obtain ⟨⟨failure | given, trace⟩, exchanges⟩ := asked
  · cases gives
  · obtain rfl := Except.ok.inj gives
    simp only [Observation.andThen_ok, tells]
    cases result with
    | error failure => rfl
    | ok done =>
        have ends (later : List Request) :
            (pure world : Play World).observe later = ⟨⟨.ok world, []⟩, []⟩ := rfl
        rw [Observation.andThen_ok, ends]
        simp only [Observation.after, List.append_nil]
        rfl

/-- Where the evaluation of a view gives a value with a shown form, the run does the same and tells
the value. -/
theorem run_of_evaluate_shown {value : Value} {text : String}
    (found : table.find statement = .ok command) (view : command.handler = .view play)
    (gives : ((table.evaluate world statement).run earlier).result = .ok value)
    (shown : value.render = .ok text) :
    (table.run world statement sender redirect).run earlier =
      ⟨.ok world, ((table.evaluate world statement).run earlier).trace ++
        (command.telling value text).map .printed⟩ :=
  run_of_evaluate_ok found view gives (Command.observe_announce_of_render shown)

/-- Where the evaluation of a view gives a value without a shown form, the run fails with the
signal. -/
theorem run_of_evaluate_unshown {value : Value} {signal : Decimal.Signal}
    (found : table.find statement = .ok command) (view : command.handler = .view play)
    (gives : ((table.evaluate world statement).run earlier).result = .ok value)
    (unshown : value.render = .error signal) :
    ((table.run world statement sender redirect).run earlier).result =
      .error (.arithmetic signal) :=
  congrArg Outcome.result
    (run_of_evaluate_ok found view gives (Command.observe_announce_of_unshown unshown))

/-- The view is run only where a value is given that is shown. -/
theorem evaluate_of_run_ok {after : World} (found : table.find statement = .ok command)
    (view : command.handler = .view play)
    (succeeds : ((table.run world statement sender redirect).run earlier).result = .ok after) :
    ∃ value text, ((table.evaluate world statement).run earlier).result = .ok value ∧
      value.render = .ok text := by
  cases asked : ((table.evaluate world statement).run earlier).result with
  | error failure =>
      rw [run_of_evaluate_error found view asked] at succeeds
      cases succeeds
  | ok value =>
      cases shown : value.render with
      | ok text => exact ⟨value, text, rfl, shown⟩
      | error signal =>
          rw [run_of_evaluate_unshown found view asked shown] at succeeds
          cases succeeds

/-- An error of the script arises in the run only where one arises without it. -/
theorem evaluate_of_run_error {error : ScriptError} (found : table.find statement = .ok command)
    (view : command.handler = .view play)
    (fails : ((table.run world statement sender redirect).run earlier).result =
      .error (.script error)) :
    ∃ inner, ((table.evaluate world statement).run earlier).result = .error (.script inner) ∧
      error = inner.naming command.name := by
  cases asked : ((table.evaluate world statement).run earlier).result with
  | ok value =>
      cases shown : value.render with
      | ok text =>
          rw [run_of_evaluate_shown found view asked shown] at fails
          cases fails
      | error signal =>
          rw [run_of_evaluate_unshown found view asked shown] at fails
          cases fails
  | error failure =>
      rw [run_of_evaluate_error found view asked] at fails
      cases failure with
      | script inner => exact ⟨inner, rfl, (Failure.script.inj (Except.error.inj fails)).symm⟩
      | arithmetic | invalid | exhausted => cases fails

/-- What fails while the view is bound fails alike in both. -/
theorem run_of_bind_error {failure : Failure} (found : table.find statement = .ok command)
    (view : command.handler = .view play)
    (fails : command.bind world statement.items.tail = .error failure) :
    ∃ marked, ((table.evaluate world statement).run earlier).result = .error marked ∧
      ((table.run world statement sender redirect).run earlier).result = .error marked := by
  have asked : ((table.evaluate world statement).run earlier).result =
      .error (failure.annotate { subsystem := table.subsystem, line := statement.line }) := by
    rw [evaluate_of_view found view, Command.viewed, fails]
    rfl
  refine ⟨_, asked, ?_⟩
  rw [run_of_evaluate_error found view asked]
  exact congrArg Except.error
    (Failure.naming_eq_self (keepsNotes_namesCommand _ _ (namesCommand_of_bind fails)) _)

variable (world sender redirect earlier) in
/-- **Running a view and asking for its value** come to the same. Where a value is given and can be
shown, the run goes through the same effects, tells the value on one line, or on none if it is
nothing, and leaves the world as it is; and it succeeds nowhere else. Where one of them fails with
an error of the script, so does the other, after the same effects, with the same cause and the same
context but for the command: the error of the run names one, that of the other only if it was noted
before. What fails while the view is bound fails alike in both. -/
theorem run_follows_evaluate (found : table.find statement = .ok command)
    (view : command.handler = .view play) :
    (∀ value text, ((table.evaluate world statement).run earlier).result = .ok value →
      value.render = .ok text →
      (table.run world statement sender redirect).run earlier =
        ⟨.ok world, ((table.evaluate world statement).run earlier).trace ++
          (command.telling value text).map .printed⟩) ∧
    (∀ after, ((table.run world statement sender redirect).run earlier).result = .ok after →
      ∃ value text, ((table.evaluate world statement).run earlier).result = .ok value ∧
        value.render = .ok text) ∧
    (∀ error, ((table.evaluate world statement).run earlier).result = .error (.script error) →
      (table.run world statement sender redirect).run earlier =
        ⟨.error (.script (error.naming command.name)),
          ((table.evaluate world statement).run earlier).trace⟩) ∧
    (∀ error, ((table.run world statement sender redirect).run earlier).result =
        .error (.script error) →
      ∃ inner, ((table.evaluate world statement).run earlier).result = .error (.script inner) ∧
        error = inner.naming command.name ∧ (error = inner ↔ inner.context.command.isSome)) ∧
    ∀ failure, command.bind world statement.items.tail = .error failure →
      ∃ marked, ((table.evaluate world statement).run earlier).result = .error marked ∧
        ((table.run world statement sender redirect).run earlier).result = .error marked := by
  refine ⟨?_, ?_, ?_, ?_, ?_⟩
  · exact fun value text gives shown => run_of_evaluate_shown found view gives shown
  · exact fun after succeeds => evaluate_of_run_ok found view succeeds
  · exact fun error fails => run_of_evaluate_error found view fails
  · intro error fails
    obtain ⟨inner, asked, rfl⟩ := evaluate_of_run_error found view fails
    exact ⟨inner, asked, rfl, ScriptError.naming_eq_self_iff⟩
  · exact fun failure fails => run_of_bind_error found view fails

/-- A view that prints a line and gives a truth value. -/
def looking : Command where
  name := "Look"
  parameters := []
  handler := .view fun _ _ => do
    Play.printLines ["at it"]
    return .datum (.value (.bool true))
  wellFormed := rfl

/-- A view that refuses. -/
def refusing : Command where
  name := "Look"
  parameters := []
  handler := .view fun _ _ => .refuse (.general "boom")
  wellFormed := rfl

/-- A table of one command. -/
def single (command : Command) : CommandTable := ⟨some "Sub", [command]⟩

/-- The statement that names the view. -/
def lookStatement : Statement := ⟨[.bare "Look"], some 1⟩

/-- The line of the handler is printed before the one that tells the value. -/
theorem run_follows_evaluate_looking :
    (single looking).find lookStatement = .ok looking ∧
      ((single looking).run {} lookStatement none fun _ => .refuse (.general "")).run [] =
        ⟨.ok {}, [.printed "at it", .printed "Look: True"]⟩ := by
  have found : (single looking).find lookStatement = .ok looking := rfl
  obtain ⟨tells, -⟩ := run_follows_evaluate {} none (fun _ => .refuse (.general "")) [] found rfl
  exact ⟨found, tells (.bool true) "True" rfl rfl⟩

/-- An error of the handler names the command where the view is run, and none where it is evaluated.
-/
theorem evaluate_omitsCommand :
    ∃ inner outer, ((single refusing).evaluate {} lookStatement).run [] =
        ⟨.error (.script inner), []⟩ ∧
      ((single refusing).run {} lookStatement none fun _ => .refuse (.general "")).run [] =
        ⟨.error (.script outer), []⟩ ∧
      inner.cause = outer.cause ∧
      inner.context = { subsystem := some "Sub", line := some 1 } ∧
      outer.context = { subsystem := some "Sub", command := some "Look", line := some 1 } :=
  ⟨_, _, rfl, rfl, rfl, rfl, rfl⟩

end CommandTable
end Playbook
