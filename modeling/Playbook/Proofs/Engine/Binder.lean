import Playbook.Proofs.Engine.Dispatch

/-! # Binding that acts

The coercions of the program only read, so the engine binds without any effect. A coercion of a
subsystem that is registered could do more with the world that it is handed: ask its collaborators,
or print. Here statements are bound and run with any way of binding, whatever it asks and prints.
The engine itself is the case of a binder that only reads.
-/

namespace Playbook

/-- How the parameters of a command are bound to the events after its name, where coercions may ask
and print. -/
abbrev Binder := Command → World → List Event → Play Bound

/-- The binder of coercions that only read. -/
def Binder.reading : Binder := fun command world events => .ofResult (command.bind world events)

/-- Runs a statement of a table with a binder. -/
def CommandTable.runBy (table : CommandTable) (binder : Binder) (world : World)
    (statement : Statement) (sender : Option String) (redirect : Option String → Play Returned) :
    Play World :=
  match table.find statement with
  | .error cause =>
    .fail ((Failure.ofCause cause).annotate
      { subsystem := table.subsystem, line := statement.line })
  | .ok command =>
    Play.annotate
      { subsystem := table.subsystem, command := some command.name, line := statement.line } do
        let bound ← binder command world statement.items.tail
        command.perform world sender bound redirect

/-- With coercions that only read, a table runs statements as it does in the engine. -/
theorem CommandTable.runBy_reading (table : CommandTable) : table.runBy .reading = table.run := rfl

namespace Engine

variable {engine : Engine} {binder : Binder} {world : World} {statement rest : Statement}
  {sender : Option String} {earlier : List Request}

/-- Runs a statement with a binder. -/
def processBy (engine : Engine) (binder : Binder) (world : World) (statement : Statement)
    (sender : Option String) : Play World :=
  match _routed : engine.route statement with
  | .error error => .fail (.script error)
  | .ok route => do
    Play.printLines (world.printer.log statement.text .debug)
    route.table.runBy binder world route.rest sender fun account =>
      if _nonempty : route.rest.items ≠ [] then
        Returned.world <$>
          engine.processBy binder world (redirectedTo statement route.rest) account
      else .done (.datum .absent)
termination_by Event.sizeOfItems statement.items
decreasing_by
  exact Nat.lt_of_lt_of_le (Event.sizeOfItems_redirected_lt _nonempty) (size_rest_le _routed)

/-- Routes and binds a statement with a binder. -/
def bindStatementBy (engine : Engine) (binder : Binder) (world : World) (statement : Statement) :
    Play BoundCommand :=
  match engine.route statement with
  | .error error => .fail (.script error)
  | .ok route =>
    match route.table.find route.rest with
    | .error cause =>
      .fail ((Failure.ofCause cause).annotate
        { subsystem := route.table.subsystem, line := statement.line })
    | .ok command =>
      Play.annotate
        { subsystem := route.table.subsystem, command := some command.name,
          line := statement.line } do
          let bound ← binder command world route.rest.items.tail
          return ⟨route.table.subsystem, command, bound⟩

/-! ### One step of running a statement -/

/-- Runs a statement with a binder, where `redirect` says how the statement after From is run. -/
def dispatch (engine : Engine) (binder : Binder) (world : World) (statement : Statement)
    (sender : Option String)
    (redirect : (rest : Statement) → (account : Option String) → Play Returned) : Play World :=
  match engine.route statement with
  | .error error => .fail (.script error)
  | .ok route => do
    Play.printLines (world.printer.log statement.text .debug)
    route.table.runBy binder world route.rest sender (redirect route.rest)

/-- It matters only how the statement after From is run, where a command is named. -/
theorem dispatch_congr {redirect other : Statement → Option String → Play Returned}
    (alike : ∀ rest command, engine.named? statement = some (command, rest) →
      redirect rest = other rest) :
    engine.dispatch binder world statement sender redirect =
      engine.dispatch binder world statement sender other := by
  unfold dispatch
  cases routed : engine.route statement with
  | error error => rfl
  | ok route =>
      have same : route.table.runBy binder world route.rest sender (redirect route.rest) =
          route.table.runBy binder world route.rest sender (other route.rest) := by
        unfold CommandTable.runBy
        cases found : route.table.find route.rest with
        | error cause => rfl
        | ok command =>
            rw [alike _ command (named?_eq_some_iff.mpr ⟨route, routed, rfl, found⟩)]
      simp only [same]

/-- A statement that names a command has items, so it makes no difference how one without is run. -/
theorem dispatch_guarded (redirect : Statement → Option String → Play Returned) :
    (engine.dispatch binder world statement sender fun rest account =>
      if rest.items ≠ [] then redirect rest account else .done (.datum .absent)) =
      engine.dispatch binder world statement sender redirect := by
  apply dispatch_congr
  intro rest command named
  obtain ⟨route, _, rfl, found⟩ := named?_eq_some_iff.mp named
  funext account
  exact if_pos (find_eq_ok found).1

/-- Running a statement with a binder is such a step, which has the statement after From run in
turn. -/
theorem processBy_eq_dispatch (engine : Engine) (binder : Binder) (world : World)
    (statement : Statement) (sender : Option String) :
    engine.processBy binder world statement sender =
      engine.dispatch binder world statement sender fun rest account =>
        Returned.world <$> engine.processBy binder world (redirectedTo statement rest) account := by
  rw [← dispatch_guarded, processBy, dispatch]
  split
  next error routed => simp only [routed]
  next route routed =>
    simp only [routed, dite_eq_ite]

/-- Running a statement is such a step, which has the statement after From run in turn. -/
theorem process_eq_dispatch (engine : Engine) (world : World) (statement : Statement)
    (sender : Option String) :
    engine.process world statement sender =
      engine.dispatch .reading world statement sender fun rest account =>
        Returned.world <$> engine.process world (redirectedTo statement rest) account := by
  rw [← dispatch_guarded, process, dispatch]
  split
  next error routed => simp only [routed]
  next route routed =>
    simp only [routed, dite_eq_ite, CommandTable.runBy_reading, redirectedTo]

/-- With coercions that only read, a statement runs as it does in the engine. -/
theorem processBy_reading (engine : Engine) (world : World) (statement : Statement)
    (sender : Option String) :
    engine.processBy .reading world statement sender = engine.process world statement sender := by
  -- as in `process_runsTo`: what From has run is smaller than the statement
  induction size : Event.sizeOfItems statement.items using Nat.strongRecOn
    generalizing statement sender with
  | ind _ ih =>
    rw [processBy_eq_dispatch, process_eq_dispatch]
    apply dispatch_congr
    intro rest command named
    funext account
    rw [ih _ (size ▸ size_redirectedTo_lt named) _ account rfl]

/-- What of a statement is for its table has the line of the statement. -/
theorem line_rest {route : Route} (routed : engine.route statement = .ok route) :
    route.rest.line = statement.line := by
  unfold Engine.route at routed
  split at routed
  · cases routed
  · split at routed
    · obtain rfl := Except.ok.inj routed
      rfl
    · split at routed
      · obtain rfl := Except.ok.inj routed
        rfl
      · cases routed
  · cases routed

/-- How a statement is bound: it is refused on its way to a table or in the table, or it is bound as
its command is. -/
theorem bindStatement_cases (engine : Engine) (world : World) (statement : Statement) :
    (∃ error, engine.route statement = .error error ∧
      engine.bindStatement world statement = .error (.script error)) ∨
    (∃ route cause, engine.route statement = .ok route ∧
      route.table.find route.rest = .error cause ∧
      engine.bindStatement world statement = .error ((Failure.ofCause cause).annotate
        { subsystem := route.table.subsystem, line := statement.line })) ∨
    ∃ route command, engine.route statement = .ok route ∧
      route.table.find route.rest = .ok command ∧
      engine.bindStatement world statement = BoundCommand.mk route.table.subsystem command <$>
        annotateResult
          { subsystem := route.table.subsystem, command := some command.name,
            line := statement.line }
          (command.bind world route.rest.items.tail) := by
  cases routed : engine.route statement with
  | error error =>
      refine .inl ⟨error, rfl, ?_⟩
      rw [bindStatement, routed]
      rfl
  | ok route =>
      have onward : engine.bindStatement world statement = (do
          let command ← annotateResult
            { subsystem := route.table.subsystem, line := statement.line }
            ((route.table.find route.rest).mapError .ofCause)
          let bound ← annotateResult
            { subsystem := route.table.subsystem, command := some command.name,
              line := statement.line }
            (command.bind world route.rest.items.tail)
          return ⟨route.table.subsystem, command, bound⟩) := by
        rw [bindStatement, routed]
        rfl
      cases found : route.table.find route.rest with
      | error cause =>
          rw [found] at onward
          exact .inr (.inl ⟨route, cause, rfl, found, onward⟩)
      | ok command =>
          rw [found] at onward
          refine .inr (.inr ⟨route, command, rfl, found, onward.trans ?_⟩)
          rw [map_eq_pure_bind]
          rfl

/-- With coercions that only read, a statement is bound as it is in the engine. -/
theorem bindStatementBy_reading (engine : Engine) (world : World) (statement : Statement) :
    engine.bindStatementBy .reading world statement =
      .ofResult (engine.bindStatement world statement) := by
  rcases bindStatement_cases engine world statement with
    ⟨error, unrouted, refused⟩ | ⟨route, cause, routed, unnamed, refused⟩ |
      ⟨route, command, routed, named, isBound⟩
  · rw [refused, bindStatementBy, unrouted]
    rfl
  · rw [refused, bindStatementBy, routed]
    simp only [unnamed]
    rfl
  · rw [isBound, bindStatementBy, routed]
    simp only [named, Binder.reading]
    cases command.bind world route.rest.items.tail <;> rfl

/-! ### What is observed -/

section Observed

variable {route : Route} {command : Command} (routed : engine.route statement = .ok route)
  (found : route.table.find route.rest = .ok command)

include routed found

/-- Binding a statement that its table has a command for is to bind the command. -/
theorem observe_bindStatementBy_found (binder : Binder) (earlier : List Request) :
    (engine.bindStatementBy binder world statement).observe earlier =
      (((binder command world route.rest.items.tail).observe earlier).andThen fun bound =>
        ⟨⟨.ok ⟨route.table.subsystem, command, bound⟩, []⟩, []⟩).annotate
        { subsystem := route.table.subsystem, command := some command.name,
          line := statement.line } := by
  rw [bindStatementBy, routed]
  simp only [found]
  rw [Play.observe_annotate, Play.observe_bind]
  rfl

/-- A statement that its table has a command for has it bound and carried out, after the debug
lines. -/
theorem observe_dispatch_found (binder : Binder) (earlier : List Request)
    (sender : Option String) (redirect : Statement → Option String → Play Returned) :
    (engine.dispatch binder world statement sender redirect).observe earlier =
      (((binder command world route.rest.items.tail).observe earlier).andThen fun bound =>
        (command.perform world sender bound (redirect route.rest)).observe (earlier ++
          requests ((binder command world route.rest.items.tail).observe earlier).trace)).within
        { subsystem := route.table.subsystem, command := some command.name,
          line := statement.line }
        (world.printer.log statement.text .debug) := by
  have noRequest : earlier ++ requests ((world.printer.log statement.text .debug).map .printed) =
      earlier := by
    rw [requests_printed, List.append_nil]
  rw [dispatch, routed, Play.observe_bind, Play.observe_printLines, Observation.andThen_ok,
    noRequest, CommandTable.runBy, found, line_rest routed]
  simp only [Play.observe_annotate, Play.observe_bind]
  rfl

end Observed

/-- Where binding fails, the run fails in the same way, and beyond what binding has asked and
printed does no more than to print debug lines. -/
theorem observe_dispatch_of_refused {failure : Failure}
    (refused : ((engine.bindStatementBy binder world statement).observe earlier).result =
      .error failure)
    (sender : Option String) (redirect : Statement → Option String → Play Returned) :
    let binding := (engine.bindStatementBy binder world statement).observe earlier
    ∃ lines : List String, lines.Sublist (world.printer.log statement.text .debug) ∧
      (engine.dispatch binder world statement sender redirect).observe earlier =
        ⟨⟨.error failure, lines.map .printed ++ binding.trace⟩, binding.exchanges⟩ := by
  intro binding
  cases routed : engine.route statement with
  | error error =>
      have binds : binding = ⟨⟨.error (.script error), []⟩, []⟩ := by
        simp only [binding, bindStatementBy, routed, Play.observe_fail]
      obtain rfl := Except.error.inj ((congrArg (·.result) binds).symm.trans refused)
      refine ⟨[], List.nil_sublist _, ?_⟩
      rw [binds, dispatch, routed]
      rfl
  | ok route =>
      refine ⟨_, List.Sublist.refl _, ?_⟩
      cases found : route.table.find route.rest with
      | error cause =>
          have binds : binding = ⟨⟨.error ((Failure.ofCause cause).annotate
              { subsystem := route.table.subsystem, line := statement.line }), []⟩, []⟩ := by
            simp only [binding, bindStatementBy, routed, found, Play.observe_fail]
          obtain rfl := Except.error.inj ((congrArg (·.result) binds).symm.trans refused)
          rw [binds, dispatch, routed, Play.observe_bind, Play.observe_printLines,
            Observation.andThen_ok, CommandTable.runBy, found, Play.observe_fail, line_rest routed]
          rfl
      | ok command =>
          have binds : binding = _ := observe_bindStatementBy_found routed found binder earlier
          rw [observe_dispatch_found routed found]
          cases bound : ((binder command world route.rest.items.tail).observe earlier).result with
          | ok arguments =>
              rw [Observation.andThen_of_ok bound] at binds
              cases (congrArg (·.result) binds).symm.trans refused
          | error fault =>
              rw [Observation.andThen_of_error bound] at binds ⊢
              rw [binds]
              obtain rfl := Except.error.inj ((congrArg (·.result) binds).symm.trans refused)
              rfl

/-- Where binding succeeds, the run carries out the command that was found with the arguments that
it was bound to, after the debug lines and what binding has asked and printed. -/
theorem observe_dispatch_of_bound {found : BoundCommand}
    (binds : ((engine.bindStatementBy binder world statement).observe earlier).result = .ok found)
    (sender : Option String) (redirect : Statement → Option String → Play Returned) :
    let binding := (engine.bindStatementBy binder world statement).observe earlier
    ∃ rest, engine.named? statement = some (found.command, rest) ∧
      (engine.dispatch binder world statement sender redirect).observe earlier =
        (((found.command.perform world sender found.bound (redirect rest)).observe
            (earlier ++ requests binding.trace)).after binding.trace binding.exchanges).within
          { subsystem := found.subsystem, command := some found.command.name,
            line := statement.line }
          (world.printer.log statement.text .debug) := by
  intro binding
  cases routed : engine.route statement with
  | error error =>
      rw [bindStatementBy, routed] at binds
      cases binds
  | ok route =>
      cases named : route.table.find route.rest with
      | error cause =>
          simp only [bindStatementBy, routed, named] at binds
          cases binds
      | ok command =>
          have bindsFound : binding = _ :=
            observe_bindStatementBy_found routed named binder earlier
          rw [observe_dispatch_found routed named]
          cases bound : ((binder command world route.rest.items.tail).observe earlier).result with
          | error fault =>
              rw [Observation.andThen_of_error bound] at bindsFound
              cases (congrArg (·.result) bindsFound).symm.trans binds
          | ok arguments =>
              rw [Observation.andThen_of_ok bound] at bindsFound ⊢
              obtain rfl := Except.ok.inj ((congrArg (·.result) bindsFound).symm.trans binds)
              refine ⟨route.rest, named?_eq_some_iff.mpr ⟨route, routed, rfl, named⟩, ?_⟩
              rw [bindsFound]
              simp only [Observation.annotate, Observation.after, List.append_nil]

end Engine
end Playbook
