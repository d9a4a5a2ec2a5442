import Playbook.Engine.Basic
import Playbook.Proofs.Command.Perform
import Playbook.Proofs.Vocabulary.Core

/-! # What a statement comes down to

Running a statement is refused before any command acts, or has the command act that the statement
names, or goes on with the statement that From has been given. This module says so for every engine
and every run, so that what holds of all runs is shown by looking at the commands alone.
-/

namespace Playbook.Engine

/-- The command that a statement names, with the part of the statement that starts with its name. -/
def named? (engine : Engine) (statement : Statement) : Option (Command × Statement) :=
  match engine.route statement with
  | .error _ => none
  | .ok route =>
    match route.table.find route.rest with
    | .error _ => none
    | .ok command => some (command, route.rest)

/-- The statement that a redirecting command has run, after its name and its first argument. -/
def redirectedTo (statement rest : Statement) : Statement :=
  ⟨Core.redirected rest.items.tail.tail, statement.line⟩

/-- A command that is found for a statement stands in the table, and the statement has items. -/
theorem find_eq_ok {table : CommandTable} {statement : Statement} {command : Command}
    (found : table.find statement = .ok command) :
    statement.items ≠ [] ∧ command ∈ table.commands := by
  unfold CommandTable.find at found
  split at found
  · cases found
  · cases found
  next items =>
      split at found
      next member =>
          obtain rfl := Except.ok.inj found
          exact ⟨items ▸ List.cons_ne_nil _ _, List.mem_of_find?_eq_some member⟩
      · cases found

/-- A statement names the command that its table finds for it. -/
theorem named?_eq_some_iff {engine : Engine} {statement rest : Statement} {command : Command} :
    engine.named? statement = some (command, rest) ↔
      ∃ route, engine.route statement = .ok route ∧ route.rest = rest ∧
        route.table.find rest = .ok command := by
  unfold named?
  cases engine.route statement with
  | error error => simp
  | ok route =>
      simp only [Except.ok.injEq, exists_eq_left']
      cases found : route.table.find route.rest with
      | error cause => grind
      | ok found => grind

/-- The statement that From has run is smaller. -/
theorem size_redirectedTo_lt {engine : Engine} {statement rest : Statement} {command : Command}
    (named : engine.named? statement = some (command, rest)) :
    Event.sizeOfItems (redirectedTo statement rest).items < Event.sizeOfItems statement.items := by
  obtain ⟨route, routed, rfl, found⟩ := named?_eq_some_iff.mp named
  have shorter := Event.sizeOfItems_redirected_lt (find_eq_ok found).1
  exact Nat.lt_of_lt_of_le shorter (size_rest_le routed)

/-- The command that acts in the end when a statement is run, after any chain of From. -/
def innermost? (engine : Engine) (statement : Statement) : Option Command :=
  match _named : engine.named? statement with
  | none => none
  | some (command, rest) =>
    match command.handler with
    | .redirect _ => engine.innermost? (redirectedTo statement rest)
    | _ => some command
termination_by Event.sizeOfItems statement.items
decreasing_by exact size_redirectedTo_lt _named

/-- The innermost command of a statement that is not redirected is the one that it names. -/
theorem innermost?_of_direct {engine : Engine} {statement rest : Statement} {command : Command}
    (named : engine.named? statement = some (command, rest))
    (direct : ∀ account, command.handler ≠ .redirect account) :
    engine.innermost? statement = some command := by
  rw [innermost?]
  split
  next unnamed =>
      rw [named] at unnamed
      cases unnamed
  next found found_named =>
      obtain ⟨rfl, rfl⟩ : _ = _ ∧ _ = _ := by simpa [named] using found_named
      split
      next account redirects => exact absurd redirects (direct account)
      · rfl

/-- The innermost command of a statement that is redirected is that of the statement after From. -/
theorem innermost?_of_redirect {engine : Engine} {statement rest : Statement} {command : Command}
    {account : Bound → Option String} (named : engine.named? statement = some (command, rest))
    (redirects : command.handler = .redirect account) :
    engine.innermost? statement = engine.innermost? (redirectedTo statement rest) := by
  rw [innermost?]
  split
  next unnamed =>
      rw [named] at unnamed
      cases unnamed
  next found found_named =>
      obtain ⟨rfl, rfl⟩ : _ = _ ∧ _ = _ := by simpa [named] using found_named
      rw [redirects]

/-- A statement goes to the core table or to that of a registered subsystem. -/
theorem table_of_route {engine : Engine} {statement : Statement} {route : Route}
    (routed : engine.route statement = .ok route) :
    route.table = Core.table ∨
      ∃ subsystem ∈ engine.registry.entries, route.table = subsystem.table := by
  unfold Engine.route at routed
  split at routed
  · cases routed
  · split at routed
    next subsystem registered =>
        obtain rfl := Except.ok.inj routed
        exact .inr ⟨subsystem, List.mem_of_find?_eq_some registered, rfl⟩
    · split at routed
      · obtain rfl := Except.ok.inj routed
        exact .inl rfl
      · cases routed
  · cases routed

/-- A command of the engine is one of the core commands or of a registered subsystem. -/
theorem mem_of_named? {engine : Engine} {statement rest : Statement} {command : Command}
    (named : engine.named? statement = some (command, rest)) :
    command ∈ Core.table.commands ∨
      ∃ subsystem ∈ engine.registry.entries, command ∈ subsystem.commands := by
  obtain ⟨route, routed, rfl, found⟩ := named?_eq_some_iff.mp named
  have member := (find_eq_ok found).2
  rcases table_of_route routed with core | ⟨subsystem, registered, table⟩
  · exact .inl (core ▸ member)
  · rw [table] at member
    exact .inr ⟨subsystem, registered, member⟩

/-- What can be observed of running a statement in a world: it is refused without any effect but
debug lines, or its command acts, or the statement that follows From is run for the account of From.
-/
inductive RunsTo (engine : Engine) (world : World) (earlier : List Request) :
    Statement → (sender : Option String) → Observation World → Prop
  | refused {statement : Statement} {sender : Option String} (failure : Failure)
    {lines : List String}
      (debug : lines ⊆ world.printer.log statement.text .debug) :
      RunsTo engine world earlier statement sender ⟨⟨.error failure, lines.map .printed⟩, []⟩
  | acts {statement rest : Statement} {sender : Option String} {command : Command} {bound : Bound}
      (notes : Context) (named : engine.named? statement = some (command, rest))
      (binds : command.bind world rest.items.tail = .ok bound)
      (direct : ∀ account, command.handler ≠ .redirect account)
      (redirect : Option String → Play Returned) :
      RunsTo engine world earlier statement sender
        (((command.perform world sender bound redirect).observe earlier).within notes
          (world.printer.log statement.text .debug))
  | redirects {statement rest : Statement} {sender : Option String} {command : Command}
    {bound : Bound}
      {account : Bound → Option String} {observation : Observation World} (notes : Context)
      (named : engine.named? statement = some (command, rest))
      (binds : command.bind world rest.items.tail = .ok bound)
      (redirect : command.handler = .redirect account)
      (inner : RunsTo engine world earlier (redirectedTo statement rest) (account bound)
        observation) :
      RunsTo engine world earlier statement sender
        (observation.within notes (world.printer.log statement.text .debug))

/-- A statement that names no command is refused before anything is done. -/
theorem observe_process_unnamed {engine : Engine} {statement : Statement}
    (unnamed : engine.named? statement = none) (world : World) (earlier : List Request)
    (sender : Option String) :
    ∃ failure lines, lines ⊆ world.printer.log statement.text .debug ∧
      (engine.process world statement sender).observe earlier =
        ⟨⟨.error failure, lines.map .printed⟩, []⟩ := by
  rw [process]
  split
  next error routed => exact ⟨_, [], List.nil_subset _, rfl⟩
  next route routed =>
      cases found : route.table.find route.rest with
      | ok command => simp [named?, routed, found] at unnamed
      | error cause =>
          rw [Play.observe_bind, Play.observe_printLines, Observation.andThen_ok, CommandTable.run,
            found, Play.observe_fail, Observation.after, List.append_nil]
          exact ⟨_, _, List.Subset.refl _, rfl⟩

/-- A statement that its table has a command for has it bound and carried out, after the debug
lines. A failure is marked with the table, the command and the line. -/
theorem observe_process_found {engine : Engine} {statement : Statement} {route : Route}
    {command : Command} (routed : engine.route statement = .ok route)
    (found : route.table.find route.rest = .ok command) (world : World) (earlier : List Request)
    (sender : Option String) :
    (engine.process world statement sender).observe earlier =
      ((do
        let bound ← Play.ofResult (command.bind world route.rest.items.tail)
        command.perform world sender bound fun account =>
          Returned.world <$> engine.process world (redirectedTo statement route.rest) account :
            Play World).observe earlier).within
        { subsystem := route.table.subsystem, command := some command.name,
          line := route.rest.line }
        (world.printer.log statement.text .debug) := by
  have noRequest : earlier ++ requests ((world.printer.log statement.text .debug).map .printed) =
      earlier := by
    rw [requests_printed, List.append_nil]
  rw [process]
  split
  next error refused =>
      rw [routed] at refused
      cases refused
  next other same =>
      obtain rfl := Except.ok.inj (routed.symm.trans same)
      rw [Play.observe_bind, Play.observe_printLines, Observation.andThen_ok, noRequest,
        CommandTable.run, found]
      simp only [dif_pos (find_eq_ok found).1]
      rw [Play.observe_annotate]
      rfl

/-- A statement that names a command has it bound and carried out, after the debug lines. -/
theorem observe_process_named {engine : Engine} {statement rest : Statement} {command : Command}
    (named : engine.named? statement = some (command, rest)) (world : World)
    (earlier : List Request) (sender : Option String) :
    ∃ notes, (engine.process world statement sender).observe earlier =
      ((do
        let bound ← Play.ofResult (command.bind world rest.items.tail)
        command.perform world sender bound fun account =>
          Returned.world <$> engine.process world (redirectedTo statement rest) account :
            Play World).observe earlier).within notes
              (world.printer.log statement.text .debug) := by
  obtain ⟨route, routed, rfl, found⟩ := named?_eq_some_iff.mp named
  exact ⟨_, observe_process_found routed found world earlier sender⟩

/-- A redirecting command has the statement after its first argument run. -/
theorem observe_process_redirect {engine : Engine} {statement rest : Statement} {command : Command}
    {world : World} {bound : Bound} {account : Bound → Option String}
    (named : engine.named? statement = some (command, rest))
    (binds : command.bind world rest.items.tail = .ok bound)
    (redirects : command.handler = .redirect account) (earlier : List Request)
    (sender : Option String) :
    ∃ notes, (engine.process world statement sender).observe earlier =
      ((engine.process world (redirectedTo statement rest) (account bound)).observe earlier).within
        notes (world.printer.log statement.text .debug) := by
  obtain ⟨notes, observed⟩ := observe_process_named named world earlier sender
  have performs : (Play.ofResult (.ok bound) >>= fun bound =>
      command.perform world sender bound fun account =>
        Returned.world <$> engine.process world (redirectedTo statement rest) account) =
          engine.process world (redirectedTo statement rest) (account bound) :=
    Command.perform_redirect redirects world sender bound _
  rw [binds, performs] at observed
  exact ⟨notes, observed⟩

/-- **Running a statement.** What can be observed of any run of a statement is a refusal, the act of
the command that it names, or a run of the statement after From. -/
theorem process_runsTo (engine : Engine) (world : World) (earlier : List Request)
    (statement : Statement) (sender : Option String) :
    engine.RunsTo world earlier statement sender
      ((engine.process world statement sender).observe earlier) := by
  -- the statement after From is not a part of the statement, but it is smaller
  induction size : Event.sizeOfItems statement.items using Nat.strongRecOn
    generalizing statement sender with
  | ind _ ih =>
    cases named : engine.named? statement with
    | none =>
        obtain ⟨failure, lines, debug, observed⟩ :=
          observe_process_unnamed named world earlier sender
        rw [observed]
        exact .refused failure debug
    | some found =>
        obtain ⟨command, rest⟩ := found
        cases binds : command.bind world rest.items.tail with
        | error failure =>
            obtain ⟨notes, observed⟩ := observe_process_named named world earlier sender
            rw [observed, binds, Play.observe_bind, Play.observe_ofResult,
              Observation.andThen_error, Observation.within, Observation.annotate,
              Observation.after, List.append_nil]
            exact .refused _ (List.Subset.refl _)
        | ok bound =>
            by_cases redirects : ∃ account, command.handler = .redirect account
            · obtain ⟨account, redirects⟩ := redirects
              obtain ⟨notes, observed⟩ :=
                observe_process_redirect named binds redirects earlier sender
              rw [observed]
              exact .redirects notes named binds redirects
                (ih _ (size ▸ size_redirectedTo_lt named) _ (account bound) rfl)
            · rw [not_exists] at redirects
              obtain ⟨notes, observed⟩ := observe_process_named named world earlier sender
              rw [observed, binds]
              exact .acts notes named binds redirects fun account =>
                Returned.world <$> engine.process world (redirectedTo statement rest) account

/-- What becomes of statements whose first one has succeeded. -/
theorem run_processAll_cons {engine : Engine} {world next : World} {earlier : List Request}
    {sender : Option String} {statement : Statement} {statements : List Statement}
    (succeeds : ((engine.process world statement sender).run earlier).result = .ok next) :
    (engine.processAll world sender (statement :: statements)).run earlier =
      let trace := ((engine.process world statement sender).run earlier).trace
      let rest := (engine.processAll next sender statements).run (earlier ++ requests trace)
      ⟨rest.result, trace ++ rest.trace⟩ := by
  rw [processAll, ← Play.observe_toOutcome, Play.observe_bind, Observation.andThen,
    Play.observe_toOutcome, succeeds]
  rfl

/-! ### Engines without delegates -/

/-- No subsystem has commands that leave the action to others. -/
def HasNoDelegates (engine : Engine) : Prop :=
  ∀ subsystem ∈ engine.registry.entries, ∀ command ∈ subsystem.commands, command.kind ≠ .delegate

/-- A command that acts is one of a subsystem that mutates, or a view. -/
theorem HasNoDelegates.handler {engine : Engine} (plain : engine.HasNoDelegates)
    {statement rest : Statement} {command : Command}
    (named : engine.named? statement = some (command, rest))
    (direct : ∀ account, command.handler ≠ .redirect account) :
    (∃ play, command.handler = .mutating play ∧
        ∃ subsystem ∈ engine.registry.entries, command ∈ subsystem.commands) ∨
      ∃ play, command.handler = .view play := by
  rcases mem_of_named? named with core | ⟨subsystem, registered, member⟩
  · rcases Core.mem_table_iff.mp core with rfl | rfl | rfl
    · exact absurd rfl (direct _)
    · exact .inr ⟨_, rfl⟩
    · exact .inr ⟨_, rfl⟩
  · have notDelegate := plain subsystem registered command member
    cases handler : command.handler with
    | mutating play => exact .inl ⟨play, rfl, subsystem, registered, member⟩
    | view play => exact .inr ⟨play, rfl⟩
    | delegate play => simp [Command.kind, handler, Handler.kind] at notDelegate
    | redirect account => exact absurd handler (direct account)

/-- The standard engine has no delegates but From. -/
theorem standard_hasNoDelegates : standard.HasNoDelegates := by
  intro subsystem registered command member
  obtain rfl : subsystem = PriceOracle.subsystem := List.mem_singleton.mp registered
  simp only [PriceOracle.subsystem, PriceOracle.commands, List.mem_cons, List.not_mem_nil,
    or_false] at member
  rcases member with rfl | rfl | rfl | rfl | rfl | rfl <;> decide

/-- Only From redirects in the standard engine. -/
theorem standard_redirect {statement rest : Statement} {command : Command}
    {read : Bound → Option String}
    (named : standard.named? statement = some (command, rest))
    (redirects : command.handler = .redirect read) : command = Core.fromCommand := by
  rcases mem_of_named? named with core | ⟨subsystem, registered, member⟩
  · rcases Core.mem_table_iff.mp core with rfl | rfl | rfl
    · rfl
    · cases redirects
    · cases redirects
  · have notDelegate := standard_hasNoDelegates subsystem registered command member
    simp [Command.kind, redirects, Handler.kind] at notDelegate

/-- In the standard engine a statement goes to the core table or to that of the oracle. -/
theorem standard_table {statement : Statement} {route : Route}
    (routed : standard.route statement = .ok route) :
    route.table = Core.table ∨ route.table = PriceOracle.subsystem.table := by
  apply (table_of_route routed).imp_right
  rintro ⟨subsystem, registered, table⟩
  obtain rfl : subsystem = PriceOracle.subsystem := List.mem_singleton.mp registered
  exact table

end Playbook.Engine
