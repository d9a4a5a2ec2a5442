import Playbook.Proofs.Engine.ScriptErrors

/-! # The places of errors

An error tells the subsystem and the command in which it arose. Both are filled in by the statement
that is run last, under any number of From, unless a collaborator has told them itself. But a
statement that names no command of its subsystem has no command to fill in, and then the From around
it fills in itself: the error tells a subsystem and a command that is none of its commands.
-/

namespace Playbook

/-- The world has a collaborator that raises an error of its own. -/
inductive World.Raises (world : World) (error : ScriptError) : Prop where
  | invoker {invoker : Invoker} {records : Records} {earlier : List Request} {call : MethodCall}
      {sender : Option String} (isInvoker : world.invoker = some invoker)
      (answer : invoker.answer records earlier call sender = .error (.error error)) :
      Raises world error
  | verifier {verifier : Verifier} {records : Records} {earlier : List Request}
      {verification : Verification} (isVerifier : world.verifier = some verifier)
      (answer : verifier.answer records earlier verification = .error (.error error)) :
      Raises world error

/-- What is raised in a world as read only is raised in the world. -/
theorem World.Raises.of_asReadOnly {world : World} {error : ScriptError}
    (raises : world.asReadOnly.Raises error) : world.Raises error := by
  cases raises with
  | invoker isInvoker answer => exact .invoker isInvoker answer
  | verifier isVerifier answer => exact .verifier isVerifier answer

/-- Neither a subsystem nor a command has been noted. -/
def Context.IsUnplaced (context : Context) : Prop :=
  context.subsystem = none ∧ context.command = none

/-- An error that arises in a call is not placed, unless a collaborator has raised it. -/
theorem World.CallFails.unplaced_or_raises {world : World} {call : MethodCall} {error : ScriptError}
    (fails : world.CallFails call error) : error.context.IsUnplaced ∨ world.Raises error := by
  cases fails with
  | fromView | noInvoker | crashed | unsuccessful => exact .inl ⟨rfl, rfl⟩
  | raised isInvoker answer => exact .inr (.invoker isInvoker answer)

/-- The error of a verification has no place, or a collaborator has raised it. -/
theorem World.VerificationFails.unplaced_or_raises {world : World} {verification : Verification}
    {error : ScriptError} (fails : world.VerificationFails verification error) :
    error.context.IsUnplaced ∨ world.Raises error := by
  cases fails with
  | noVerifier | crashed => exact .inl ⟨rfl, rfl⟩
  | raised isVerifier answer => exact .inr (.verifier isVerifier answer)

namespace Engine

/-- The statement that is run last: the one that From, as often as it can be bound, has run in turn.
-/
def lastStatement (engine : Engine) (world : World) (statement : Statement) : Statement :=
  match _named : engine.named? statement with
  | none => statement
  | some (command, rest) =>
    match command.bind world rest.items.tail, command.handler with
    | .ok _, .redirect _ => engine.lastStatement world (redirectedTo statement rest)
    | _, _ => statement
termination_by Event.sizeOfItems statement.items
decreasing_by exact size_redirectedTo_lt _named

section
variable {engine : Engine} {world : World} {statement rest : Statement} {command : Command}
  {bound : Bound}

/-- A statement that names no command is run last itself. -/
theorem lastStatement_of_unnamed (unnamed : engine.named? statement = none) :
    engine.lastStatement world statement = statement := by
  rw [lastStatement]
  split
  · rfl
  next named =>
    rw [unnamed] at named
    cases named

/-- Where a statement is redirected, the last one is that of the statement after From. -/
theorem lastStatement_of_redirect (named : engine.named? statement = some (command, rest))
    (binds : command.bind world rest.items.tail = .ok bound) {account : Bound → Option String}
    (redirects : command.handler = .redirect account) :
    engine.lastStatement world statement =
      engine.lastStatement world (redirectedTo statement rest) := by
  conv_lhs => rw [lastStatement]
  split
  next unnamed =>
    rw [named] at unnamed
    cases unnamed
  next same =>
    obtain ⟨rfl, rfl⟩ := Prod.mk.inj (Option.some.inj (named.symm.trans same))
    rw [binds, redirects]

/-- A statement that is not redirected is run last itself. -/
theorem lastStatement_of_direct (named : engine.named? statement = some (command, rest))
    (stays : ∀ bound account, command.bind world rest.items.tail = .ok bound →
      command.handler ≠ .redirect account) :
    engine.lastStatement world statement = statement := by
  rw [lastStatement]
  split
  · rfl
  next same =>
    obtain ⟨rfl, rfl⟩ := Prod.mk.inj (Option.some.inj (named.symm.trans same))
    split
    next binds redirects => exact absurd redirects (stays _ _ binds)
    · rfl

/-- No place is known of a statement that goes to no table. -/
theorem unplaced_of_unrouted {error : ScriptError}
    (unrouted : engine.route statement = .error error) :
    error.context.IsUnplaced := by
  unfold Engine.route at unrouted
  split at unrouted
  · obtain rfl := Except.error.inj unrouted
    exact ⟨rfl, rfl⟩
  · split at unrouted
    · cases unrouted
    · split at unrouted
      · cases unrouted
      · obtain rfl := Except.error.inj unrouted
        exact ⟨rfl, rfl⟩
  · obtain rfl := Except.error.inj unrouted
    exact ⟨rfl, rfl⟩

end

/-- Of a command that is not found, no more is known than the subsystem. -/
theorem ownContext_of_unnamed {table : CommandTable} {statement : Statement} {cause : Cause}
    (unnamed : table.find statement = .error cause) :
    cause.ownContext.subsystem.or table.subsystem = table.subsystem ∧
      cause.ownContext.command = none := by
  unfold CommandTable.find at unnamed
  split at unnamed
  · obtain rfl := Except.error.inj unnamed
    exact ⟨rfl, rfl⟩
  · obtain rfl := Except.error.inj unnamed
    exact ⟨Option.or_self, rfl⟩
  · split at unnamed
    · cases unnamed
    · obtain rfl := Except.error.inj unnamed
      exact ⟨Option.or_self, rfl⟩

/-! ### Where the place of an error comes from -/

/-- How the subsystem and the command of an error have come about when `last` is the statement that
is run last. -/
inductive Placed (world : World) (last : Statement) (context : Context) : Prop where
  /-- A collaborator has told one of the two. -/
  | told {raised : ScriptError} (raises : world.Raises raised)
      (kept : (raised.context.subsystem.isSome ∧ context.subsystem = raised.context.subsystem) ∨
        (raised.context.command.isSome ∧ context.command = raised.context.command)) :
      Placed world last context
  /-- There is no subsystem. -/
  | nowhere (noSubsystem : context.subsystem = none) : Placed world last context
  /-- They are those of the last statement. -/
  | named {route : Route} {command : Command} (routed : standard.route last = .ok route)
      (found : route.table.find route.rest = .ok command)
      (subsystem : context.subsystem = route.table.subsystem)
      (ofCommand : context.command = some command.name) : Placed world last context
  /-- The subsystem is that of the last statement, which names no command of it. -/
  | unnamed {route : Route} {cause : Cause} (routed : standard.route last = .ok route)
      (unnamed : route.table.find route.rest = .error cause)
      (subsystem : context.subsystem = route.table.subsystem)
      (ofFrom : context.command = none ∨ context.command = some Core.fromCommand.name) :
      Placed world last context

/-- The failure is an error whose place has come about in this way. -/
def FailsPlaced (world : World) (last : Statement) (failure : Failure) : Prop :=
  ∀ error, failure = .script error → Placed world last error.context

section
variable {world : World} {statement last : Statement}

/-- A From around the statement fills in itself, but no subsystem. -/
theorem Placed.outside {context : Context} (placed : Placed world last context)
    (line : Option Nat) :
    Placed world last (context.annotate { command := some Core.fromCommand.name, line }) := by
  have subsystem : (context.annotate { command := some Core.fromCommand.name, line }).subsystem =
      context.subsystem := Option.or_none
  cases placed with
  | told raises kept =>
      refine .told raises (kept.imp (fun ⟨known, same⟩ => ⟨known, subsystem.trans same⟩) ?_)
      rintro ⟨known, same⟩
      refine ⟨known, ?_⟩
      change context.command.or _ = _
      rw [same, Option.or_of_isSome known]
  | nowhere noSubsystem => exact .nowhere (subsystem.trans noSubsystem)
  | named routed found same ofCommand =>
      refine .named routed found (subsystem.trans same) ?_
      change context.command.or _ = _
      rw [ofCommand, Option.some_or]
  | unnamed routed unnamed same ofFrom =>
      refine .unnamed routed unnamed (subsystem.trans same) (.inr ?_)
      change context.command.or _ = _
      rcases ofFrom with unset | set
      · rw [unset, Option.none_or]
      · rw [set, Option.some_or]

/-- A From around a statement fills in its own name only where no command has been noted. -/
theorem FailsPlaced.outside {failure : Failure} (placed : FailsPlaced world last failure)
    (line : Option Nat) :
    FailsPlaced world last (failure.annotate { command := some Core.fromCommand.name, line }) := by
  intro error isError
  cases failure with
  | script inner =>
      obtain rfl := Failure.script.inj isError
      exact (placed inner rfl).outside line
  | arithmetic | invalid | exhausted => cases isError

/-- What arises in a command is marked with the place of its statement, unless a collaborator has
told a place itself. -/
theorem Placed.inside {context : Context} {route : Route} {command : Command}
    (routed : standard.route last = .ok route) (found : route.table.find route.rest = .ok command)
    (arises : context.IsUnplaced ∨ ∃ raised, world.Raises raised ∧ context = raised.context)
    (line : Option Nat) :
    Placed world last (context.annotate
      { subsystem := route.table.subsystem, command := some command.name, line }) := by
  by_cases unplaced : context.IsUnplaced
  · refine .named routed found ?_ ?_
    · change context.subsystem.or _ = _
      rw [unplaced.1, Option.none_or]
    · change context.command.or _ = _
      rw [unplaced.2, Option.none_or]
  · obtain ⟨raised, raises, rfl⟩ := arises.resolve_left unplaced
    cases ofRaised : raised.context.subsystem with
    | some subsystem =>
        refine .told raises (.inl ⟨by rw [ofRaised]; rfl, ?_⟩)
        change raised.context.subsystem.or _ = _
        rw [ofRaised, Option.some_or]
    | none =>
        have known : raised.context.command.isSome :=
          Option.isSome_iff_ne_none.mpr fun noCommand => unplaced ⟨ofRaised, noCommand⟩
        exact .told raises (.inr ⟨known, Option.or_of_isSome known⟩)

/-- What fails to be bound is marked with the command. -/
theorem context_of_misbinds {command : String} {parameters : List Parameter} {events : List Event}
    {failure : Failure} (misbinds : Misbinds command parameters events failure) :
    ∃ error, failure = .script error ∧ error.context.subsystem = none ∧
      error.context.command = some command := by
  cases misbinds with
  | misread _ misreading =>
      refine ⟨_, rfl, ?_⟩
      cases misreading with
      | coercion | lookup => exact ⟨rfl, rfl⟩
  | missing | surplus => exact ⟨_, rfl, rfl, rfl⟩

/-- A statement that is refused fails in its own place. -/
theorem failsPlaced_of_refuses {failure : Failure} (refuses : standard.Refuses statement failure) :
    FailsPlaced world statement failure := by
  cases refuses with
  | unrouted unrouted =>
      rintro error ⟨⟩
      exact .nowhere (unplaced_of_unrouted unrouted).1
  | unnamed routed unnamed =>
      rintro error ⟨⟩
      obtain ⟨subsystem, command⟩ := ownContext_of_unnamed unnamed
      refine .unnamed routed unnamed subsystem (.inl ?_)
      simp [ScriptError.annotate, Context.annotate, Cause.error, command]
  | unbound routed named misbinds =>
      obtain ⟨error, rfl, noSubsystem, isCommand⟩ := context_of_misbinds misbinds
      rintro _ ⟨⟩
      refine .named routed named ?_ ?_
      · simp [ScriptError.annotate, Context.annotate, noSubsystem]
      · simp [ScriptError.annotate, Context.annotate, isCommand]

/-- A statement that cannot be bound is run last itself. -/
theorem lastStatement_of_refused {failure : Failure}
    (fails : standard.bindStatement world statement = .error failure) :
    standard.lastStatement world statement = statement := by
  cases named : standard.named? statement with
  | none => exact lastStatement_of_unnamed named
  | some found =>
      obtain ⟨command, rest⟩ := found
      apply lastStatement_of_direct named
      intro bound account binds
      obtain ⟨found, succeeds⟩ := bindStatement_of_named? named binds
      rw [fails] at succeeds
      cases succeeds

/-- From is in the core table, so it has no subsystem to fill in. -/
theorem subsystem_of_from {route : Route} (routed : standard.route statement = .ok route)
    (found : route.table.find route.rest = .ok Core.fromCommand) :
    route.table.subsystem = none := by
  rcases standard_table routed with core | oracle
  · rw [core]
    rfl
  · have member := (find_eq_ok found).2
    rw [oracle] at member
    exact absurd rfl (standard_hasNoDelegates PriceOracle.subsystem List.mem_cons_self _ member)

/-- From around a statement leaves what is known of the place as it is, but for filling in itself.
-/
theorem failsPlaced_of_fails {failure : Failure} (fails : Fails world statement failure) :
    FailsPlaced world (standard.lastStatement world statement) failure := by
  -- what a command that is not From fails with
  have placed {statement : Statement} {found : BoundCommand} {error : ScriptError}
      (binds : standard.bindStatement world statement = .ok found)
      (direct : ∀ account, found.command.handler ≠ .redirect account)
      (arises : error.context.IsUnplaced ∨ world.Raises error) :
      FailsPlaced world (standard.lastStatement world statement)
        ((Failure.script error).annotate (found.place statement.line)) := by
    obtain ⟨route, routed, ofCommand, subsystem, isBound⟩ := exists_route_of_bindStatement binds
    have named := named?_eq_some_iff.mpr ⟨route, routed, rfl, ofCommand⟩
    rw [lastStatement_of_direct named fun _ account _ => direct account, BoundCommand.place,
      subsystem]
    rintro _ ⟨⟩
    apply Placed.inside routed ofCommand
    exact arises.imp_right fun raises => ⟨error, raises, rfl⟩
  induction fails with
  | refused binds refuses =>
      rw [lastStatement_of_refused binds]
      exact failsPlaced_of_refuses refuses
  | called binds direct _ fails => exact placed binds direct fails.unplaced_or_raises
  | verified binds direct _ fails =>
      exact placed binds direct (fails.unplaced_or_raises.imp_right .of_asReadOnly)
  | @redirected statement rest found account failure binds named redirects _ ih =>
      obtain ⟨route, routed, ofCommand, subsystem, isBound⟩ := exists_route_of_bindStatement binds
      obtain ⟨other, same, rfl, -⟩ := named?_eq_some_iff.mp named
      obtain rfl := Except.ok.inj (routed.symm.trans same)
      have isFrom := standard_redirect named redirects
      have nowhere := subsystem_of_from routed (isFrom ▸ ofCommand)
      rw [lastStatement_of_redirect named isBound redirects, BoundCommand.place, subsystem, nowhere,
        isFrom]
      exact ih.outside statement.line

end

/-- **The places of errors.** If an error of the standard engine tells a subsystem and a command,
then a collaborator has told one of the two itself, or they are those of the statement that is run
last: the subsystem is registered under its name, and the command is the one of its table that this
statement names. The exception is a statement under From that names no command of its subsystem: its
error tells the subsystem together with From, which is none of its commands. -/
theorem place_of_process (world : World) (statement : Statement) (sender : Option String)
    (earlier : List Request) (error : ScriptError)
    (fails : ((standard.process world statement sender).run earlier).result =
      .error (.script error))
    (subsystem command : String) (inSubsystem : error.context.subsystem = some subsystem)
    (inCommand : error.context.command = some command) :
    (∃ raised, world.Raises raised ∧
      (raised.context.subsystem = some subsystem ∨ raised.context.command = some command)) ∨
    ∃ registered route, standard.registry.get? subsystem = some registered ∧
      registered.name = subsystem ∧
      standard.route (standard.lastStatement world statement) = .ok route ∧
      route.table = registered.table ∧
      match route.table.find route.rest with
      | .ok found => found ∈ registered.commands ∧ found.name = command
      | .error _ => command = Core.fromCommand.name ∧
          ∀ own ∈ registered.commands, own.name ≠ command := by
  have ends := ends_process_standard world statement sender earlier
  rw [fails] at ends
  -- a table with a subsystem is that of the oracle
  have isOracle {route : Route} (routed : standard.route (standard.lastStatement world statement) =
      .ok route) (same : error.context.subsystem = route.table.subsystem) :
      subsystem = PriceOracle.name ∧ route.table = PriceOracle.subsystem.table := by
    rw [inSubsystem] at same
    rcases standard_table routed with core | oracle
    · rw [core] at same
      cases same
    · rw [oracle] at same
      exact ⟨Option.some.inj same, oracle⟩
  cases failsPlaced_of_fails ends error rfl with
  | told raises kept =>
      refine .inl ⟨_, raises, kept.imp ?_ ?_⟩
      · rintro ⟨-, same⟩
        rw [← same, inSubsystem]
      · rintro ⟨-, same⟩
        rw [← same, inCommand]
  | nowhere noSubsystem =>
      rw [inSubsystem] at noSubsystem
      cases noSubsystem
  | @named route found routed ofCommand same isCommand =>
      obtain ⟨rfl, table⟩ := isOracle routed same
      refine .inr ⟨PriceOracle.subsystem, route, rfl, rfl, routed, table, ?_⟩
      rw [ofCommand]
      have member := (find_eq_ok ofCommand).2
      rw [table] at member
      exact ⟨member, Option.some.inj (isCommand.symm.trans inCommand)⟩
  | @unnamed route cause routed unnamed same ofFrom =>
      obtain ⟨rfl, table⟩ := isOracle routed same
      refine .inr ⟨PriceOracle.subsystem, route, rfl, rfl, routed, table, ?_⟩
      rw [unnamed]
      rw [inCommand] at ofFrom
      obtain rfl := Option.some.inj (ofFrom.resolve_left nofun)
      exact ⟨rfl, by decide⟩

/-- A statement of the oracle. -/
def oracleStatement (items : List Event) : Statement := ⟨.bare "PriceOracle" :: items, some 1⟩

/-- The statement in a group under From. -/
def underFrom (statement : Statement) : Statement :=
  ⟨[.bare "From", .bare "Zero", .group statement.items], statement.line⟩

/-- Where the statement is refused, so is From before it, which fills in itself. -/
theorem process_underFrom {items : List Event} {failure : Failure}
    (refused : standard.bindStatement {} (oracleStatement items) = .error failure) :
    standard.lastStatement {} (underFrom (oracleStatement items)) = oracleStatement items ∧
    ((standard.process {} (underFrom (oracleStatement items)) none).run []).result =
      .error (failure.annotate { command := some "From", line := some 1 }) := by
  have named : standard.named? (underFrom (oracleStatement items)) =
      some (Core.fromCommand, underFrom (oracleStatement items)) := rfl
  have binds : standard.bindStatement {} (underFrom (oracleStatement items)) =
      .ok ⟨none, Core.fromCommand, [("account", .value (.address zeroAddress)),
        ("event", .value (.event (.group [.group (oracleStatement items).items])))]⟩ := rfl
  have inner : redirectedTo (underFrom (oracleStatement items))
      (underFrom (oracleStatement items)) = oracleStatement items := rfl
  constructor
  · rw [lastStatement_of_redirect named rfl rfl, inner, lastStatement_of_refused refused]
  · obtain ⟨rest, sameName, observed⟩ := observe_process_of_bound binds none []
    obtain rfl : _ = rest := congrArg Prod.snd (Option.some.inj (named.symm.trans sameName))
    obtain ⟨lines, -, innerObserved⟩ := observe_process_of_refused refused (some zeroAddress) []
    rw [← Play.observe_toOutcome, observed, Command.perform_redirect rfl, inner]
    change (Observation.within _ _ ((standard.process {} (oracleStatement items)
      (some zeroAddress)).observe [])).result = _
    rw [innerObserved]
    rfl

/-- No collaborator tells anything where there are none. -/
theorem not_raises_empty (error : ScriptError) : ¬World.Raises {} error := by
  rintro (⟨isInvoker, -⟩ | ⟨isVerifier, -⟩)
  · cases isInvoker
  · cases isVerifier

/-- The lookup of an oracle that is not registered fails in SetRefAddress, also under From. -/
def notRegistered : ScriptError where
  cause := .lookup "PriceOracle" "contract"
  context :=
    { subsystem := some "PriceOracle", command := some "SetRefAddress",
      argument := some "priceOracle", line := some 1 }

/-- A command that the oracle does not have, under From. -/
def notACommand : ScriptError where
  cause := .unknownCommand "Bogus" (some "PriceOracle")
  context := { subsystem := some "PriceOracle", command := some "From", line := some 1 }

/-- Without an oracle its lookup fails. -/
theorem refused_notRegistered : standard.bindStatement {}
    (oracleStatement [.bare "SetRefAddress", .bare "0x1"]) = .error (.script notRegistered) := rfl

/-- A command that the oracle does not have is not found. -/
theorem refused_notACommand : standard.bindStatement {} (oracleStatement [.bare "Bogus"]) =
    .error (.script { notACommand with
      context := { subsystem := some "PriceOracle", line := some 1 } }) := rfl

/-- Both errors arise under From: the first tells a command of the oracle, the second one that is
none. -/
theorem place_of_process_underFrom :
    (((standard.process {}
        (underFrom (oracleStatement [.bare "SetRefAddress", .bare "0x1"])) none).run
        []).result = .error (.script notRegistered) ∧
      ∃ own ∈ PriceOracle.commands, own.name = "SetRefAddress") ∧
    ((standard.process {} (underFrom (oracleStatement [.bare "Bogus"])) none).run []).result =
        .error (.script notACommand) ∧
      ∀ own ∈ PriceOracle.commands, own.name ≠ "From" := by
  obtain ⟨lastRegistered, failsRegistered⟩ := process_underFrom refused_notRegistered
  obtain ⟨lastCommand, failsCommand⟩ := process_underFrom refused_notACommand
  refine ⟨⟨failsRegistered, ?_⟩, failsCommand, ?_⟩
  · rcases place_of_process {} _ none [] notRegistered failsRegistered "PriceOracle" "SetRefAddress"
      rfl rfl with ⟨raised, raises, -⟩ | ⟨registered, route, found, -, routed, -, place⟩
    · exact absurd raises (not_raises_empty raised)
    · rw [lastRegistered] at routed
      obtain rfl := Option.some.inj found
      obtain rfl := Except.ok.inj routed
      exact ⟨_, place⟩
  · rcases place_of_process {} _ none [] notACommand failsCommand "PriceOracle" "From" rfl rfl with
      ⟨raised, raises, -⟩ | ⟨registered, route, found, -, routed, -, place⟩
    · exact absurd raises (not_raises_empty raised)
    · rw [lastCommand] at routed
      obtain rfl := Option.some.inj found
      obtain rfl := Except.ok.inj routed
      exact place.2

/-- Not every error that tells a subsystem and a command tells a command of the subsystem. -/
theorem not_place_of_process_ofFrom :
    ¬∀ (world : World) (statement : Statement) (sender : Option String) (earlier : List Request)
        (error : ScriptError),
      ((standard.process world statement sender).run earlier).result = .error (.script error) →
      ∀ subsystem command, error.context.subsystem = some subsystem →
        error.context.command = some command →
          ∃ registered, standard.registry.get? subsystem = some registered ∧
            registered.name = subsystem ∧ ∃ own ∈ registered.commands, own.name = command := by
  intro place
  obtain ⟨registered, found, -, own, member, named⟩ :=
    place {} _ none [] notACommand (process_underFrom refused_notACommand).2 "PriceOracle" "From"
      rfl rfl
  obtain rfl := Option.some.inj found
  have others : ∀ own ∈ PriceOracle.commands, own.name ≠ "From" := by decide
  exact others own member named

end Engine
end Playbook
