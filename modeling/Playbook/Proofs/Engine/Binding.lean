import Playbook.Proofs.Engine.Binder
import Playbook.Proofs.Play.Ends

/-! # Binding before running

A statement is run by carrying out what it is bound to: where binding fails, the run fails in the
same way and does nothing, and where it succeeds, the run ends as the command does.
-/

namespace Playbook.Engine

variable {engine : Engine} {world : World} {statement : Statement} {sender : Option String}

/-- A statement that can be bound has a command in the table it goes to, which takes its arguments.
-/
theorem exists_route_of_bindStatement {found : BoundCommand}
    (binds : engine.bindStatement world statement = .ok found) :
    ∃ route, engine.route statement = .ok route ∧ route.table.find route.rest = .ok found.command ∧
      found.subsystem = route.table.subsystem ∧
      found.command.bind world route.rest.items.tail = .ok found.bound := by
  rcases bindStatement_cases engine world statement with
    ⟨error, -, refused⟩ | ⟨route, cause, -, -, refused⟩ | ⟨route, command, routed, named, isBound⟩
  · rw [refused] at binds
    cases binds
  · rw [refused] at binds
    cases binds
  · rw [isBound] at binds
    cases bound : command.bind world route.rest.items.tail with
    | error failure =>
        rw [bound] at binds
        cases binds
    | ok arguments =>
        rw [bound] at binds
        obtain rfl := Except.ok.inj binds
        exact ⟨route, routed, named, rfl, bound⟩

/-- A statement that can be bound names the command and gives it its arguments. -/
theorem bindStatement_eq_ok {found : BoundCommand}
    (binds : engine.bindStatement world statement = .ok found) :
    ∃ rest, engine.named? statement = some (found.command, rest) ∧
      found.command.bind world rest.items.tail = .ok found.bound := by
  obtain ⟨route, routed, named, -, isBound⟩ := exists_route_of_bindStatement binds
  exact ⟨route.rest, named?_eq_some_iff.mpr ⟨route, routed, rfl, named⟩, isBound⟩

/-- A statement can be bound if the command that it names takes its arguments. -/
theorem bindStatement_of_named? {rest : Statement} {command : Command} {bound : Bound}
    (named : engine.named? statement = some (command, rest))
    (binds : command.bind world rest.items.tail = .ok bound) :
    ∃ found, engine.bindStatement world statement = .ok found := by
  obtain ⟨route, routed, rfl, found⟩ := named?_eq_some_iff.mp named
  rcases bindStatement_cases engine world statement with
    ⟨error, unrouted, -⟩ | ⟨other, cause, sameRoute, unnamed, -⟩ |
      ⟨other, same, sameRoute, sameCommand, isBound⟩
  · rw [routed] at unrouted
    cases unrouted
  · obtain rfl := Except.ok.inj (routed.symm.trans sameRoute)
    rw [found] at unnamed
    cases unnamed
  · obtain rfl := Except.ok.inj (routed.symm.trans sameRoute)
    obtain rfl := Except.ok.inj (found.symm.trans sameCommand)
    rw [isBound, binds]
    exact ⟨_, rfl⟩

/-- Where binding fails, the run fails in the same way, and does no more than to print debug lines.
-/
theorem observe_process_of_refused {failure : Failure}
    (fails : engine.bindStatement world statement = .error failure) (sender : Option String)
    (earlier : List Request) :
    ∃ lines : List String, lines.Sublist (world.printer.log statement.text .debug) ∧
      (engine.process world statement sender).observe earlier =
        ⟨⟨.error failure, lines.map .printed⟩, []⟩ := by
  have binding : (engine.bindStatementBy .reading world statement).observe earlier =
      ⟨⟨.error failure, []⟩, []⟩ := by
    rw [bindStatementBy_reading, fails, Play.observe_ofResult]
  obtain ⟨lines, debug, observed⟩ :=
    observe_dispatch_of_refused (congrArg (·.result) binding) sender
    fun rest account =>
      Returned.world <$> engine.process world (redirectedTo statement rest) account
  rw [← process_eq_dispatch, binding, List.append_nil] at observed
  exact ⟨lines, debug, observed⟩

/-- Where binding succeeds, the run carries out the command with the arguments that it is bound to,
after the debug lines. -/
theorem observe_process_of_bound {found : BoundCommand}
    (binds : engine.bindStatement world statement = .ok found) (sender : Option String)
    (earlier : List Request) :
    ∃ rest, engine.named? statement = some (found.command, rest) ∧
      (engine.process world statement sender).observe earlier =
        ((found.command.perform world sender found.bound fun account =>
          Returned.world <$> engine.process world (redirectedTo statement rest) account).observe
            earlier).within
          { subsystem := found.subsystem, command := some found.command.name,
            line := statement.line }
          (world.printer.log statement.text .debug) := by
  have binding : (engine.bindStatementBy .reading world statement).observe earlier =
      ⟨⟨.ok found, []⟩, []⟩ := by
    rw [bindStatementBy_reading, binds, Play.observe_ofResult]
  have noRequest : earlier ++ requests [] = earlier := List.append_nil earlier
  obtain ⟨rest, named, observed⟩ := observe_dispatch_of_bound (congrArg (·.result) binding) sender
    fun rest account =>
      Returned.world <$> engine.process world (redirectedTo statement rest) account
  rw [← process_eq_dispatch, binding, noRequest, Observation.after_nil] at observed
  exact ⟨rest, named, observed⟩

/-- A statement ends as its binding does, if that fails, and else as the command that is bound does,
with the place filled in. -/
theorem ends_process_marked {gives : World → Prop} {fails : Failure → Prop}
    (ends : EndsWith (fun found => ∀ rest, engine.named? statement = some (found.command, rest) →
      (found.command.perform world sender found.bound fun account =>
        Returned.world <$> engine.process world (redirectedTo statement rest) account).Ends gives
          fun failure => fails (failure.annotate
            { subsystem := found.subsystem, command := some found.command.name,
              line := statement.line }))
      fails (engine.bindStatement world statement)) :
    (engine.process world statement sender).Ends gives fails := by
  intro earlier
  cases binds : engine.bindStatement world statement with
  | error failure =>
      obtain ⟨lines, -, observed⟩ := observe_process_of_refused binds sender earlier
      rw [binds] at ends
      rw [← Play.observe_toOutcome, observed]
      exact ends
  | ok found =>
      obtain ⟨rest, named, observed⟩ := observe_process_of_bound binds sender earlier
      rw [binds] at ends
      rw [← Play.observe_toOutcome, observed]
      exact (ends rest named earlier).marked fun _ failed => failed

/-- The place does not matter for failures of a kind that does not depend on it. -/
theorem ends_process {gives : World → Prop} {fails : Failure → Prop} (keeps : KeepsNotes fails)
    (ends : EndsWith (fun found => ∀ rest, engine.named? statement = some (found.command, rest) →
      (found.command.perform world sender found.bound fun account =>
        Returned.world <$> engine.process world (redirectedTo statement rest) account).Ends
          gives fails)
      fails (engine.bindStatement world statement)) :
    (engine.process world statement sender).Ends gives fails := by
  apply ends_process_marked
  apply ends.weaken
  intro found ends rest named
  exact (ends rest named).imp (keeps _)

/-- A run of a statement with a binder does what binding alone does, whatever coercions ask and
print, and before it prints no more than its debug line. Where binding fails, the run fails in the
same way. Where it succeeds, the handler of the command acts, once and with the arguments that were
bound, and what it returns or fails with is settled. -/
def FollowsBinding (engine : Engine) (binder : Binder) (world : World) (statement : Statement)
    (sender : Option String) (earlier : List Request) : Prop :=
  let debug := world.printer.log statement.text .debug
  let binding := (engine.bindStatementBy binder world statement).observe earlier
  let observation := (engine.processBy binder world statement sender).observe earlier
  match binding.result with
  | .error failure =>
    ∃ lines : List String, lines.Sublist debug ∧
      observation = ⟨⟨.error failure, lines.map .printed ++ binding.trace⟩, binding.exchanges⟩
  | .ok found =>
    ∃ rest, engine.named? statement = some (found.command, rest) ∧
      let handled := (found.command.handle world sender found.bound fun account =>
        Returned.world <$> engine.processBy binder world (redirectedTo statement rest)
          account).observe (earlier ++ requests binding.trace)
      observation.exchanges = binding.exchanges ++ handled.exchanges ∧
        (∃ lines : List String, lines.length ≤ 1 ∧ observation.trace =
          debug.map .printed ++ (binding.trace ++ (handled.trace ++ lines.map .printed))) ∧
        observation.result = annotateResult
          { subsystem := found.subsystem, command := some found.command.name,
            line := statement.line }
          (handled.result >>= fun returned =>
            ((found.command.settle world returned).run []).result)

/-- Every run of a statement follows its binding. -/
theorem followsBinding (engine : Engine) (binder : Binder) (world : World) (statement : Statement)
    (sender : Option String) (earlier : List Request) :
    engine.FollowsBinding binder world statement sender earlier := by
  unfold FollowsBinding
  intro debug binding observation
  have observed : observation = (engine.dispatch binder world statement sender _).observe earlier :=
    congrArg (·.observe earlier) (processBy_eq_dispatch engine binder world statement sender)
  split
  next failure fails =>
    obtain ⟨lines, atMost, refused⟩ := observe_dispatch_of_refused fails sender _
    exact ⟨lines, atMost, observed.trans refused⟩
  next found binds =>
    obtain ⟨rest, named, acts⟩ := observe_dispatch_of_bound binds sender _
    refine ⟨rest, named, ?_⟩
    obtain ⟨lines, atMost, performs⟩ := Command.observe_perform found.command world sender
      found.bound (fun account =>
        Returned.world <$> engine.processBy binder world (redirectedTo statement rest) account)
      (earlier ++ requests binding.trace)
    have together := observed.trans acts
    rw [performs] at together
    refine ⟨congrArg (·.exchanges) together, ⟨lines, atMost, ?_⟩, congrArg (·.result) together⟩
    exact congrArg (·.trace) together

/-- **Binding foretells running.** In every engine, whatever its subsystems are: where binding
fails, a run of the statement in the same world fails with the very same failure, context included,
asks for nothing and prints no more than its debug line. Where binding succeeds, the run has the
handler of the command that was found act, once and with exactly the arguments that were bound: in
the world, for the sender; in the world as read only, if the command is a view; and by running the
statement that follows for the account of the arguments, if it is From. The calls of the run are
those of the handler, its effects are the debug line, all that the handler does and at most one
printed line, and its result is what the handler returned or failed with, settled as the kind of
command asks and marked with the place. Coercions that do more than read change this only by what
they themselves ask and print, which a run does just as binding alone does. -/
theorem process_follows_bindStatement (engine : Engine) (world : World) (statement : Statement)
    (sender : Option String) (earlier : List Request) :
    (let debug := world.printer.log statement.text .debug
      let observation := (engine.process world statement sender).observe earlier
      match engine.bindStatement world statement with
      | .error failure =>
        observation.result = .error failure ∧ requests observation.trace = [] ∧
          observation.exchanges = [] ∧ (printedLines observation.trace).Sublist debug
      | .ok found =>
        ∃ rest, engine.named? statement = some (found.command, rest) ∧
          let handled := (found.command.handle world sender found.bound fun account =>
            Returned.world <$> engine.process world (redirectedTo statement rest) account).observe
              earlier
          observation.exchanges = handled.exchanges ∧
            (∃ lines : List String, lines.length ≤ 1 ∧ observation.trace =
              debug.map .printed ++ (handled.trace ++ lines.map .printed)) ∧
            observation.result = annotateResult
              { subsystem := found.subsystem, command := some found.command.name,
                line := statement.line }
              (handled.result >>= fun returned =>
                ((found.command.settle world returned).run []).result)) ∧
      ∀ binder, engine.FollowsBinding binder world statement sender earlier := by
  refine ⟨?_, fun binder => followsBinding engine binder world statement sender earlier⟩
  intro debug observation
  have follows := followsBinding engine .reading world statement sender earlier
  simp only [FollowsBinding, bindStatementBy_reading, processBy_reading, Play.observe_ofResult]
    at follows
  cases binds : engine.bindStatement world statement with
  | error failure =>
      rw [binds] at follows
      obtain ⟨lines, atMost, observed⟩ := follows
      have refused : observation = ⟨⟨.error failure, lines.map .printed ++ []⟩, []⟩ := observed
      rw [refused, List.append_nil]
      refine ⟨rfl, requests_printed lines, rfl, ?_⟩
      rw [printedLines_printed]
      exact atMost
  | ok found =>
      rw [binds] at follows
      have noRequest : earlier ++ requests [] = earlier := List.append_nil earlier
      simpa only [noRequest, List.nil_append] using follows

/-- A world on a public network, whose collaborators agree to everything. -/
def publicWorld : World where
  network := "mainnet"
  accounts := [("Root", "0x5")]
  contracts := [("PriceOracle", ⟨"PriceOracle", "Standard", "0x9", none⟩)]
  invoker := some ⟨fun _ _ _ _ => .ok { success := true }⟩
  verifier := some ⟨fun _ _ _ => .ok ()⟩

/-- The call that sets the reference address of the oracle. -/
def setCall : MethodCall :=
  ⟨⟨"PriceOracle", "Standard", "0x9", none⟩, "setRefAddress", [.str "0x1"]⟩

/-- The world after the call. -/
def setWorld : World :=
  publicWorld.addAction "Set price oracle ref address to 0x1" (some { success := true })

/-- A statement that makes the call. -/
def setsReference (line : Nat) : Statement :=
  ⟨[.bare "PriceOracle", .bare "SetRefAddress", .bare "0x1"], some line⟩

/-- The statement makes its call for the account of Root and adds its action. -/
theorem observe_setsReference (line : Nat) (earlier : List Request) :
    (standard.process publicWorld (setsReference line) none).observe earlier =
      ⟨⟨.ok setWorld, [.asked (.call setCall (some "0x5")),
        .printed "Action: Set price oracle ref address to 0x1"]⟩,
        [⟨setCall, some "0x5", .ok { success := true }⟩]⟩ := by
  rw [process]
  rfl

/-- Setting the reference address: the handler makes its call, once and for the account of Root, and
one line follows. -/
theorem process_follows_bindStatement_setsReference :
    ∃ found, standard.bindStatement publicWorld (setsReference 1) = .ok found ∧
      found.command = PriceOracle.setRefAddressCommand ∧
      found.bound = [("priceOracle", .contract ⟨"PriceOracle", "Standard", "0x9", none⟩),
        ("ref", .value (.address "0x1"))] ∧
      ((standard.process publicWorld (setsReference 1) none).observe []).result = .ok setWorld ∧
      ∃ lines : List String, lines.length ≤ 1 ∧
        ((standard.process publicWorld (setsReference 1) none).observe []).trace =
          .asked (.call setCall (some "0x5")) :: lines.map .printed := by
  obtain ⟨follows, -⟩ :=
    process_follows_bindStatement standard publicWorld (setsReference 1) none []
  have binds : standard.bindStatement publicWorld (setsReference 1) =
      .ok ⟨some "PriceOracle", PriceOracle.setRefAddressCommand,
        [("priceOracle", .contract ⟨"PriceOracle", "Standard", "0x9", none⟩),
          ("ref", .value (.address "0x1"))]⟩ := rfl
  rw [binds] at follows
  obtain ⟨rest, -, -, ⟨lines, atMost, effects⟩, result⟩ := follows
  exact ⟨_, binds, rfl, rfl, result, lines, atMost, effects⟩

end Playbook.Engine
