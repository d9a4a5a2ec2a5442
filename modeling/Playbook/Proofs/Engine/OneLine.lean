import Playbook.Proofs.Engine.Oracle
import Playbook.Proofs.Text.ErrorText
import Playbook.Proofs.Vocabulary.BoundTexts

/-! # Errors on one line

An error of a script is told on one line, unless its wording repeats a line break as it is. It does
so in four ways: an escape that is not valid, arguments that are left over, and what was called or
verified without success or from a view. All of them need a line break in a text that the script
gives, in the name of a contract or in an address.
-/

namespace Playbook

open Text

/-! ### What is told -/

/-- The error is told, and its wording repeats no line break if a condition holds. -/
structure ScriptError.IsPlainIf (condition : Prop) (error : ScriptError) :
    Prop extends error.IsTold where
  plain : condition → ¬error.cause.SpansLines

/-- The failure is an error that is told in this way. -/
def Failure.IsPlainIf (condition : Prop) (failure : Failure) : Prop :=
  ∃ error, failure = .script error ∧ error.IsPlainIf condition

namespace ScriptError.IsPlainIf
variable {condition : Prop} {error : ScriptError}

/-- An error that stands on one line is plain on any condition. -/
theorem of_isOneLine (oneLine : Text.IsOneLine error.message) : error.IsPlainIf condition :=
  ⟨.of_isOneLine oneLine, fun _ spans =>
    Cause.not_isOneLine_of_spansLines spans (isOneLine_message_iff.mp oneLine).1⟩

/-- A plain error stands on one line where the condition holds. -/
theorem isOneLine (told : error.IsPlainIf condition) (holds : condition) :
    Text.IsOneLine error.message :=
  told.toIsTold.isOneLine_iff.mpr (told.plain holds)

end ScriptError.IsPlainIf

/-- What is plain on a condition is plain on a stronger one. -/
theorem Failure.IsPlainIf.imp {condition other : Prop} {failure : Failure}
    (told : failure.IsPlainIf condition) (implies : other → condition) :
    failure.IsPlainIf other := by
  obtain ⟨error, rfl, told⟩ := told
  exact ⟨error, rfl, told.toIsTold, fun holds => told.plain (implies holds)⟩

/-- A place on one line may be filled in, and a stronger condition be asked for. -/
theorem Failure.IsPlainIf.annotate {condition other : Prop} {failure : Failure}
    (told : failure.IsPlainIf condition) (implies : other → condition) {notes : Context}
    (place : notes.IsOneLine) : (failure.annotate notes).IsPlainIf other := by
  obtain ⟨error, rfl, plain⟩ := told.imp implies
  exact ⟨error.annotate notes, rfl, plain.toIsTold.annotate place, plain.plain⟩

/-- A failure is plain if the error with its cause is. -/
theorem Failure.isPlainIf_ofCause {condition : Prop} {cause : Cause}
    (told : cause.error.IsPlainIf condition) : (Failure.ofCause cause).IsPlainIf condition :=
  ⟨cause.error, rfl, told⟩

/-! ### Calls and verifications -/

/-- What is told of the trouble is told on one line. -/
def Trouble.IsOneLine : Trouble → Prop
  | .error raised => Text.IsOneLine raised.message
  | .crash kind text => Text.IsOneLine kind ∧ Text.IsOneLine text

namespace World

/-- The collaborators say on one line why a call or a verification has failed. -/
structure ExplainsOnOneLine (world : World) : Prop where
  calls : ∀ invoker, world.invoker = some invoker → ∀ records earlier call sender trouble,
    invoker.answer records earlier call sender = .error trouble → trouble.IsOneLine
  receipts : ∀ invoker, world.invoker = some invoker → ∀ records earlier call sender receipt,
    invoker.answer records earlier call sender = .ok receipt →
      ∀ reason, receipt.errorMessage = some reason → Text.IsOneLine reason
  verifications : ∀ verifier, world.verifier = some verifier → ∀ records earlier asked trouble,
    verifier.answer records earlier asked = .error trouble → trouble.IsOneLine

/-- Collaborators that explain themselves on one line do so in every world that continues theirs. -/
theorem ExplainsOnOneLine.continues {world after : World} (explains : world.ExplainsOnOneLine)
    (continues : world.Continues after) : after.ExplainsOnOneLine where
  calls := continues.invoker ▸ explains.calls
  receipts := continues.invoker ▸ explains.receipts
  verifications := continues.verifier ▸ explains.verifications

end World

/-- What was called or verified is repeated as it is. -/
theorem Cause.isPlainIf_invocation {description : String} {reason : Option String}
    {receipt : Option Receipt} (told : ∀ text, reason = some text → Text.IsOneLine text) :
    (Cause.invocation description reason receipt).error.IsPlainIf (Text.IsOneLine description) := by
  refine ⟨isTold_error ?_ nofun, fun oneLine spans => spans oneLine⟩
  by_cases oneLine : Text.IsOneLine description
  · have failed : Text.IsOneLine " failed" := by decide
    have explained : Text.IsOneLine (optional reason (": " ++ ·)) :=
      isOneLine_optional fun text isReason => isOneLine_append.mpr ⟨by decide, told text isReason⟩
    exact .inr (isOneLine_append.mpr ⟨isOneLine_append.mpr ⟨oneLine, failed⟩, explained⟩)
  · exact .inl oneLine

/-- Trouble that is told on one line makes a plain error if the description stands on one line. -/
theorem World.isPlainIf_troubleCause {description kind text : String}
    (told : (Trouble.crash kind text).IsOneLine) :
    (troubleCause description kind text).error.IsPlainIf (Text.IsOneLine description) := by
  apply Cause.isPlainIf_invocation
  rintro _ ⟨⟩
  split
  · exact told.1
  · exact told.2

/-- A call from a view makes a plain error if its description stands on one line. -/
theorem Cause.isPlainIf_callFromView {call : String} :
    (Cause.handler (.callFromView call)).error.IsPlainIf (Text.IsOneLine call) := by
  refine ⟨isTold_error ?_ nofun, fun oneLine spans => spans oneLine⟩
  by_cases oneLine : Text.IsOneLine call
  · exact .inr (isOneLine_append.mpr ⟨oneLine, by decide⟩)
  · exact .inl oneLine

namespace World
variable {world : World} {error : ScriptError} (explains : world.ExplainsOnOneLine)
include explains

/-- A call that fails makes a plain error if its description stands on one line. -/
theorem CallFails.isPlainIf {call : MethodCall} (fails : world.CallFails call error) :
    error.IsPlainIf (Text.IsOneLine call.describe) := by
  cases fails with
  | fromView => exact Cause.isPlainIf_callFromView
  | noInvoker =>
      apply Cause.isPlainIf_invocation
      rintro _ ⟨⟩
      decide
  | raised isInvoker answer => exact .of_isOneLine (explains.calls _ isInvoker _ _ _ _ _ answer)
  | crashed isInvoker answer =>
      exact isPlainIf_troubleCause (explains.calls _ isInvoker _ _ _ _ _ answer)
  | unsuccessful isInvoker answer =>
      exact Cause.isPlainIf_invocation (explains.receipts _ isInvoker _ _ _ _ _ answer)

/-- A verification that fails makes a plain error if the name of the contract stands on one line. -/
theorem VerificationFails.isPlainIf {verification : Verification}
    (fails : world.VerificationFails verification error) :
    error.IsPlainIf (Text.IsOneLine ("Verify " ++ verification.contractName)) := by
  cases fails with
  | noVerifier =>
      apply Cause.isPlainIf_invocation
      rintro _ ⟨⟩
      decide
  | raised isVerifier answer =>
      exact .of_isOneLine (explains.verifications _ isVerifier _ _ _ _ answer)
  | crashed isVerifier answer =>
      exact isPlainIf_troubleCause (explains.verifications _ isVerifier _ _ _ _ answer)

end World

namespace Engine

/-! ### Statements -/

/-- No token in the statement has a line break. -/
def Unbroken (statement : Statement) : Prop :=
  ¬Event.HasLineBreak (Event.atomsOfItems statement.items)

section
variable {engine : Engine} {statement rest : Statement} {command : Command}

/-- What is left of a statement for its table is part of it. -/
theorem rest_subset {route : Route} (routed : engine.route statement = .ok route) :
    route.rest.items ⊆ statement.items := by
  unfold Engine.route at routed
  split at routed
  · cases routed
  next items =>
    split at routed
    · obtain rfl := Except.ok.inj routed
      rw [items]
      exact List.subset_cons_self _ _
    · split at routed
      · obtain rfl := Except.ok.inj routed
        exact List.Subset.refl _
      · cases routed
  · cases routed

/-- The arguments of an unbroken statement have no line breaks. -/
theorem Unbroken.tail {route : Route} (routed : engine.route statement = .ok route)
    (unbroken : Unbroken statement) :
    ¬Event.HasLineBreak (Event.atomsOfItems route.rest.items.tail) := by
  have subset : route.rest.items.tail ⊆ statement.items :=
    List.Subset.trans (List.tail_subset _) (rest_subset routed)
  exact fun broken => unbroken (broken.mono (Event.atomsOfItems_subset subset))

/-- The statement after the From of an unbroken statement is unbroken. -/
theorem Unbroken.redirectedTo (named : engine.named? statement = some (command, rest))
    (unbroken : Unbroken statement) : Unbroken (redirectedTo statement rest) := by
  obtain ⟨route, routed, rfl, -⟩ := named?_eq_some_iff.mp named
  rw [Unbroken, Engine.redirectedTo, Event.atomsOfItems_redirected]
  exact fun broken => unbroken.tail routed (broken.mono
    (Event.atomsOfItems_subset (List.tail_subset _)))

end

section
variable {world after : World} {statement rest : Statement} {command : Command} {bound : Bound}
  {sender : Option String} {earlier : List Request}

/-- The names of standard commands stand on one line. -/
theorem isOneLine_name {command : Command} (standard : command.IsStandard) :
    Text.IsOneLine command.name := by
  have core : ∀ command ∈ Core.table.commands, Text.IsOneLine command.name := by decide
  have oracle : ∀ command ∈ PriceOracle.commands, Text.IsOneLine command.name := by decide
  exact standard.elim (core command) (oracle command)

/-- The names of their parameters stand on one line. -/
theorem isOneLine_parameterName {command : Command} (standard : command.IsStandard) :
    ∀ parameter ∈ command.parameters, Text.IsOneLine parameter.name := by
  have core : ∀ command ∈ Core.table.commands, ∀ parameter ∈ command.parameters,
      Text.IsOneLine parameter.name := by decide
  have oracle : ∀ command ∈ PriceOracle.commands, ∀ parameter ∈ command.parameters,
      Text.IsOneLine parameter.name := by decide
  exact standard.elim (core command) (oracle command)

/-- The name of the standard subsystem stands on one line. -/
theorem isOneLine_subsystem {route : Route} (routed : standard.route statement = .ok route) :
    ∀ name, route.table.subsystem = some name → Text.IsOneLine name := by
  rcases standard_table routed with table | table
  · rw [table]
    exact nofun
  · rw [table]
    rintro _ ⟨⟩
    decide

/-- The place that is filled in by a statement. -/
theorem isOneLine_place {route : Route} (routed : standard.route statement = .ok route)
    (standard : command.IsStandard) (line : Option Nat) :
    Context.IsOneLine
      { subsystem := route.table.subsystem, command := some command.name, line } := by
  refine ⟨isOneLine_subsystem routed, ?_, nofun⟩
  rintro _ ⟨⟩
  exact isOneLine_name standard

/-! ### Refused statements -/

/-- A statement that goes to no table is refused by a plain error. -/
theorem isPlainIf_unrouted {condition : Prop} {error : ScriptError}
    (unrouted : standard.route statement = .error error) : error.IsPlainIf condition := by
  have unknown (name : String) :
      ((Cause.unknownSubsystem name).error.annotate { line := statement.line }).IsPlainIf
        condition := by
    have told : (Cause.unknownSubsystem name).error.IsTold :=
      Cause.isTold_error (.inr (isOneLine_append.mpr ⟨by decide, isOneLine_quote name⟩)) nofun
    exact ⟨told.annotate ⟨nofun, nofun, nofun⟩, fun _ => id⟩
  unfold Engine.route at unrouted
  split at unrouted
  · obtain rfl := Except.error.inj unrouted
    exact ⟨Script.isTold_of_reason
      (.inr (show Text.IsOneLine Script.Malformation.emptyStatement.message by decide)),
      fun _ => nofun⟩
  · split at unrouted
    · cases unrouted
    · split at unrouted
      · cases unrouted
      · obtain rfl := Except.error.inj unrouted
        exact unknown _
  · obtain rfl := Except.error.inj unrouted
    exact unknown _

/-- A statement that its table has no command for is refused by a plain error. -/
theorem isPlainIf_unnamed {condition : Prop} {route : Route} {cause : Cause}
    (routed : standard.route statement = .ok route)
    (unnamed : route.table.find route.rest = .error cause) : cause.error.IsPlainIf condition := by
  have subsystem := isOneLine_subsystem routed
  have unknown (name : String) :
      (Cause.unknownCommand name route.table.subsystem).error.IsPlainIf condition := by
    have spaced : Text.IsOneLine (Cause.optional route.table.subsystem (· ++ " ")) :=
      Cause.isOneLine_optional fun text isName =>
        isOneLine_append.mpr ⟨subsystem text isName, by decide⟩
    have found : Text.IsOneLine "found unknown " := by decide
    have command : Text.IsOneLine "command " := by decide
    have wording : Text.IsOneLine (Cause.unknownCommand name route.table.subsystem).message := by
      unfold Cause.message
      simp only [isOneLine_append, found, spaced, command, isOneLine_quote, and_self]
    exact ⟨Cause.isTold_error (.inr wording) subsystem, fun _ => id⟩
  have missing :
      Text.IsOneLine (Script.Malformation.missingCommand route.table.subsystem).message := by
    rcases standard_table routed with table | table
    · rw [table]
      decide
    · rw [table]
      decide
  unfold CommandTable.find at unnamed
  split at unnamed
  · obtain rfl := Except.error.inj unnamed
    exact ⟨Script.isTold_of_reason (.inr missing), fun _ => nofun⟩
  · obtain rfl := Except.error.inj unnamed
    exact unknown _
  · split at unnamed
    · cases unnamed
    · obtain rfl := Except.error.inj unnamed
      exact unknown _

/-- A misreading is told and repeats no line break. -/
theorem isTold_misreading {cause : Cause} (misreading : cause.IsMisreading) :
    cause.error.IsTold ∧ ¬cause.SpansLines := by
  cases misreading with
  | @coercion expected oneLine received =>
      have expects : Text.IsOneLine "expected " := by decide
      have receives : Text.IsOneLine ", received " := by decide
      refine ⟨Cause.isTold_error (.inr ?_) nofun, id⟩
      unfold Cause.message
      simp only [isOneLine_append, expects, oneLine, receives, isOneLine_quote, and_self]
  | @lookup what oneLine name =>
      have seeks : Text.IsOneLine "could not resolve " := by decide
      have blank : Text.IsOneLine " " := by decide
      refine ⟨Cause.isTold_error (.inr ?_) nofun, id⟩
      unfold Cause.message
      simp only [isOneLine_append, seeks, oneLine, blank, isOneLine_quote, and_self]

/-- Arguments that are left over are repeated as they are written. -/
theorem isPlainIf_surplus (events : List Event) :
    (Cause.extraArguments (events.map (·.render))).error.IsPlainIf
      (¬Event.HasLineBreak (Event.atomsOfItems events)) := by
  have plain (unbroken : ¬Event.HasLineBreak (Event.atomsOfItems events)) :
      ¬(Cause.extraArguments (events.map (·.render))).SpansLines := by
    rintro ⟨token, member, broken⟩
    obtain ⟨event, isEvent, rfl⟩ := List.mem_map.mp member
    rw [Event.isOneLine_render_iff, not_not] at broken
    exact unbroken (broken.mono (Event.atoms_subset_of_mem isEvent))
  refine ⟨Cause.isTold_error ?_ nofun, plain⟩
  by_cases spans : (Cause.extraArguments (events.map (·.render))).SpansLines
  · exact .inl spans
  · have tokens : ∀ token ∈ events.map (·.render), Text.IsOneLine token := by
      intro token member
      by_contra broken
      exact spans ⟨token, member, broken⟩
    exact .inr (isOneLine_append.mpr ⟨by decide, (isOneLine_intercalate (by decide)).mpr tokens⟩)

/-- Binding fails with an error that is plain if the events have no line breaks. -/
theorem isPlainIf_misbinds {events : List Event} {failure : Failure} (standard : command.IsStandard)
    (misbinds : Misbinds command.name command.parameters events failure) :
    failure.IsPlainIf (¬Event.HasLineBreak (Event.atomsOfItems events)) := by
  have name := isOneLine_name standard
  have place {parameter : Parameter} (member : parameter ∈ command.parameters)
      (position : Option Nat) :
      Context.IsOneLine
        { command := some command.name, argument := some parameter.name, position } := by
    refine ⟨nofun, ?_, ?_⟩
    · rintro _ ⟨⟩
      exact name
    · rintro _ ⟨⟩
      exact isOneLine_parameterName standard parameter member
  cases misbinds with
  | misread member misreading position =>
      obtain ⟨told, plain⟩ := isTold_misreading misreading
      exact (Failure.isPlainIf_ofCause ⟨told, fun _ => plain⟩).annotate id (place member position)
  | @missing parameter member position =>
      have wording : Text.IsOneLine (Cause.missingArgument parameter.name).message :=
        isOneLine_append.mpr ⟨by decide, isOneLine_quote _⟩
      exact (Failure.isPlainIf_ofCause
        ⟨Cause.isTold_error (.inr wording) nofun, fun _ => id⟩).annotate
        id (place member position)
  | @surplus rest left position =>
      refine (Failure.isPlainIf_ofCause (isPlainIf_surplus rest)).annotate
        (fun unbroken broken => ?_) ⟨nofun, ?_, nofun⟩
      · exact unbroken (broken.mono (Event.atomsOfItems_subset left.subset))
      · rintro _ ⟨⟩
        exact name

/-- A statement is refused on one line if it has no line break. -/
theorem isPlainIf_refuses {failure : Failure} (refuses : standard.Refuses statement failure) :
    failure.IsPlainIf (Unbroken statement) := by
  cases refuses with
  | unrouted unrouted => exact ⟨_, rfl, isPlainIf_unrouted unrouted⟩
  | unnamed routed unnamed =>
      exact (Failure.isPlainIf_ofCause (isPlainIf_unnamed routed unnamed)).annotate id
        ⟨isOneLine_subsystem routed, nofun, nofun⟩
  | unbound routed named misbinds =>
      have standard := isStandard_of_named? (named?_eq_some_iff.mpr ⟨_, routed, rfl, named⟩)
      exact (isPlainIf_misbinds standard misbinds).annotate (Unbroken.tail routed)
        (isOneLine_place routed standard statement.line)

/-! ### Names stay on one line -/

/-- The arguments of an unbroken statement have no line breaks if the world has none. -/
theorem isOneLine_of_bind (names : world.IsOneLine) (unbroken : Unbroken statement)
    (named : standard.named? statement = some (command, rest))
    (binds : command.bind world rest.items.tail = .ok bound) : bound.IsOneLine := by
  obtain ⟨route, routed, rfl, -⟩ := named?_eq_some_iff.mp named
  exact (isStandard_of_named? named).isOneLine_of_bind names (unbroken.tail routed) binds

/-- The arguments of the command that acts in an unbroken statement have no line breaks if the world
has none. -/
theorem isOneLine_of_acting (names : world.IsOneLine) (unbroken : Unbroken statement)
    (acting : standard.acting? world statement = some (command, bound)) : bound.IsOneLine := by
  fun_induction standard.acting? world statement with
  | case1 => cases acting
  | case2 => cases acting
  | case3 statement first rest named arguments binds account redirects ih =>
      exact ih (unbroken.redirectedTo named) acting
  | case4 statement first rest named arguments binds direct =>
      obtain ⟨rfl, rfl⟩ := Prod.mk.inj (Option.some.inj acting)
      exact isOneLine_of_bind names unbroken named binds

/-- Only Set adds a name to a world, that of the oracle, and an address that it has been given. -/
theorem isOneLine_of_process (names : world.IsOneLine) (unbroken : Unbroken statement)
    (succeeds : ((standard.process world statement sender).run earlier).result = .ok after) :
    after.IsOneLine := by
  have registers := onlyRegisters_of_process succeeds
  have accounts : after.accounts = world.accounts := by rw [registers.others]
  refine ⟨accounts ▸ names.accounts, ?_⟩
  rw [registers.contracts]
  cases registered : registers? world statement with
  | none => exact names.contracts
  | some oracle =>
      obtain ⟨⟨command, bound⟩, acting, isSet⟩ := Option.bind_eq_some_iff.mp registered
      obtain ⟨-, isOracle⟩ := Option.ite_none_right_eq_some.mp isSet
      obtain rfl := Option.some.inj isOracle
      have oneLine := isOneLine_of_acting names unbroken acting
      intro entry member
      rcases Table.eq_or_mem_of_mem_set member with rfl | old
      · exact ⟨(by decide : Text.IsOneLine PriceOracle.name), oneLine.text "address"⟩
      · exact names.contracts entry old

/-! ### Runs -/

/-- The statement that From has run has no line break if the statement around it has none. -/
theorem isPlainIf_fails {failure : Failure} (explains : world.ExplainsOnOneLine)
    (fails : Fails world statement failure) :
    failure.IsPlainIf (world.IsOneLine ∧ Unbroken statement) := by
  have place {statement : Statement} {found : BoundCommand}
      (binds : standard.bindStatement world statement = .ok found) :
      (found.place statement.line).IsOneLine := by
    obtain ⟨route, routed, ofCommand, subsystem, -⟩ := exists_route_of_bindStatement binds
    have named := named?_eq_some_iff.mpr ⟨route, routed, rfl, ofCommand⟩
    rw [BoundCommand.place, subsystem]
    exact isOneLine_place routed (isStandard_of_named? named) statement.line
  have oneLine {statement : Statement} {found : BoundCommand}
      (binds : standard.bindStatement world statement = .ok found)
      (plain : world.IsOneLine ∧ Unbroken statement) : found.bound.IsOneLine := by
    obtain ⟨rest, named, isBound⟩ := bindStatement_eq_ok binds
    exact isOneLine_of_bind plain.1 plain.2 named isBound
  induction fails with
  | refused _ refuses =>
      exact (isPlainIf_refuses refuses).imp And.right
  | called binds _ made fails =>
      apply Failure.IsPlainIf.annotate ⟨_, rfl, fails.isPlainIf explains⟩ _ (place binds)
      exact fun plain => made.isOneLine_describe (oneLine binds plain)
  | verified binds _ named fails =>
      have explains : world.asReadOnly.ExplainsOnOneLine :=
        ⟨explains.calls, explains.receipts, explains.verifications⟩
      apply Failure.IsPlainIf.annotate ⟨_, rfl, fails.isPlainIf explains⟩ _ (place binds)
      intro plain
      rw [named, isOneLine_append]
      exact ⟨by decide, (oneLine binds plain).text "contractName"⟩
  | redirected binds named _ _ ih =>
      exact ih.annotate (fun plain => ⟨plain.1, plain.2.redirectedTo named⟩) (place binds)

/-- Statements fail with errors that are plain if they are unbroken and the world has no line
breaks. -/
theorem ends_processAll_plain (explains : world.ExplainsOnOneLine) (statements : List Statement)
    (sender : Option String) :
    (standard.processAll world sender statements).Ends (fun _ => True)
      (Failure.IsPlainIf (world.IsOneLine ∧ ∀ statement ∈ statements, Unbroken statement)) := by
  induction statements generalizing world with
  | nil => exact Play.ends_done trivial
  | cons statement statements ih =>
      have first : (standard.process world statement sender).Ends
          (fun next => world.Continues next ∧
            (world.IsOneLine ∧ Unbroken statement → next.IsOneLine))
          (Failure.IsPlainIf
            (world.IsOneLine ∧ ∀ other ∈ statement :: statements, Unbroken other)) := by
        intro earlier
        have ends := ends_process_standard world statement sender earlier
        cases result : ((standard.process world statement sender).run earlier).result with
        | ok next =>
            rw [result] at ends
            exact ⟨ends, fun ⟨names, unbroken⟩ => isOneLine_of_process names unbroken result⟩
        | error failure =>
            rw [result] at ends
            exact (isPlainIf_fails explains ends).imp fun ⟨names, unbroken⟩ =>
              ⟨names, unbroken statement List.mem_cons_self⟩
      apply first.bind
      intro next ⟨continues, names⟩
      -- the names in the next world are on one line because those in this one and the statement are
      apply (ih (explains.continues continues)).imp
      intro failure told
      apply told.imp
      intro ⟨before, unbroken⟩
      obtain ⟨here, later⟩ := List.forall_mem_cons.mp unbroken
      exact ⟨names ⟨before, here⟩, later⟩

end

/-- **One line.** In the standard engine, where the collaborators say on one line why they have
failed, an error of a script is told on one line exactly if its wording repeats no line break as it
is. So a text that cannot be read is refused on one line unless a backslash in a string stands
before the end of a line. A statement whose tokens have no line break is refused on one line; and
where, moreover, the addresses of accounts and the names and addresses of contracts have none,
whatever fails in a run is told on one line. -/
theorem standard_tellsOnOneLine (world : World) (explains : world.ExplainsOnOneLine)
    (sender : Option String) (earlier : List Request) :
    (∀ text fault, Script.parse text = .error fault →
      (Text.IsOneLine (Cause.malformed fault).error.message ↔
        fault.reason ≠ .invalidEscape (some '\n'))) ∧
    (∀ statement error, standard.bindStatement world statement = .error (.script error) →
      (Text.IsOneLine error.message ↔ ¬error.cause.SpansLines) ∧
        (Unbroken statement → Text.IsOneLine error.message)) ∧
    (∀ text error, ((standard.processText world text sender).run earlier).result =
        .error (.script error) →
      (Text.IsOneLine error.message ↔ ¬error.cause.SpansLines) ∧
        ∀ statement, Script.parseStatement text = .ok statement → world.IsOneLine →
          Unbroken statement → Text.IsOneLine error.message) ∧
    ∀ text error, ((standard.runScript world text sender).run earlier).result =
        .error (.script error) →
      (Text.IsOneLine error.message ↔ ¬error.cause.SpansLines) ∧
        ∀ statements, Script.parse text = .ok statements → world.IsOneLine →
          (∀ statement ∈ statements, Unbroken statement) → Text.IsOneLine error.message := by
  refine ⟨?_, ?_, ?_, ?_⟩
  · intro text fault refused
    exact (Script.isTold_parse refused).isOneLine_iff
  · intro statement error fails
    have ends := ends_bindStatement world statement
    rw [fails] at ends
    obtain ⟨_, ⟨⟩, told⟩ := isPlainIf_refuses ends
    exact ⟨told.isOneLine_iff, told.isOneLine⟩
  · intro text error fails
    unfold processText at fails
    split at fails
    next fault refused =>
      obtain rfl := Failure.script.inj (Except.error.inj fails)
      refine ⟨(Script.isTold_parseStatement refused).isOneLine_iff, fun statement read => ?_⟩
      cases refused.symm.trans read
    next statement read =>
      split at fails
      · cases fails
      · have ends := ends_process_standard world statement sender earlier
        rw [fails] at ends
        obtain ⟨_, ⟨⟩, told⟩ := isPlainIf_fails explains ends
        refine ⟨told.isOneLine_iff, fun other same names unbroken => ?_⟩
        obtain rfl := Except.ok.inj (read.symm.trans same)
        exact told.isOneLine ⟨names, unbroken⟩
  · intro text error fails
    unfold runScript at fails
    split at fails
    next fault refused =>
      obtain rfl := Failure.script.inj (Except.error.inj fails)
      refine ⟨(Script.isTold_parse refused).isOneLine_iff, fun statements read => ?_⟩
      cases refused.symm.trans read
    next statements read =>
      have ends := ends_processAll_plain explains statements sender earlier
      rw [fails] at ends
      obtain ⟨_, ⟨⟩, told⟩ := ends
      refine ⟨told.isOneLine_iff, fun others same names unbroken => ?_⟩
      obtain rfl := Except.ok.inj (read.symm.trans same)
      exact told.isOneLine ⟨names, unbroken⟩

/-- A world with an oracle, in which nobody makes calls or verifies contracts. -/
def unattendedWorld : World where
  network := "mainnet"
  contracts := [("PriceOracle", ⟨"PriceOracle", "Standard", "0x9", none⟩)]

/-- The world has no line breaks. -/
theorem isOneLine_unattendedWorld : unattendedWorld.IsOneLine :=
  ⟨List.forall_mem_nil _, List.forall_mem_singleton.mpr ⟨by decide, by decide⟩⟩

/-- A call that nobody makes is told on one line, but for a line break at the end of an address. -/
theorem standard_tellsOnOneLine_unattended :
    (∃ error, ((standard.processText unattendedWorld "PriceOracle SetRefAddress 0x1" none).run
        []).result = .error (.script error) ∧ IsOneLine error.message) ∧
      ∃ error, ((standard.processText unattendedWorld "PriceOracle SetRefAddress \"0x1\\n\""
        none).run []).result = .error (.script error) ∧ ¬IsOneLine error.message := by
  have plain : Script.parseStatement "PriceOracle SetRefAddress 0x1" =
      .ok ⟨[.bare "PriceOracle", .bare "SetRefAddress", .bare "0x1"], some 1⟩ := rfl
  have broken : Script.parseStatement "PriceOracle SetRefAddress \"0x1\\n\"" =
      .ok ⟨[.bare "PriceOracle", .bare "SetRefAddress", .quoted "0x1\n"], some 1⟩ := rfl
  obtain ⟨-, -, tells, -⟩ := standard_tellsOnOneLine unattendedWorld ⟨nofun, nofun, nofun⟩ none []
  constructor
  · have fails : ∃ error, ((standard.processText unattendedWorld "PriceOracle SetRefAddress 0x1"
        none).run []).result = .error (.script error) := by
      simp only [processText, plain]
      change ∃ error, ((standard.process unattendedWorld _ none).run []).result = _
      rw [process]
      exact ⟨_, rfl⟩
    obtain ⟨error, fails⟩ := fails
    have unbroken : Unbroken
        ⟨[.bare "PriceOracle", .bare "SetRefAddress", .bare "0x1"], some 1⟩ := by
      unfold Unbroken
      decide
    exact ⟨error, fails, (tells _ _ fails).2 _ plain isOneLine_unattendedWorld unbroken⟩
  · have fails : ∃ place, ((standard.processText unattendedWorld
        "PriceOracle SetRefAddress \"0x1\\n\"" none).run []).result = .error (.script
          ⟨.invocation "PriceOracle.setRefAddress(0x1\n)" (some "no invoker configured") none,
            place⟩) := by
      simp only [processText, broken]
      change ∃ place, ((standard.process unattendedWorld _ none).run []).result = _
      rw [process]
      exact ⟨_, rfl⟩
    obtain ⟨place, fails⟩ := fails
    have spans : ¬IsOneLine "PriceOracle.setRefAddress(0x1\n)" := by decide
    exact ⟨_, fails, fun oneLine => (tells _ _ fails).1.mp oneLine spans⟩

/-- Scripts have a line break repeated in four ways where no name and no collaborator has one. -/
theorem not_tellsOnOneLine_unattended :
    unattendedWorld.ExplainsOnOneLine ∧ unattendedWorld.IsOneLine ∧
      ∀ text ∈ ["Print \"\\\n\"", "History 1 \"a\\nb\"", "PriceOracle SetRefAddress \"0x1\\n\"",
        "PriceOracle Verify key \"a\\nb\""],
      ∃ error, ((standard.runScript unattendedWorld text none).run []).result =
        .error (.script error) ∧ ¬IsOneLine error.message := by
  have surplus : Script.parse "History 1 \"a\\nb\"" =
      .ok [⟨[.bare "History", .bare "1", .quoted "a\nb"], some 1⟩] := rfl
  have call : Script.parse "PriceOracle SetRefAddress \"0x1\\n\"" =
      .ok [⟨[.bare "PriceOracle", .bare "SetRefAddress", .quoted "0x1\n"], some 1⟩] := rfl
  have verification : Script.parse "PriceOracle Verify key \"a\\nb\"" =
      .ok [⟨[.bare "PriceOracle", .bare "Verify", .bare "key", .quoted "a\nb"], some 1⟩] := rfl
  have repeated {text : String} (cause : Cause) (spans : cause.SpansLines)
      (fails : ∃ place, ((standard.runScript unattendedWorld text none).run []).result =
        .error (.script ⟨cause, place⟩)) :
      ∃ error, ((standard.runScript unattendedWorld text none).run []).result =
        .error (.script error) ∧ ¬IsOneLine error.message := by
    obtain ⟨place, fails⟩ := fails
    refine ⟨_, fails, fun oneLine => ?_⟩
    exact Cause.not_isOneLine_of_spansLines spans (ScriptError.isOneLine_message_iff.mp oneLine).1
  refine ⟨⟨nofun, nofun, nofun⟩, isOneLine_unattendedWorld, ?_⟩
  simp only [List.forall_mem_cons]
  refine ⟨?_, ?_, ?_, ?_, List.forall_mem_nil _⟩
  · exact repeated (.malformed ⟨.invalidEscape (some '\n'), ⟨1, 9⟩⟩) rfl ⟨_, rfl⟩
  · refine repeated (.extraArguments ["\"a\nb\""]) ⟨_, List.mem_singleton_self _, by decide⟩ ?_
    simp only [runScript, surplus, processAll]
    rw [process]
    exact ⟨_, rfl⟩
  · have spans : ¬IsOneLine "PriceOracle.setRefAddress(0x1\n)" := by decide
    refine repeated (.invocation _ (some "no invoker configured") none) spans ?_
    simp only [runScript, call, processAll]
    rw [process]
    exact ⟨_, rfl⟩
  · have spans : ¬IsOneLine "Verify a\nb" := by decide
    refine repeated (.invocation _ (some "no verifier configured") none) spans ?_
    simp only [runScript, verification, processAll]
    rw [process]
    exact ⟨_, rfl⟩

end Engine
end Playbook
