import Playbook.Proofs.Command.Failures
import Playbook.Proofs.Engine.ScriptErrors

/-! # The lines of errors

Coercions, handlers and collaborators know nothing of lines. What they raise is marked on its way
out, by the statement in which it arises: with the line of this statement, which is also the line of
any statement that From has run in it. So an error has the line of the statement in the script,
however deep inside of it the fault is.
-/

namespace Playbook

/-! ### Failures -/

namespace Failure

/-- The failure, if it is an error of the script, has a given line, or none. -/
def IsAt (line : Option Nat) (failure : Failure) : Prop :=
  ∀ error, failure = .script error → error.context.line = line

/-- The failure is at a given line, or no line has been filled in so far. -/
def IsWithin (line : Option Nat) (failure : Failure) : Prop := failure.IsAt none ∨ failure.IsAt line

/-- A signal is no error of the script, so any line may be said of it. -/
theorem isAt_arithmetic (line : Option Nat) (signal : Decimal.Signal) :
    (Failure.arithmetic signal).IsAt line := by
  rintro _ ⟨⟩

/-- A misfit is no error of the script, so any line may be said of it. -/
theorem isAt_invalid (line : Option Nat) (fault : InvalidValue) :
    (Failure.invalid fault).IsAt line := by
  rintro _ ⟨⟩

variable {failure : Failure}

/-- A failure without context has no line. -/
theorem IsBare.isAt (bare : failure.IsBare) : failure.IsAt none := by
  obtain ⟨cause, rfl⟩ := bare
  rintro error ⟨⟩
  cases cause <;> rfl

/-- A line that is filled in stays: an error has no line, or else the one that others would fill in.
-/
theorem IsWithin.annotate {notes : Context} (isWithin : failure.IsWithin notes.line) :
    (failure.annotate notes).IsAt notes.line := by
  cases failure with
  | script error =>
      rintro _ ⟨⟩
      change error.context.line.or notes.line = notes.line
      rcases isWithin with none | same
      · rw [none error rfl, Option.none_or]
      · rw [same error rfl, Option.or_self]
  | arithmetic signal => exact isAt_arithmetic _ signal
  | invalid fault => exact isAt_invalid _ fault
  | exhausted => rintro _ ⟨⟩

end Failure

/-- If there is a failure, it has no line. -/
abbrev FailsWithoutLine {α : Type} (result : Except Failure α) : Prop :=
  EndsWith (fun _ => True) (Failure.IsAt none) result

/-! ### What carries no line -/

/-- The errors that the collaborators raise carry no line. -/
structure World.NotesNoLine (world : World) : Prop where
  invoker : ∀ invoker, world.invoker = some invoker → ∀ records earlier call sender error,
    invoker.answer records earlier call sender = .error (.error error) → error.context.line = none
  verifier : ∀ verifier, world.verifier = some verifier → ∀ records earlier verification error,
    verifier.answer records earlier verification = .error (.error error) → error.context.line = none

/-- The coercion fails without a line. -/
def Coercion.NotesNoLine (coercion : Coercion) : Prop :=
  ∀ world event, FailsWithoutLine (coercion world event)

/-- If a world is returned, its collaborators carry no line. -/
def Returned.NotesNoLine (returned : Returned) : Prop :=
  ∀ world, returned = .world world → world.NotesNoLine

/-- The handler fails without a line where the collaborators do, and leaves no world with others. -/
def Handler.NotesNoLine : Handler → Prop
  | .mutating play | .delegate play => ∀ world : World, world.NotesNoLine → ∀ sender bound,
    (play world sender bound).Ends Returned.NotesNoLine (Failure.IsAt none)
  | .view play => ∀ world : World, world.NotesNoLine → ∀ bound,
    (play world bound).Ends (fun _ => True) (Failure.IsAt none)
  | .redirect _ => True

/-- What is declared for a command carries no line. -/
structure Command.NotesNoLine (command : Command) : Prop where
  coercions : ∀ parameter ∈ command.parameters, parameter.coercion.NotesNoLine
  handler : command.handler.NotesNoLine

/-- No subsystem raises errors that carry a line. -/
def Engine.NotesNoLine (engine : Engine) : Prop :=
  ∀ subsystem ∈ engine.registry.entries, ∀ command ∈ subsystem.commands, command.NotesNoLine

/-! ### Binding -/

/-- What binding itself raises has no line. -/
theorem coversBinder_isAt (command : String) : CoversBinder command (Failure.IsAt none) :=
  ⟨fun _ _ _ => Failure.IsWithin.annotate (.inl (Failure.isBare_ofCause _).isAt),
    Failure.isAt_invalid none⟩

/-- A coercion that notes no line does not note one for a parameter. -/
theorem Coercion.NotesNoLine.read {parameter : Parameter} (notes : parameter.coercion.NotesNoLine)
    (command : String) (world : World) (event : Option Event) (position : Option Nat) :
    FailsWithoutLine (parameter.read command world event position) :=
  (notes world event).marked fun _ isAt => Failure.IsWithin.annotate (.inl isAt)

/-- Binding fails without a line if the coercions do. -/
theorem failsWithoutLine_bindFrom {parameters : List Parameter}
    (notes : ∀ parameter ∈ parameters, parameter.coercion.NotesNoLine) (command : String)
    (world : World) (position : Nat) (events : List Event) :
    FailsWithoutLine (bindFrom command world parameters position events) :=
  (coversBinder_isAt command).bindFrom
    (fun parameter member => (notes parameter member).read command world) position events

/-! ### Commands -/

namespace Command
variable {command : Command} {world : World} {line : Option Nat}

/-- A breach is refused without a line. -/
theorem ends_refuse {α : Type} {gives : α → Prop} (breach : Breach) :
    (Play.refuse (.handler breach) : Play α).Ends gives (Failure.IsWithin line) :=
  Play.ends_fail (.inl (Failure.isBare_ofCause _).isAt)

/-- A world that is expected notes no line if what was returned does not. -/
theorem ends_expectWorld {returned : Returned} (left : returned.NotesNoLine) :
    (command.expectWorld returned).Ends World.NotesNoLine (Failure.IsWithin line) := by
  cases returned with
  | world after => exact Play.ends_done (left after rfl)
  | datum datum => exact ends_refuse _

/-- A value that is missing is refused without a line. -/
theorem ends_expectValue (returned : Returned) :
    (command.expectValue returned).Ends (fun _ => True) (Failure.IsWithin line) := by
  unfold expectValue
  split
  · exact Play.ends_done trivial
  · exact ends_refuse _
  · exact ends_refuse _

/-- A mutating command is concluded without a line. -/
theorem ends_conclude {after : World} (notes : after.NotesNoLine) :
    (command.conclude world after).Ends World.NotesNoLine (Failure.IsWithin line) := by
  unfold conclude
  split
  · exact (Play.ends_done notes).print _
  · exact ends_refuse _

/-- A value is announced without a line. -/
theorem ends_announce (value : Value) :
    (command.announce value).Ends (fun _ => True) (Failure.IsWithin line) := by
  unfold announce
  split
  · exact Play.ends_done trivial
  split
  · exact (Play.ends_done trivial).print _
  · exact Play.ends_fail (.inl (Failure.isAt_arithmetic none _))

/-- What a command does fails without a line, or with that of the statement that it has run. -/
theorem NotesNoLine.ends_perform {sender : Option String} {bound : Bound}
    {redirect : Option String → Play Returned} (notes : command.NotesNoLine)
    (worldNotes : world.NotesNoLine)
    (redirected : ∀ account, (redirect account).Ends Returned.NotesNoLine (Failure.IsWithin line)) :
    (command.perform world sender bound redirect).Ends World.NotesNoLine
      (Failure.IsWithin line) := by
  have own := notes.handler
  cases handler : command.handler with
  | mutating play =>
      rw [handler] at own
      simp only [perform, handler, bind_assoc]
      apply ((own world worldNotes sender bound).imp fun _ isAt => .inl isAt).bind
      intro returned left
      exact (ends_expectWorld left).bind fun after afterNotes => ends_conclude afterNotes
  | view play =>
      rw [handler] at own
      simp only [perform, handler, bind_assoc]
      have readOnly : world.asReadOnly.NotesNoLine := ⟨worldNotes.invoker, worldNotes.verifier⟩
      apply ((own world.asReadOnly readOnly bound).imp fun _ isAt => .inl isAt).bind
      intro returned _
      apply (ends_expectValue returned).bind
      intro value _
      exact (ends_announce value).bind fun _ _ => Play.ends_done worldNotes
  | delegate play =>
      rw [handler] at own
      simp only [perform, handler]
      apply ((own world worldNotes sender bound).imp fun _ isAt => .inl isAt).bind
      exact fun returned left => ends_expectWorld left
  | redirect account =>
      simp only [perform, handler]
      exact (redirected (account bound)).bind fun returned left => ends_expectWorld left

end Command

/-- The core commands note no line. -/
theorem Core.notesNoLine {command : Command} (member : command ∈ table.commands) :
    command.NotesNoLine := by
  constructor
  · intro parameter isParameter world event
    have standard := Command.IsStandard.parameters (.inl member) parameter isParameter
    exact (standard.coercion.misreads world event).imp fun _ misreading => misreading.isBare.isAt
  · rcases mem_table_iff.mp member with rfl | rfl | rfl
    · trivial
    · intro world _ bound
      exact (Play.ends_done trivial).print _
    · intro world _ bound
      exact (Play.ends_printLines _).bind fun _ _ => Play.ends_done trivial

/-! ### Statements -/

/-- The line of the errors of a statement. A statement without items is refused before anything is
filled in, so its error is left to be marked by the From around it. -/
def Statement.errorLine (statement : Statement) : Option Nat :=
  match statement.items with
  | [] => none
  | _ :: _ => statement.line

/-- The errors of a statement with items have its line. -/
theorem Statement.errorLine_of_ne {statement : Statement} (nonempty : statement.items ≠ []) :
    statement.errorLine = statement.line := by
  unfold errorLine
  split
  next empty => exact absurd empty nonempty
  · rfl

/-- The errors of a statement have its line or none. -/
theorem Statement.errorLine_eq (statement : Statement) :
    statement.errorLine = none ∨ statement.errorLine = statement.line := by
  by_cases empty : statement.items = []
  · exact .inl (by rw [errorLine, empty])
  · exact .inr (errorLine_of_ne empty)

namespace Engine
variable {engine : Engine} {world : World} {statement : Statement} {sender : Option String}

/-- A statement that is refused on its way to a table is refused at its line. -/
theorem isAt_route {error : ScriptError} (refused : engine.route statement = .error error) :
    (Failure.script error).IsAt statement.errorLine := by
  unfold route at refused
  split at refused
  next items =>
    obtain rfl := Except.error.inj refused
    rw [Statement.errorLine, items]
    exact (Failure.isBare_ofCause _).isAt
  next items =>
    rw [Statement.errorLine, items]
    split at refused
    · cases refused
    · split at refused
      · cases refused
      · obtain rfl := Except.error.inj refused
        rintro _ ⟨⟩
        rfl
  next items =>
    obtain rfl := Except.error.inj refused
    rw [Statement.errorLine, items]
    rintro _ ⟨⟩
    rfl

/-- A statement that goes to a table has items. -/
theorem items_ne_nil_of_route {route : Route} (routed : engine.route statement = .ok route) :
    statement.items ≠ [] := by
  intro empty
  rw [Engine.route, empty] at routed
  cases routed

/-- Every command that is named declares nothing that carries a line. -/
theorem NotesNoLine.of_named? (notes : engine.NotesNoLine) {rest : Statement} {command : Command}
    (named : engine.named? statement = some (command, rest)) : command.NotesNoLine := by
  rcases mem_of_named? named with core | ⟨subsystem, registered, member⟩
  · exact Core.notesNoLine core
  · exact notes subsystem registered command member

/-- A statement that cannot be bound is refused at its line. -/
theorem NotesNoLine.isAt_bindStatement (notes : engine.NotesNoLine) (world : World)
    (statement : Statement) :
    EndsWith (fun _ => True) (Failure.IsAt statement.errorLine)
      (engine.bindStatement world statement) := by
  rcases bindStatement_cases engine world statement with
    ⟨error, unrouted, refused⟩ | ⟨route, cause, routed, -, refused⟩ |
      ⟨route, command, routed, found, binds⟩
  · rw [refused]
    exact isAt_route unrouted
  · rw [refused, Statement.errorLine_of_ne (items_ne_nil_of_route routed)]
    exact Failure.IsWithin.annotate (.inl (Failure.isBare_ofCause cause).isAt)
  · have named : engine.named? statement = some (command, route.rest) :=
      named?_eq_some_iff.mpr ⟨route, routed, rfl, found⟩
    have bound := failsWithoutLine_bindFrom (notes.of_named? named).coercions command.name world 1
      route.rest.items.tail
    rw [binds, Statement.errorLine_of_ne (items_ne_nil_of_route routed)]
    apply (bound.marked fun _ isAt => Failure.IsWithin.annotate (.inl isAt)).map
    exact fun _ _ => trivial

/-- Whatever a statement fails with has its line. The induction is on the size of the statement;
what From has run has the same line. -/
theorem NotesNoLine.ends_process (notes : engine.NotesNoLine) (worldNotes : world.NotesNoLine)
    (statement : Statement) (sender : Option String) :
    (engine.process world statement sender).Ends World.NotesNoLine
      (Failure.IsAt statement.errorLine) := by
  induction size : Event.sizeOfItems statement.items using Nat.strongRecOn
    generalizing statement sender with
  | ind _ ih =>
    apply ends_process_marked
    apply (notes.isAt_bindStatement world statement).self.weaken
    intro found binds rest named
    obtain ⟨route, routed, -⟩ := exists_route_of_bindStatement binds
    rw [Statement.errorLine_of_ne (items_ne_nil_of_route routed)]
    refine Play.Ends.imp ?_ fun failure => Failure.IsWithin.annotate
    apply (notes.of_named? named).ends_perform worldNotes
    intro account
    have inner := ih _ (size ▸ size_redirectedTo_lt named) _ account rfl
    -- a From without a statement after it has an empty one run, whose error is not marked before
    rcases (redirectedTo statement rest).errorLine_eq with none | same
    · rw [none] at inner
      apply (inner.imp fun _ isAt => .inl isAt).map
      rintro after afterNotes _ ⟨⟩
      exact afterNotes
    · rw [same] at inner
      apply (inner.imp fun _ isAt => .inr isAt).map
      rintro after afterNotes _ ⟨⟩
      exact afterNotes

/-- Statements leave worlds whose collaborators note no line. -/
theorem NotesNoLine.notesNoLine_of_processAll (notes : engine.NotesNoLine) {after : World}
    {statements : List Statement} {earlier : List Request} (worldNotes : world.NotesNoLine)
    (succeeds : ((engine.processAll world sender statements).run earlier).result = .ok after) :
    after.NotesNoLine := by
  induction statements generalizing world earlier with
  | nil => exact Except.ok.inj succeeds ▸ worldNotes
  | cons statement statements ih =>
      obtain ⟨next, first, rest, -⟩ := Play.observe_bind_ok succeeds
      have ends := notes.ends_process worldNotes statement sender earlier
      rw [first] at ends
      exact ih ends rest

end Engine

/-! ### The standard engine -/

namespace World.NotesNoLine
variable {world : World}

/-- A call fails without a line if the invoker notes none. -/
theorem ends_invoke (notes : world.NotesNoLine) (call : MethodCall) (sender : Option String) :
    (Play.invoke world call sender).Ends (fun _ => True) (Failure.IsAt none) := by
  apply Play.ends_invoke_of_callFails
  rintro error (_ | _ | ⟨isInvoker, answer⟩ | _ | _)
  case raised =>
    rintro _ ⟨⟩
    exact notes.invoker _ isInvoker _ _ _ _ error answer
  all_goals exact (Failure.isBare_ofCause _).isAt

/-- A verification fails without a line if the verifier notes none. -/
theorem ends_requestVerification (notes : world.NotesNoLine) (verification : Verification) :
    (Play.requestVerification world verification).Ends (fun _ => True) (Failure.IsAt none) := by
  apply Play.ends_requestVerification_of_verificationFails
  rintro error (_ | ⟨isVerifier, answer⟩ | _)
  case raised =>
    rintro _ ⟨⟩
    exact notes.verifier _ isVerifier _ _ _ error answer
  all_goals exact (Failure.isBare_ofCause _).isAt

end World.NotesNoLine

namespace PriceOracle
variable {world : World}

/-- A world with one more action notes no line if the world does not. -/
theorem notesNoLine_addAction (notes : world.NotesNoLine) (description : String)
    (receipt : Receipt) :
    Returned.NotesNoLine (.world (world.addAction description (some receipt))) := by
  rintro _ ⟨⟩
  exact ⟨notes.invoker, notes.verifier⟩

/-- Setting a price fails without a line. -/
theorem ends_setPrice_isAt (notes : world.NotesNoLine) (method : String) (sender : Option String)
    (bound : Bound) (target : String) :
    (setPrice method world sender bound target).Ends Returned.NotesNoLine (Failure.IsAt none) := by
  apply ends_setPrice (notesNoLine_addAction notes) fun _ => notes.ends_invoke _ sender
  · cases (bound.number "amount").1.render Decimal.shownLimits with
    | error signal => exact Failure.isAt_arithmetic none signal
    | ok shown => trivial
  · unfold Decimal.encode
    split
    · trivial
    split
    · exact (Failure.isBare_ofCause _).isAt
    · exact Failure.isAt_arithmetic none _

/-- The commands of the oracle note no line. -/
theorem notesNoLine {command : Command} (member : command ∈ commands) : command.NotesNoLine := by
  constructor
  · intro parameter isParameter world event
    have standard := Command.IsStandard.parameters (.inr member) parameter isParameter
    exact (standard.coercion.misreads world event).imp fun _ misreading => misreading.isBare.isAt
  · rcases mem_commands_iff.mp member with rfl | rfl | rfl | rfl | rfl | rfl
    · intro world notes sender bound
      apply Play.ends_done
      rintro _ ⟨⟩
      exact ⟨notes.invoker, notes.verifier⟩
    · exact fun world notes sender bound =>
        ends_record (notesNoLine_addAction notes) (notes.ends_invoke _ sender) _
    · exact fun world notes sender bound => ends_setPrice_isAt notes _ sender bound _
    · exact fun world notes sender bound => ends_setPrice_isAt notes _ sender bound _
    · exact fun world notes bound => Play.ends_done trivial
    · exact fun world notes bound =>
        (ends_verify (notes.ends_requestVerification _)).weaken fun _ _ => trivial

end PriceOracle

/-- The standard engine notes no line. -/
theorem Engine.standard_notesNoLine : standard.NotesNoLine := by
  intro subsystem registered command member
  obtain rfl : subsystem = PriceOracle.subsystem := List.mem_singleton.mp registered
  exact PriceOracle.notesNoLine member

end Playbook
