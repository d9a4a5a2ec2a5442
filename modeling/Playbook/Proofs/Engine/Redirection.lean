import Playbook.Proofs.Engine.ActionLog
import Playbook.Proofs.Engine.Views

/-! # Redirection

From has the statement after its account run for that account. Of its own it adds a debug line and
the place of a failure, and nothing else. So it does not matter whether that statement is written as
a group, and of a chain of From only the innermost account counts.
-/

namespace Playbook

/-! ### Runs that agree -/

/-- A failure by its cause alone. -/
def Failure.withoutPlace : Failure → Failure
  | .script error => .script ⟨error.cause, {}⟩
  | other => other

/-- Filling in context does not change the cause. -/
theorem Failure.withoutPlace_annotate (notes : Context) (failure : Failure) :
    (failure.annotate notes).withoutPlace = failure.withoutPlace := by
  cases failure <;> rfl

namespace Observation
variable {α : Type} {printer : Printer} {observation other : Observation α}

/-- Two runs come to the same, except for the places of errors and for debug lines that the first
run prints before all else. -/
structure AgreesWith (printer : Printer) (observation other : Observation α) : Prop where
  result : observation.result.mapError Failure.withoutPlace =
    other.result.mapError Failure.withoutPlace
  effects : ∃ debug : List String, observation.trace = debug.map .printed ++ other.trace ∧
    (printer.verbose = false → debug = [])
  exchanges : observation.exchanges = other.exchanges

namespace AgreesWith

/-- Runs that agree with the same run agree. -/
theorem trans {last : Observation α} (first : observation.AgreesWith printer other)
    (second : other.AgreesWith printer last) : observation.AgreesWith printer last := by
  obtain ⟨debug, trace, terse⟩ := first.effects
  obtain ⟨more, rest, terseToo⟩ := second.effects
  refine ⟨first.result.trans second.result, ⟨debug ++ more, ?_, ?_⟩,
    first.exchanges.trans second.exchanges⟩
  · rw [trace, rest, List.map_append, List.append_assoc]
  · intro isTerse
    rw [terse isTerse, terseToo isTerse, List.append_nil]

/-- A run within debug lines and context agrees with the run by itself. -/
theorem within (observation : Observation α) (notes : Context) (message : String) :
    (observation.within notes (printer.log message .debug)).AgreesWith printer observation := by
  refine ⟨?_, ⟨_, rfl, fun terse => Printer.log_debug_of_terse terse message⟩, rfl⟩
  change (annotateResult notes observation.result).mapError Failure.withoutPlace = _
  cases observation.result with
  | ok result => rfl
  | error failure => exact congrArg Except.error (failure.withoutPlace_annotate notes)

/-- Where one of two runs that agree succeeds, the other has the same result. -/
theorem result_of_ok (agrees : observation.AgreesWith printer other) {result : α}
    (succeeds : observation.result = .ok result) : other.result = .ok result := by
  have same := agrees.result
  rw [succeeds] at same
  cases found : other.result with
  | error failure =>
      rw [found] at same
      cases same
  | ok found =>
      rw [found] at same
      exact congrArg Except.ok (Except.ok.inj same).symm

/-- Runs that agree ask for the same. -/
theorem requests_eq (agrees : observation.AgreesWith printer other) :
    requests observation.trace = requests other.trace := by
  obtain ⟨debug, trace, -⟩ := agrees.effects
  rw [trace, requests_append, requests_printed, List.nil_append]

/-- Runs that agree have the same effects unless the printer is verbose. -/
theorem trace_eq (agrees : observation.AgreesWith printer other) (terse : printer.verbose = false) :
    observation.trace = other.trace := by
  obtain ⟨debug, trace, isTerse⟩ := agrees.effects
  rw [trace, isTerse terse]
  rfl

end AgreesWith

end Observation

/-! ### Statements under From -/

/-- Items that start with an atom, as those of every statement that names a command do. -/
def StartsWithAtom (items : List Event) : Prop :=
  ∃ token quoted rest, items = .atom token quoted :: rest

/-- A From that is written before a statement: its name, its account, and whether the statement
after them is written as a group. -/
structure FromLink where
  token : String
  quoted : Bool := false
  account : Event
  grouped : Bool := false
  isFrom : Text.lower token = Text.lower Core.fromCommand.name

namespace FromLink
variable {world : World} {items : List Event} {address : String}

/-- The items of a statement with From before it. -/
def around (link : FromLink) (items : List Event) : List Event :=
  .atom link.token link.quoted :: link.account :: if link.grouped then [.group items] else items

/-- The account of the link stands for an address. -/
def Resolves (link : FromLink) (world : World) (address : String) : Prop :=
  Coerce.address world (some link.account) = .ok (.value (.address address))

/-- A statement under From starts with an atom. -/
theorem startsWithAtom_around (link : FromLink) (items : List Event) :
    StartsWithAtom (link.around items) :=
  ⟨_, _, _, rfl⟩

/-- A statement under any number of From starts with an atom if it does itself. -/
theorem startsWithAtom_foldr (starts : StartsWithAtom items) (links : List FromLink) :
    StartsWithAtom (links.foldr around items) := by
  cases links with
  | nil => exact starts
  | cons link links => exact link.startsWithAtom_around _

/-- A statement under From names From. -/
theorem named?_around (link : FromLink) (items : List Event) (line : Option Nat) :
    Engine.standard.named? ⟨link.around items, line⟩ =
      some (Core.fromCommand, ⟨link.around items, line⟩) := by
  have isNamed : Core.fromCommand.isNamed link.token = true := by
    rw [Command.isNamed, link.isFrom, beq_self_eq_true]
  have noSubsystem : Engine.standard.registry.get? link.token = none := by
    rw [Registry.get?, link.isFrom]
    rfl
  have inCore : Core.table.commands.any (·.isNamed link.token) = true :=
    List.any_eq_true.mpr ⟨_, List.mem_cons_self, isNamed⟩
  refine Engine.named?_eq_some_iff.mpr ⟨⟨Core.table, ⟨link.around items, line⟩⟩, ?_, rfl, ?_⟩
  · simp only [Engine.route, around, noSubsystem, inCore, ↓reduceIte]
  · simp only [CommandTable.find, around, Core.table, List.find?_cons, isNamed]

/-- A From whose account stands for an address is bound to this address. -/
theorem bind_around (link : FromLink) (resolves : link.Resolves world address)
    (items : List Event) :
    ∃ bound, Core.fromCommand.bind world (link.around items).tail = .ok bound ∧
      bound.text? "account" = some address := by
  have reads : (Parameter.required "account" Coerce.address).take "From" world 1
      (link.around items).tail = .ok (.value (.address address),
        (link.around items).tail.tail) := by
    change (·, _) <$> annotateResult _ (Coerce.address world (some link.account)) = _
    rw [resolves]
    rfl
  exact ⟨_, bindFrom_cons_eq_ok.mpr ⟨_, _, _, reads, rfl, rfl⟩, rfl⟩

/-- The statement that From has run is the one that it was written before. -/
theorem redirectedTo_around (link : FromLink) (starts : StartsWithAtom items) (line : Option Nat) :
    Engine.redirectedTo ⟨link.around items, line⟩ ⟨link.around items, line⟩ = ⟨items, line⟩ := by
  obtain ⟨token, quoted, rest, rfl⟩ := starts
  obtain ⟨name, nameQuoted, account, grouped, isFrom⟩ := link
  cases grouped <;> rfl

end FromLink

namespace Engine
variable {world : World} {items : List Event} {address : String}

/-- One From: the statement after it is run for its account. -/
theorem observe_process_around (link : FromLink) (resolves : link.Resolves world address)
    (starts : StartsWithAtom items) (line : Option Nat) (sender : Option String)
    (earlier : List Request) :
    ((standard.process world ⟨link.around items, line⟩ sender).observe earlier).AgreesWith
      world.printer ((standard.process world ⟨items, line⟩ (some address)).observe earlier) := by
  obtain ⟨bound, binds, account⟩ := link.bind_around resolves items
  obtain ⟨notes, observed⟩ :=
    observe_process_redirect (link.named?_around items line) binds rfl earlier sender
  rw [link.redirectedTo_around starts, account] at observed
  rw [observed]
  exact .within _ notes _

/-- **From is transparent.** In the standard engine, a statement under From, whether it is written
as a group or not, comes to the same as the statement itself run for the address that the account
stands for: the same world or the same cause of failure, the same calls and verifications with the
same senders and answers, and the same lines but for debug lines before, of which there are none
unless the printer is verbose. Under a chain of From whose accounts all stand for addresses, the
statement is run for the innermost one, whoever sends. -/
theorem from_isTransparent (world : World) (items : List Event) (starts : StartsWithAtom items)
    (line : Option Nat) (outer : List FromLink) (innermost : FromLink) (address : String)
    (outerResolve : ∀ link ∈ outer, ∃ other, link.Resolves world other)
    (resolves : innermost.Resolves world address) (sender : Option String)
    (earlier : List Request) :
    ((standard.process world ⟨(outer ++ [innermost]).foldr FromLink.around items, line⟩
      sender).observe earlier).AgreesWith world.printer
        ((standard.process world ⟨items, line⟩ (some address)).observe earlier) := by
  induction outer generalizing sender with
  | nil => exact observe_process_around innermost resolves starts line sender earlier
  | cons link outer ih =>
      obtain ⟨⟨other, here⟩, others⟩ := List.forall_mem_cons.mp outerResolve
      have inside := FromLink.startsWithAtom_foldr starts (outer ++ [innermost])
      exact (observe_process_around link here inside line sender earlier).trans
        (ih others (some other))

/-- From Zero, with the statement in a group. -/
def zeroFrom : FromLink where
  token := "from"
  account := .bare "Zero"
  grouped := true
  isFrom := rfl

/-- From (Address Root), with the statement as it stands. -/
def rootFrom : FromLink where
  token := "From"
  account := .group [.bare "Address", .bare "Root"]
  isFrom := rfl

/-- A call under two From is made for the inner one, whoever sends. -/
theorem from_isTransparent_chain :
    StartsWithAtom (setsReference 1).items ∧ zeroFrom.Resolves publicWorld zeroAddress ∧
      rootFrom.Resolves publicWorld "0x5" ∧
      ((standard.process publicWorld
        ⟨[.bare "from", .bare "Zero", .group [.bare "From", .group [.bare "Address", .bare "Root"],
          .bare "PriceOracle", .bare "SetRefAddress", .bare "0x1"]], some 1⟩ (some "0x6")).run
            []).trace = [.asked (.call setCall (some "0x5")),
              .printed "Action: Set price oracle ref address to 0x1"] := by
  have starts : StartsWithAtom (setsReference 1).items := ⟨_, _, _, rfl⟩
  have zero : zeroFrom.Resolves publicWorld zeroAddress := rfl
  have root : rootFrom.Resolves publicWorld "0x5" := rfl
  have agrees := from_isTransparent publicWorld (setsReference 1).items starts (some 1) [zeroFrom]
    rootFrom "0x5" (List.forall_mem_singleton.mpr ⟨_, zero⟩) root (some "0x6") []
  have direct : ((standard.process publicWorld (setsReference 1) (some "0x5")).run []).trace =
      [.asked (.call setCall (some "0x5")),
        .printed "Action: Set price oracle ref address to 0x1"] := by
    rw [process]
    rfl
  exact ⟨starts, zero, root, (agrees.trace_eq rfl).trans direct⟩

end Engine
end Playbook
