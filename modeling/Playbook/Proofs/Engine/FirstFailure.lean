import Playbook.Proofs.Engine.ErrorLine
import Playbook.Proofs.Engine.FailedRun
import Playbook.Proofs.Script.Position

/-! # The first failure

A script stops at the first statement that fails. There is one such statement, nothing is done for
those after it, and the error names the line on which it starts.
-/

namespace Playbook.Engine

variable {engine : Engine} {world : World} {earlier : List Request} {sender : Option String}
  {statement : Statement} {statements : List Statement}

/-- Statements are run in two parts. -/
theorem processAll_append (engine : Engine) (world : World) (sender : Option String)
    (first second : List Statement) :
    engine.processAll world sender (first ++ second) =
      engine.processAll world sender first >>= fun next =>
        engine.processAll next sender second := by
  induction first generalizing world with
  | nil => rfl
  | cons statement first ih => simp only [List.cons_append, processAll, bind_assoc, ih]

/-- A run that breaks off has failed, whatever statements are left. -/
theorem BreaksOff.run_processAll {done : List Statement} {failure : Failure} {trace : List Effect}
    {reached : World}
    (breaks : engine.BreaksOff world sender earlier done statement failure trace reached)
    (rest : List Statement) :
    (engine.processAll world sender (done ++ statement :: rest)).run earlier =
      ⟨.error failure, trace⟩ := by
  obtain ⟨reaches, fails, rfl⟩ := breaks
  rw [processAll_append, ← Play.observe_toOutcome, Play.observe_bind, Observation.andThen,
    Play.observe_toOutcome, reaches]
  dsimp only
  rw [processAll, Play.observe_bind, Observation.andThen, Play.observe_toOutcome, fails]

/-- The statement of an index fails, in the world that those before it have made one by one. -/
def FailsAt (engine : Engine) (world : World) (sender : Option String) (earlier : List Request)
    (statements : List Statement) (index : Nat) : Prop :=
  ∃ statement failure trace reached, statements[index]? = some statement ∧
    engine.BreaksOff world sender earlier (statements.take index) statement failure trace reached

/-- No statement fails after one that has failed. -/
theorem FailsAt.not_lt {index other : Nat}
    (fails : engine.FailsAt world sender earlier statements index)
    (failsAgain : engine.FailsAt world sender earlier statements other) : ¬ index < other := by
  intro before
  obtain ⟨statement, failure, trace, reached, present, breaks⟩ := fails
  obtain ⟨_, _, _, _, _, again⟩ := failsAgain
  obtain ⟨inside, rfl⟩ := List.getElem?_eq_some_iff.mp present
  -- the statements before the other one include the first failing one, so they do not all succeed
  have split : statements.take other =
      statements.take index ++ statements[index] :: (statements.take other).drop (index + 1) := by
    have isIn : index < (statements.take other).length := by
      rw [List.length_take]
      omega
    conv => lhs; rw [← List.take_append_drop index (statements.take other)]
    rw [List.take_take, Nat.min_eq_left (Nat.le_of_lt before), List.drop_eq_getElem_cons isIn,
      List.getElem_take]
  have reaches := again.reaches
  rw [split, breaks.run_processAll] at reaches
  cases reaches

/-- A run fails at one statement only. -/
theorem FailsAt.unique {index other : Nat}
    (fails : engine.FailsAt world sender earlier statements index)
    (failsAgain : engine.FailsAt world sender earlier statements other) : other = index :=
  Nat.le_antisymm (Nat.le_of_not_lt (fails.not_lt failsAgain))
    (Nat.le_of_not_lt (failsAgain.not_lt fails))

/-- **The first failure.** A script that fails does so in exactly one of its statements: those
before it succeed one by one, it fails in the world that they have made, and all effects of the run
are those of these statements. If the subsystems and the collaborators raise no errors that carry a
line themselves, the error carries the line of the script on which the first item of this statement
is written, however deep the fault is in it. -/
theorem runScript_stopsAtFirstFailure (engine : Engine) (world : World) (text : String)
    (statements : List Statement) (parsed : Script.parse text = .ok statements)
    (sender : Option String) (earlier : List Request) (failure : Failure)
    (fails : ((engine.runScript world text sender).run earlier).result = .error failure) :
    ∃ index statement reached before, statements[index]? = some statement ∧
      engine.BreaksOff world sender earlier (statements.take index) statement failure
        ((engine.runScript world text sender).run earlier).trace reached ∧
      (∀ other, engine.FailsAt world sender earlier statements other → other = index) ∧
      Script.StartsAfter text (statements.take index) statement before ∧
      statement.line = some (1 + before.count '\n') ∧
      (engine.NotesNoLine → world.NotesNoLine → failure.IsAt statement.line) := by
  simp only [runScript, parsed] at fails ⊢
  obtain ⟨done, statement, rest, split, breaks⟩ := feed_of_error fails
  have earlierOnes : statements.take done.length = done := by rw [split, List.take_left]
  have present : statements[done.length]? = some statement := by simp [split]
  obtain ⟨before, starts, some, line⟩ := Script.startsAfter_of_parse parsed present
  rw [← earlierOnes] at breaks
  refine ⟨_, statement, _, before, present, breaks, ?_, starts, line, ?_⟩
  · exact fun other failsAgain => FailsAt.unique ⟨statement, _, _, _, present, breaks⟩ failsAgain
  · intro notes worldNotes
    have reachedNotes := notes.notesNoLine_of_processAll worldNotes breaks.reaches
    have ends := notes.ends_process reachedNotes statement sender
      (earlier ++ requests
        ((engine.processAll world sender (statements.take done.length)).run earlier).trace)
    rw [breaks.fails, Statement.errorLine_of_ne some] at ends
    exact ends

/-! ### A fault in groups over several lines -/

/-- A script whose second statement has a fault on its third line. -/
def nestedFault : String :=
  "PriceOracle SetRefAddress 0x1\n\n\nFrom Root (\n  From Zero (\n    " ++
    "PriceOracle SetRefAddress Nobody))\nPrint never"

/-- The statement with the fault. -/
def faultyStatement : Statement :=
  ⟨[.bare "From", .bare "Root", .group [.bare "From", .bare "Zero",
    .group [.bare "PriceOracle", .bare "SetRefAddress", .bare "Nobody"]]], some 4⟩

/-- The script has three statements, the last of them on the seventh line. -/
theorem parse_nestedFault : Script.parse nestedFault =
    .ok [setsReference 1, faultyStatement, ⟨[.bare "Print", .bare "never"], some 7⟩] := by
  rfl

/-- The second statement is refused without any effect. -/
theorem observe_faultyStatement (earlier : List Request) :
    ∃ error, (standard.process setWorld faultyStatement none).observe earlier =
      ⟨⟨.error (.script error), []⟩, []⟩ := by
  obtain ⟨error, innermost⟩ : ∃ error, (standard.process setWorld
      ⟨[.bare "PriceOracle", .bare "SetRefAddress", .bare "Nobody"], some 4⟩
        (some zeroAddress)).observe earlier = ⟨⟨.error (.script error), []⟩, []⟩ := by
    rw [process]
    exact ⟨_, rfl⟩
  obtain ⟨notes, inner⟩ := @observe_process_redirect standard
    ⟨[.bare "From", .bare "Zero",
      .group [.bare "PriceOracle", .bare "SetRefAddress", .bare "Nobody"]], some 4⟩
    _ _ setWorld _ _ rfl rfl rfl earlier (some "0x5")
  obtain ⟨moreNotes, outer⟩ := @observe_process_redirect standard faultyStatement _ _ setWorld _ _
    rfl rfl rfl earlier none
  have passedOn := inner.trans (congrArg (Observation.within notes _) innermost)
  exact ⟨_, outer.trans (congrArg (Observation.within moreNotes _) passedOn)⟩

/-- What the first statement of the script does. -/
def effectsBefore : List Effect :=
  [.asked (.call setCall (some "0x5")), .printed "Action: Set price oracle ref address to 0x1"]

/-- The run breaks off at the second statement, after the effects of the first. -/
theorem breaksOff_nestedFault : ∃ error, standard.BreaksOff publicWorld none [] [setsReference 1]
    faultyStatement (.script error) effectsBefore setWorld := by
  obtain ⟨error, faulty⟩ := observe_faultyStatement [.call setCall (some "0x5")]
  have first := congrArg (·.toOutcome) (observe_setsReference 1 [])
  have ran : (standard.processAll publicWorld none [setsReference 1]).run [] =
      ⟨.ok setWorld, effectsBefore⟩ := by
    rw [run_processAll_cons (congrArg (·.result) first), ← Play.observe_toOutcome, first]
    rfl
  refine ⟨error, ?_, ?_, ?_⟩
  · rw [ran]
  · rw [ran]
    exact congrArg (·.result) faulty
  · rw [ran]
    have silent := congrArg (·.trace) faulty
    exact (List.append_nil _).symm.trans (congrArg (_ ++ ·) silent.symm)

/-- The error names the line on which the statement starts, not that of the fault. -/
theorem runScript_stopsAtFirstFailure_nested :
    ∃ error, Script.parse nestedFault =
        .ok [setsReference 1, faultyStatement, ⟨[.bare "Print", .bare "never"], some 7⟩] ∧
      standard.NotesNoLine ∧ publicWorld.NotesNoLine ∧
      (standard.runScript publicWorld nestedFault none).run [] =
        ⟨.error (.script error), effectsBefore⟩ ∧
      error.context.line = some 4 := by
  obtain ⟨error, breaks⟩ := breaksOff_nestedFault
  have ran : (standard.runScript publicWorld nestedFault none).run [] =
      ⟨.error (.script error), effectsBefore⟩ := by
    rw [runScript, parse_nestedFault]
    exact breaks.run_processAll [⟨[.bare "Print", .bare "never"], some 7⟩]
  have collaborators : publicWorld.NotesNoLine := by
    constructor
    · rintro _ ⟨⟩ _ _ _ _ _ ⟨⟩
    · rintro _ ⟨⟩ _ _ _ _ ⟨⟩
  obtain ⟨index, statement, reached, before, present, -, unique, -, -, isAt⟩ :=
    runScript_stopsAtFirstFailure standard publicWorld nestedFault _ parse_nestedFault none []
      (.script error) (congrArg (·.result) ran)
  obtain rfl : 1 = index := unique 1 ⟨_, _, _, _, rfl, breaks⟩
  obtain rfl := Option.some.inj present
  exact ⟨error, parse_nestedFault, standard_notesNoLine, collaborators, ran,
    isAt standard_notesNoLine collaborators error rfl⟩

end Playbook.Engine
