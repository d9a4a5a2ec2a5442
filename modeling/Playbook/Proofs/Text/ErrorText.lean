import Playbook.Failure
import Playbook.Proofs.Script.Reading
import Playbook.Proofs.Text.OneLine

/-! # The text of errors

The text of an error stands on one line if its wording and the names in its place do. Most wordings
do, since what they repeat of a script stands between quotation marks. Four of them repeat it as it
is: an escape that is not valid, arguments that are left over, and what was called or verified
without success or from a view.
-/

namespace Playbook

open Text

/-! ### Places -/

/-- The names in a place have no line breaks. -/
structure Context.IsOneLine (context : Context) : Prop where
  subsystem : ∀ name ∈ context.subsystem, Text.IsOneLine name
  command : ∀ name ∈ context.command, Text.IsOneLine name
  argument : ∀ name ∈ context.argument, Text.IsOneLine name

namespace Context

/-- What is filled in comes from one of two places. -/
theorem IsOneLine.annotate {context notes : Context} (own : context.IsOneLine)
    (others : notes.IsOneLine) : (context.annotate notes).IsOneLine := by
  have either {own others : Option String} (first : ∀ name ∈ own, Text.IsOneLine name)
      (second : ∀ name ∈ others, Text.IsOneLine name) :
      ∀ name ∈ own.or others, Text.IsOneLine name := by
    cases own with
    | none => exact second
    | some name => exact first
  exact ⟨either own.subsystem others.subsystem, either own.command others.command,
    either own.argument others.argument⟩

/-- The place of an argument stands on one line if the name of the argument does. -/
theorem isOneLine_argumentPlace {context : Context} :
    (∀ text ∈ context.argumentPlace, Text.IsOneLine text) ↔
      ∀ name ∈ context.argument, Text.IsOneLine name := by
  unfold argumentPlace
  cases context.argument with
  | none => exact ⟨nofun, nofun⟩
  | some argument =>
      have numbered : Text.IsOneLine
          ((context.position.map fun position => "#" ++ toString position).getD "") := by
        cases context.position with
        | none => decide
        | some position => exact isOneLine_append.mpr ⟨by decide, isOneLine_toString_nat position⟩
      have opener : Text.IsOneLine "<" := by decide
      have closer : Text.IsOneLine ">" := by decide
      simp only [Option.map_some, Option.mem_some_iff, forall_eq', isOneLine_append, opener, closer,
        numbered, true_and, and_true]

/-- A location stands on one line if its names do. -/
theorem isOneLine_location {context : Context} :
    Text.IsOneLine context.location ↔ context.IsOneLine := by
  have numbered : ∀ text ∈ context.line.map fun line => "line " ++ toString line,
      Text.IsOneLine text := by
    cases context.line with
    | none => exact nofun
    | some line =>
        rintro _ ⟨⟩
        exact isOneLine_append.mpr ⟨by decide, isOneLine_toString_nat line⟩
  rw [location, isOneLine_intercalate (by decide)]
  simp only [List.mem_append, Option.mem_toList, or_imp, forall_and]
  constructor
  · exact fun ⟨⟨⟨_, subsystem⟩, command⟩, argument⟩ =>
      ⟨subsystem, command, isOneLine_argumentPlace.mp argument⟩
  · exact fun names => ⟨⟨⟨numbered, names.subsystem⟩, names.command⟩,
      isOneLine_argumentPlace.mpr names.argument⟩

end Context

/-! ### Wordings -/

namespace Cause

/-- The wording repeats a line break as it is. -/
def SpansLines : Cause → Prop
  | malformed fault => fault.reason = .invalidEscape (some '\n')
  | extraArguments tokens => ∃ token ∈ tokens, ¬Text.IsOneLine token
  | invocation description _ _ => ¬Text.IsOneLine description
  | handler (.callFromView call) => ¬Text.IsOneLine call
  | _ => False

/-- The kinds of errors stand on one line. -/
theorem isOneLine_kind (cause : Cause) : Text.IsOneLine cause.kind := by
  unfold kind
  split <;> decide

/-- A wording that repeats a line break does not stand on one line. -/
theorem not_isOneLine_of_spansLines {cause : Cause} (spans : cause.SpansLines) :
    ¬Text.IsOneLine cause.message := by
  unfold message
  cases cause with
  | malformed fault =>
      have escaped : fault.reason = .invalidEscape (some '\n') := spans
      have broken : ¬Text.IsOneLine (Script.Malformation.invalidEscape (some '\n')).message := by
        decide
      simp only [Script.Malformed.message, escaped, isOneLine_append]
      exact fun ⟨⟨⟨⟨reason, _⟩, _⟩, _⟩, _⟩ => broken reason
  | extraArguments tokens =>
      obtain ⟨token, member, broken⟩ := spans
      simp only [isOneLine_append, isOneLine_intercalate (show Text.IsOneLine " " by decide)]
      exact fun ⟨_, oneLine⟩ => broken (oneLine token member)
  | invocation description errorMessage receipt =>
      simp only [isOneLine_append]
      exact fun ⟨⟨oneLine, _⟩, _⟩ => spans oneLine
  | handler breach =>
      cases breach with
      | callFromView call =>
          simp only [Breach.message, isOneLine_append]
          exact fun ⟨oneLine, _⟩ => spans oneLine
      | notWorld | notOneAction | viewOfWorld | viewOfNothing | notView | stated => exact spans.elim
  | general | unknownCommand | unknownSubsystem | missingArgument | coercion | lookup
  | declaration | configuration => exact spans.elim

/-- A text that may be left out stands on one line if it does where it is there. -/
theorem isOneLine_optional {text : Option String} {wrap : String → String}
    (wraps : ∀ content ∈ text, Text.IsOneLine (wrap content)) :
    Text.IsOneLine (optional text wrap) := by
  unfold optional
  split
  · decide
  · split
    · decide
    · exact wraps _ rfl

end Cause

namespace ScriptError

/-- An error stands on one line if its wording and its place do. -/
theorem isOneLine_message_iff {error : ScriptError} :
    Text.IsOneLine error.message ↔
      Text.IsOneLine error.cause.message ∧ error.context.IsOneLine := by
  have kind := error.cause.isOneLine_kind
  have separator : Text.IsOneLine ": " := by decide
  have opener : Text.IsOneLine " [" := by decide
  have closer : Text.IsOneLine "]" := by decide
  rw [message, ← Context.isOneLine_location]
  by_cases nowhere : error.context.location.isEmpty
  · have empty : error.context.location = "" := by simpa using nowhere
    rw [if_pos nowhere, empty]
    simp [isOneLine_append, kind, separator, show Text.IsOneLine "" by decide]
  · rw [if_neg nowhere]
    simp [isOneLine_append, kind, separator, opener, closer]

/-- But for line breaks that its wording repeats, the error stands on one line. -/
structure IsTold (error : ScriptError) : Prop where
  place : error.context.IsOneLine
  wording : error.cause.SpansLines ∨ Text.IsOneLine error.cause.message

/-- An error that is told stands on one line unless its wording repeats a line break. -/
theorem IsTold.isOneLine_iff {error : ScriptError} (told : error.IsTold) :
    Text.IsOneLine error.message ↔ ¬error.cause.SpansLines := by
  rw [isOneLine_message_iff]
  constructor
  · exact fun ⟨oneLine, _⟩ spans => Cause.not_isOneLine_of_spansLines spans oneLine
  · exact fun oneLine => ⟨told.wording.resolve_left oneLine, told.place⟩

/-- An error that stands on one line is told. -/
theorem IsTold.of_isOneLine {error : ScriptError} (oneLine : Text.IsOneLine error.message) :
    error.IsTold := by
  obtain ⟨wording, place⟩ := isOneLine_message_iff.mp oneLine
  exact ⟨place, .inr wording⟩

/-- An error is told with names filled in that have no line breaks. -/
theorem IsTold.annotate {error : ScriptError} (told : error.IsTold) {notes : Context}
    (oneLine : notes.IsOneLine) : (error.annotate notes).IsTold :=
  ⟨told.place.annotate oneLine, told.wording⟩

end ScriptError

namespace Cause

/-- An error that tells a token in its own context, or a subsystem that stands on one line. -/
theorem isTold_error {cause : Cause} (wording : cause.SpansLines ∨ Text.IsOneLine cause.message)
    (subsystem : ∀ name, cause.ownContext.subsystem = some name → Text.IsOneLine name) :
    cause.error.IsTold := by
  refine ⟨⟨subsystem, ?_, ?_⟩, wording⟩
  · cases cause <;> exact nofun
  · cases cause <;> exact nofun

end Cause

/-! ### Malformed scripts -/

namespace Script

/-- A position stands on one line, so that a malformation is told as its reason is. -/
theorem isTold_of_reason {fault : Malformed} (reason : fault.reason = .invalidEscape (some '\n') ∨
    Text.IsOneLine fault.reason.message) : (Cause.malformed fault).error.IsTold := by
  refine Cause.isTold_error (reason.imp_right fun oneLine => ?_) nofun
  have line : Text.IsOneLine " at line " := by decide
  have column : Text.IsOneLine ", column " := by decide
  change Text.IsOneLine fault.message
  simp only [Malformed.message, isOneLine_append, oneLine, line, column, isOneLine_toString_nat,
    and_self]

/-- The wording of a string that is not closed stands on one line. -/
theorem isOneLine_unterminatedString : Text.IsOneLine Malformation.unterminatedString.message := by
  decide

/-- The wording of a bracket that closes nothing stands on one line. -/
theorem isOneLine_unmatched (found : Bracket) :
    Text.IsOneLine (Malformation.unmatched found).message :=
  isOneLine_append.mpr ⟨by decide, isOneLine_quoteChar _⟩

/-- The wording of a bracket that closes another one stands on one line. -/
theorem isOneLine_mismatched (expected found : Bracket) :
    Text.IsOneLine (Malformation.mismatched expected found).message := by
  have expects : Text.IsOneLine ("expected " ++ quoteChar expected.closer) :=
    isOneLine_append.mpr ⟨by decide, isOneLine_quoteChar _⟩
  have finds : Text.IsOneLine ("expected " ++ quoteChar expected.closer ++ " but found ") :=
    isOneLine_append.mpr ⟨expects, by decide⟩
  exact isOneLine_append.mpr ⟨finds, isOneLine_quoteChar _⟩

/-- The wording of a group that is not closed stands on one line. -/
theorem isOneLine_unclosed (opened : Bracket) :
    Text.IsOneLine (Malformation.unclosed opened).message :=
  isOneLine_append.mpr ⟨by decide, isOneLine_quoteChar _⟩

namespace Reader
variable {reader next : Reader} {fault : Malformed} {c : Char}

/-- A closing bracket that is refused is told. -/
theorem isTold_closeGroup {bracket : Bracket} (refused : reader.closeGroup bracket = .error fault) :
    (Cause.malformed fault).error.IsTold := by
  unfold closeGroup at refused
  split at refused
  · obtain rfl := Except.error.inj refused
    exact isTold_of_reason (.inr (isOneLine_unmatched bracket))
  · split at refused
    · cases refused
    · obtain rfl := Except.error.inj refused
      exact isTold_of_reason (.inr (isOneLine_mismatched _ bracket))

/-- A character that is refused between tokens is told. -/
theorem isTold_readBetween (refused : reader.readBetween c = .error fault) :
    (Cause.malformed fault).error.IsTold := by
  unfold readBetween at refused
  split at refused
  · cases refused
  split at refused
  · cases refused
  split at refused
  · cases refused
  split at refused
  · cases refused
  · exact isTold_closeGroup refused
  · cases refused

/-- A character that is refused is told. -/
theorem isTold_readInMode (refused : reader.readInMode c = .error fault) :
    (Cause.malformed fault).error.IsTold := by
  unfold readInMode at refused
  split at refused
  · exact isTold_readBetween refused
  · split at refused
    · cases refused
    split at refused
    · exact isTold_readBetween refused
    · cases refused
  · split at refused
    · exact isTold_readBetween refused
    · cases refused
  · split at refused
    · exact isTold_readBetween refused
    · cases refused
  · split at refused
    · obtain rfl := Except.error.inj refused
      exact isTold_of_reason (.inr isOneLine_unterminatedString)
    split at refused
    · cases refused
    split at refused <;> cases refused
  · split at refused
    · cases refused
    · obtain rfl := Except.error.inj refused
      apply isTold_of_reason
      by_cases lineBreak : c = '\n'
      · exact .inl (by rw [lineBreak])
      · exact .inr (isOneLine_append.mpr ⟨by decide,
          isOneLine_ofList.mpr (by simpa using Ne.symm lineBreak)⟩)

/-- A token that cannot be left is told. -/
theorem isTold_finishToken (refused : reader.finishToken = .error fault) :
    (Cause.malformed fault).error.IsTold := by
  unfold finishToken at refused
  split at refused
  · cases refused
  · cases refused
  · cases refused
  · cases refused
  · obtain rfl := Except.error.inj refused
    exact isTold_of_reason (.inr isOneLine_unterminatedString)
  · obtain rfl := Except.error.inj refused
    exact isTold_of_reason (.inr (show Text.IsOneLine
      (Malformation.invalidEscape none).message by decide))

/-- A reading that cannot be finished is told. -/
theorem isTold_finish (refused : reader.finish = .error fault) :
    (Cause.malformed fault).error.IsTold := by
  cases settles : reader.finishToken with
  | error other =>
      rw [finish_of_fault settles] at refused
      obtain rfl := Except.error.inj refused
      exact isTold_finishToken settles
  | ok settled =>
      rw [finish_of_settled settles] at refused
      cases open? : settled.groups with
      | cons group outer =>
          rw [open?] at refused
          obtain rfl := Except.error.inj refused
          exact isTold_of_reason (.inr (isOneLine_unclosed group.bracket))
      | nil =>
          rw [open?] at refused
          cases refused

/-- A reading that fails is told. -/
theorem isTold_resume {text : List Char} (refused : reader.resume text = .error fault) :
    (Cause.malformed fault).error.IsTold := by
  induction text generalizing reader with
  | nil => exact isTold_finish refused
  | cons c text ih =>
      rw [resume_cons] at refused
      cases read : reader.readInMode c with
      | error other =>
          rw [read] at refused
          obtain rfl := Except.error.inj refused
          exact isTold_readInMode read
      | ok next =>
          rw [read] at refused
          exact ih refused

end Reader

/-- What a text is refused with is told on one line, but for an escaped line break. -/
theorem isTold_parse {text : String} {fault : Malformed} (refused : parse text = .error fault) :
    (Cause.malformed fault).error.IsTold :=
  Reader.isTold_resume refused

/-- A text that is not read as a statement is told. -/
theorem isTold_parseStatement {text : String} {fault : Malformed}
    (refused : parseStatement text = .error fault) : (Cause.malformed fault).error.IsTold := by
  unfold parseStatement at refused
  cases parsed : parse text with
  | error other =>
      rw [parsed] at refused
      obtain rfl := Except.error.inj refused
      exact isTold_parse parsed
  | ok statements =>
      rw [parsed] at refused
      cases statements with
      | nil => cases refused
      | cons first others =>
          cases others with
          | nil => cases refused
          | cons second others =>
              obtain rfl := Except.error.inj refused
              exact isTold_of_reason
                (.inr (show Text.IsOneLine Malformation.severalStatements.message by decide))

end Script
end Playbook
