import Playbook.Proofs.Play.Observation

/-! # How plays end

A play ends in a result of one kind or with a failure of another kind, whatever was asked before and
whatever is answered. With failures of no kind this says that the play succeeds; with errors of
scripts, that it fails in no other way. The rules say how the end of a play follows from those of
its parts.
-/

namespace Playbook

/-- The result is of a kind, or the failure is of another kind. -/
def EndsWith {α : Type} (gives : α → Prop) (fails : Failure → Prop) : Except Failure α → Prop
  | .ok result => gives result
  | .error failure => fails failure

/-- The failure is an error of the script. -/
def Failure.IsScript (failure : Failure) : Prop := ∃ error, failure = .script error

/-- The failure is what a cause gives rise to: nothing has been filled in. -/
def Failure.IsBare (failure : Failure) : Prop := ∃ cause, failure = .ofCause cause

/-- Kinds of failures that do not depend on the context that has been filled in. -/
def KeepsNotes (fails : Failure → Prop) : Prop :=
  ∀ notes failure, fails failure → fails (failure.annotate notes)

/-- The failure with a cause is an error of the script. -/
theorem Failure.isScript_ofCause (cause : Cause) : (Failure.ofCause cause).IsScript := ⟨_, rfl⟩

/-- The failure with a cause has no context yet. -/
theorem Failure.isBare_ofCause (cause : Cause) : (Failure.ofCause cause).IsBare := ⟨cause, rfl⟩

/-- A failure without context is an error of the script. -/
theorem Failure.IsBare.isScript {failure : Failure} (bare : failure.IsBare) : failure.IsScript := by
  obtain ⟨cause, rfl⟩ := bare
  exact isScript_ofCause cause

/-- An error of the script stays one, whatever is filled in. -/
theorem keepsNotes_isScript : KeepsNotes Failure.IsScript := by
  rintro notes _ ⟨error, rfl⟩
  exact ⟨error.annotate notes, rfl⟩

/-- Where no failure is possible, none comes from filling in context. -/
theorem keepsNotes_false : KeepsNotes fun _ => False := fun _ _ never => never

/-! ### Calls and verifications -/

namespace World

/-- How a call fails: it is not made, or trouble is the answer, or a receipt without success. -/
inductive CallFails (world : World) (call : MethodCall) : ScriptError → Prop where
  | fromView : CallFails world call (Cause.handler (.callFromView call.describe)).error
  | noInvoker (missing : world.invoker = none) : CallFails world call
      (Cause.invocation call.describe (some "no invoker configured") none).error
  | raised {invoker : Invoker} {records : Records} {earlier : List Request} {sender : Option String}
      {error : ScriptError} (isInvoker : world.invoker = some invoker)
      (answer : invoker.answer records earlier call sender = .error (.error error)) :
      CallFails world call error
  | crashed {invoker : Invoker} {records : Records} {earlier : List Request}
    {sender : Option String}
      {kind text : String} (isInvoker : world.invoker = some invoker)
      (answer : invoker.answer records earlier call sender = .error (.crash kind text)) :
      CallFails world call (troubleCause call.describe kind text).error
  | unsuccessful {invoker : Invoker} {records : Records} {earlier : List Request}
      {sender : Option String} {receipt : Receipt} (isInvoker : world.invoker = some invoker)
      (answer : invoker.answer records earlier call sender = .ok receipt) :
      CallFails world call
        (Cause.invocation call.describe receipt.errorMessage (some receipt)).error

/-- How a verification fails: there is no verifier, or trouble is the answer. -/
inductive VerificationFails (world : World) (verification : Verification) : ScriptError → Prop where
  | noVerifier (missing : world.verifier = none) : VerificationFails world verification
      (Cause.invocation ("Verify " ++ verification.contractName) (some "no verifier configured")
        none).error
  | raised {verifier : Verifier} {records : Records} {earlier : List Request} {error : ScriptError}
      (isVerifier : world.verifier = some verifier)
      (answer : verifier.answer records earlier verification = .error (.error error)) :
      VerificationFails world verification error
  | crashed {verifier : Verifier} {records : Records} {earlier : List Request} {kind text : String}
      (isVerifier : world.verifier = some verifier)
      (answer : verifier.answer records earlier verification = .error (.crash kind text)) :
      VerificationFails world verification
        (troubleCause ("Verify " ++ verification.contractName) kind text).error

end World

/-! ### Rules -/

section
variable {α β : Type} {gives : α → Prop} {between : β → Prop} {fails : Failure → Prop}

namespace EndsWith
variable {result : Except Failure α}

/-- A result ends in some way. -/
theorem any (result : Except Failure α) : EndsWith (fun _ => True) (fun _ => True) result := by
  cases result <;> trivial

/-- What is said of contents may be weakened. -/
theorem weaken {more : α → Prop} (ends : EndsWith gives fails result)
    (implies : ∀ content, gives content → more content) : EndsWith more fails result := by
  cases result with
  | ok content => exact implies content ends
  | error failure => exact ends

/-- What is said of failures may be weakened. -/
theorem imp {other : Failure → Prop} (ends : EndsWith gives fails result)
    (implies : ∀ failure, fails failure → other failure) : EndsWith gives other result := by
  cases result with
  | ok content => exact ends
  | error failure => exact implies failure ends

/-- The result is then also known to be that of the computation. -/
theorem self (ends : EndsWith gives fails result) :
    EndsWith (fun content => result = .ok content) fails result := by
  cases result with
  | ok content => rfl
  | error failure => exact ends

/-- A result in two parts ends as its parts do. -/
theorem bind {first : Except Failure β} {next : β → Except Failure α}
    (ends : EndsWith between fails first)
    (others : ∀ content, between content → EndsWith gives fails (next content)) :
    EndsWith gives fails (first >>= next) := by
  cases first with
  | ok content => exact others content ends
  | error failure => exact ends

/-- A changed result ends as the result does, with the change. -/
theorem map {first : Except Failure β} {change : β → α} (ends : EndsWith between fails first)
    (changes : ∀ content, between content → gives (change content)) :
    EndsWith gives fails (change <$> first) := by
  cases first with
  | ok content => exact changes content ends
  | error failure => exact ends

/-- A result with context filled in fails as the result does, with the context. -/
theorem marked {notes : Context} {marked : Failure → Prop} (ends : EndsWith gives fails result)
    (marks : ∀ failure, fails failure → marked (failure.annotate notes)) :
    EndsWith gives marked (annotateResult notes result) := by
  cases result with
  | ok content => exact ends
  | error failure => exact marks failure ends

/-- A result that cannot fail is there. -/
theorem exists_ok (ends : EndsWith gives (fun _ => False) result) :
    ∃ content, result = .ok content ∧ gives content := by
  cases result with
  | ok content => exact ⟨content, rfl, ends⟩
  | error failure => exact ends.elim

/-- A result that fails with errors of the script only is a content or such an error. -/
theorem ok_or_script (ends : EndsWith gives Failure.IsScript result) :
    (∃ content, result = .ok content ∧ gives content) ∨
      ∃ error, result = .error (.script error) := by
  cases result with
  | ok content => exact .inl ⟨content, rfl, ends⟩
  | error failure =>
      obtain ⟨error, rfl⟩ := ends
      exact .inr ⟨error, rfl⟩

end EndsWith

namespace Play

/-- However it goes, the play ends in a result of a kind or with a failure of another kind. -/
def Ends (gives : α → Prop) (fails : Failure → Prop) (play : Play α) : Prop :=
  ∀ earlier, EndsWith gives fails (play.run earlier).result

/-- A play ends in some way. -/
theorem ends_any (play : Play α) : play.Ends (fun _ => True) fun _ => True :=
  fun earlier => .any (play.run earlier).result

/-- A play that is done ends with its result. -/
theorem ends_done {result : α} (given : gives result) : (done result).Ends gives fails :=
  fun _ => given

/-- A play that fails at once ends with its failure. -/
theorem ends_fail {failure : Failure} (failed : fails failure) :
    (fail failure : Play α).Ends gives fails :=
  fun _ => failed

/-- The play of a result ends as the result does. -/
theorem ends_ofResult {result : Except Failure α} (ends : EndsWith gives fails result) :
    (ofResult result).Ends gives fails := by
  cases result with
  | ok content => exact ends_done ends
  | error failure => exact ends_fail ends

/-- Printing a line first does not change how a play ends. -/
theorem Ends.print {play : Play α} (ends : play.Ends gives fails) (line : String) :
    (Play.print line play).Ends gives fails :=
  fun earlier => ends earlier

/-- Printing lines does not fail. -/
theorem ends_printLines (lines : List String) :
    (printLines lines).Ends (fun _ => True) fails := by
  induction lines with
  | nil => exact ends_done trivial
  | cons line lines ih => exact ih.print line

/-- What is said of the results of a play may be weakened. -/
theorem Ends.weaken {more : α → Prop} {play : Play α} (ends : play.Ends gives fails)
    (implies : ∀ result, gives result → more result) : play.Ends more fails :=
  fun earlier => (ends earlier).weaken implies

/-- What is said of the failures of a play may be weakened. -/
theorem Ends.imp {other : Failure → Prop} {play : Play α} (ends : play.Ends gives fails)
    (implies : ∀ failure, fails failure → other failure) : play.Ends gives other :=
  fun earlier => (ends earlier).imp implies

/-- A play in two parts ends as its parts do. -/
theorem Ends.bind {play : Play β} {next : β → Play α} (ends : play.Ends between fails)
    (others : ∀ result, between result → (next result).Ends gives fails) :
    (play >>= next).Ends gives fails := by
  intro earlier
  have first := ends earlier
  rw [← observe_toOutcome, observe_bind, Observation.andThen, observe_toOutcome]
  cases result : (play.run earlier).result with
  | ok content =>
      rw [result] at first
      exact others content first _
  | error failure =>
      rw [result] at first
      exact first

/-- A play with a changed result ends as the play does, with the change. -/
theorem Ends.map {play : Play β} {change : β → α} (ends : play.Ends between fails)
    (changes : ∀ result, between result → gives (change result)) :
    (change <$> play).Ends gives fails := by
  rw [← bind_pure_comp]
  exact ends.bind fun result given => ends_done (changes result given)

/-- A call ends as the answers to it do. -/
theorem ends_invoke {gives : Receipt → Prop} {world : World} {method : MethodCall}
    {sender : Option String}
    (answers : ∀ earlier,
      EndsWith gives fails ((world.send earlier method sender).2.mapError .script)) :
    (invoke world method sender).Ends gives fails := by
  intro earlier
  rw [invoke, ← observe_toOutcome, observe_call, observe_ofResult]
  exact answers earlier

/-- So does a verification. -/
theorem ends_requestVerification {gives : Unit → Prop} {world : World} {verification : Verification}
    (answers : ∀ earlier,
      EndsWith gives fails ((world.sendVerification earlier verification).2.mapError .script)) :
    (requestVerification world verification).Ends gives fails := by
  intro earlier
  rw [requestVerification, ← observe_toOutcome, observe_verify, observe_ofResult]
  exact answers earlier

/-- A call fails in the ways in which calls fail, and in no other. -/
theorem ends_invoke_of_callFails {world : World} {method : MethodCall} {sender : Option String}
    (failed : ∀ error, world.CallFails method error → fails (.script error)) :
    (invoke world method sender).Ends (fun _ => True) fails := by
  apply ends_invoke
  intro earlier
  unfold World.send
  split
  · exact failed _ .fromView
  split
  next missing => exact failed _ (.noInvoker missing)
  next invoker isInvoker =>
    dsimp only
    split
    next error answer => exact failed _ (.raised isInvoker answer)
    next kind text answer => exact failed _ (.crashed isInvoker answer)
    next receipt answer =>
      split
      · trivial
      · exact failed _ (.unsuccessful isInvoker answer)

/-- A verification fails in no other way than the world says that verifications fail. -/
theorem ends_requestVerification_of_verificationFails {world : World} {verification : Verification}
    (failed : ∀ error, world.VerificationFails verification error → fails (.script error)) :
    (requestVerification world verification).Ends (fun _ => True) fails := by
  apply ends_requestVerification
  intro earlier
  unfold World.sendVerification
  dsimp only
  split
  next missing => exact failed _ (.noVerifier missing)
  next verifier isVerifier =>
    split
    next error answer => exact failed _ (.raised isVerifier answer)
    next kind text answer => exact failed _ (.crashed isVerifier answer)
    · trivial

end Play
end
end Playbook
