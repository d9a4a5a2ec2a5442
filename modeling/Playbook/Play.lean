import Playbook.World.Basic

/-! # Plays

A play is what a handler does, as data: it prints lines, asks for calls and verifications, and ends
with a result or a failure. Running a play gives its outcome and its trace, which holds the printed
lines and the requests in order and is there even when the play fails.

A play can look at nothing but the worlds it was given and the answers to what it asked.
-/

namespace Playbook

/-- A course of effects that ends with a result of type `α` or with a failure. -/
inductive Play (α : Type) where
  | done (result : α)
  | fail (failure : Failure)
  | print (line : String) (next : Play α)
  | call (world : World) (call : MethodCall) (sender : Option String)
      (next : Except ScriptError Receipt → Play α)
  | verify (world : World) (verification : Verification) (next : Except ScriptError Unit → Play α)

/-- One effect of a run. -/
inductive Effect where
  | printed (line : String)
  | asked (request : Request)
deriving Repr

/-- What became of a run: its result or its failure, and the effects on the way. -/
structure Outcome (α : Type) where
  result : Except Failure α
  trace : List Effect

namespace Effect

/-- The printed line of an effect. -/
def line? : Effect → Option String
  | printed line => some line
  | asked _ => none

/-- The request of an effect. -/
def request? : Effect → Option Request
  | printed _ => none
  | asked request => some request

end Effect

/-- The printed lines of a trace. -/
def printedLines (trace : List Effect) : List String := trace.filterMap (·.line?)

/-- The requests of a trace. -/
def requests (trace : List Effect) : List Request := trace.filterMap (·.request?)

namespace World

/-- The account that sends a call: the one named, or the default one where none or an empty one is.
-/
def senderOf (world : World) (named : Option String) : Option String :=
  match named with
  | none => world.defaultSender
  | some account => if account.isEmpty then world.defaultSender else some account

/-- The cause that a collaborator's trouble gives rise to. -/
def troubleCause (description : String) (kind text : String) : Cause :=
  .invocation description (some (if text.isEmpty then kind else text)) none

/-- Sends a call: the request, if one was made, and its receipt. A world that is read only, or has
no invoker, makes no request; a receipt without success is an error. -/
def send (world : World) (earlier : List Request) (call : MethodCall) (named : Option String) :
    Option Request × Except ScriptError Receipt :=
  if world.readOnly then (none, .error (Cause.handler (.callFromView call.describe)).error)
  else match world.invoker with
    | none =>
      (none, .error (Cause.invocation call.describe (some "no invoker configured") none).error)
    | some invoker =>
      let sender := world.senderOf named
      let receipt := match invoker.answer world.toRecords earlier call sender with
        | .error (.error error) => .error error
        | .error (.crash kind text) => .error (troubleCause call.describe kind text).error
        | .ok receipt =>
          if receipt.success then .ok receipt
          else .error (Cause.invocation call.describe receipt.errorMessage (some receipt)).error
      (some (.call call sender), receipt)

/-- Has a contract verified: the request, if one was made, and whether it was accepted. -/
def sendVerification (world : World) (earlier : List Request) (verification : Verification) :
    Option Request × Except ScriptError Unit :=
  let description := "Verify " ++ verification.contractName
  match world.verifier with
  | none => (none, .error (Cause.invocation description (some "no verifier configured") none).error)
  | some verifier =>
    let accepted := match verifier.answer world.toRecords earlier verification with
      | .error (.error error) => .error error
      | .error (.crash kind text) => .error (troubleCause description kind text).error
      | .ok () => .ok ()
    (some (.verification verification), accepted)

end World

namespace Play
variable {α β : Type}

/-- Goes on with the result of a play. -/
def bind : Play α → (α → Play β) → Play β
  | done result, next => next result
  | fail failure, _ => fail failure
  | print line rest, next => print line (rest.bind next)
  | call world method sender rest, next => call world method sender fun answer =>
      (rest answer).bind next
  | verify world verification rest, next => verify world verification fun answer =>
      (rest answer).bind next

instance : Monad Play where
  pure := done
  bind := bind

/-- A play that goes on with nothing is the play itself. -/
theorem bind_done (play : Play α) : play.bind done = play := by
  induction play with
  | done => rfl
  | fail => rfl
  | print line rest ih => simp [bind, ih]
  | call world method sender rest ih => simp [bind, ih]
  | verify world verification rest ih => simp [bind, ih]

/-- It makes no difference in which order plays are put together. -/
theorem bind_assoc {γ : Type} (play : Play α) (f : α → Play β) (g : β → Play γ) :
    (play.bind f).bind g = play.bind fun result => (f result).bind g := by
  induction play with
  | done => rfl
  | fail => rfl
  | print line rest ih => simp [bind, ih]
  | call world method sender rest ih => simp [bind, ih]
  | verify world verification rest ih => simp [bind, ih]

instance : LawfulMonad Play := LawfulMonad.mk' Play bind_done (fun _ _ => rfl) bind_assoc

/-- Fails with an error of a cause. -/
def refuse (cause : Cause) : Play α := fail (.ofCause cause)

/-- The play without effects that has a given result. -/
def ofResult : Except Failure α → Play α
  | .ok result => done result
  | .error failure => fail failure

/-- Prints lines. -/
def printLines : List String → Play Unit
  | [] => done ()
  | line :: lines => print line (printLines lines)

/-- Calls a method of a contract; fails unless the call succeeds. -/
def invoke (world : World) (method : MethodCall) (sender : Option String) : Play Receipt :=
  call world method sender fun answer => ofResult (answer.mapError .script)

/-- Has a contract verified; fails unless it is accepted. -/
def requestVerification (world : World) (verification : Verification) : Play Unit :=
  verify world verification fun answer => ofResult (answer.mapError .script)

/-- Fills in the context of the failure, if the play fails. -/
def annotate (notes : Context) : Play α → Play α
  | done result => done result
  | fail failure => fail (failure.annotate notes)
  | print line rest => print line (rest.annotate notes)
  | call world method sender rest => call world method sender fun answer =>
      (rest answer).annotate notes
  | verify world verification rest =>
    verify world verification fun answer => (rest answer).annotate notes

/-- Runs a play after the requests made earlier. -/
def run (earlier : List Request) : Play α → Outcome α
  | done result => ⟨.ok result, []⟩
  | fail failure => ⟨.error failure, []⟩
  | print line rest =>
    let outcome := rest.run earlier
    ⟨outcome.result, .printed line :: outcome.trace⟩
  | call world method sender rest =>
    match world.send earlier method sender with
    | (none, answer) => (rest answer).run earlier
    | (some request, answer) =>
      let outcome := (rest answer).run (earlier ++ [request])
      ⟨outcome.result, .asked request :: outcome.trace⟩
  | verify world verification rest =>
    match world.sendVerification earlier verification with
    | (none, answer) => (rest answer).run earlier
    | (some request, answer) =>
      let outcome := (rest answer).run (earlier ++ [request])
      ⟨outcome.result, .asked request :: outcome.trace⟩

end Play
end Playbook
