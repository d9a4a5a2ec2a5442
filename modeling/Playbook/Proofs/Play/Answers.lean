import Playbook.Proofs.Play.Asking

/-! # Plays and the answers that they are given

What a collaborator answers is its own affair: it may depend on anything that it remembers. Here the
answers are given with the run. A play goes through dealings, each a request with the answer to it,
to a result, and the answers decide about the result. Every run that succeeds goes through what its
collaborators answered; and where a play goes through other dealings, its run parts from them only
where a collaborator answers the very same request otherwise.
-/

namespace Playbook

/-- A request that reached a collaborator, with the answer to it. -/
inductive Dealing where
  | sent (exchange : Exchange)
  | verified (verification : Verification) (answer : Except Trouble Unit)

namespace Dealing

/-- The request of a dealing. -/
def request : Dealing → Request
  | sent exchange => .call exchange.call exchange.sender
  | verified verification _ => .verification verification

/-- The call of a dealing, with its sender and its answer. -/
def exchange? : Dealing → Option Exchange
  | sent exchange => some exchange
  | verified _ _ => none

end Dealing

/-- What a play goes on with when its call was answered: a receipt of success, or else an error. -/
def MethodCall.settled (call : MethodCall) : Except Trouble Receipt → Except ScriptError Receipt
  | .error (.error error) => .error error
  | .error (.crash kind text) => .error (World.troubleCause call.describe kind text).error
  | .ok receipt =>
    if receipt.success then .ok receipt
    else .error (Cause.invocation call.describe receipt.errorMessage (some receipt)).error

/-- What a play goes on with when its verification was answered. -/
def Verification.settled (verification : Verification) :
    Except Trouble Unit → Except ScriptError Unit
  | .error (.error error) => .error error
  | .error (.crash kind text) =>
    .error (World.troubleCause ("Verify " ++ verification.contractName) kind text).error
  | .ok () => .ok ()

namespace World

end World

namespace Play
variable {α β : Type}

section Step

variable {world : World} {method : MethodCall} {sender : Option String}
  {verification : Verification}

end Step

end Play
end Playbook
