import Playbook.Play

/-! # Observed plays

The trace of a run holds what was asked, but not what was answered. An observation holds both for
the calls: whatever reached the invoker, on behalf of whom, and the answer as it came. The module
says how the observation of a play is put together from those of its parts.
-/

namespace Playbook

/-- A call that reached the invoker, with the answer to it. -/
structure Exchange where
  call : MethodCall
  sender : Option String
  answer : Except Trouble Receipt

namespace Exchange

/-- The receipt of a call that succeeded. -/
def receipt? (exchange : Exchange) : Option Receipt :=
  match exchange.answer with
  | .ok receipt => if receipt.success then some receipt else none
  | .error _ => none

/-- The call was answered with a receipt that reports success. -/
def Succeeded (exchange : Exchange) : Prop :=
  ∃ receipt, exchange.answer = .ok receipt ∧ receipt.success = true

/-- An exchange has succeeded if and only if it has a receipt. -/
theorem succeeded_iff {exchange : Exchange} :
    exchange.Succeeded ↔ ∃ receipt, exchange.receipt? = some receipt := by
  unfold Succeeded receipt?
  cases exchange.answer with
  | error trouble => simp
  | ok receipt => cases success : receipt.success <;> simp [success]

end Exchange

/-- What happens between the world and its invoker when a call is sent. -/
def World.exchange? (world : World) (earlier : List Request) (call : MethodCall)
    (named : Option String) : Option Exchange :=
  if world.readOnly then none
  else world.invoker.map fun invoker =>
    ⟨call, world.senderOf named, invoker.answer world.toRecords earlier call (world.senderOf named)⟩

/-- The sender of an exchange is the account that was named, or the default one. -/
theorem World.sender_of_exchange? {world : World} {earlier : List Request} {call : MethodCall}
    {named : Option String} {exchange : Exchange}
    (exchanged : world.exchange? earlier call named = some exchange) :
    exchange.sender = world.senderOf named := by
  unfold World.exchange? at exchanged
  split at exchanged
  · cases exchanged
  · obtain ⟨invoker, _, rfl⟩ := Option.map_eq_some_iff.mp exchanged
    rfl

/-- The calls of a trace, each with its sender. -/
def calls (trace : List Effect) : List (MethodCall × Option String) :=
  (requests trace).filterMap fun
    | .call call sender => some (call, sender)
    | .verification _ => none

/-- Requests are collected in two parts. -/
theorem requests_append (first second : List Effect) :
    requests (first ++ second) = requests first ++ requests second := List.filterMap_append ..

/-- Printed lines are collected in two parts. -/
theorem printedLines_append (first second : List Effect) :
    printedLines (first ++ second) = printedLines first ++ printedLines second :=
  List.filterMap_append ..

/-- Calls are collected in two parts. -/
theorem calls_append (first second : List Effect) :
    calls (first ++ second) = calls first ++ calls second := by
  rw [calls, requests_append, List.filterMap_append, calls, calls]

/-- Printed lines are no requests. -/
theorem requests_printed (lines : List String) : requests (lines.map .printed) = [] := by
  rw [requests, List.filterMap_map]
  exact List.filterMap_eq_nil_iff.mpr fun _ _ => rfl

/-- The printed lines of printed lines are these lines. -/
theorem printedLines_printed (lines : List String) : printedLines (lines.map .printed) = lines := by
  rw [printedLines, List.filterMap_map]
  exact List.filterMap_some

/-- What became of a run, with the answers to its calls. -/
structure Observation (α : Type) extends Outcome α where
  exchanges : List Exchange

namespace Observation
variable {α β : Type}

/-- An observation that goes on with what follows its result. -/
def andThen (first : Observation α) (next : α → Observation β) : Observation β :=
  match first.result with
  | .error failure => ⟨⟨.error failure, first.trace⟩, first.exchanges⟩
  | .ok result =>
    ⟨⟨(next result).result, first.trace ++ (next result).trace⟩,
      first.exchanges ++ (next result).exchanges⟩

/-- An observation with the context of its failure filled in. -/
def annotate (notes : Context) (observation : Observation α) : Observation α :=
  { observation with result := annotateResult notes observation.result }

/-- An observation before which more was observed. -/
def after (effects : List Effect) (exchanges : List Exchange) (observation : Observation α) :
    Observation α :=
  ⟨⟨observation.result, effects ++ observation.trace⟩, exchanges ++ observation.exchanges⟩

/-- After nothing, what is observed is the same. -/
theorem after_nil (observation : Observation α) : observation.after [] [] = observation := rfl

/-- After a result that is given, what follows it is observed. -/
theorem andThen_ok (result : α) (trace : List Effect) (exchanges : List Exchange)
    (next : α → Observation β) :
    (⟨⟨.ok result, trace⟩, exchanges⟩ : Observation α).andThen next =
      (next result).after trace exchanges := rfl

/-- After a failure that is given nothing more is observed. -/
theorem andThen_error (failure : Failure) (trace : List Effect) (exchanges : List Exchange)
    (next : α → Observation β) :
    (⟨⟨.error failure, trace⟩, exchanges⟩ : Observation α).andThen next =
      ⟨⟨.error failure, trace⟩, exchanges⟩ := rfl

/-- After a result, what follows it is observed. -/
theorem andThen_of_ok {first : Observation α} {result : α} (succeeds : first.result = .ok result)
    (next : α → Observation β) :
    first.andThen next = (next result).after first.trace first.exchanges := by
  rw [andThen, succeeds]
  rfl

/-- After a failure nothing more is observed. -/
theorem andThen_of_error {first : Observation α} {failure : Failure}
    (fails : first.result = .error failure) (next : α → Observation β) :
    first.andThen next = ⟨⟨.error failure, first.trace⟩, first.exchanges⟩ := by
  rw [andThen, fails]

/-- Where both parts together succeed, the first has a result and the second succeeds with it. -/
theorem of_andThen_ok {first : Observation α} {next : α → Observation β} {last : β}
    (succeeds : (first.andThen next).result = .ok last) :
    ∃ result, first.result = .ok result ∧ (next result).result = .ok last ∧
      first.andThen next = (next result).after first.trace first.exchanges := by
  obtain ⟨⟨_ | result, trace⟩, exchanges⟩ := first
  · cases succeeds
  · exact ⟨result, rfl, succeeds, rfl⟩

/-- What was observed before the first part was observed before both. -/
theorem andThen_after (effects : List Effect) (exchanges : List Exchange) (first : Observation α)
    (next : α → Observation β) :
    (first.after effects exchanges).andThen next =
      (first.andThen next).after effects exchanges := by
  obtain ⟨⟨_ | result, trace⟩, others⟩ := first
  · rfl
  · simp only [andThen, after, List.append_assoc]

/-- What was observed before does not change the result. -/
@[simp] theorem after_result (effects : List Effect) (exchanges : List Exchange)
    (observation : Observation α) :
    (observation.after effects exchanges).result = observation.result := rfl

/-- The effects that were observed before come first. -/
@[simp] theorem after_trace (effects : List Effect) (exchanges : List Exchange)
    (observation : Observation α) :
    (observation.after effects exchanges).trace = effects ++ observation.trace := rfl

/-- The exchanges that were observed before come first. -/
@[simp] theorem after_exchanges (effects : List Effect) (exchanges : List Exchange)
    (observation : Observation α) :
    (observation.after effects exchanges).exchanges = exchanges ++ observation.exchanges := rfl

/-- An observation after printed lines, with the context of its failure filled in. -/
def within (notes : Context) (lines : List String) (observation : Observation α) : Observation α :=
  (observation.annotate notes).after (lines.map .printed) []

variable {notes : Context} {lines : List String} {observation : Observation α}

/-- The printed lines come first. -/
@[simp] theorem within_trace :
    (observation.within notes lines).trace = lines.map .printed ++ observation.trace := rfl

/-- Within lines and context, an observation succeeds as it does by itself. -/
theorem within_eq_ok_iff {result : α} :
    (observation.within notes lines).result = .ok result ↔ observation.result = .ok result :=
  annotateResult_eq_ok

end Observation

namespace Play
variable {α β : Type}

/-- What passes between a run and the invokers. -/
def exchanges (earlier : List Request) : Play α → List Exchange
  | done _ | fail _ => []
  | print _ rest => rest.exchanges earlier
  | call world method sender rest =>
    let (request, answer) := world.send earlier method sender
    (world.exchange? earlier method sender).toList ++
      (rest answer).exchanges (earlier ++ request.toList)
  | verify world verification rest =>
    let (request, answer) := world.sendVerification earlier verification
    (rest answer).exchanges (earlier ++ request.toList)

/-- Runs a play and watches its calls. -/
def observe (earlier : List Request) (play : Play α) : Observation α :=
  { play.run earlier with exchanges := play.exchanges earlier }

/-- Without its exchanges, an observation is the outcome of the run. -/
@[simp] theorem observe_toOutcome (earlier : List Request) (play : Play α) :
    (play.observe earlier).toOutcome = play.run earlier := rfl

/-- Of a play that is done its result is observed, and nothing else. -/
@[simp] theorem observe_done (earlier : List Request) (result : α) :
    (done result).observe earlier = ⟨⟨.ok result, []⟩, []⟩ := rfl

/-- Of a play that fails at once its failure is observed, and nothing else. -/
@[simp] theorem observe_fail (earlier : List Request) (failure : Failure) :
    (fail failure : Play α).observe earlier = ⟨⟨.error failure, []⟩, []⟩ := rfl

/-- Of the play of a result the result is observed, and nothing else. -/
@[simp] theorem observe_ofResult (earlier : List Request) (result : Except Failure α) :
    (ofResult result).observe earlier = ⟨⟨result, []⟩, []⟩ := by
  cases result <;> rfl

/-- A printed line is observed before the rest. -/
theorem observe_print (earlier : List Request) (line : String) (rest : Play α) :
    (print line rest).observe earlier = (rest.observe earlier).after [.printed line] [] := rfl

/-- A call is observed before what follows on its answer: the request, and the exchange if there is
one. -/
theorem observe_call (earlier : List Request) (world : World) (method : MethodCall)
    (sender : Option String) (rest : Except ScriptError Receipt → Play α) :
    (call world method sender rest).observe earlier =
      ((rest (world.send earlier method sender).2).observe
          (earlier ++ (world.send earlier method sender).1.toList)).after
        ((world.send earlier method sender).1.toList.map .asked)
        (world.exchange? earlier method sender).toList := by
  rw [observe, run, exchanges]
  obtain ⟨_ | request, answer⟩ := world.send earlier method sender
  · simp [observe, Observation.after]
  · rfl

/-- A verification is observed before what follows on its answer. -/
theorem observe_verify (earlier : List Request) (world : World) (verification : Verification)
    (rest : Except ScriptError Unit → Play α) :
    (verify world verification rest).observe earlier =
      ((rest (world.sendVerification earlier verification).2).observe
          (earlier ++ (world.sendVerification earlier verification).1.toList)).after
        ((world.sendVerification earlier verification).1.toList.map .asked) [] := by
  rw [observe, run, exchanges]
  obtain ⟨_ | request, answer⟩ := world.sendVerification earlier verification
  · simp [observe, Observation.after]
  · rfl

/-- Of printing lines the lines are observed, and nothing else. -/
theorem observe_printLines (earlier : List Request) (lines : List String) :
    (printLines lines).observe earlier = ⟨⟨.ok (), lines.map .printed⟩, []⟩ := by
  induction lines with
  | nil => rfl
  | cons line lines ih =>
      rw [printLines, observe_print, ih]
      rfl

/-! ### Plays put together -/

/-- A request that was made comes before the others. -/
theorem requests_asked (request : Option Request) (trace : List Effect) :
    requests (request.toList.map .asked ++ trace) = request.toList ++ requests trace := by
  cases request <;> rfl

/-- What follows a play is run after the requests of the play. -/
theorem observe_bind (earlier : List Request) (play : Play α) (next : α → Play β) :
    (play >>= next).observe earlier = (play.observe earlier).andThen fun result =>
      (next result).observe (earlier ++ requests (play.observe earlier).trace) := by
  change (play.bind next).observe earlier = _
  induction play generalizing earlier with
  | done result =>
      have same : earlier ++ requests [] = earlier := List.append_nil earlier
      simp only [bind, observe_done, Observation.andThen_ok, same]
      rfl
  | fail failure => rfl
  | print line rest ih =>
      rw [bind, observe_print, observe_print, Observation.andThen_after, ih]
      rfl
  | call world method sender rest ih =>
      rw [bind, observe_call, observe_call]
      simp only [Observation.andThen_after, Observation.after_trace, requests_asked, ih,
        List.append_assoc]
  | verify world verification rest ih =>
      rw [bind, observe_verify, observe_verify]
      simp only [Observation.andThen_after, Observation.after_trace, requests_asked, ih,
        List.append_assoc]

/-- A play that succeeds in two parts succeeds in each of them. -/
theorem observe_bind_ok {earlier : List Request} {play : Play α} {next : α → Play β} {last : β}
    (succeeds : ((play >>= next).observe earlier).result = .ok last) :
    ∃ result, (play.run earlier).result = .ok result ∧
      ((next result).observe (earlier ++ requests (play.run earlier).trace)).result = .ok last ∧
      (play >>= next).observe earlier =
        ((next result).observe (earlier ++ requests (play.run earlier).trace)).after
          (play.run earlier).trace (play.exchanges earlier) := by
  rw [observe_bind] at succeeds ⊢
  exact Observation.of_andThen_ok succeeds

/-- What becomes of a play in two parts, once the first has succeeded. -/
theorem run_bind_of_ok {earlier : List Request} {play : Play α} {result : α}
    (succeeds : (play.run earlier).result = .ok result) (next : α → Play β) :
    ((play >>= next).run earlier).result =
      ((next result).run (earlier ++ requests (play.run earlier).trace)).result := by
  rw [← observe_toOutcome, observe_bind, Observation.andThen, observe_toOutcome, succeeds]
  rfl

/-- Where what follows a play makes no calls, the calls are those of the play. -/
theorem exchanges_bind_of_none {next : α → Play β}
    (noCalls : ∀ result earlier, (next result).exchanges earlier = []) (earlier : List Request)
    (play : Play α) : (play >>= next).exchanges earlier = play.exchanges earlier := by
  have observed : (play >>= next).exchanges earlier = _ :=
    congrArg Observation.exchanges (observe_bind earlier play next)
  rw [observed, Observation.andThen]
  split
  · rfl
  next result _ =>
      change play.exchanges earlier ++ (next result).exchanges _ = _
      rw [noCalls, List.append_nil]

/-- The play of a result makes no call. -/
theorem exchanges_ofResult (earlier : List Request) (result : Except Failure α) :
    (ofResult result).exchanges earlier = [] := by
  cases result <;> rfl

/-- A verification makes no call. -/
theorem exchanges_requestVerification (earlier : List Request) (world : World)
    (verification : Verification) :
    (requestVerification world verification).exchanges earlier = [] := by
  rw [requestVerification, exchanges]
  exact exchanges_ofResult _ _

/-- Printing lines makes no call. -/
theorem exchanges_printLines (earlier : List Request) (lines : List String) :
    (printLines lines).exchanges earlier = [] :=
  congrArg Observation.exchanges (observe_printLines earlier lines)

/-- Context is filled into the failure of a play and changes nothing else. -/
theorem observe_annotate (earlier : List Request) (notes : Context) (play : Play α) :
    (play.annotate notes).observe earlier = (play.observe earlier).annotate notes := by
  induction play generalizing earlier with
  | done | fail => rfl
  | print line rest ih =>
      rw [annotate, observe_print, observe_print, ih]
      rfl
  | call world method sender rest ih =>
      rw [annotate, observe_call, observe_call, ih]
      rfl
  | verify world verification rest ih =>
      rw [annotate, observe_verify, observe_verify, ih]
      rfl

/-! ### Calls -/

/-- A request is made for a call just where there is an exchange. -/
theorem send_request (world : World) (earlier : List Request) (call : MethodCall)
    (named : Option String) :
    (world.send earlier call named).1 =
      (world.exchange? earlier call named).map fun exchange =>
        .call exchange.call exchange.sender := by
  unfold World.send World.exchange?
  split
  · rfl
  · split <;> simp [*]

/-- The only request for a verification is the verification. -/
theorem sendVerification_request (world : World) (earlier : List Request)
    (verification : Verification) :
    (world.sendVerification earlier verification).1 = none ∨
      (world.sendVerification earlier verification).1 = some (.verification verification) := by
  unfold World.sendVerification
  split <;> simp

/-- The answer to a call is the receipt of its success, or else an error. -/
theorem send_answer (world : World) (earlier : List Request) (call : MethodCall)
    (named : Option String) :
    ∃ error, (world.send earlier call named).2 =
      ((world.exchange? earlier call named).bind Exchange.receipt?).elim (.error error) .ok := by
  unfold World.send World.exchange?
  split
  · exact ⟨_, rfl⟩
  cases world.invoker with
  | none => exact ⟨_, rfl⟩
  | some invoker =>
      simp only [Option.map_some, Option.bind_some, Exchange.receipt?]
      cases invoker.answer world.toRecords earlier call (world.senderOf named) with
      | error trouble => cases trouble <;> exact ⟨_, rfl⟩
      | ok receipt =>
          cases success : receipt.success
          · simp only [success, Bool.false_eq_true, ↓reduceIte]
            exact ⟨_, rfl⟩
          · simp only [success, ↓reduceIte]
            exact ⟨(Cause.invocation call.describe none none).error, rfl⟩

/-- The calls of the trace are those that reached an invoker. -/
theorem calls_observe (earlier : List Request) (play : Play α) :
    calls (play.observe earlier).trace =
      (play.observe earlier).exchanges.map fun exchange => (exchange.call, exchange.sender) := by
  induction play generalizing earlier with
  | done | fail => rfl
  | print line rest ih => exact ih earlier
  | call world method sender rest ih =>
      rw [observe_call, send_request]
      simp only [Observation.after_trace, Observation.after_exchanges, calls_append, ih,
        List.map_append, List.append_cancel_right_eq]
      cases world.exchange? earlier method sender <;> rfl
  | verify world verification rest ih =>
      have noCall :
          calls ((world.sendVerification earlier verification).1.toList.map .asked) = [] := by
        rcases sendVerification_request world earlier verification with none | some
        · rw [none]
          rfl
        · rw [some]
          rfl
      rw [observe_verify]
      rw [Observation.after_trace, Observation.after_exchanges, calls_append, noCall, ih]
      rfl

/-- A call that succeeds gives its receipt; any other call fails. -/
theorem observe_invoke (earlier : List Request) (world : World) (method : MethodCall)
    (sender : Option String) :
    ∃ failure, (invoke world method sender).observe earlier =
      ⟨⟨((world.exchange? earlier method sender).bind Exchange.receipt?).elim (.error failure) .ok,
        (world.exchange? earlier method sender).toList.map fun exchange =>
          .asked (.call exchange.call exchange.sender)⟩,
        (world.exchange? earlier method sender).toList⟩ := by
  obtain ⟨error, answered⟩ := send_answer world earlier method sender
  rw [invoke, observe_call, send_request, answered]
  refine ⟨.script error, ?_⟩
  cases world.exchange? earlier method sender with
  | none => rfl
  | some exchange =>
      rw [Option.bind_some]
      cases exchange.receipt? <;> rfl

end Play
end Playbook
