import Playbook.Proofs.Play.Observation

/-! # Whom a play asks

Whether the collaborators of a world remember what they were asked is their affair. A play that asks
only collaborators who do not remember something runs as if that had never been asked. A play that
makes its calls in read-only worlds makes none that reach an invoker. What is asked for is a matter
of the play alone.
-/

namespace Playbook

/-! ### What collaborators remember -/

namespace Play
variable {α β : Type} {calls verifies : World → Prop} {gives : α → Prop} {between : β → Prop}

/-- Holds of a play whose calls are made in worlds of one kind and its verifications in worlds of
another, and which ends in results of a kind. -/
def AsksIn (calls verifies : World → Prop) (gives : α → Prop) : Play α → Prop
  | done result => gives result
  | fail _ => True
  | print _ rest => rest.AsksIn calls verifies gives
  | call world _ _ rest => calls world ∧ ∀ answer, (rest answer).AsksIn calls verifies gives
  | verify world _ rest => verifies world ∧ ∀ answer, (rest answer).AsksIn calls verifies gives

/-- A play in two parts asks in worlds that both parts may ask in. -/
theorem AsksIn.bind {play : Play β} {next : β → Play α} (asks : play.AsksIn calls verifies between)
    (others : ∀ result, between result → (next result).AsksIn calls verifies gives) :
    (play >>= next).AsksIn calls verifies gives := by
  change (play.bind next).AsksIn calls verifies gives
  induction play with
  | done result => exact others result asks
  | fail => trivial
  | print line rest ih => exact ih asks
  | call world method sender rest ih =>
      obtain ⟨here, later⟩ := asks
      exact ⟨here, fun answer => ih answer (later answer)⟩
  | verify world verification rest ih =>
      obtain ⟨here, later⟩ := asks
      exact ⟨here, fun answer => ih answer (later answer)⟩

/-- What is asked in worlds of some kinds is asked in worlds of wider kinds. -/
theorem AsksIn.weaken {moreCalls moreVerifies : World → Prop} {givesMore : α → Prop}
    {play : Play α} (asks : play.AsksIn calls verifies gives)
    (widerCalls : ∀ world, calls world → moreCalls world)
    (widerVerifies : ∀ world, verifies world → moreVerifies world)
    (wider : ∀ result, gives result → givesMore result) :
    play.AsksIn moreCalls moreVerifies givesMore := by
  induction play with
  | done result => exact wider result asks
  | fail => trivial
  | print line rest ih => exact ih asks
  | call world method sender rest ih =>
      obtain ⟨here, later⟩ := asks
      exact ⟨widerCalls world here, fun answer => ih answer (later answer)⟩
  | verify world verification rest ih =>
      obtain ⟨here, later⟩ := asks
      exact ⟨widerVerifies world here, fun answer => ih answer (later answer)⟩

/-- Filling in context does not change what is asked. -/
theorem AsksIn.annotate {play : Play α} (asks : play.AsksIn calls verifies gives)
    (notes : Context) :
    (play.annotate notes).AsksIn calls verifies gives := by
  induction play with
  | done => exact asks
  | fail => trivial
  | print line rest ih => exact ih asks
  | call world method sender rest ih =>
      obtain ⟨here, later⟩ := asks
      exact ⟨here, fun answer => ih answer (later answer)⟩
  | verify world verification rest ih =>
      obtain ⟨here, later⟩ := asks
      exact ⟨here, fun answer => ih answer (later answer)⟩

/-- Holds of a play that runs alike after two lists of requests, whatever was asked after them. -/
def RunsAlike (fewer more : List Request) (play : Play α) : Prop :=
  ∀ between, play.run (fewer ++ between) = play.run (more ++ between)

section RunsAlike

variable {play : Play α} {fewer more : List Request}

/-- It does so still when the same was asked after both. -/
theorem RunsAlike.append (alike : play.RunsAlike fewer more) (asked : List Request) :
    play.RunsAlike (fewer ++ asked) (more ++ asked) := by
  intro between
  rw [List.append_assoc, List.append_assoc]
  exact alike _

end RunsAlike

/-! ### What a play asks for -/

/-- Holds of a play that makes only requests of a kind, whatever is answered. -/
def AsksOnly (allowed : Request → Prop) (play : Play α) : Prop :=
  ∀ earlier, ∀ request ∈ requests (play.run earlier).trace, allowed request

variable {allowed : Request → Prop}

/-- A play that is done asks for nothing. -/
theorem asksOnly_done (result : α) : (done result).AsksOnly allowed :=
  fun _ => List.forall_mem_nil _

/-- A play that fails at once asks for nothing. -/
theorem asksOnly_fail (failure : Failure) : (fail failure : Play α).AsksOnly allowed :=
  fun _ => List.forall_mem_nil _

/-- Printing a line first does not change what is asked. -/
theorem AsksOnly.print {play : Play α} (asks : play.AsksOnly allowed) (line : String) :
    (Play.print line play).AsksOnly allowed :=
  fun earlier => asks earlier

/-- A result asks for nothing that is not allowed. -/
theorem asksOnly_ofResult (result : Except Failure α) : (ofResult result).AsksOnly allowed := by
  cases result with
  | ok content => exact asksOnly_done content
  | error failure => exact asksOnly_fail failure

/-- Printing lines asks for nothing that is not allowed. -/
theorem asksOnly_printLines (lines : List String) : (printLines lines).AsksOnly allowed := by
  induction lines with
  | nil => exact asksOnly_done ()
  | cons line lines ih => exact ih.print line

/-- A play in two parts asks for what its parts ask for. -/
theorem AsksOnly.bind {play : Play β} {next : β → Play α} (asks : play.AsksOnly allowed)
    (others : ∀ result, (next result).AsksOnly allowed) : (play >>= next).AsksOnly allowed := by
  intro earlier
  rw [← observe_toOutcome, observe_bind, Observation.andThen, observe_toOutcome]
  split
  · exact asks earlier
  · rw [requests_append]
    exact List.forall_mem_append.mpr ⟨asks earlier, others _ _⟩

/-- A call asks for the call alone, whichever account sends it. -/
theorem asksOnly_invoke {world : World} {method : MethodCall} {sender : Option String}
    (isAllowed : ∀ account, allowed (.call method account)) :
    (invoke world method sender).AsksOnly allowed := by
  intro earlier
  obtain ⟨failure, observed⟩ := observe_invoke earlier world method sender
  rw [← observe_toOutcome, observed]
  unfold World.exchange?
  split
  · exact List.forall_mem_nil _
  · cases world.invoker with
    | none => exact List.forall_mem_nil _
    | some invoker => exact List.forall_mem_singleton.mpr (isAllowed _)

/-- A verification asks for the verification alone. -/
theorem asksOnly_requestVerification {world : World} {verification : Verification}
    (isAllowed : allowed (.verification verification)) :
    (requestVerification world verification).AsksOnly allowed := by
  intro earlier
  rw [requestVerification, ← observe_toOutcome, observe_verify, observe_ofResult]
  rcases sendVerification_request world earlier verification with none | some
  · rw [none]
    exact List.forall_mem_nil _
  · rw [some]
    exact List.forall_mem_singleton.mpr isAllowed

end Play
end Playbook
