import Mathlib.Data.List.Basic
import Mathlib.Data.List.Nodup
import Mathlib.Data.List.Range
import Rendezvous.Proofs.Dialogue.Oracle

/-!
# What orchestrations ask for

An orchestration that runs its agents one after the other asks for what its topology lays down, request by request, up to
and including the first answer that puts an end to it (`Upto`): a failure, or for a loop also the answer that the loop is
to end.

* A sequence asks for a step of each agent.
* A conditional orchestration asks the condition of each agent, and for a step if it holds.
* A loop passes through the agents again and again, and asks whether it is to end after each step or after each pass.
-/

namespace Rendezvous

set_option autoImplicit false

/-! ## Up to an answer that ends it -/

namespace Reply

def failed (a : Reply) : Bool := a.failure?.isSome

/-- Whether an answer puts an end to a loop. -/
def ends : Reply → Bool
  | checkExit _ (.ok holds) => holds
  | a => a.failed

end Reply

variable {stops : Reply → Bool} {ideal : List OrchestrationRequest} {replies : List Reply}

/-- The last of some answers puts an end to it all. -/
def Halts (stops : Reply → Bool) (replies : List Reply) : Prop := ∃ a, replies.getLast? = some a ∧ stops a = true

/-- The requests are those of a list, up to and including the first one whose answer puts an end to it. -/
structure Upto (stops : Reply → Bool) (ideal : List OrchestrationRequest) (replies : List Reply) : Prop where
  requests : replies.map Reply.request <+: ideal
  before : ∀ a ∈ replies.dropLast, stops a = false
  ends : replies.map Reply.request = ideal ∨ Halts stops replies

theorem Halts.append (front : List Reply) (halts : Halts stops replies) : Halts stops (front ++ replies) := by
  obtain ⟨a, last, ends⟩ := halts
  exact ⟨a, by rw [List.getLast?_append, last, Option.some_or], ends⟩

namespace Upto

theorem nil : Upto stops [] [] := ⟨List.nil_prefix, nofun, .inl rfl⟩

theorem cons (a : Reply) (goes : stops a = false) (rest : Upto stops ideal replies) :
    Upto stops (a.request :: ideal) (a :: replies) := by
  obtain ⟨requests, before, ends⟩ := rest
  refine ⟨?_, fun b mem => ?_, ends.imp (fun all => ?_) (.append [a])⟩
  · exact (List.prefix_cons_inj _).mpr requests
  · cases replies with
    | nil => cases mem
    | cons first others =>
      rcases List.mem_cons.mp mem with rfl | later
      · exact goes
      · exact before b later
  · rw [List.map_cons, all]

theorem single (a : Reply) (halts : stops a = true) : Upto stops (a.request :: ideal) [a] :=
  ⟨⟨ideal, rfl⟩, nofun, .inr ⟨a, rfl, halts⟩⟩

theorem append {front : List Reply} (goes : ∀ a ∈ front, stops a = false) (rest : Upto stops ideal replies) :
    Upto stops (front.map Reply.request ++ ideal) (front ++ replies) := by
  induction front with
  | nil => exact rest
  | cons a others ih => exact cons a (goes a List.mem_cons_self) (ih fun b mem => goes b (List.mem_cons_of_mem a mem))

theorem weaken (upto : Upto stops ideal replies) (halts : Halts stops replies) (more : List OrchestrationRequest) :
    Upto stops (ideal ++ more) replies :=
  ⟨upto.requests.trans (List.prefix_append ideal more), upto.before, .inr halts⟩

end Upto

/-! ## The requests of each topology -/

namespace OrchestrationRequest

/-- The iteration that a request belongs to. -/
def iteration : OrchestrationRequest → Nat
  | step o => o.iteration
  | checkExit o => o.iteration
  | _ => 0

end OrchestrationRequest

section Ideal

variable (id : String)

def sequenceRequests (indices : List Nat) : List OrchestrationRequest :=
  indices.map fun i => .step { plannerId := id, agentIndex := i }

/-- The condition of each agent, and its step if the condition holds. -/
def conditionalRequests (holds : Nat → Bool) (indices : List Nat) : List OrchestrationRequest :=
  indices.flatMap fun i =>
    .checkCondition { plannerId := id, agentIndex := i } ::
      if holds i then [.step { plannerId := id, agentIndex := i }] else []

/-- A step of each agent; whether the loop is to end is asked after each of them, or after the last one. -/
def passRequests (atEnd : Bool) (indices : List Nat) (iteration : Nat) : List OrchestrationRequest :=
  (indices.flatMap fun i =>
    .step { plannerId := id, agentIndex := i, iteration } ::
      if atEnd then [] else [.checkExit { plannerId := id, iteration }]) ++
    if atEnd then [.checkExit { plannerId := id, iteration }] else []

/-- So many passes, counted from a number on. -/
def loopRequests (atEnd : Bool) (indices : List Nat) (first count : Nat) : List OrchestrationRequest :=
  (List.range' first count).flatMap (passRequests id atEnd indices)

theorem iteration_of_mem_passRequests {atEnd : Bool} {indices : List Nat} {iteration : Nat} {q : OrchestrationRequest}
    (mem : q ∈ passRequests id atEnd indices iteration) : q.iteration = iteration := by
  rcases List.mem_append.mp mem with step | last
  · obtain ⟨i, -, mem⟩ := List.mem_flatMap.mp step
    rcases List.mem_cons.mp mem with rfl | mem
    · rfl
    · split at mem
      · cases mem
      · rw [List.mem_singleton.mp mem]
        rfl
  · split at last
    · rw [List.mem_singleton.mp last]
      rfl
    · cases last

end Ideal

/-- The agents that have had their steps. -/
def executed (replies : List Reply) : List Nat :=
  replies.filterMap fun
    | .step o (.ok _) => some o.agentIndex
    | _ => none

/-- The agents whose conditions do not hold. -/
def omitted (replies : List Reply) : List Nat :=
  replies.filterMap fun
    | .checkCondition o (.ok false) => some o.agentIndex
    | _ => none

/-- The last iteration that a loop has begun: that of the answer that has put an end to it, or the last one of all. -/
def lastIteration (limit : Nat) (replies : List Reply) : Nat :=
  match replies.getLast? with
  | some a => if a.ends then a.request.iteration else limit
  | none => limit

theorem lastIteration_of_halts {limit n : Nat} (halts : Halts Reply.ends replies)
    (all : ∀ q ∈ replies.map Reply.request, q.iteration = n) : lastIteration limit replies = n := by
  obtain ⟨a, last, ends⟩ := halts
  rw [lastIteration, last]
  simp only [ends, if_true]
  exact all _ (List.mem_map_of_mem (List.mem_of_getLast? last))

theorem lastIteration_append {limit : Nat} {front : List Reply} (goes : ∀ a ∈ front, a.ends = false) :
    lastIteration limit (front ++ replies) = lastIteration limit replies := by
  unfold lastIteration
  rw [List.getLast?_append]
  cases replies.getLast? with
  | some a => rfl
  | none =>
    rw [Option.none_or]
    cases last : front.getLast? with
    | none => rfl
    | some a => simp [goes a (List.mem_of_getLast? last)]

end Rendezvous
