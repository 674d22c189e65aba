import Rendezvous.Proofs.Dialogue.Requests

/-!
# The courses of agents one after the other

Whatever the answers are, a sequence, a conditional orchestration and a loop walk through the requests that their
topologies lay down (`Walks.sequence`, `Walks.conditional`, `Walks.loop`).
-/

namespace Rendezvous

set_option autoImplicit false

namespace Drive

variable {Together : List StepOrder → List (StepOrder × Result StepReport) → Prop} {id : String} {p p' : Progress}
  {replies : List Reply} {f : Option Failure}

/-- A sequence asks for a step of each agent. -/
theorem Walks.sequence {indices : List Nat} (walks : Walks Together (sequence id indices) p replies p' f) :
    Upto Reply.failed (sequenceRequests id indices) replies ∧ p'.iteration = p.iteration ∧ p'.skipped = p.skipped := by
  induction indices generalizing p replies with
  | nil =>
    cases walks with
    | finish => exact ⟨.nil, rfl, rfl⟩
  | cons i rest ih =>
    cases walks with
    | step r walks =>
      obtain ⟨upto, iteration, skipped⟩ := ih walks
      exact ⟨.cons (.step _ (.ok r)) rfl upto, iteration, skipped⟩
    | stepFails g => exact ⟨.single (.step _ (.error g)) rfl, rfl, rfl⟩

/-- Steps side by side leave the iteration and the list of those left out alone. -/
theorem Walks.parallel {indices : List Nat} (walks : Walks Together (parallel id indices) p replies p' f) :
    p'.iteration = p.iteration ∧ p'.skipped = p.skipped := by
  cases walks with
  | steps outcomes together all walks =>
    cases walks with
    | finish =>
      rw [Progress.reportAll_eq] at all
      obtain ⟨rfl, -⟩ := Prod.mk.inj all
      exact ⟨rfl, rfl⟩
  | stepsFail g outcomes together all =>
    rw [Progress.reportAll_eq] at all
    obtain ⟨rfl, -⟩ := Prod.mk.inj all
    exact ⟨rfl, rfl⟩

/-! ## Conditions -/

/-- The conditions have been answered in some way, and the requests are as the answers say. -/
def Answered (id : String) (indices : List Nat) (replies : List Reply) : Prop :=
  ∃ holds : Nat → Bool, Upto Reply.failed (conditionalRequests id holds indices) replies ∧
    ∀ o b, .checkCondition o (.ok b) ∈ replies → o.agentIndex ∈ indices ∧ holds o.agentIndex = b

/-- The first condition has been answered, and the other agents come after what follows from that. -/
theorem Answered.cons {i : Nat} {rest : List Nat} (fresh : i ∉ rest) (b : Bool) (run : List Reply)
    (goes : ∀ a ∈ run, a.failed = false)
    (requests : run.map Reply.request = if b then [.step { plannerId := id, agentIndex := i }] else [])
    (tail : Answered id rest replies) :
    Answered id (i :: rest) (.checkCondition { plannerId := id, agentIndex := i } (.ok b) :: (run ++ replies)) := by
  obtain ⟨holds, upto, known⟩ := tail
  have others : conditionalRequests id (Function.update holds i b) rest = conditionalRequests id holds rest := by
    refine List.flatMap_congr fun j mem => ?_
    rw [Function.update_of_ne]
    rintro rfl
    exact fresh mem
  refine ⟨Function.update holds i b, ?_, fun o c mem => ?_⟩
  · have whole := Upto.cons (.checkCondition { plannerId := id, agentIndex := i } (.ok b)) rfl (upto.append goes)
    rw [requests, ← others] at whole
    rw [conditionalRequests, List.flatMap_cons, Function.update_self]
    exact whole
  · rcases List.mem_cons.mp mem with same | later
    · obtain ⟨rfl, ok⟩ := Reply.checkCondition.inj same
      obtain rfl := Except.ok.inj ok
      exact ⟨List.mem_cons_self, Function.update_self _ _ _⟩
    · rcases List.mem_append.mp later with here | later
      · have among := List.mem_map_of_mem (f := Reply.request) here
        rw [requests] at among
        split at among
        · cases List.mem_singleton.mp among
        · cases among
      · obtain ⟨inside, holds'⟩ := known o c later
        refine ⟨List.mem_cons_of_mem i inside, ?_⟩
        rw [Function.update_of_ne, holds']
        rintro same
        exact fresh (same ▸ inside)

/-- The first request of an agent has failed. -/
theorem Answered.single {i : Nat} {rest : List Nat} (g : Failure) :
    Answered id (i :: rest) [.checkCondition { plannerId := id, agentIndex := i } (.error g)] := by
  refine ⟨fun _ => false, .single (.checkCondition _ (.error g)) rfl, fun o b mem => ?_⟩
  cases List.mem_singleton.mp mem

/-- The step of an agent has failed. -/
theorem Answered.pair {i : Nat} {rest : List Nat} (g : Failure) :
    Answered id (i :: rest) [.checkCondition { plannerId := id, agentIndex := i } (.ok true),
      .step { plannerId := id, agentIndex := i } (.error g)] := by
  refine ⟨fun _ => true, .cons (.checkCondition _ (.ok true)) rfl (.single (.step _ (.error g)) rfl), fun o b mem => ?_⟩
  rcases List.mem_cons.mp mem with same | later
  · obtain ⟨rfl, ok⟩ := Reply.checkCondition.inj same
    obtain rfl := Except.ok.inj ok
    exact ⟨List.mem_cons_self, rfl⟩
  · cases List.mem_singleton.mp later

/-- What a conditional orchestration has asked for, whom it has let run, and whom it has left out. -/
structure Conditionally (id : String) (indices : List Nat) (replies : List Reply) (failure : Option Failure) : Prop where
  answered : Answered id indices replies
  executed : (executed replies).Sublist indices
  omitted : (omitted replies).Sublist indices
  all : failure = none → (Rendezvous.executed replies ++ Rendezvous.omitted replies).Perm indices

/-- A conditional orchestration asks for a step of each agent whose condition holds, and leaves out the others. -/
theorem Walks.conditional {indices : List Nat} (distinct : indices.Nodup)
    (walks : Walks Together (conditional id indices) p replies p' f) :
    Conditionally id indices replies f ∧ p'.iteration = p.iteration ∧
      p'.skipped = p.skipped ++ Rendezvous.omitted replies := by
  induction indices generalizing p replies with
  | nil =>
    cases walks with
    | finish =>
      exact ⟨⟨⟨fun _ => false, .nil, nofun⟩, .slnil, .slnil, fun _ => .nil⟩, rfl, (List.append_nil _).symm⟩
  | cons i rest ih =>
    obtain ⟨fresh, distinct⟩ := List.nodup_cons.mp distinct
    cases walks with
    | checkConditionFails g =>
      exact ⟨⟨.single g, List.nil_sublist _, List.nil_sublist _, nofun⟩, rfl, (List.append_nil _).symm⟩
    | checkCondition holds walks =>
      cases holds with
      | false =>
        cases walks with
        | skip walks =>
          obtain ⟨⟨answered, executed, omitted, all⟩, iteration, skipped⟩ := ih distinct walks
          refine ⟨⟨answered.cons fresh false [] nofun rfl, executed.cons i, omitted.cons_cons i, fun none => ?_⟩,
            iteration, skipped.trans (List.append_assoc _ _ _)⟩
          exact List.perm_middle.trans ((all none).cons i)
      | true =>
        cases walks with
        | stepFails g =>
          exact ⟨⟨.pair g, List.nil_sublist _, List.nil_sublist _, nofun⟩, rfl, (List.append_nil _).symm⟩
        | step r walks =>
          obtain ⟨⟨answered, executed, omitted, all⟩, iteration, skipped⟩ := ih distinct walks
          refine ⟨⟨answered.cons fresh true [.step _ (.ok r)] ?_ rfl, executed.cons_cons i, omitted.cons i,
            fun none => (all none).cons i⟩, iteration, skipped⟩
          intro a mem
          rw [List.mem_singleton.mp mem]
          rfl

/-! ## Loops -/

/-- A walk as far as a list of requests goes: an answer puts an end to it, or it goes on after them. -/
inductive Through (Together : List StepOrder → List (StepOrder × Result StepReport) → Prop)
    (requests : List OrchestrationRequest) (next : Drive) (p : Progress) :
    List Reply → Progress → Option Failure → Prop
  | leaves {replies : List Reply} {p' : Progress} {f : Option Failure} (upto : Upto Reply.ends requests replies)
      (halts : Halts Reply.ends replies) (iteration : p'.iteration = p.iteration) (skipped : p'.skipped = p.skipped) :
      Through Together requests next p replies p' f
  | passes (front : List Reply) {rest : List Reply} {q p' : Progress} {f : Option Failure}
      (asked : front.map Reply.request = requests) (goes : ∀ a ∈ front, a.ends = false)
      (iteration : q.iteration = p.iteration) (skipped : q.skipped = p.skipped) (walks : Walks Together next q rest p' f) :
      Through Together requests next p (front ++ rest) p' f

/-- What has been walked through before. -/
theorem Through.prepend {requests : List OrchestrationRequest} {next : Drive} {q : Progress} {front : List Reply}
    (goes : ∀ a ∈ front, a.ends = false) (iteration : q.iteration = p.iteration) (skipped : q.skipped = p.skipped)
    (through : Through Together requests next q replies p' f) :
    Through Together (front.map Reply.request ++ requests) next p (front ++ replies) p' f := by
  cases through with
  | leaves upto halts iteration' skipped' =>
    exact .leaves (upto.append goes) (halts.append front) (iteration'.trans iteration) (skipped'.trans skipped)
  | passes front asked goes' iteration' skipped' walks =>
    rw [← List.append_assoc]
    refine .passes _ ?_ ?_ (iteration'.trans iteration) (skipped'.trans skipped) walks
    · rw [List.map_append, asked]
    · intro a mem
      exact (List.mem_append.mp mem).elim (goes a) (goes' a)

/-- After a question whether the loop is to end, it ends or goes on. -/
theorem Walks.unlessExit {n : Nat} {next : Unit → Drive}
    (walks : Walks Together (unlessExit id n next) p replies p' f) :
    Through Together [.checkExit { plannerId := id, iteration := n }] (next ()) p replies p' f := by
  cases walks with
  | checkExitFails g => exact .leaves (.single (.checkExit _ (.error g)) rfl) ⟨_, rfl, rfl⟩ rfl rfl
  | checkExit holds walks =>
    cases holds with
    | true =>
      cases walks with
      | finish => exact .leaves (.single (.checkExit _ (.ok true)) rfl) ⟨_, rfl, rfl⟩ rfl rfl
    | false =>
      refine .passes [.checkExit _ (.ok false)] rfl (fun a mem => ?_) rfl rfl walks
      rw [List.mem_singleton.mp mem]
      rfl

theorem passRequests_cons (atEnd : Bool) (i : Nat) (rest : List Nat) (n : Nat) :
    passRequests id atEnd (i :: rest) n =
      .step { plannerId := id, agentIndex := i, iteration := n } ::
        ((if atEnd then [] else [.checkExit { plannerId := id, iteration := n }]) ++ passRequests id atEnd rest n) := by
  rw [passRequests, passRequests, List.flatMap_cons, List.cons_append, List.cons_append, List.append_assoc]

/-- A pass goes through the steps of its agents, and through the questions whether the loop is to end. -/
theorem Walks.pass {atEnd : Bool} {n : Nat} {next : Unit → Drive} {indices : List Nat}
    (walks : Walks Together (pass id atEnd n next indices) p replies p' f) :
    Through Together (passRequests id atEnd indices n) (next ()) p replies p' f := by
  induction indices generalizing p replies with
  | nil =>
    cases atEnd with
    | true => exact walks.unlessExit
    | false => exact .passes [] rfl nofun rfl rfl walks
  | cons i rest ih =>
    rw [passRequests_cons]
    cases walks with
    | stepFails g => exact .leaves (.single (.step _ (.error g)) rfl) ⟨_, rfl, rfl⟩ rfl rfl
    | step r walks =>
      have goes : ∀ a ∈ [Reply.step { plannerId := id, agentIndex := i, iteration := n } (.ok r)], a.ends = false := by
        intro a mem
        rw [List.mem_singleton.mp mem]
        rfl
      refine Through.prepend (q := p.report r) goes rfl rfl ?_
      cases atEnd with
      | true => exact ih walks
      | false =>
        have asks : Walks Together (Drive.unlessExit id n fun _ => Drive.pass id false n next rest) _ _ _ _ := walks
        cases asks.unlessExit with
        | leaves upto halts iteration skipped => exact .leaves (upto.weaken halts _) halts iteration skipped
        | passes front asked goes' iteration skipped walks => exact asked ▸ (ih walks).prepend goes' iteration skipped

/-- A loop passes through its agents until an answer puts an end to it, or there are enough passes. -/
theorem Walks.loop {atEnd : Bool} {indices : List Nat} {count first : Nat}
    (walks : Walks Together (loop id atEnd indices count first) p replies p' f) :
    Upto Reply.ends (loopRequests id atEnd indices first count) replies ∧
      p'.iteration = lastIteration (if count = 0 then p.iteration else first + count - 1) replies ∧
      p'.skipped = p.skipped := by
  induction count generalizing p replies first with
  | zero =>
    cases walks with
    | finish => exact ⟨.nil, rfl, rfl⟩
  | succ count ih =>
    cases walks with
    | iteration walks =>
      rw [loopRequests, List.range'_succ, List.flatMap_cons, ← loopRequests]
      cases walks.pass with
      | leaves upto halts iteration skipped =>
        refine ⟨upto.weaken halts _, iteration.trans (lastIteration_of_halts halts fun q mem => ?_).symm, skipped⟩
        exact iteration_of_mem_passRequests id (upto.requests.subset mem)
      | passes front asked goes iteration skipped walks =>
        obtain ⟨upto, last, skipped'⟩ := ih walks
        refine ⟨asked ▸ upto.append goes, ?_, skipped'.trans skipped⟩
        rw [last, lastIteration_append goes]
        congr 1
        by_cases none : count = 0
        · rw [if_pos none, if_neg (Nat.succ_ne_zero count), none, iteration]
          rfl
        · rw [if_neg none, if_neg (Nat.succ_ne_zero count)]
          omega

end Drive
end Rendezvous
