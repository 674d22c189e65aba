import Rendezvous.Proofs.Dialogue.Courses

/-!
# The traces of orchestrations

Whatever an oracle answers, the requests of an orchestration are those of its topology, up to the first answer that puts
an end to it, and then the one that releases the loop; and what it ends with says what has been answered
(`Oracle.traced`).
-/

namespace Rendezvous

set_option autoImplicit false

/-- The requests are those that the topology lays down, up to the first answer that puts an end to them. -/
structure Asked (s : OrchestrationStart) (replies : List Reply) : Prop where
  sequence : s.topology = .sequence →
    Upto Reply.failed (sequenceRequests s.plannerId (List.range s.agentCount)) replies
  /-- The condition of each agent is asked, and its step follows if it holds. -/
  conditional : s.topology = .conditional → ∃ holds : Nat → Bool,
    Upto Reply.failed (conditionalRequests s.plannerId holds (List.range s.agentCount)) replies ∧
      ∀ o b, .checkCondition o (.ok b) ∈ replies → holds o.agentIndex = b
  /-- A loop ends with a failure, when it is told to, or after as many passes as it may have. -/
  loop : s.topology = .loop →
    Upto Reply.ends (loopRequests s.plannerId s.testExitAtLoopEnd (List.range s.agentCount) 1 s.maxIterations) replies
  /-- Agents that have had their steps and agents that have been left out come in order, and without a failure each agent
  is one or the other. -/
  parted : s.topology = .conditional →
    (executed replies).Pairwise (· < ·) ∧ (omitted replies).Pairwise (· < ·) ∧
      (replies.findSome? Reply.failure? = none → (executed replies ++ omitted replies).Perm (List.range s.agentCount))

/-- What an orchestration has asked for before it has released the loop, what the release has come to, and what the
orchestration has ended with. -/
structure Traced (s : OrchestrationStart) (replies : List Reply) (released : Result Unit) (ended : OrchestrationEnd) :
    Prop where
  asked : Asked s replies
  steps : ended.status.completedSteps = replies.filterMap Reply.report?
  iterations : ended.status.currentIteration = if s.topology = .loop then lastIteration s.maxIterations replies else 0
  skipped : ended.status.skipped = if s.topology = .conditional then (omitted replies).map Int.ofNat else []
  /-- Unless the release fails, the orchestration ends with the first failure, or with what its status says. -/
  result : ended.result = released.bind fun _ => (replies.findSome? Reply.failure?).elim
    (.ok {
      plannerId := s.plannerId, topology := s.topology, steps := ended.status.completedSteps
      iterations := ended.status.currentIteration, skipped := ended.status.skipped }) .error

/-- Whatever comes of steps side by side, a course asks for what its topology lays down. -/
theorem Drive.Walks.asked {Together : List StepOrder → List (StepOrder × Result StepReport) → Prop}
    {s : OrchestrationStart} {replies : List Reply} {p : Progress} {f : Option Failure}
    (walks : Walks Together (Drive.of s) {} replies p f) :
    Asked s replies ∧ p.iteration = (if s.topology = .loop then lastIteration s.maxIterations replies else 0) ∧
      p.skipped = if s.topology = .conditional then omitted replies else [] := by
  have failure := walks.failure_eq
  obtain ⟨id, topology, count, limit, atEnd⟩ := s
  cases topology with
  | sequence =>
    obtain ⟨upto, iteration, skipped⟩ := Drive.Walks.sequence walks
    exact ⟨⟨fun _ => upto, nofun, nofun, nofun⟩, iteration, skipped⟩
  | parallel =>
    obtain ⟨iteration, skipped⟩ := Drive.Walks.parallel walks
    exact ⟨⟨nofun, nofun, nofun, nofun⟩, iteration, skipped⟩
  | conditional =>
    obtain ⟨⟨⟨holds, upto, known⟩, executed, omitted, all⟩, iteration, skipped⟩ :=
      Drive.Walks.conditional List.nodup_range walks
    refine ⟨⟨nofun, fun _ => ⟨holds, upto, fun o b mem => (known o b mem).2⟩, nofun, fun _ => ⟨?_, ?_, ?_⟩⟩,
      iteration, skipped⟩
    · exact List.pairwise_lt_range.sublist executed
    · exact List.pairwise_lt_range.sublist omitted
    · rw [failure]
      exact all
  | loop =>
    obtain ⟨upto, iteration, skipped⟩ := Drive.Walks.loop walks
    refine ⟨⟨nofun, nofun, fun _ => upto, nofun⟩, iteration.trans ?_, skipped⟩
    rw [Nat.add_sub_cancel_left]
    by_cases none : limit = 0
    · rw [if_pos none, none]
      rfl
    · rw [if_neg none]
      rfl

/-- However the drive has gone, the release of the loop is the last request. -/
theorem Oracle.orchestrate_run (oracle : Oracle) (s : OrchestrationStart) {replies : List Reply} {p : Progress}
    {f : Option Failure} (runs : ((Drive.of s).run oracle.activities {}).run [] = ((p, f), replies)) :
    let released := oracle.complete replies s.plannerId
    let ended := ((orchestrate oracle.activities s).run []).1
    ((orchestrate oracle.activities s).run []).2 = replies ++ [.complete s.plannerId released] ∧
      ended.status = p.status s (if f.isSome then .failed else .completed) (f.map Failure.message) ∧
      ended.result = released.bind fun _ => f.elim (.ok (p.result s)) .error := by
  have drives (rest : Progress × Option Failure → StateM (List Reply) OrchestrationEnd) :
      ((Drive.of s).run oracle.activities {} >>= rest).run [] = (rest (p, f)).run replies := Oracle.bind_run runs rest
  have completes (status : OrchestrationStatus) (same : status.plannerId = s.plannerId) :
      oracle.activities.complete status replies = (oracle.complete replies s.plannerId,
        replies ++ [.complete s.plannerId (oracle.complete replies s.plannerId)]) := by
    rw [← same]
    rfl
  cases f with
  | none =>
    have run : (orchestrate oracle.activities s).run [] = _ :=
      (drives _).trans (Oracle.bind_run (completes (p.status s .completed none) rfl) _)
    rw [run]
    cases oracle.complete replies s.plannerId <;> exact ⟨rfl, rfl, rfl⟩
  | some h =>
    have run : (orchestrate oracle.activities s).run [] = _ :=
      (drives _).trans (Oracle.bind_run (completes (p.status s .failed (some h.message)) rfl) _)
    rw [run]
    cases oracle.complete replies s.plannerId <;> exact ⟨rfl, rfl, rfl⟩

/-- What orchestrations of all topologies ask for, whatever they are answered. -/
theorem Oracle.traced (oracle : Oracle) (s : OrchestrationStart) :
    ∃ replies released, ((orchestrate oracle.activities s).run []).2 = replies ++ [.complete s.plannerId released] ∧
      Traced s replies released ((orchestrate oracle.activities s).run []).1 := by
  obtain ⟨replies, p, f, runs, walks⟩ :=
    @Drive.run_walks (fun _ _ => True) oracle (fun _ _ => trivial) (Drive.of s) {} []
  rw [List.nil_append] at runs
  obtain ⟨last, status, result⟩ := oracle.orchestrate_run s runs
  obtain ⟨asked, iterations, skipped⟩ := walks.asked
  refine ⟨replies, _, last, asked, ?_, ?_, ?_, ?_⟩
  · rw [status]
    exact walks.steps_eq
  · rw [status]
    show Int.ofNat p.iteration = _
    rw [iterations]
    split <;> rfl
  · rw [status]
    show p.skipped.map Int.ofNat = _
    rw [skipped]
    split <;> rfl
  · rw [result, walks.failure_eq, status]
    rfl

end Rendezvous
