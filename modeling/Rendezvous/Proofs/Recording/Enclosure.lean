import Rendezvous.Proofs.Recording.Lives

/-!
# Nested runs enclose their agents' turns

An agent has its turn while its activity waits (`Ensemble.Reachable.waiting_of_running`), on a thread that is bound to
the run of the step.  So the events of its calls are raised for that run, after its scheduling and before the event
that ends it, and whatever leaves have done is told of their runs (`Scene.Played`), in whatever context the composite
has been invoked.

Outside of executions all calls are routed (`Scene.Reaches.enclosed`).  Unless the composite is parallel, there is one
run at most between its scheduling and the event that ends it.
-/

namespace Rendezvous

set_option autoImplicit false

/-! ## Turns and activities -/

namespace Ensemble

/-- Whoever has a turn has been submitted by a step activity, which waits. -/
theorem Reachable.waiting_of_running {β σ : Type} {e : Ensemble β σ} {s : e.Stage} (reach : Reachable s)
    {batch : List e.Turn} (at_ : s.loop = .running batch) {t : e.Turn} (mem : t ∈ batch) :
    ∃ (i : Nat) (step : OpenStep), s.errands[i]? = some (.waiting step) ∧
      t.submission.run = some step.order.runId := by
  have tally := reach.counted.tally
  rw [at_] at tally
  have inTurn : t.submission.slot ∈ s.planner.inTurn := by
    rw [tally.2.1]
    exact List.mem_map_of_mem mem
  have held : t.submission.slot ∈ s.held :=
    List.mem_append_left _ (List.mem_append_left _ (List.mem_append_left _ inTurn))
  obtain ⟨step, there, slot⟩ := reach.tended.waited ((reach.ledger.pending _).mpr held)
  obtain ⟨sub, submitted, run, -⟩ := reach.recorded.sound there
  have turn : t.submission ∈ s.loop.batch := by
    rw [at_]
    exact List.mem_map_of_mem mem
  have same := reach.recorded.batch turn
  rw [← slot, submitted] at same
  obtain rfl := Option.some.inj same
  obtain ⟨i, there⟩ := List.mem_iff_getElem?.mp there
  exact ⟨i, step, there, run⟩

end Ensemble

namespace Scene

open Ensemble

variable {κ : Type} {c : Company κ} {caller : Context} {s t : Scene c}

/-! ## Turns -/

/-- Whether the calls of a turn are routed: not if its agent is a batch of its own and the composite has been invoked
by the execution of a call. -/
def Routed (caller : Context) (s : Scene c) (sub : Submission Nat) : Prop := caller.guarded = true → [sub] ∉ s.batches

/-- Whatever leaves have done is told of their runs. -/
structure Played (caller : Context) (s : Scene c) : Prop where
  batches : s.batches.flatten.Perm (s.site.stage.turns.map (·.submission))
  running : ∀ batch, s.site.stage.loop = .running batch → batch.map (·.submission) ∈ s.batches
  plays : ∀ u ∈ s.site.stage.turns, ∀ p q, u.player? = some (p, q) → ∀ x, u.submission.run = some x →
    Player.Plays (Routed caller s u.submission) x (Deed.calls x s.chronicle.log) q
  retired : ∀ u ∈ s.site.stage.retired, ∀ p q, u.player? = some (p, q) → ∃ r, q.place = .ready (.done r)
  silent : ∀ x, Own c.id x → some x ∉ s.site.stage.turns.map (·.submission.run) → Deed.calls x s.chronicle.log = []

/-- The run of a turn is that of a step. -/
theorem own_of_turn (placed : Placed s.site.stage) (named : Named s) {u : c.ensemble.Turn}
    (mem : u ∈ s.site.stage.turns) :
    ∃ o ∈ s.site.stage.orders, u.submission.run = some o.runId ∧ Own c.id o.runId := by
  obtain ⟨o, known, run, -⟩ := placed.cast _ (List.mem_append_left _ (List.mem_map_of_mem mem))
  exact ⟨o, known, run, own_runId (named o known)⟩

/-- No two turns have the same run. -/
theorem turns_nodup {stage : c.ensemble.Stage} (placed : Placed stage) :
    (stage.turns.map (·.submission.run)).Nodup := by
  have once := (List.nodup_append.mp placed.once).1
  rw [Stage.cast, List.map_append, List.map_map] at once
  exact (List.nodup_append.mp once).1

theorem turn_eq_of_run {stage : c.ensemble.Stage} (placed : Placed stage) {u u' : c.ensemble.Turn}
    (mem : u ∈ stage.turns) (mem' : u' ∈ stage.turns) (same : u.submission.run = u'.submission.run) : u = u' :=
  List.inj_on_of_nodup_map (turns_nodup placed) mem mem' same

/-- Nothing but events of calls, and turns that begin, changes what is told of the calls of turns. -/
theorem Played.of_turns (played : Played caller s) (placed : Placed s.site.stage) (named : Named s)
    (turns : t.site.stage.turns.Perm s.site.stage.turns)
    (running : ∀ batch, t.site.stage.loop = .running batch → s.site.stage.loop = .running batch)
    (retired : ∀ u ∈ t.site.stage.retired, u ∈ s.site.stage.retired ∨
      ∀ p q, u.player? = some (p, q) → ∃ r, q.place = .ready (.done r))
    (batches : t.batches = s.batches)
    (calls : ∀ x, Own c.id x → Deed.calls x t.chronicle.log = Deed.calls x s.chronicle.log) : Played caller t := by
  refine ⟨?_, ?_, ?_, ?_, ?_⟩
  · rw [batches]
    exact played.batches.trans (turns.map _).symm
  · rw [batches]
    exact fun batch at_ => played.running batch (running batch at_)
  · intro u mem p q leaf x run
    have mem := turns.mem_iff.mp mem
    obtain ⟨o, -, run', own⟩ := own_of_turn placed named mem
    rw [run] at run'
    rw [Routed, batches, calls x (Option.some.inj run' ▸ own)]
    exact played.plays u mem p q leaf x run
  · intro u mem p q leaf
    rcases retired u mem with old | new
    · exact played.retired u old p q leaf
    · exact new p q leaf
  · intro x own none
    rw [calls x own]
    exact played.silent x own fun mem => none ((turns.map _).mem_iff.mpr mem)

/-- The batch that runs is not empty. -/
theorem batch_ne_nil {stage : c.ensemble.Stage} (counted : Counted stage) {batch : List c.ensemble.Turn}
    (at_ : stage.loop = .running batch) : batch ≠ [] := by
  have tally := counted.tally
  rw [at_] at tally
  exact tally.1

/-- A loop that is at no turns runs no batch. -/
theorem called_of_turns {stage : c.ensemble.Stage} (counted : Counted stage) (none : stage.loop.turns = [])
    (batches : List (List (Submission Nat))) :
    called batches stage.loop = batches ∧ ∀ batch, stage.loop ≠ .running batch := by
  cases at_ : stage.loop with
  | running batch =>
    rw [at_] at none
    exact absurd none (batch_ne_nil counted at_)
  | _ => exact ⟨rfl, nofun⟩

/-- A leaf whose turn is over has come to the end of its script. -/
theorem place_of_outcomes {batch : List c.ensemble.Turn} {outcomes : List (Result Value)}
    (all : outcomes? batch = some outcomes) {u : c.ensemble.Turn} (mem : u ∈ batch) {p : Player κ}
    {q : Player.State κ} (leaf : u.player? = some (p, q)) : ∃ r, q.place = .ready (.done r) := by
  have results := outcomes?_eq_some_iff.mp all
  have among : u.result? ∈ outcomes.map some := by
    rw [← results]
    exact List.mem_map_of_mem mem
  obtain ⟨r, -, result⟩ := List.mem_map.mp among
  have result : q.result? = some r := (Member.result?_eq leaf).symm.trans result.symm
  unfold Player.State.result? at result
  split at result
  · rename_i r' place
    exact ⟨r', place⟩
  · cases result

/-- A batch has been found in the queue, and its turns begin. -/
theorem Played.call {stage : c.ensemble.Stage} {run : Option String} {batch : List (Submission Nat)}
    (played : Played caller s) (placed : Placed s.site.stage)
    (placed' : Placed stage) (named' : ∀ o ∈ stage.orders, o.plannerId = c.id) (none : s.site.stage.loop.turns = [])
    (loop : stage.loop = .running (batch.map (Turn.of c.ensemble))) (retired : stage.retired = s.site.stage.retired)
    (queue : Planner.turnsOf s.site.stage.planner.queue = batch) :
    Played caller { s with site := { stage, run }, batches := called s.batches stage.loop } := by
  have back : (batch.map (Turn.of c.ensemble)).map (·.submission) = batch := by
    rw [List.map_map]
    exact List.map_id'' (fun _ => rfl) _
  have batches : called s.batches stage.loop = s.batches ++ [batch] := by
    rw [loop, called, back]
  have before : s.site.stage.turns = s.site.stage.retired := by rw [Stage.turns, none, List.nil_append]
  have after : stage.turns = batch.map (Turn.of c.ensemble) ++ s.site.stage.retired := by
    rw [Stage.turns, loop, retired, Loop.turns]
  -- nobody has a second turn
  have new : ∀ u ∈ s.site.stage.turns, ∀ sub ∈ batch, u.submission.run ≠ sub.run := by
    have once := (List.nodup_append.mp placed.once).1
    rw [Stage.cast, queue, List.map_append, List.map_map] at once
    exact fun u mem sub among =>
      (List.nodup_append.mp once).2.2 _ (List.mem_map_of_mem mem) _ (List.mem_map_of_mem among)
  rw [batches]
  refine ⟨?_, ?_, ?_, ?_, ?_⟩
  · show (s.batches ++ [batch]).flatten.Perm (stage.turns.map (·.submission))
    rw [after, List.map_append, back, List.flatten_append, List.flatten_singleton, ← before]
    exact (played.batches.append_right batch).trans List.perm_append_comm
  · intro batch' at_
    have at_ : stage.loop = .running batch' := at_
    obtain rfl := Loop.running.inj (loop.symm.trans at_)
    exact List.mem_append_right _ (List.mem_singleton.mpr back)
  · intro u mem p q leaf x own
    have mem : u ∈ stage.turns := mem
    have mem' := mem
    rw [after] at mem
    rcases List.mem_append.mp mem with now | old
    · obtain ⟨sub, among, rfl⟩ := List.mem_map.mp now
      obtain rfl := Member.player?_start leaf
      obtain ⟨o, -, run, named⟩ := own_of_turn (s := { s with site := { stage, run } }) placed' named' mem'
      rw [own] at run
      have silent := played.silent x (Option.some.inj run ▸ named) fun known => by
        obtain ⟨u, mem, same⟩ := List.mem_map.mp known
        exact new u mem sub among (same.trans own.symm)
      rw [silent]
      exact .start ..
    · have known : u ∈ s.site.stage.turns := before ▸ old
      have routed : Routed caller s u.submission ↔ (caller.guarded = true → [u.submission] ∉ s.batches ++ [batch]) := by
        refine forall_congr' fun _ => not_congr ?_
        rw [List.mem_append, List.mem_singleton]
        refine (or_iff_left fun alone => ?_).symm
        exact new u known u.submission (alone ▸ List.mem_singleton_self _) rfl
      have plays := played.plays u known p q leaf x own
      rw [propext routed] at plays
      exact plays
  · intro u mem
    have mem : u ∈ stage.retired := mem
    exact played.retired u (retired ▸ mem)
  · intro x own none'
    refine played.silent x own fun mem => none' ?_
    show some x ∈ stage.turns.map (·.submission.run)
    rw [after, List.map_append, ← before]
    exact List.mem_append_right _ mem

theorem Played.loop {stage : c.ensemble.Stage} {run : Option String} (played : Played caller s)
    (placed : Placed s.site.stage) (named : Named s) (counted : Counted stage)
    (placed' : Placed stage) (named' : ∀ o ∈ stage.orders, o.plannerId = c.id)
    (step : LoopStep s.site.stage stage) :
    Played caller { s with site := { stage, run }, batches := called s.batches stage.loop } := by
  rcases step.turns_cases with ⟨none', none, retired⟩ | ⟨batch, none, loop, retired, queue⟩ |
    ⟨batch, outcomes, loop, none', retired, all⟩
  · obtain ⟨batches, idle⟩ := called_of_turns counted none' s.batches
    refine played.of_turns placed named (.of_eq ?_) (fun batch at_ => absurd at_ (idle batch)) ?_ batches fun _ _ => rfl
    · show stage.turns = s.site.stage.turns
      rw [Stage.turns, none', retired, Stage.turns, none]
    · intro u mem
      have mem : u ∈ stage.retired := mem
      exact .inl (retired ▸ mem)
  · exact played.call placed placed' named' none loop retired queue
  · obtain ⟨batches, idle⟩ := called_of_turns counted none' s.batches
    refine played.of_turns placed named ?_ (fun batch at_ => absurd at_ (idle batch)) ?_ batches fun _ _ => rfl
    · show stage.turns.Perm s.site.stage.turns
      rw [Stage.turns, none', retired, Stage.turns, loop, List.nil_append]
      exact List.perm_append_comm
    · intro u mem
      have mem : u ∈ stage.retired := mem
      rw [retired] at mem
      rcases List.mem_append.mp mem with old | new
      · exact .inl old
      · exact .inr fun p q leaf => place_of_outcomes all new leaf

/-! ## Step by step -/

/-- What is known of a scene at any point. -/
structure Kept (caller : Context) (s : Scene c) : Prop where
  named : s.site.stage.loop = .unnamed ∨ s.site.stage.planner.plan.id = c.id
  told : Told s
  played : Played caller s

theorem Kept.orders {stage : c.ensemble.Stage} (reach : Reachable stage)
    (named : stage.loop = .unnamed ∨ stage.planner.plan.id = c.id) : ∀ o ∈ stage.orders, o.plannerId = c.id := by
  rcases named with early | named
  · rw [reach.numbered.before (reach.tended.early (.inl early))]
    nofun
  · exact fun o mem => (reach.numbered.own o mem).1.trans named

/-- Two batches with an agent in common are the same. -/
theorem Played.batch_unique (played : Played caller s) (placed : Placed s.site.stage)
    {batch batch' : List (Submission Nat)} (mem : batch ∈ s.batches) (mem' : batch' ∈ s.batches) {sub : Submission Nat}
    (here : sub ∈ batch) (here' : sub ∈ batch') : batch = batch' := by
  have once : s.batches.flatten.Nodup := by
    have once := (List.nodup_append.mp (List.nodup_append.mp placed.once).1.of_map).1
    exact played.batches.nodup_iff.mpr once
  have symm : Std.Symm (@List.Disjoint (Submission Nat)) := ⟨fun _ _ apart => apart.symm⟩
  by_contra other
  exact (List.nodup_flatten.mp once).2.forall mem mem' other here here'

/-- The calls of a turn are routed unless its thread is inside of the execution of a call. -/
theorem Played.routed_iff {batch : List c.ensemble.Turn} {u : c.ensemble.Turn} (played : Played caller s)
    (placed : Placed s.site.stage) (at_ : s.site.stage.loop = .running batch) (mem : u ∈ batch) (run : Option String) :
    (hostContext caller batch.length run).guarded = false ↔ Routed caller s u.submission := by
  have running := played.running batch at_
  have here : u.submission ∈ batch.map (·.submission) := List.mem_map_of_mem mem
  by_cases one : batch.length = 1
  · obtain ⟨only, rfl⟩ := List.length_eq_one_iff.mp one
    obtain rfl := List.mem_singleton.mp mem
    have guarded : (hostContext caller 1 run).guarded = caller.guarded := by rw [hostContext, if_pos rfl]
    rw [one, guarded, ← Bool.not_eq_true]
    exact ⟨fun unguarded guard => absurd guard unguarded, fun routed guard => routed guard running⟩
  · have guarded : (hostContext caller batch.length run).guarded = false := by rw [hostContext, if_neg one]
    refine iff_of_true guarded fun _ alone => one ?_
    have same := played.batch_unique placed alone running (List.mem_singleton_self _) here
    rw [← List.length_map (·.submission), ← same, List.length_singleton]

/-- A turn goes on; what is told of the other turns stays as it is. -/
theorem Played.of_turn {u new : c.ensemble.Turn} {o : StepOrder} (played : Played caller s)
    (placed : Placed s.site.stage) (named : Named s) (placed' : Placed t.site.stage)
    (mem : u ∈ s.site.stage.turns) (mem' : new ∈ t.site.stage.turns) (same : new.submission = u.submission)
    (turns : t.site.stage.turns.map (·.submission) = s.site.stage.turns.map (·.submission))
    (known : ∀ v ∈ t.site.stage.turns, v = new ∨ v ∈ s.site.stage.turns)
    (running : ∀ batch, t.site.stage.loop = .running batch → batch.map (·.submission) ∈ s.batches)
    (retired : ∀ v ∈ t.site.stage.retired, v ∈ s.site.stage.retired ∨ v.player? = none)
    (batches : t.batches = s.batches) (run : u.submission.run = some o.runId)
    (others : ∀ x, Own c.id x → x ≠ o.runId → Deed.calls x t.chronicle.log = Deed.calls x s.chronicle.log)
    (here : ∀ p a, new.player? = some (p, a) →
      Player.Plays (Routed caller s u.submission) o.runId (Deed.calls o.runId t.chronicle.log) a) :
    Played caller t := by
  refine ⟨?_, ?_, ?_, ?_, ?_⟩
  · rw [batches, turns]
    exact played.batches
  · rw [batches]
    exact running
  · intro v among p a leaf x run'
    rw [Routed, batches]
    by_cases it : x = o.runId
    · subst it
      obtain rfl := turn_eq_of_run placed' among mem' (run'.trans (run.symm.trans (congrArg _ same.symm)))
      rw [same]
      exact here p a leaf
    · rcases known v among with rfl | old
      · rw [same, run] at run'
        exact absurd (Option.some.inj run').symm it
      · obtain ⟨o', -, run'', own⟩ := own_of_turn placed named old
        rw [run'] at run''
        rw [others x (Option.some.inj run'' ▸ own) it]
        exact played.plays v old p a leaf x run'
  · intro v among p q leaf
    rcases retired v among with old | none
    · exact played.retired v old p q leaf
    · cases none.symm.trans leaf
  · intro x own none
    have runs : t.site.stage.turns.map (·.submission.run) = s.site.stage.turns.map (·.submission.run) := by
      have runs := congrArg (List.map (·.run)) turns
      rwa [List.map_map, List.map_map] at runs
    rw [runs] at none
    have other : x ≠ o.runId := by
      rintro rfl
      exact none (List.mem_map.mpr ⟨u, mem, run⟩)
    rw [others x own other]
    exact played.silent x own none

/-- A turn of the batch goes on. -/
theorem Played.of_perform {batch : List c.ensemble.Turn} {u : c.ensemble.Turn} {o : StepOrder}
    {q : (c.ensemble.behaviour u.submission.agent).State} {b : Chronicle} {j : Nat}
    (played : Played caller s) (placed : Placed s.site.stage) (named : Named s)
    (at_ : s.site.stage.loop = .running batch) (there : batch[j]? = some u) (run : u.submission.run = some o.runId)
    (others : ∀ x, Own c.id x → x ≠ o.runId → Deed.calls x b.log = Deed.calls x s.chronicle.log)
    (here : ∀ p a, Turn.player? ⟨u.submission, q⟩ = some (p, a) →
      Player.Plays (Routed caller s u.submission) o.runId (Deed.calls o.runId b.log) a) :
    Played caller { s with
      site := { s.site with stage := { s.site.stage with loop := .running (batch.set j ⟨u.submission, q⟩) } }
      chronicle := b } := by
  have before : s.site.stage.turns = batch ++ s.site.stage.retired := by rw [Stage.turns, at_, Loop.turns]
  have submissions := map_submission_set there q
  let stage : c.ensemble.Stage := { s.site.stage with loop := .running (batch.set j ⟨u.submission, q⟩) }
  have turns : stage.turns.map (·.submission) = s.site.stage.turns.map (·.submission) := by
    rw [before, List.map_append, ← submissions]
    exact List.map_append
  have inside := (List.getElem?_eq_some_iff.mp there).1
  have mem : u ∈ s.site.stage.turns := by
    rw [before]
    exact List.mem_append_left _ (List.mem_of_getElem? there)
  refine played.of_turn placed named (placed.of_turns turns rfl rfl rfl) mem
    (List.mem_append_left _ (List.mem_set inside _)) rfl turns ?_ ?_ (fun _ => .inl) rfl run others here
  · intro v mem
    rw [before]
    rcases List.mem_append.mp mem with running | retired
    · rcases List.mem_or_eq_of_mem_set running with old | now
      · exact .inr (List.mem_append_left _ old)
      · exact .inl now
    · exact .inr (List.mem_append_right _ retired)
  · intro batch' at_'
    obtain rfl := Loop.running.inj at_'
    exact submissions.symm ▸ played.running batch at_

/-- Whoever is at a turn of the batch does so on a thread that is bound to the run of a step, whose activity waits. -/
theorem Reaches.hosted {batch : List c.ensemble.Turn} {u : c.ensemble.Turn} {run : Option String} {j : Nat}
    (reaches : Reaches caller s) (at_ : s.site.stage.loop = .running batch) (there : batch[j]? = some u)
    (hosts : s.site.Hosts run j u) : ∃ (i : Nat) (step : OpenStep), s.site.stage.errands[i]? = some (.waiting step) ∧
      u.submission.run = some step.order.runId ∧
      (hostContext caller batch.length run).run = some step.order.runId := by
  obtain ⟨i, step, waits, own⟩ := reaches.on_stage.waiting_of_running at_ (List.mem_of_getElem? there)
  refine ⟨i, step, waits, own, ?_⟩
  unfold hostContext
  split <;> exact reaches.bound.hosts hosts own

/-- A turn of the batch goes on, on a thread that is bound to its run, while its activity waits. -/
theorem Kept.perform {batch : List c.ensemble.Turn} {u : c.ensemble.Turn} {run : Option String}
    {q : (c.ensemble.behaviour u.submission.agent).State} {ctx : Context} {b : Chronicle} {j : Nat}
    (kept : Kept caller s) (reaches : Reaches caller s) (at_ : s.site.stage.loop = .running batch)
    (there : batch[j]? = some u) (hosts : s.site.Hosts run j u)
    (moves : (c.ensemble.behaviour u.submission.agent).Step u.state
      (hostContext caller batch.length run, s.chronicle) q (ctx, b)) :
    Told { s with
        site := { s.site with stage := { s.site.stage with loop := .running (batch.set j ⟨u.submission, q⟩) } }
        chronicle := b } ∧
    Played caller { s with
        site := { s.site with stage := { s.site.stage with loop := .running (batch.set j ⟨u.submission, q⟩) } }
        chronicle := b } := by
  have reach := reaches.on_stage
  have placed := reach.placed
  have named : Named s := Kept.orders reach kept.named
  have told := kept.told
  have played := kept.played
  have among := List.mem_of_getElem? there
  have mem : u ∈ s.site.stage.turns := hosts.mem
  obtain ⟨i, step, waits, own, bound⟩ := reaches.hosted at_ there hosts
  have known := placed.errands _ (List.mem_of_getElem? waits)
  rcases Member.step_cases (fun B other => c.apart other) moves with
    ⟨p, a, a', leaf, leaf', moves⟩ | ⟨none, none', apart⟩
  · have plays := played.plays u mem p a leaf _ own
    have stands := told.stands _ (List.mem_of_getElem? waits)
    have live : step.order.runId ∈ s.chronicle.live :=
      (told.registry _ (own_runId (named _ known))).mpr stands.begun_of.there
    have goesOn := moves.plays bound live (played.routed_iff placed at_ among run) plays
    obtain ⟨-, -, frame⟩ := moves.frame bound plays.at_
    have others (x : String) (other : x ≠ step.order.runId) :
        Deed.about x b.log = Deed.about x s.chronicle.log := by
      rcases frame with ⟨⟨scope, rfl⟩, -⟩ | ⟨event, taken, -, rfl, -⟩
      · rfl
      · exact Chronicle.about_note_of_ne (Ne.symm other)
    constructor
    · rcases frame with ⟨⟨scope, rfl⟩, -⟩ | ⟨event, taken, call, rfl, -⟩
      · exact told.apart named rfl rfl rfl (.scope ..) placed
      · have same : s.site.stage.errands.set i (.waiting step) = s.site.stage.errands := by
          obtain ⟨inside, there⟩ := List.getElem?_eq_some_iff.mp waits
          rw [← there]
          exact List.set_getElem_self inside
        refine told.replace named placed waits same.symm rfl rfl (fun _ _ => rfl) (fun x other _ => others x other) ?_
          (told.registry.note _)
        exact (s.chronicle.about_note_self ⟨step.order.runId, .raised event taken, 0⟩).symm ▸ stands.event call taken
    · refine played.of_perform placed named at_ there own ?_ ?_
      · intro x _ other
        rw [Deed.calls, others x other, Deed.calls]
      · intro p' a'' leaf''
        cases leaf'.symm.trans leaf''
        exact goesOn
  · constructor
    · exact told.apart named rfl rfl rfl apart placed
    · refine played.of_perform placed named at_ there own (fun x own _ => apart.calls own) ?_
      intro p a leaf
      cases none'.symm.trans leaf

/-- What is left of a turn that is over leaves the runs of the steps alone. -/
theorem Kept.linger {u : c.ensemble.Turn} {q : (c.ensemble.behaviour u.submission.agent).State}
    {ctx ctx' : Context} {b : Chronicle} {i : Nat} (kept : Kept caller s) (reach : Reachable s.site.stage)
    (there : s.site.stage.retired[i]? = some u)
    (moves : (c.ensemble.behaviour u.submission.agent).Step u.state (ctx, s.chronicle) q (ctx', b)) :
    Told { s with
        site := { s.site with stage := { s.site.stage with retired := s.site.stage.retired.set i ⟨u.submission, q⟩ } }
        chronicle := b } ∧
    Played caller { s with
        site := { s.site with stage := { s.site.stage with retired := s.site.stage.retired.set i ⟨u.submission, q⟩ } }
        chronicle := b } := by
  have placed := reach.placed
  have named : Named s := Kept.orders reach kept.named
  have among := List.mem_of_getElem? there
  have mem : u ∈ s.site.stage.turns := List.mem_append_right _ among
  rcases Member.step_cases (fun B other => c.apart other) moves with ⟨p, a, a', leaf, -, moves⟩ | ⟨-, none', apart⟩
  · obtain ⟨r, place⟩ := kept.played.retired u among p a leaf
    exact absurd place moves.not_done
  · obtain ⟨o, -, run, -⟩ := own_of_turn placed named mem
    let stage : c.ensemble.Stage :=
      { s.site.stage with retired := s.site.stage.retired.set i ⟨u.submission, q⟩ }
    have turns : stage.turns.map (·.submission) = s.site.stage.turns.map (·.submission) := by
      have before : s.site.stage.turns = s.site.stage.loop.turns ++ s.site.stage.retired := rfl
      rw [before, List.map_append, ← map_submission_set there q]
      exact List.map_append
    have inside := (List.getElem?_eq_some_iff.mp there).1
    refine ⟨kept.told.apart named rfl rfl rfl apart placed, ?_⟩
    refine kept.played.of_turn placed named (placed.of_turns turns rfl rfl rfl) mem
      (List.mem_append_right _ (List.mem_set inside _)) rfl turns ?_ kept.played.running ?_ rfl run
      (fun x own _ => apart.calls own) ?_
    · intro v mem
      rcases List.mem_append.mp mem with running | retired
      · exact .inr (List.mem_append_left _ running)
      · rcases List.mem_or_eq_of_mem_set retired with old | now
        · exact .inr (List.mem_append_right _ old)
        · exact .inl now
    · intro v mem
      rcases List.mem_or_eq_of_mem_set mem with old | rfl
      · exact .inl old
      · exact .inr none'
    · intro p a leaf
      cases none'.symm.trans leaf

theorem Step.named (step : Step caller s t)
    (named : s.site.stage.loop = .unnamed ∨ s.site.stage.planner.plan.id = c.id) :
    t.site.stage.loop = .unnamed ∨ t.site.stage.planner.plan.id = c.id := by
  cases step with
  | loop quiet step names =>
    by_cases unnamed : s.site.stage.loop = .unnamed
    · exact .inr (names unnamed)
    · have plan := step.plan_frame.resolve_right unnamed
      exact .inr (plan.symm ▸ named.resolve_left unnamed)
  | flow step =>
    obtain ⟨loop, -, -, -, -, -, -, planner⟩ := step.frame
    refine named.imp loop.trans fun id => ?_
    rcases planner with same | complete
    · exact same.symm ▸ id
    · exact complete.symm ▸ id
  | errand i there aloof moves =>
    rcases moves.frame with rfl | ⟨o, agent, -, rfl, -⟩ <;> exact named
  | pool step still => exact still.symm ▸ named
  | perform j at_ there hosts moves =>
    refine .inr (named.resolve_left fun unnamed => ?_)
    cases at_.symm.trans unnamed
  | _ => exact named

theorem Played.deal (played : Played caller s) (placed : Placed s.site.stage) (named : Named s) (o : StepOrder)
    {what : Doing} (m : c.Mark) (other : what.isCall = false) : Played caller (s.deal o what m) :=
  played.of_turns placed named (.refl _) (fun _ at_ => at_) (fun _ => .inl) rfl fun _ _ =>
    Chronicle.calls_note_of_not_call other

theorem Played.move (played : Played caller s) (i : Nat) (a : Errand Nat) : Played caller (s.move i a) :=
  ⟨played.batches, played.running, played.plays, played.retired, played.silent⟩

theorem Played.mark (played : Played caller s) (o : StepOrder) (m : c.Mark) : Played caller (s.mark o m) :=
  ⟨played.batches, played.running, played.plays, played.retired, played.silent⟩

/-- What is known of a scene is known after a step. -/
theorem Kept.step (kept : Kept caller s) (reaches : Reaches caller s) (step : Step caller s t) : Kept caller t := by
  have reach := reaches.on_stage
  have after := (reaches.step step).on_stage
  have named' := step.named kept.named
  have placed := reach.placed
  have named : Named s := Kept.orders reach kept.named
  have told := kept.told
  have played := kept.played
  suffices Told t ∧ Played caller t from ⟨named', this.1, this.2⟩
  cases step with
  | loop quiet step names =>
    refine ⟨told.apart named step.slots_frame.1 step.orders_frame rfl (.refl ..) placed, ?_⟩
    exact played.loop placed named after.counted after.placed (Kept.orders after named') step
  | flow step =>
    obtain ⟨loop, -, -, -, -, retired, -⟩ := step.frame
    refine ⟨told.flow step (Kept.orders after named') after.numbered, ?_⟩
    refine played.of_turns placed named (.of_eq ?_) ?_ ?_ rfl fun _ _ => rfl
    · rw [Stage.turns, loop, retired, Stage.turns]
    · exact fun batch at_ => loop.symm.trans at_
    · exact fun u mem => .inl (retired ▸ mem)
  | errand i there aloof moves =>
    refine ⟨told.errand named placed there aloof moves, ?_⟩
    rcases moves.frame with rfl | ⟨o, agent, -, rfl, -⟩
    · exact ⟨played.batches, played.running, played.plays, played.retired, played.silent⟩
    · exact ⟨played.batches, played.running, played.plays, played.retired, played.silent⟩
  | register i there marked =>
    rename_i o agent
    refine ⟨told.deal named placed there ?_, played.deal placed named o _ rfl⟩
    rw [(told.stands _ (List.mem_of_getElem? there)).of_found.1 marked]
    exact .registered o agent
  | schedule i there marked r =>
    rename_i o agent
    refine ⟨told.deal named placed there ?_, played.deal placed named o _ rfl⟩
    rw [(told.stands _ (List.mem_of_getElem? there)).of_found.2.1 marked]
    exact .scheduled o agent r
  | begin i there marked taken =>
    rename_i o agent r
    refine ⟨told.move named placed there rfl ?_, (played.mark o _).move i _⟩
    rw [(told.stands _ (List.mem_of_getElem? there)).of_found.2.2 r marked, taken]
    exact .begun o agent ⟨[], List.forall_mem_nil _, rfl⟩
  | abandon i there marked refused =>
    rename_i o agent r f
    refine ⟨told.settle (b := .finished _ _) named placed there rfl ?_, (played.deal placed named o _ rfl).move i _⟩
    rw [(told.stands _ (List.mem_of_getElem? there)).of_found.2.2 r marked, refused]
    exact .finished o _ (.inr .refused)
  | send i there marked r =>
    rename_i step turn
    refine ⟨told.deal named placed there ?_, played.deal placed named step.order _ rfl⟩
    exact .sent step turn ((told.stands _ (List.mem_of_getElem? there)).of_ending.1 marked) r
  | close i there marked =>
    rename_i step turn r
    refine ⟨told.settle (b := .finished _ _) named placed there rfl ?_,
      (played.deal placed named step.order _ rfl).move i _⟩
    obtain ⟨before, ⟨calls, going, rfl⟩, same⟩ :=
      (told.stands _ (List.mem_of_getElem? there)).of_ending.2 r marked
    rw [same, List.append_assoc]
    exact .finished _ _ (.inr (.ended going r.val.isOk))
  | pool step still =>
    rename_i site x
    refine ⟨told.apart named ?_ ?_ rfl (.refl ..) placed, ?_⟩
    · exact congrArg Stage.errands still
    · exact congrArg Stage.orders still
    · refine played.of_turns placed named (.of_eq (congrArg Stage.turns still)) ?_ ?_ rfl fun _ _ => rfl
      · exact fun batch at_ => (congrArg Stage.loop still).symm.trans at_
      · exact fun u mem => .inl (congrArg Stage.retired still ▸ mem)
  | perform j at_ there hosts moves => exact kept.perform reaches at_ there hosts moves
  | linger i there moves => exact kept.linger reach there moves
  | elsewhere apart =>
    refine ⟨told.apart named rfl rfl rfl apart placed, ?_⟩
    exact played.of_turns placed named (.refl _) (fun _ at_ => at_) (fun _ => .inl) rfl fun x own => apart.calls own

theorem Reaches.kept (reaches : Reaches caller s) : Kept caller s := by
  induction reaches with
  | opening new given =>
    rename_i b
    have nothing {x : String} (own : Own c.id x) : Deed.about x b.log = [] := (new x own).1
    refine ⟨.inl rfl, ⟨nofun, nofun, fun o named _ => ⟨rfl, nothing (own_runId named)⟩, ?_⟩, ?_⟩
    · intro x own
      show x ∈ b.live ↔ There (Deed.about x b.log) = true
      rw [nothing own]
      exact iff_of_false (new x own).2 Bool.false_ne_true
    · refine ⟨.refl _, nofun, nofun, nofun, fun x own _ => ?_⟩
      show (Deed.about x b.log).filter Doing.isCall = []
      rw [nothing own]
      rfl
  | step reaches step ih => exact ih.step reaches step

/-! ## The theorem -/

/-- The runs of the steps of an orchestration enclose the turns of their agents. -/
structure Enclosed (s : Scene c) : Prop where
  /-- What has been done about the run of a step is the beginning of a whole life. -/
  lives : ∀ o ∈ s.site.stage.orders, ∃ rest, Whole (Deed.about o.runId s.chronicle.log ++ rest)
  /-- When the activity of the step is over, it is all of it, unless the run has never been started. -/
  ended : ∀ o ∈ s.site.stage.orders, (∀ a ∈ s.site.stage.errands, a.order = o → ∃ r, a = .finished o r) →
    Finished (Deed.about o.runId s.chronicle.log)
  registry : ∀ o ∈ s.site.stage.orders, o.runId ∈ s.chronicle.live ↔
    .registered ∈ Deed.about o.runId s.chronicle.log ∧ .forgotten ∉ Deed.about o.runId s.chronicle.log
  /-- The run of an agent is open as long as it is the agent's turn. -/
  running : ∀ batch, s.site.stage.loop = .running batch → ∀ u ∈ batch, ∃ o ∈ s.site.stage.orders,
    u.submission.run = some o.runId ∧ Open (Deed.about o.runId s.chronicle.log)
  /-- Each call that a leaf has made in its turn has been routed, and the events that it has raised are those that have
  been raised for the run of its step. -/
  calls : ∀ u ∈ s.site.stage.turns, ∀ p q, u.player? = some (p, q) → ∃ o ∈ s.site.stage.orders,
    u.submission.run = some o.runId ∧ u.submission.agent = o.agentIndex ∧
      Deed.calls o.runId s.chronicle.log = q.raised ∧ ∀ m ∈ q.made, m.event.isSome = true
  /-- Nobody else raises events of calls for it. -/
  silent : ∀ o ∈ s.site.stage.orders, (∀ u ∈ s.site.stage.turns, u.submission.run ≠ some o.runId) →
    Deed.calls o.runId s.chronicle.log = []
  /-- Unless the composite is parallel, no two runs are open at a time. -/
  alone : c.plan.topology ≠ .parallel → ∀ o ∈ s.site.stage.orders, ∀ o' ∈ s.site.stage.orders,
    Open (Deed.about o.runId s.chronicle.log) → Open (Deed.about o'.runId s.chronicle.log) → o = o'

theorem Kept.begins (kept : Kept caller s) {o : StepOrder} (mem : o ∈ s.site.stage.orders) :
    ∃ rest, Whole (Deed.about o.runId s.chronicle.log ++ rest) := by
  by_cases under : ∃ a ∈ s.site.stage.errands, a.order = o
  · obtain ⟨a, among, rfl⟩ := under
    exact (kept.told.stands a among).begins
  · exact (kept.told.gone o mem fun a among same => under ⟨a, among, same⟩).begins

/-- Whose run is open has a step activity under way. -/
theorem Kept.under_way (kept : Kept caller s) {o : StepOrder} (mem : o ∈ s.site.stage.orders)
    (opened : Open (Deed.about o.runId s.chronicle.log)) : ∃ a ∈ s.site.stage.errands, a.order = o := by
  by_contra none
  rcases kept.told.gone o mem fun a among same => none ⟨a, among, same⟩ with nothing | whole
  · rw [nothing] at opened
    cases opened.1
  · exact whole.not_open opened

theorem seats_iff {o : StepOrder} {agent : Nat} (seats : c.ensemble.Seats o.agentIndex agent) :
    agent = o.agentIndex := by
  have there : (List.range c.size)[o.agentIndex]? = some agent := agentAt_natCast_iff.mp seats
  obtain ⟨inside, same⟩ := List.getElem?_eq_some_iff.mp there
  exact same.symm.trans (List.getElem_range inside)

/-- However the step activities, the workflow, the planning loop and the agents are interleaved, the runs of the steps
of a composite that has been invoked outside of executions enclose the turns of their agents. -/
theorem Reaches.enclosed (reaches : Reaches caller s) (unguarded : caller.guarded = false) : Enclosed s := by
  have reach := reaches.on_stage
  have kept := reaches.kept
  have placed := reach.placed
  have named : Named s := Kept.orders reach kept.named
  refine ⟨fun o mem => kept.begins mem, ?_, ?_, ?_, ?_, ?_, ?_⟩
  · intro o mem ended
    by_cases under : ∃ a ∈ s.site.stage.errands, a.order = o
    · obtain ⟨a, among, same⟩ := under
      obtain ⟨r, rfl⟩ := ended a among same
      exact (kept.told.stands _ among).finished_of
    · exact kept.told.gone o mem fun a among same => under ⟨a, among, same⟩
  · intro o mem
    obtain ⟨rest, whole⟩ := kept.begins mem
    exact (kept.told.registry _ (own_runId (named o mem))).trans (there_iff whole)
  · intro batch at_ u mem
    obtain ⟨i, step, waits, run⟩ := reach.waiting_of_running at_ mem
    have among := List.mem_of_getElem? waits
    exact ⟨step.order, placed.errands _ among, run, (kept.told.stands _ among).begun_of.isOpen⟩
  · intro u mem p q leaf
    obtain ⟨o, known, run, seats⟩ := placed.cast _ (List.mem_append_left _ (List.mem_map_of_mem mem))
    have plays := kept.played.plays u mem p q leaf _ run
    refine ⟨o, known, run, seats_iff seats, plays.calls, fun m made => (plays.made m made).mpr ?_⟩
    exact fun guarded => absurd guarded (by rw [unguarded]; exact Bool.false_ne_true)
  · intro o mem none
    refine kept.played.silent _ (own_runId (named o mem)) fun known => ?_
    obtain ⟨u, among, same⟩ := List.mem_map.mp known
    exact none u among same
  · intro topology o mem o' mem' opened opened'
    obtain ⟨a, among, rfl⟩ := kept.under_way mem opened
    obtain ⟨a', among', rfl⟩ := kept.under_way mem' opened'
    obtain ⟨id, sole⟩ := reach.sole topology
    have few : s.site.stage.errands.length ≤ 1 := Sole.length_le sole reach.tended.roster
    obtain ⟨i, inside, rfl⟩ := List.mem_iff_getElem.mp among
    obtain ⟨j, inside', rfl⟩ := List.mem_iff_getElem.mp among'
    obtain rfl : i = j := by omega
    rfl

/-- A call of a tool. -/
def echo : Asking Unit := ⟨{ kind := .toolCall, call := (), operation := "echo", payload := none }, by decide⟩

/-- Two leaves side by side that make one call each. -/
def duet : Chorus Unit where
  plan := { id := "", topology := .parallel }
  parallel := rfl
  size := 2
  player _ := { script := .call echo .done, gives := fun _ _ r => r = .ok .null }
  profile _ := { name := "" }
  engine r := r = .ok ()

/-- The engine takes whatever it is given. -/
def duetTaken : (duet.company "planner").Answer := ⟨.ok (), rfl⟩

/-- The first leaf waits for its call. -/
theorem enclosed_event : ∃ s : Scene (duet.company "planner"), Reaches {} s ∧ Enclosed s ∧
    Deed.about "planner:0" s.chronicle.log = [.registered, .scheduled true, .raised (echo.event "call") true] := by
  have s₀ : Reaches {} (opening (duet.company "planner") {} {}) := .opening (fun _ _ => ⟨rfl, List.not_mem_nil⟩) rfl
  have s₁ := s₀.step (.loop nofun (.name _ "planner" rfl) fun _ => rfl)
  have s₂ := s₁.step (.loop nofun (.schedule _ _ rfl rfl rfl) nofun)
  have s₃ := s₂.step (.loop nofun (.count _ 0 rfl) nofun)
  have s₄ := s₃.step (.flow (.orderAll _ _ _ rfl))
  have s₅ := s₄.step (.errand 0 rfl trivial (.find _ _ 0 rfl rfl))
  have s₆ := s₅.step (.register 0 rfl rfl)
  have s₇ := s₆.step (.schedule 0 rfl rfl duetTaken)
  have s₈ := s₇.step (.begin 0 rfl rfl rfl)
  have s₉ := s₈.step (.errand 0 rfl trivial (.submit _ _ _))
  have t₀ := s₉.step (.loop nofun (.call _ _ _ rfl rfl (fun no => no.1 rfl)) nofun)
  have t₁ := t₀.step (.perform 0 rfl rfl (.loop rfl) (.bind echo .done rfl rfl (.bound rfl)))
  have t₂ := t₁.step (.perform 0 rfl rfl (.loop rfl) (.find echo .done rfl List.mem_cons_self))
  have t₃ := t₂.step (.perform 0 rfl rfl (.loop rfl) (.raise echo .done "call" rfl rfl))
  exact ⟨_, t₃, t₃.enclosed rfl, rfl⟩

end Scene
end Rendezvous
