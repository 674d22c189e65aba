import Rendezvous.Proofs.Recording.Enclosure

/-!
# What is recorded of leaves that work side by side

The leaves of a parallel composite (`Chorus`) are run in batches, and how many there are in a batch is a matter of
timing.  A leaf may read what the others write; if it makes the same calls whatever that is (`Chorus.Makes`), and
whatever comes of the calls, then timing does not change what it does.

Yet it may change what is recorded.  A leaf that is a batch of its own runs on the thread of whoever has invoked the
composite; inside of the execution of a call, nothing that it does is recorded.  The others run on threads of their own,
which know of no execution, and all of their calls are recorded.  So what is recorded of a leaf is all of its calls or
nothing (`Scene.Reaches.recorded_eq`), and it depends on nothing but on whether the leaf is heard
(`Scene.Reaches.recorded_iff`).
-/

namespace Rendezvous

set_option autoImplicit false

/-! ## Courses of leaves -/

/-- What a script may come to. -/
inductive Script.Leads {κ : Type} (from_ : Script κ) : Script κ → Prop
  | here : Leads from_ from_
  | touch {write : Scope → Scope} {next : Scope → Script κ} (x : Scope) (leads : Leads from_ (.touch write next)) :
      Leads from_ (next x)
  | call {c : Asking κ} {next : Result Value → Script κ} (r : Result Value) (leads : Leads from_ (.call c next)) :
      Leads from_ (next r)

/-- What is left of the script. -/
def Place.rest {κ : Type} : Place κ → Script κ
  | .ready rest => rest
  | .bound _ c next | .found _ c next | .waiting _ c next | .onSpot c next => .call c next

namespace Player

variable {κ : Type} {p : Player κ} {engine : Result Unit → Prop} {disturbs : Scope → Scope → Prop} {start : Scope}

/-- How a leaf comes to the rest of its script, what it has called on the way, and what the scope is then.  Others may
disturb the scope at any time. -/
inductive Course (p : Player κ) (engine : Result Unit → Prop) (disturbs : Scope → Scope → Prop) (start : Scope) :
    Script κ → List (Asking κ × Result Value) → Scope → Prop
  | start : Course p engine disturbs start p.script [] start
  | disturbed {k : Script κ} {past : List (Asking κ × Result Value)} {x y : Scope}
      (course : Course p engine disturbs start k past x) (other : disturbs x y) :
      Course p engine disturbs start k past y
  | touch {write : Scope → Scope} {next : Scope → Script κ} {past : List (Asking κ × Result Value)} {x : Scope}
      (course : Course p engine disturbs start (.touch write next) past x) :
      Course p engine disturbs start (next x) past (write x)
  | given {c : Asking κ} {next : Result Value → Script κ} {past : List (Asking κ × Result Value)} {x : Scope}
      {r : Result Value} (course : Course p engine disturbs start (.call c next) past x) (gives : p.gives past c r) :
      Course p engine disturbs start (next r) (past ++ [(c, r)]) x
  | refused {c : Asking κ} {next : Result Value → Script κ} {past : List (Asking κ × Result Value)} {x : Scope}
      {f : Failure} (course : Course p engine disturbs start (.call c next) past x) (refuses : engine (.error f)) :
      Course p engine disturbs start (next (.error f)) (past ++ [(c, .error f)]) x

theorem Course.leads {k : Script κ} {past : List (Asking κ × Result Value)} {x : Scope}
    (course : p.Course engine disturbs start k past x) : p.script.Leads k := by
  induction course with
  | start => exact .here
  | disturbed _ _ ih => exact ih
  | touch _ ih => exact .touch _ ih
  | given _ _ ih | refused _ _ ih => exact .call _ ih

/-- A leaf has come where it stands. -/
def OnCourse (p : Player κ) (engine : Result Unit → Prop) (disturbs : Scope → Scope → Prop) (start : Scope)
    (q : State κ) (x : Scope) : Prop :=
  p.Course engine disturbs start q.place.rest q.past x

theorem State.past_returned (q : State κ) (c : Asking κ) (event : Option (String × Bool)) (r : Result Value)
    (next : Result Value → Script κ) : (q.returned c event r next).past = q.past ++ [(c, r)] := List.map_append

/-- A leaf goes on along its course, and changes the scope only as its script says. -/
theorem Step.onCourse {q q' : State κ} {ctx ctx' : Context} {b b' : Chronicle} {x : String}
    (step : p.Step engine q (ctx, b) q' (ctx', b')) (bound : ctx.run = some x)
    (course : p.OnCourse engine disturbs start q b.scope) :
    p.OnCourse engine disturbs start q' b'.scope ∧
      (b'.scope = b.scope ∨ ∃ write next, q.place.rest = .touch write next ∧ b'.scope = write b.scope) := by
  unfold OnCourse at course ⊢
  cases step with
  | touch write next at_ =>
    rw [at_] at course ⊢
    exact ⟨.touch course, .inr ⟨write, next, rfl, rfl⟩⟩
  | lost c next f at_ guard lost =>
    cases lost with
    | refused free => cases free.symm.trans bound
  | guarded c next at_ _ | nowhere c next at_ _ _ | bind c next at_ _ _ | gone c next at_ _ | find c next at_ _
  | raise c next callId at_ _ =>
    rw [at_] at course
    exact ⟨course, .inl rfl⟩
  | refuse c next callId f at_ refused =>
    rw [at_] at course
    rw [State.past_returned]
    exact ⟨.refused course refused, .inl rfl⟩
  | answer c next callId r at_ gives | perform c next r at_ gives =>
    rw [at_] at course
    rw [State.past_returned]
    exact ⟨.given course gives, .inl rfl⟩

end Player

/-! ## Events without ids -/

/-- The event that is recorded for a call, without the id of the call. -/
def Asking.record {κ : Type} (c : Asking κ) : RunEvent :=
  { kind := c.kind, operation := some c.operation, payload := c.payload }

/-- An event that is raised, without the id of its call. -/
def Doing.record? : Doing → Option RunEvent
  | raised event _ => some { event with callId := none }
  | _ => none

/-- What is recorded of a leaf that has come to its end: all of its calls if they are routed, and nothing if they are
not. -/
theorem Player.Plays.record {κ : Type} {routed : Prop} {x : String} {calls : List Doing} {q : State κ}
    {r : Result Value} (plays : Plays routed x calls q) (ended : q.place = .ready (.done r)) :
    (routed → calls.filterMap Doing.record? = (q.past.map Prod.fst).map Asking.record) ∧
      (¬ routed → calls.filterMap Doing.record? = []) := by
  have raised : calls.filterMap Doing.record? = q.made.filterMap fun m => m.doing?.bind Doing.record? := by
    rw [plays.calls, State.raised, ended]
    exact (congrArg _ (List.append_nil _)).trans List.filterMap_filterMap
  rw [raised]
  constructor
  · intro routed
    have all : ∀ m ∈ q.made, m.doing?.bind Doing.record? = some m.call.record := by
      intro m mem
      obtain ⟨event, same⟩ := Option.isSome_iff_exists.mp ((plays.made m mem).mpr routed)
      rw [Made.doing?, same]
      rfl
    rw [List.filterMap_congr all, State.past, List.map_map, List.map_map]
    exact congrFun List.filterMap_eq_map _
  · intro direct
    refine List.filterMap_eq_nil_iff.mpr fun m mem => ?_
    have none : m.event = none := by
      rw [← Option.not_isSome_iff_eq_none, plays.made m mem]
      exact direct
    rw [Made.doing?, none]
    rfl

/-! ## Leaves side by side -/

namespace Chorus

variable {κ : Type}

/-- What may happen to the scope while a leaf is at work, other than by its doing. -/
def Disturbs (h : Chorus κ) (i : Nat) (x y : Scope) : Prop :=
  h.outside x y ∨
    ∃ j < h.size, j ≠ i ∧ ∃ write next, (h.player j).script.Leads (.touch write next) ∧ y = write x

/-- Where a leaf may be. -/
def OnCourse (h : Chorus κ) (i : Nat) (q : Player.State κ) (x : Scope) : Prop :=
  (h.player i).OnCourse h.engine (h.Disturbs i) h.scope q x

/-- Whatever the others do, and whatever comes of its calls, a leaf makes these calls. -/
def Makes (h : Chorus κ) (i : Nat) (calls : List (Asking κ)) : Prop :=
  ∀ {r past x}, (h.player i).Course h.engine (h.Disturbs i) h.scope (.done r) past x → past.map Prod.fst = calls

/-- How far a leaf has come in its turn. -/
def leaf {h : Chorus κ} {id : String} (u : (h.company id).ensemble.Turn) : Player.State κ := u.state

end Chorus

namespace Scene

open Ensemble

variable {κ : Type} {h : Chorus κ} {id : String} {caller : Context} {s t : Scene (h.company id)}

/-- The turn of a leaf is that of the only step there is for it. -/
theorem Reaches.turn_run (reaches : Reaches caller s) {u : (h.company id).ensemble.Turn}
    (mem : u ∈ s.site.stage.turns) :
    u.submission.run = some (stepRunId id u.submission.agent 0) ∧ u.submission.agent < h.size := by
  have reach := reaches.on_stage
  obtain ⟨⟨name, i, n⟩, known, run, seats⟩ := reach.placed.cast _ (List.mem_append_left _ (List.mem_map_of_mem mem))
  have named : name = id := Kept.orders reach reaches.kept.named _ known
  have parallel : (h.company id).ensemble.plan.topology = .parallel := h.parallel
  have first : n = 0 := (reach.numbered.own _ known).2 (by rw [parallel]; nofun)
  have seat : (List.range h.size)[i]? = some u.submission.agent := agentAt_natCast_iff.mp seats
  obtain ⟨inside, same⟩ := List.getElem?_eq_some_iff.mp seat
  rw [List.getElem_range inside] at same
  rw [List.length_range] at inside
  subst named first same
  exact ⟨run, inside⟩

/-- No leaf has two turns. -/
theorem Reaches.turn_unique (reaches : Reaches caller s) {u u' : (h.company id).ensemble.Turn}
    (mem : u ∈ s.site.stage.turns) (mem' : u' ∈ s.site.stage.turns)
    (same : u.submission.agent = u'.submission.agent) : u = u' := by
  refine turn_eq_of_run reaches.on_stage.placed mem mem' ?_
  rw [(reaches.turn_run mem).1, (reaches.turn_run mem').1, same]

/-- Each leaf is on its course, whether it has its turn yet or not. -/
structure Coursed (s : Scene (h.company id)) : Prop where
  waiting : ∀ i, (∀ u ∈ s.site.stage.turns, u.submission.agent ≠ i) →
    h.OnCourse i { place := .ready (h.player i).script } s.chronicle.scope
  playing : ∀ u ∈ s.site.stage.turns, h.OnCourse u.submission.agent (Chorus.leaf u) s.chronicle.scope

/-- Nobody has a turn that had none, and the scope is as it was, or others have disturbed it. -/
theorem Coursed.of_turns (coursed : Coursed s)
    (turns : t.site.stage.turns.Perm s.site.stage.turns)
    (scope : t.chronicle.scope = s.chronicle.scope ∨ h.outside s.chronicle.scope t.chronicle.scope) : Coursed t := by
  have meanwhile {i : Nat} {q : Player.State κ} (onCourse : h.OnCourse i q s.chronicle.scope) :
      h.OnCourse i q t.chronicle.scope := by
    rcases scope with same | outside
    · rwa [same]
    · exact .disturbed onCourse (.inl outside)
  exact ⟨fun i none => meanwhile (coursed.waiting i fun u mem => none u (turns.mem_iff.mpr mem)),
    fun u mem => meanwhile (coursed.playing u (turns.mem_iff.mp mem))⟩

/-- The turns of a batch begin. -/
theorem Coursed.call {batch : List (Submission Nat)} (coursed : Coursed s) (reaches : Reaches caller t)
    (turns : t.site.stage.turns = batch.map (Turn.of (h.company id).ensemble) ++ s.site.stage.turns)
    (scope : t.chronicle.scope = s.chronicle.scope) : Coursed t := by
  refine ⟨fun i none => ?_, fun u mem => ?_⟩
  · rw [scope]
    refine coursed.waiting i fun u mem => none u ?_
    rw [turns]
    exact List.mem_append_right _ mem
  · have among := mem
    rw [turns] at mem
    rw [scope]
    rcases List.mem_append.mp mem with now | old
    · obtain ⟨sub, new, rfl⟩ := List.mem_map.mp now
      refine coursed.waiting sub.agent fun u old same => ?_
      have mem' : u ∈ t.site.stage.turns := by
        rw [turns]
        exact List.mem_append_right _ old
      have once := turns_nodup reaches.on_stage.placed
      rw [turns, List.map_append] at once
      have run : sub.run = some (stepRunId id sub.agent 0) := (reaches.turn_run among).1
      rw [← same, ← (reaches.turn_run mem').1] at run
      exact (List.nodup_append.mp once).2.2 _ (List.mem_map_of_mem now) _ (List.mem_map_of_mem old) run
    · exact coursed.playing u old

/-- A turn goes on: its leaf goes on along its course, and disturbs the others as its script says. -/
theorem Coursed.of_turn {u : (h.company id).ensemble.Turn} {q : Player.State κ} {x : String} {ctx ctx' : Context}
    {i : Nat} (coursed : Coursed s) (reaches : Reaches caller s) (there : s.site.stage.turns[i]? = some u)
    (turns : t.site.stage.turns = s.site.stage.turns.set i ⟨u.submission, q⟩) (bound : ctx.run = some x)
    (moves : (h.player u.submission.agent).Step h.engine (Chorus.leaf u) (ctx, s.chronicle) q (ctx', t.chronicle)) :
    Coursed t := by
  have mem := List.mem_of_getElem? there
  obtain ⟨goesOn, scope⟩ := moves.onCourse bound (coursed.playing u mem)
  have disturbed {i : Nat} (other : i ≠ u.submission.agent) {a : Player.State κ}
      (onCourse : h.OnCourse i a s.chronicle.scope) : h.OnCourse i a t.chronicle.scope := by
    rcases scope with same | ⟨write, next, at_, scope⟩
    · rwa [same]
    · have course := coursed.playing u mem
      unfold Chorus.OnCourse Player.OnCourse at course
      rw [at_] at course
      exact .disturbed onCourse
        (.inr ⟨u.submission.agent, (reaches.turn_run mem).2, other.symm, write, next, course.leads, scope⟩)
  obtain ⟨before, after⟩ := perm_of_getElem? there ⟨u.submission, q⟩
  rw [← turns] at after
  refine ⟨fun i none => ?_, fun v among => ?_⟩
  · have other : u.submission.agent ≠ i := none ⟨u.submission, q⟩ (after.mem_iff.mpr List.mem_cons_self)
    refine disturbed other.symm (coursed.waiting i fun v old => ?_)
    rcases List.mem_cons.mp (before.mem_iff.mp old) with rfl | rest
    · exact other
    · exact none v (after.mem_iff.mpr (List.mem_cons_of_mem _ rest))
  · rcases List.mem_cons.mp (after.mem_iff.mp among) with rfl | rest
    · exact goesOn
    · have old : v ∈ s.site.stage.turns := before.mem_iff.mpr (List.mem_cons_of_mem _ rest)
      refine disturbed (fun agent => ?_) (coursed.playing v old)
      have once := (before.map (·.submission.run)).nodup_iff.mp (turns_nodup reaches.on_stage.placed)
      obtain rfl := reaches.turn_unique old mem agent
      exact (List.nodup_cons.mp once).1 (List.mem_map_of_mem rest)

theorem Reaches.coursed (reaches : Reaches caller s) : Coursed s := by
  induction reaches with
  | opening new given =>
    refine ⟨fun i _ => ?_, nofun⟩
    exact given ▸ .start
  | step before step coursed =>
    have reaches := before.step step
    cases step with
    | loop quiet step names =>
      rename_i s stage
      rcases step.turns_cases with ⟨none', none, retired⟩ | ⟨batch, none, loop, retired, -⟩ |
        ⟨batch, outcomes, loop, none', retired, -⟩
      · refine coursed.of_turns (.of_eq ?_) (.inl rfl)
        show stage.turns = s.site.stage.turns
        rw [Stage.turns, none', retired, Stage.turns, none]
      · have turns : stage.turns = batch.map (Turn.of (h.company id).ensemble) ++ s.site.stage.turns := by
          rw [Stage.turns, loop, retired, Loop.turns, Stage.turns, none, List.nil_append]
        exact coursed.call reaches turns rfl
      · refine coursed.of_turns ?_ (.inl rfl)
        show stage.turns.Perm s.site.stage.turns
        rw [Stage.turns, none', retired, Stage.turns, loop, List.nil_append]
        exact List.perm_append_comm
    | flow step =>
      obtain ⟨loop, -, -, -, -, retired, -⟩ := step.frame
      refine coursed.of_turns (.of_eq ?_) (.inl rfl)
      show Stage.turns _ = Stage.turns _
      rw [Stage.turns, loop, retired, Stage.turns]
    | errand i there aloof moves =>
      refine coursed.of_turns (.of_eq ?_) (.inl rfl)
      rcases moves.frame with rfl | ⟨o, agent, -, rfl, -⟩ <;> rfl
    | register | schedule | begin | abandon | send | close =>
      exact coursed.of_turns (.refl _) (.inl rfl)
    | pool step still => exact coursed.of_turns (.of_eq (congrArg Stage.turns still)) (.inl rfl)
    | elsewhere apart scope => exact coursed.of_turns (.refl _) scope
    | perform j at_ there hosts moves =>
      rename_i s batch u run q ctx b
      obtain ⟨-, step, -, -, bound⟩ := before.hosted at_ there hosts
      have turns : s.site.stage.turns = batch ++ s.site.stage.retired := by rw [Stage.turns, at_, Loop.turns]
      have inside := (List.getElem?_eq_some_iff.mp there).1
      refine coursed.of_turn before (i := j) (u := u) (q := q) ?_ ?_ bound moves
      · rw [turns, List.getElem?_append_left inside]
        exact there
      · rw [turns, List.set_append_left _ _ inside]
        rfl
    | linger i there moves =>
      rename_i s u q ctx ctx' b
      -- a leaf that has come to its end does not go on
      obtain ⟨r, place⟩ := before.kept.played.retired u (List.mem_of_getElem? there) _ _ rfl
      exact absurd place (Player.Step.not_done moves)

/-! ## What is recorded -/

/-- What is recorded of a leaf: the events of calls that have been raised for the run of its step, without the ids of
the calls. -/
def recorded (s : Scene (h.company id)) (i : Nat) : List RunEvent :=
  (Deed.calls (stepRunId id i 0) s.chronicle.log).filterMap Doing.record?

/-- A leaf has come to its end, if it has had a turn at all. -/
def Over (s : Scene (h.company id)) (i : Nat) : Prop :=
  ∀ u ∈ s.site.stage.turns, u.submission.agent = i → ∃ r, (Chorus.leaf u).place = .ready (.done r)

/-- All leaves have had their turns. -/
def Through (s : Scene (h.company id)) : Prop :=
  ∀ i < h.size, s.Over i ∧ ∃ u ∈ s.site.stage.turns, u.submission.agent = i

/-- A leaf is heard if it has had a turn, unless it was a batch of its own inside of the execution of a call. -/
def Heard (caller : Context) (s : Scene (h.company id)) (i : Nat) : Prop :=
  ∃ batch ∈ s.batches, (∃ sub ∈ batch, sub.agent = i) ∧ (caller.guarded = true → batch.length ≠ 1)

/-- Whose turn is in a batch has had a turn. -/
theorem Reaches.turn_of_batch (reaches : Reaches caller s) {batch : List (Submission Nat)} (among : batch ∈ s.batches)
    {sub : Submission Nat} (mem : sub ∈ batch) : ∃ u ∈ s.site.stage.turns, u.submission = sub := by
  have known := reaches.kept.played.batches.mem_iff.mp (List.mem_flatten.mpr ⟨batch, among, mem⟩)
  exact List.mem_map.mp known

/-- A leaf is heard if its calls are routed. -/
theorem Reaches.heard_iff (reaches : Reaches caller s) {u : (h.company id).ensemble.Turn}
    (mem : u ∈ s.site.stage.turns) : Heard caller s u.submission.agent ↔ Routed caller s u.submission := by
  have played := reaches.kept.played
  have placed := reaches.on_stage.placed
  constructor
  · rintro ⟨batch, among, ⟨sub, here, agent⟩, several⟩ guarded alone
    obtain ⟨u', mem', rfl⟩ := reaches.turn_of_batch among here
    obtain rfl := reaches.turn_unique mem' mem agent
    have same := played.batch_unique placed among alone here (List.mem_singleton_self _)
    exact several guarded (congrArg List.length same)
  · intro routed
    have known := played.batches.mem_iff.mpr (List.mem_map_of_mem mem)
    obtain ⟨batch, among, here⟩ := List.mem_flatten.mp known
    refine ⟨batch, among, ⟨_, here, rfl⟩, fun guarded one => routed guarded ?_⟩
    obtain ⟨only, rfl⟩ := List.length_eq_one_iff.mp one
    rwa [List.mem_singleton.mp here]

/-- Of a leaf that has come to its end all calls are recorded if it is heard, and nothing otherwise. -/
theorem Reaches.recorded_eq (reaches : Reaches caller s) {i : Nat} {calls : List (Asking κ)}
    (makes : h.Makes i calls) (ended : s.Over i) :
    (Heard caller s i → s.recorded i = calls.map Asking.record) ∧ (¬ Heard caller s i → s.recorded i = []) := by
  by_cases turn : ∃ u ∈ s.site.stage.turns, u.submission.agent = i
  · obtain ⟨u, mem, rfl⟩ := turn
    obtain ⟨r, place⟩ := ended u mem rfl
    have plays := reaches.kept.played.plays u mem (h.player u.submission.agent) (Chorus.leaf u) rfl _
      (reaches.turn_run mem).1
    have course := reaches.coursed.playing u mem
    unfold Chorus.OnCourse Player.OnCourse at course
    rw [place] at course
    rw [reaches.heard_iff mem, ← makes course]
    exact plays.record place
  · have silent : s.recorded i = [] := by
      refine congrArg (List.filterMap Doing.record?) (reaches.kept.played.silent _ ⟨i, 0, rfl⟩ fun known => ?_)
      obtain ⟨u, mem, run⟩ := List.mem_map.mp known
      have same := (reaches.turn_run mem).1.symm.trans run
      exact turn ⟨u, mem, (stepRunId_injective (Option.some.inj same)).1⟩
    refine ⟨?_, fun _ => silent⟩
    rintro ⟨batch, among, ⟨sub, here, agent⟩, -⟩
    obtain ⟨u, mem, rfl⟩ := reaches.turn_of_batch among here
    exact absurd ⟨u, mem, agent⟩ turn

/-- Two runs of a composite record the same of a leaf that makes calls if and only if it is heard in both or in
neither: if it has been invoked outside of executions and the leaf has had its turn, always; inside of one, if the leaf
has been a batch of its own in both or in neither. -/
theorem Reaches.recorded_iff {id' : String} {s' : Scene (h.company id')} {i : Nat} {calls : List (Asking κ)}
    (reaches : Reaches caller s) (reaches' : Reaches caller s') (makes : h.Makes i calls) (ended : s.Over i)
    (ended' : s'.Over i) :
    s.recorded i = s'.recorded i ↔ calls = [] ∨ (Heard caller s i ↔ Heard caller s' i) := by
  have first := reaches.recorded_eq makes ended
  have second := reaches'.recorded_eq makes ended'
  by_cases heard : Heard caller s i <;> by_cases heard' : Heard caller s' i
  · rw [first.1 heard, second.1 heard']
    exact iff_of_true rfl (.inr (iff_of_true heard heard'))
  · rw [first.1 heard, second.2 heard', List.map_eq_nil_iff]
    exact (or_iff_left fun same => heard' (same.mp heard)).symm
  · rw [first.2 heard, second.1 heard', eq_comm, List.map_eq_nil_iff]
    exact (or_iff_left fun same => heard (same.mpr heard')).symm
  · rw [first.2 heard, second.2 heard']
    exact iff_of_true rfl (.inr (iff_of_false heard heard'))

theorem duet_makes (i : Nat) : duet.Makes i [echo] := by
  have ways {k : Script Unit} {past : List (Asking Unit × Result Value)} {x : Scope}
      (course : (duet.player i).Course duet.engine (duet.Disturbs i) duet.scope k past x) :
      k = .call echo .done ∧ past = [] ∨ ∃ r, k = .done r ∧ past.map Prod.fst = [echo] := by
    induction course with
    | start => exact .inl ⟨rfl, rfl⟩
    | disturbed _ _ ih => exact ih
    | touch _ ih =>
      rcases ih with ⟨no, -⟩ | ⟨r, no, -⟩ <;> cases no
    | given _ _ ih | refused _ _ ih =>
      rcases ih with ⟨same, rfl⟩ | ⟨r, no, -⟩
      · cases same
        exact .inr ⟨_, rfl, rfl⟩
      · cases no
  intro r past x course
  rcases ways course with ⟨no, -⟩ | ⟨r, -, calls⟩
  · cases no
  · exact calls

/-- The loop does not wait for a pool that has nothing to do. -/
theorem quiet_of_single {site : (h.company id).ensemble.Site} {u : (h.company id).ensemble.Turn}
    (at_ : site.stage.loop = .running [u]) : site.Quiet := by
  intro batch running several
  cases at_.symm.trans running
  exact absurd rfl several

theorem duet_through {s : Scene (duet.company "planner")} {u v : (duet.company "planner").ensemble.Turn}
    (turns : s.site.stage.turns = [u, v]) (first : ∃ r, (Chorus.leaf u).place = .ready (.done r))
    (second : ∃ r, (Chorus.leaf v).place = .ready (.done r))
    (agents : u.submission.agent = 0 ∧ v.submission.agent = 1 ∨ u.submission.agent = 1 ∧ v.submission.agent = 0) :
    s.Through := by
  intro i inside
  have two : i = 0 ∨ i = 1 := Nat.le_one_iff_eq_zero_or_eq_one.mp (Nat.le_of_lt_succ inside)
  have there : u.submission.agent = i ∨ v.submission.agent = i := by omega
  unfold Over
  rw [turns]
  refine ⟨fun w mem _ => ?_, ?_⟩
  · rcases List.mem_cons.mp mem with rfl | mem
    · exact first
    · rwa [List.mem_singleton.mp mem]
  · rcases there with here | here
    · exact ⟨u, List.mem_cons_self, here⟩
    · exact ⟨v, List.mem_cons_of_mem _ List.mem_cons_self, here⟩

/-- Inside of an execution, the leaves may have had their turns one by one or at once. -/
theorem duet_schedules : ∃ s s' : Scene (duet.company "planner"),
    Reaches { guarded := true } s ∧ Reaches { guarded := true } s' ∧ s.Through ∧ s'.Through ∧
      (s.batches.map List.length = [1, 1] ∧ s.recorded 0 = []) ∧
      s'.batches.map List.length = [2] ∧ s'.recorded 0 = [echo.record] := by
  have s₀ : Reaches { guarded := true } (opening (duet.company "planner") { guarded := true } {}) :=
    .opening (fun _ _ => ⟨rfl, List.not_mem_nil⟩) rfl
  have s₁ := s₀.step (.loop nofun (.name _ "planner" rfl) fun _ => rfl)
  have s₂ := s₁.step (.loop nofun (.schedule _ _ rfl rfl rfl) nofun)
  have s₃ := s₂.step (.loop nofun (.count _ 0 rfl) nofun)
  have s₄ := s₃.step (.flow (.orderAll _ _ _ rfl))
  have s₅ := s₄.step (.errand 0 rfl trivial (.find _ _ 0 rfl rfl))
  have s₆ := s₅.step (.register 0 rfl rfl)
  have s₇ := s₆.step (.schedule 0 rfl rfl duetTaken)
  have s₈ := s₇.step (.begin 0 rfl rfl rfl)
  have s₉ := s₈.step (.errand 0 rfl trivial (.submit _ _ _))
  -- the loop looks into the queue before the other leaf is submitted, and again afterwards
  have t₁ := s₉.step (.loop nofun (.call _ _ _ rfl rfl (fun no => no.1 rfl)) nofun)
  have t₂ := t₁.step (.perform 0 rfl rfl (.loop rfl) (.guarded echo .done rfl rfl))
  have t₃ := t₂.step (.perform 0 rfl rfl (.loop rfl) (.perform echo .done (.ok .null) rfl rfl))
  have t₄ := t₃.step (.loop (quiet_of_single rfl) (.finish _ _ _ rfl rfl rfl) nofun)
  have t₅ := t₄.step (.loop nofun (.acknowledge _ 0 rfl) nofun)
  have t₆ := t₅.step (.loop nofun (.assign _ _ 0 rfl) nofun)
  have t₇ := t₆.step (.loop nofun (.count _ 0 rfl) nofun)
  have t₈ := t₇.step (.errand 1 rfl trivial (.find _ _ 1 rfl rfl))
  have t₉ := t₈.step (.register 1 rfl rfl)
  have u₁ := t₉.step (.schedule 1 rfl rfl duetTaken)
  have u₂ := u₁.step (.begin 1 rfl rfl rfl)
  have u₃ := u₂.step (.errand 1 rfl trivial (.submit _ _ _))
  have u₄ := u₃.step (.loop nofun (.call _ _ _ rfl rfl (fun no => no.1 rfl)) nofun)
  have u₅ := u₄.step (.perform 0 rfl rfl (.loop rfl) (.guarded echo .done rfl rfl))
  have u₆ := u₅.step (.perform 0 rfl rfl (.loop rfl) (.perform echo .done (.ok .null) rfl rfl))
  -- the loop looks into the queue after both have been submitted
  have v₁ := s₉.step (.errand 1 rfl trivial (.find _ _ 1 rfl rfl))
  have v₂ := v₁.step (.register 1 rfl rfl)
  have v₃ := v₂.step (.schedule 1 rfl rfl duetTaken)
  have v₄ := v₃.step (.begin 1 rfl rfl rfl)
  have v₅ := v₄.step (.errand 1 rfl trivial (.submit _ _ _))
  have v₆ := v₅.step (.loop nofun (.call _ _ _ rfl rfl nofun) nofun)
  have v₇ := v₆.step (.pool (x := ({}, {})) (.hire rfl nofun Nat.two_pos) rfl)
  have v₈ := v₇.step (.pool (x := ({}, {})) (.hire rfl nofun (Nat.lt_succ_self 1)) rfl)
  have v₉ := v₈.step (.pool (x := ({}, {})) (.takeUp 0 rfl nofun rfl rfl rfl) rfl)
  have w₁ := v₉.step (.pool (x := ({}, {})) (.takeUp 1 rfl nofun rfl rfl rfl) rfl)
  have w₂ := w₁.step (.perform 0 rfl rfl (.hand rfl nofun List.mem_cons_self rfl rfl)
    (.bind echo .done rfl rfl (.bound rfl)))
  have w₃ := w₂.step (.perform 0 rfl rfl (.hand rfl nofun List.mem_cons_self rfl rfl)
    (.find echo .done rfl List.mem_cons_self))
  have w₄ := w₃.step (.perform 0 rfl rfl (.hand rfl nofun List.mem_cons_self rfl rfl)
    (.raise echo .done "call" rfl rfl))
  have w₅ := w₄.step (.perform 0 rfl rfl (.hand rfl nofun List.mem_cons_self rfl rfl)
    (.answer echo .done "call" (.ok .null) rfl rfl))
  have second {α : Type} (a b : α) : b ∈ [a, b] := List.mem_cons_of_mem a List.mem_cons_self
  have w₆ := w₅.step (.perform 1 rfl rfl (.hand rfl nofun (second _ _) rfl rfl)
    (.bind echo .done rfl rfl (.bound rfl)))
  have w₇ := w₆.step (.perform 1 rfl rfl (.hand rfl nofun (second _ _) rfl rfl)
    (.find echo .done rfl (second _ _)))
  have w₈ := w₇.step (.perform 1 rfl rfl (.hand rfl nofun (second _ _) rfl rfl)
    (.raise echo .done "call" rfl rfl))
  have w₉ := w₈.step (.perform 1 rfl rfl (.hand rfl nofun (second _ _) rfl rfl)
    (.answer echo .done "call" (.ok .null) rfl rfl))
  exact ⟨_, _, u₆, w₉, duet_through rfl ⟨_, rfl⟩ ⟨_, rfl⟩ (.inr ⟨rfl, rfl⟩),
    duet_through rfl ⟨_, rfl⟩ ⟨_, rfl⟩ (.inl ⟨rfl, rfl⟩), ⟨rfl, rfl⟩, rfl, rfl⟩

/-- Drained one by one, the leaves are not heard; drained at once, they are. -/
theorem recorded_apart : ∃ s s' : Scene (duet.company "planner"),
    Reaches { guarded := true } s ∧ Reaches { guarded := true } s' ∧
      ¬ (Heard { guarded := true } s 0 ↔ Heard { guarded := true } s' 0) := by
  obtain ⟨s, s', reaches, reaches', through, through', ⟨-, nothing⟩, -, call⟩ := duet_schedules
  refine ⟨s, s', reaches, reaches', fun same => ?_⟩
  have alike := (reaches.recorded_iff reaches' (duet_makes 0) (through 0 Nat.two_pos).1
    (through' 0 Nat.two_pos).1).mpr (.inr same)
  rw [nothing, call] at alike
  cases alike

/-- What is recorded of a leaf depends on timing. -/
theorem not_forall_recorded : ¬ ∀ (h : Chorus Unit) (id id' : String) (caller : Context)
    (calls : Nat → List (Asking Unit)) (s : Scene (h.company id)) (s' : Scene (h.company id')), Reaches caller s →
      Reaches caller s' → (∀ i < h.size, h.Makes i (calls i)) → s.Through → s'.Through →
        ∀ i < h.size, s.recorded i = s'.recorded i := by
  intro all
  obtain ⟨s, s', reaches, reaches', through, through', ⟨-, nothing⟩, -, call⟩ := duet_schedules
  have alike := all duet "planner" "planner" { guarded := true } (fun _ => [echo]) s s' reaches reaches'
    (fun i _ => duet_makes i) through through' 0 Nat.two_pos
  rw [nothing, call] at alike
  cases alike

end Scene
end Rendezvous
