import Rendezvous.Proofs.Recording.Scene

/-!
# Leaves at work

What has been done about a run says whether it is in the registry (`There`), and whether it is open (`Open`), which it
is from its scheduling to the event that ends it.

A leaf whose thread is bound to a run raises the events of its calls for that run and does nothing else about runs
(`Player.Step.frame`).  The calls that it makes in its turn are all routed or none is, as its thread is outside of
executions or inside of one (`Player.Step.plays`).
-/

namespace Rendezvous

set_option autoImplicit false

/-! ## The registry -/

/-- Whether a run is in the registry after a deed. -/
def Doing.enters (there : Bool) : Doing → Bool
  | registered => true
  | forgotten => false
  | _ => there

/-- Whether a run is in the registry after all that has been done about it. -/
def There (ds : List Doing) : Bool := ds.foldl Doing.enters false

/-- A run that has begun is there. -/
theorem Begun.there {ds : List Doing} (begun : Begun ds) : There ds = true := by
  obtain ⟨calls, going, rfl⟩ := begun
  show calls.foldl Doing.enters true = true
  induction calls with
  | nil => rfl
  | cons d calls ih =>
    have call := going d List.mem_cons_self
    have rest := ih fun d mem => going d (List.mem_cons_of_mem _ mem)
    cases d with
    | raised event taken => exact rest
    | registered | scheduled | forgotten => exact call.elim

theorem foldl_enters {ds : List Doing} (once : .registered ∉ ds) (there : Bool) :
    ds.foldl Doing.enters there = true ↔ there = true ∧ .forgotten ∉ ds := by
  induction ds generalizing there with
  | nil => simp
  | cons d ds ih =>
    rw [List.foldl_cons, ih fun mem => once (List.mem_cons_of_mem _ mem), List.mem_cons, not_or]
    cases d with
    | registered => exact absurd List.mem_cons_self once
    | forgotten => simp [Doing.enters]
    | scheduled | raised => simp [Doing.enters]

/-- A run is registered once in its life. -/
theorem Whole.once {ds : List Doing} (whole : Whole ds) : ∃ rest, ds = .registered :: rest ∧ .registered ∉ rest := by
  cases whole with
  | refused => exact ⟨_, rfl, by simp⟩
  | ended going taken =>
    refine ⟨_, rfl, fun mem => ?_⟩
    rcases List.mem_cons.mp mem with no | mem
    · cases no
    · rcases List.mem_append.mp mem with mem | mem
      · exact going _ mem
      · simp at mem

/-- At any point of its life, a run is in the registry once it has been registered, until it is forgotten. -/
theorem there_iff {ds rest : List Doing} (whole : Whole (ds ++ rest)) :
    There ds = true ↔ .registered ∈ ds ∧ .forgotten ∉ ds := by
  obtain ⟨tail, same, once⟩ := whole.once
  cases ds with
  | nil => simp [There]
  | cons d ds =>
    obtain ⟨rfl, rfl⟩ := List.cons.inj same
    have once : .registered ∉ ds := fun mem => once (List.mem_append_left _ mem)
    show ds.foldl Doing.enters true = true ↔ _
    rw [foldl_enters once]
    simp

/-- A run is open from its scheduling to the event that ends it. -/
def Open (ds : List Doing) : Prop := .scheduled true ∈ ds ∧ ∀ taken, .raised .finish taken ∉ ds

theorem Begun.isOpen {ds : List Doing} (begun : Begun ds) : Open ds := by
  obtain ⟨calls, going, rfl⟩ := begun
  refine ⟨by simp, fun taken mem => ?_⟩
  simp only [List.mem_cons, reduceCtorEq, false_or] at mem
  cases going _ mem

theorem Whole.not_open {ds : List Doing} (whole : Whole ds) : ¬ Open ds := by
  rintro ⟨scheduled, going⟩
  cases whole with
  | refused => simp at scheduled
  | ended _ taken => exact going taken (by simp)

/-- Whether an event is that of a call. -/
def Doing.isCall : Doing → Bool
  | raised event _ => !event.isTerminal
  | _ => false

/-- The events of calls that have been raised for a run. -/
def Deed.calls (x : String) (log : List Deed) : List Doing := (Deed.about x log).filter Doing.isCall

namespace Chronicle

variable {id x : String} {b b' : Chronicle} {d : Deed}

theorem about_note_self (b : Chronicle) (d : Deed) :
    Deed.about d.run (b.note d).log = Deed.about d.run b.log ++ [d.what] := by
  rw [note, Deed.about_append, Deed.about_cons, if_pos rfl, Deed.about_nil]

theorem about_note_of_ne (other : d.run ≠ x) : Deed.about x (b.note d).log = Deed.about x b.log := by
  rw [note, Deed.about_append, Deed.about_cons, if_neg other, Deed.about_nil, List.append_nil]

/-- The runs of an orchestration's steps are in the registry as what has been done about them says. -/
def Registry (id : String) (b : Chronicle) : Prop :=
  ∀ x, Own id x → (x ∈ b.live ↔ There (Deed.about x b.log) = true)

theorem mem_enter (live : List String) (d : Deed) (x : String) :
    x ∈ d.enter live ↔ if d.run = x then d.what.enters (decide (x ∈ live)) = true else x ∈ live := by
  obtain ⟨run, what, inside⟩ := d
  by_cases same : run = x
  · subst same
    cases what with
    | registered =>
      by_cases there : run ∈ live <;> simp [Deed.enter, Doing.enters, there]
    | forgotten => simp [Deed.enter, Doing.enters]
    | scheduled | raised => simp [Deed.enter, Doing.enters]
  · cases what with
    | registered =>
      by_cases there : run ∈ live <;> simp [Deed.enter, same, there, Ne.symm same]
    | forgotten => simp [Deed.enter, same, Ne.symm same]
    | scheduled | raised => simp [Deed.enter, same]

theorem Registry.note (registry : Registry id b) (d : Deed) : Registry id (b.note d) := by
  intro x own
  show x ∈ d.enter b.live ↔ _
  rw [mem_enter]
  by_cases same : d.run = x
  · subst same
    have before : decide (d.run ∈ b.live) = There (Deed.about d.run b.log) :=
      Bool.eq_iff_iff.mpr (decide_eq_true_iff.trans (registry _ own))
    rw [if_pos rfl, about_note_self, before, There, There, List.foldl_append]
    rfl
  · rw [if_neg same, about_note_of_ne same]
    exact registry x own

theorem Apart.refl (id : String) (b : Chronicle) : Apart id b b :=
  ⟨⟨[], (List.append_nil _).symm, nofun⟩, fun _ _ => .rfl⟩

theorem Apart.scope (id : String) (b : Chronicle) (scope : Scope) : Apart id b { b with scope } :=
  ⟨⟨[], (List.append_nil _).symm, nofun⟩, fun _ _ => .rfl⟩

theorem Apart.about (apart : Apart id b b') (own : Own id x) : Deed.about x b'.log = Deed.about x b.log := by
  obtain ⟨⟨more, log, others⟩, -⟩ := apart
  have none : Deed.about x more = [] := by
    rw [Deed.about, List.map_eq_nil_iff, List.filter_eq_nil_iff]
    intro d mem same
    exact others d mem (of_decide_eq_true same ▸ own)
  rw [log, Deed.about_append, none, List.append_nil]

theorem Registry.apart (registry : Registry id b) (apart : Apart id b b') : Registry id b' := by
  intro x own
  rw [apart.live x own, apart.about own]
  exact registry x own

theorem calls_note_of_ne (other : d.run ≠ x) : Deed.calls x (b.note d).log = Deed.calls x b.log := by
  rw [Deed.calls, about_note_of_ne other, Deed.calls]

theorem calls_note_of_not_call (none : d.what.isCall = false) :
    Deed.calls x (b.note d).log = Deed.calls x b.log := by
  by_cases same : d.run = x
  · subst same
    rw [Deed.calls, about_note_self, List.filter_append, List.filter_singleton, none]
    exact List.append_nil _
  · exact calls_note_of_ne same

theorem calls_note_call {event : RunEvent} {taken : Bool} {inside : Nat} (call : event.isTerminal = false) :
    Deed.calls x (b.note ⟨x, .raised event taken, inside⟩).log = Deed.calls x b.log ++ [.raised event taken] := by
  have is : Doing.isCall (.raised event taken) = true := congrArg not call
  rw [Deed.calls, about_note_self b ⟨x, .raised event taken, inside⟩, List.filter_append, List.filter_singleton, is]
  rfl

theorem Apart.calls (apart : Apart id b b') (own : Own id x) : Deed.calls x b'.log = Deed.calls x b.log := by
  rw [Deed.calls, apart.about own, Deed.calls]

end Chronicle

/-! ## Leaves at work -/

/-- The run that a leaf has looked up is the one that its thread is bound to. -/
def Place.At {κ : Type} (x : String) : Place κ → Prop
  | .bound run _ _ | .found run _ _ => run = x
  | _ => True

/-- Where a leaf may stand if its calls are routed, or if they are not. -/
def Place.Routed {κ : Type} (routed : Prop) : Place κ → Prop
  | .ready _ => True
  | .onSpot _ _ => ¬ routed
  | .bound _ _ _ | .found _ _ _ | .waiting _ _ _ => routed

namespace Player

variable {κ : Type} {p : Player κ} {engine : Result Unit → Prop} {q q' : State κ} {ctx ctx' : Context}
  {b b' : Chronicle} {x : String}

/-- What a leaf does on a thread that is bound to a run: it may change the scope, or raise the event of a call for
that run. -/
theorem Step.frame (step : p.Step engine q (ctx, b) q' (ctx', b')) (bound : ctx.run = some x) (at_ : q.place.At x) :
    q'.place.At x ∧ ctx' = ctx ∧
      ((∃ scope, b' = { b with scope }) ∧ q'.raised = q.raised ∨
        ∃ event taken, event.isTerminal = false ∧ b' = b.note ⟨x, .raised event taken, 0⟩ ∧
          q'.raised = q.raised ++ [.raised event taken]) := by
  -- a call belongs to the run that the thread is bound to, and nothing comes of looking for it
  have belongs {log : List Deed} {r : Result (Option String)} {s : Footing}
      (belongs : Belongs (b.footing ctx) log r s) : r = .ok (some x) ∧ log = [] ∧ s = b.footing ctx := by
    cases belongs with
    | bound run => exact ⟨congrArg _ (run.symm.trans bound), rfl, rfl⟩
    | nowhere free | held free | started free | refused free => cases free.symm.trans bound
  have nothing : b.after [] (b.footing ctx) = b := by
    rw [Chronicle.after, List.append_nil]
    rfl
  have raised : q.raised = q.made.filterMap Made.doing? ++ q.place.raised := rfl
  have still (made : q'.made = q.made) (place : q.place.raised = []) (place' : q'.place.raised = []) :
      q'.raised = q.raised := by
    rw [State.raised, made, place', State.raised, place]
  cases step with
  | touch write next place | guarded c next place guard | gone c next place gone =>
    exact ⟨trivial, rfl, .inl ⟨⟨_, rfl⟩, still rfl (by rw [place]; rfl) rfl⟩⟩
  | lost c next f place guard lost => cases (belongs lost).1
  | nowhere c next place guard nowhere => cases (belongs nowhere).1
  | bind c next place guard found =>
    obtain ⟨same, rfl, rfl⟩ := belongs found
    cases same
    exact ⟨rfl, rfl, .inl ⟨⟨_, nothing⟩, still rfl (by rw [place]; rfl) rfl⟩⟩
  | find c next place there =>
    rw [place] at at_
    exact ⟨at_, rfl, .inl ⟨⟨_, rfl⟩, still rfl (by rw [place]; rfl) rfl⟩⟩
  | raise c next callId place taken =>
    rw [place] at at_
    obtain rfl := at_
    refine ⟨trivial, rfl, .inr ⟨_, true, c.isTerminal_event callId, rfl, ?_⟩⟩
    rw [raised, place]
    exact congrArg (· ++ _) (List.append_nil _).symm
  | refuse c next callId f place refused =>
    rw [place] at at_
    obtain rfl := at_
    refine ⟨trivial, rfl, .inr ⟨_, false, c.isTerminal_event callId, rfl, ?_⟩⟩
    rw [raised, place]
    exact (List.append_nil _).trans (List.filterMap_append.trans (congrArg (· ++ _) (List.append_nil _).symm))
  | answer c next callId r place gives =>
    refine ⟨trivial, rfl, .inl ⟨⟨_, rfl⟩, ?_⟩⟩
    rw [raised, place]
    exact (List.append_nil _).trans List.filterMap_append
  | perform c next r place gives =>
    refine ⟨trivial, rfl, .inl ⟨⟨_, rfl⟩, ?_⟩⟩
    rw [raised, place]
    exact (List.append_nil _).trans List.filterMap_append

/-- The events of calls that have been raised for a run are those that a leaf has raised: all of its calls have been
routed, or none. -/
structure Plays (routed : Prop) (x : String) (calls : List Doing) (q : State κ) : Prop where
  at_ : q.place.At x
  calls : calls = q.raised
  place : q.place.Routed routed
  made : ∀ m ∈ q.made, m.event.isSome = true ↔ routed

theorem Plays.start (routed : Prop) (x : String) (script : Script κ) : Plays routed x [] { place := .ready script } :=
  ⟨trivial, rfl, trivial, fun _ mem => absurd mem List.not_mem_nil⟩

theorem Step.plays {routed : Prop} (step : p.Step engine q (ctx, b) q' (ctx', b')) (bound : ctx.run = some x)
    (live : x ∈ b.live) (guard : ctx.guarded = false ↔ routed) (plays : Plays routed x (Deed.calls x b.log) q) :
    Plays routed x (Deed.calls x b'.log) q' := by
  obtain ⟨at_, -, raised⟩ := step.frame bound plays.at_
  have calls : Deed.calls x b'.log = q'.raised := by
    rcases raised with ⟨⟨scope, rfl⟩, same⟩ | ⟨event, taken, call, rfl, more⟩
    · rw [same]
      exact plays.calls
    · rw [Chronicle.calls_note_call call, plays.calls, more]
  have returned {c : Asking κ} {event : Option (String × Bool)} {r : Result Value}
      {next : Result Value → Script κ} (is : event.isSome = true ↔ routed) :
      ∀ m ∈ (q.returned c event r next).made, m.event.isSome = true ↔ routed := by
    intro m mem
    rcases List.mem_append.mp mem with old | now
    · exact plays.made m old
    · cases List.mem_singleton.mp now
      exact is
  have nowhere {log : List Deed} {r : Result (Option String)} {s : Footing}
      (belongs : Belongs (b.footing ctx) log r s) : r = .ok (some x) := by
    cases belongs with
    | bound run => exact congrArg _ (run.symm.trans bound)
    | nowhere free | held free | started free | refused free => cases free.symm.trans bound
  have place := plays.place
  cases step with
  | touch write next place => exact ⟨at_, calls, trivial, plays.made⟩
  | guarded c next _ guarded =>
    refine ⟨at_, calls, fun routed => ?_, plays.made⟩
    cases (guard.mpr routed).symm.trans guarded
  | lost c next f _ _ lost => cases nowhere lost
  | nowhere c next _ _ found => cases nowhere found
  | bind c next _ unguarded found => exact ⟨at_, calls, guard.mp unguarded, plays.made⟩
  | gone c next there gone =>
    have own := plays.at_
    rw [there] at own
    exact absurd (own ▸ live) gone
  | find c next there found => 
    rw [there] at place
    exact ⟨at_, calls, place, plays.made⟩
  | raise c next callId there taken =>
    rw [there] at place
    exact ⟨at_, calls, place, plays.made⟩
  | refuse c next callId f there refused =>
    rw [there] at place
    exact ⟨at_, calls, trivial, returned (iff_of_true rfl place)⟩
  | answer c next callId r there gives =>
    rw [there] at place
    exact ⟨at_, calls, trivial, returned (iff_of_true rfl place)⟩
  | perform c next r there gives =>
    rw [there] at place
    exact ⟨at_, calls, trivial, returned (iff_of_false Bool.false_ne_true place)⟩

/-- A leaf that has come to its end does not go on. -/
theorem Step.not_done {x y : Context × Chronicle} {r : Result Value} (step : p.Step engine q x q' y) :
    q.place ≠ .ready (.done r) := by
  intro place
  cases step with
  | touch _ _ at_ | guarded _ _ at_ _ | lost _ _ _ at_ _ _ | nowhere _ _ at_ _ _ | bind _ _ at_ _ _ | gone _ _ at_ _
  | find _ _ at_ _ | raise _ _ _ at_ _ | refuse _ _ _ _ at_ _ | answer _ _ _ _ at_ _ | perform _ _ _ at_ _ =>
    cases at_.symm.trans place

end Player

namespace Member

variable {κ : Type} {engine : Result Unit → Prop} {m : Member κ}

theorem player?_start {p : Player κ} {a : Player.State κ}
    (leaf : m.player? engine (m.behaviour engine).start = some (p, a)) : a = { place := .ready p.script } := by
  cases m with
  | player p' =>
    cases leaf
    rfl
  | other B => cases leaf

theorem result?_eq {q : (m.behaviour engine).State} {p : Player κ} {a : Player.State κ}
    (leaf : m.player? engine q = some (p, a)) : (m.behaviour engine).result? q = a.result? := by
  cases m with
  | player p' =>
    cases leaf
    rfl
  | other B => cases leaf

/-- A sub-agent goes on as a leaf does, or leaves the runs of the composite's steps alone. -/
theorem step_cases {id : String} {q q' : (m.behaviour engine).State} {x y : Context × Chronicle}
    (apart : ∀ B : Behaviour (Context × Chronicle), m = .other B →
      ∀ {q q' : B.State} {x y : Context × Chronicle}, B.Step q x q' y → Chronicle.Apart id x.2 y.2)
    (step : (m.behaviour engine).Step q x q' y) :
    (∃ p a a', m.player? engine q = some (p, a) ∧ m.player? engine q' = some (p, a') ∧ p.Step engine a x a' y) ∨
      m.player? engine q = none ∧ m.player? engine q' = none ∧ Chronicle.Apart id x.2 y.2 := by
  cases m with
  | player p => exact .inl ⟨p, q, q', rfl, rfl, step⟩
  | other B => exact .inr ⟨rfl, rfl, apart B rfl step⟩

end Member

end Rendezvous
