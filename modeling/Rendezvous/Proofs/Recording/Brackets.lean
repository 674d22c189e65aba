import Rendezvous.Proofs.Recording.Conduct

/-!
# Runs are well bracketed

Whatever a program does about a run, it does in this order: it registers the run, schedules its workflow, raises the
events of its calls, raises the event that ends it, and forgets it (`Whole`).  A run that a surrounding block has
begun only has the events of its calls (`Going`); one that the request around the program has begun in the meantime is
still open (`Begun`).

Nothing else happens, so the runs that an account tells of are those that are drawn meanwhile, and the one that the
thread belongs to (`Effect`); that composes (`Effect.trans`).
-/

namespace Rendezvous

set_option autoImplicit false

variable {κ α ω : Type} {methods : κ → Conduct κ α ω}

/-! ## The life of a run -/

namespace Deed

@[simp] theorem about_nil (x : String) : about x [] = [] := rfl

theorem about_cons (x : String) (d : Deed) (log : List Deed) :
    about x (d :: log) = if d.run = x then d.what :: about x log else about x log := by
  by_cases same : d.run = x <;> simp [about, same]

@[simp] theorem about_append (x : String) (log log' : List Deed) :
    about x (log ++ log') = about x log ++ about x log' := by
  simp [about]

@[simp] theorem about_deeper (x : String) (log : List Deed) : about x (log.map deeper) = about x log := by
  induction log with
  | nil => rfl
  | cons d log ih => rw [List.map_cons, about_cons, about_cons, ih]; rfl

end Deed

/-- An event that asks for a call. -/
def Doing.IsCall : Doing → Prop
  | raised event _ => event.isTerminal = false
  | _ => False

/-- Nothing but the events of calls. -/
def Going (ds : List Doing) : Prop := ∀ d ∈ ds, d.IsCall

/-- A run has been started, and there may have been calls. -/
def Begun (ds : List Doing) : Prop := ∃ calls, Going calls ∧ ds = .registered :: .scheduled true :: calls

/-- The whole life of a run. -/
inductive Whole : List Doing → Prop
  /-- A run whose workflow could not be scheduled. -/
  | refused : Whole [.registered, .scheduled false, .forgotten]
  | ended {calls : List Doing} (going : Going calls) (taken : Bool) :
      Whole (.registered :: .scheduled true :: calls ++ [.raised .finish taken, .forgotten])

theorem Going.append {ds ds' : List Doing} (going : Going ds) (later : Going ds') : Going (ds ++ ds') := by
  intro d mem
  rcases List.mem_append.mp mem with mem | mem
  · exact going d mem
  · exact later d mem

theorem Going.not_scheduled {ds : List Doing} (going : Going ds) (taken : Bool) : .scheduled taken ∉ ds :=
  fun mem => going _ mem

theorem Begun.append {ds ds' : List Doing} (begun : Begun ds) (later : Going ds') : Begun (ds ++ ds') := by
  obtain ⟨calls, going, rfl⟩ := begun
  exact ⟨calls ++ ds', going.append later, rfl⟩

/-! ## Ids that have not been drawn yet -/

namespace Footing

/-- Ids that have not been drawn yet are not in use, and the request that is served has been opened. -/
structure Sound (s : Footing) : Prop where
  live : ∀ n, s.drawn < n → drawnRun n ∉ s.live
  run : ∀ n, s.drawn < n → s.run ≠ some (drawnRun n)
  opened : ∀ n, s.drawn < n → some (drawnRun n) ∉ s.opened
  request : ∀ n, s.request = some n → n < s.opened.length

/-- A run whose id has been drawn meanwhile. -/
def New (s s' : Footing) (x : String) : Prop := ∃ n, s.drawn < n ∧ n ≤ s'.drawn ∧ x = drawnRun n

variable {s s' s'' : Footing} {x : String}

theorem New.later (new : New s s' x) (le : s'.drawn ≤ s''.drawn) : New s s'' x := by
  obtain ⟨n, after, before, rfl⟩ := new
  exact ⟨n, after, Nat.le_trans before le, rfl⟩

theorem New.earlier (new : New s' s'' x) (le : s.drawn ≤ s'.drawn) : New s s'' x := by
  obtain ⟨n, after, before, rfl⟩ := new
  exact ⟨n, Nat.lt_of_le_of_lt le after, before, rfl⟩

theorem not_new_self : ¬ New s s x := by
  rintro ⟨n, after, before, -⟩
  exact absurd after (Nat.not_lt.mpr before)

/-- An id is drawn once. -/
theorem New.not_again (new : New s s' x) : ¬ New s' s'' x := by
  rintro ⟨m, later, -, same⟩
  obtain ⟨n, -, before, rfl⟩ := new
  have := drawnRun_injective same
  omega

theorem New.split (new : New s s'' x) (s' : Footing) : New s s' x ∨ New s' s'' x := by
  obtain ⟨n, after, before, rfl⟩ := new
  by_cases earlier : n ≤ s'.drawn
  · exact .inl ⟨n, after, earlier, rfl⟩
  · exact .inr ⟨n, by omega, before, rfl⟩

theorem New.run_ne (new : New s s' x) (sound : s.Sound) : s.run ≠ some x := by
  obtain ⟨n, after, -, rfl⟩ := new
  exact sound.run n after

theorem New.not_live (new : New s s' x) (sound : s.Sound) : x ∉ s.live := by
  obtain ⟨n, after, -, rfl⟩ := new
  exact sound.live n after

/-- The run of the request is one of those that requests have started. -/
theorem mem_opened_of_held (held : s.held = some x) : some x ∈ s.opened := by
  obtain ⟨n, -, found⟩ := Option.bind_eq_some_iff.mp held
  rw [List.getD_eq_getElem?_getD] at found
  cases there : s.opened[n]? with
  | none => rw [there] at found; cases found
  | some run =>
    rw [there] at found
    obtain rfl : run = some x := found
    exact List.mem_of_getElem? there

theorem New.held_ne (new : New s s' x) (sound : s.Sound) : s.held ≠ some x := by
  obtain ⟨n, after, -, rfl⟩ := new
  exact fun held => sound.opened n after (mem_opened_of_held held)

theorem new_next (le : s.drawn + 1 ≤ s'.drawn) : New s s' s.next := ⟨s.drawn + 1, Nat.lt_succ_self _, le, rfl⟩

theorem Sound.next_not_mem (sound : s.Sound) : s.next ∉ s.live := sound.live _ (Nat.lt_succ_self _)

theorem live_started (sound : s.Sound) : s.started.live = s.live ++ [s.next] := by
  simp [started, register, sound.next_not_mem]

/-- A run that was registered last is forgotten. -/
theorem filter_concat {live : List String} (fresh : x ∉ live) : (live ++ [x]).filter (· ≠ x) = live := by
  have kept : live.filter (· ≠ x) = live :=
    List.filter_eq_self.mpr fun y mem => decide_eq_true fun same => fresh (same ▸ mem)
  rw [List.filter_append, kept]
  simp

theorem live_refused (sound : s.Sound) : s.refused.live = s.live := by
  have started := live_started sound
  rw [refused, forget, started]
  exact filter_concat sound.next_not_mem

end Footing

open Footing

/-! ## What an account comes to -/

/-- What has been done about runs on the way from one footing to another. -/
structure Effect (s : Footing) (log : List Deed) (s' : Footing) : Prop where
  guarded : s'.guarded = s.guarded
  request : s'.request = s.request
  drawn : s.drawn ≤ s'.drawn
  opened : s.opened.length ≤ s'.opened.length
  /-- Other requests are left alone. -/
  others : ∀ n, s.request ≠ some n → n < s.opened.length → s'.opened.getD n none = s.opened.getD n none
  sound : s'.Sound
  bound : ∀ x, s.run = some x → s'.run = some x
  held : s'.held = s.held ∨ s.held = none ∧ s.run = none ∧ s'.held = s'.run
  activated : s.run = none → ∀ x, s'.run = some x → s'.held = some x ∧ (s.held = some x ∨ New s s' x)
  old : ∀ x, ¬ New s s' x → if s'.run = some x then Going (Deed.about x log) else Deed.about x log = []
  new : ∀ x, New s s' x → if s'.run = some x then Begun (Deed.about x log) else Whole (Deed.about x log)
  kept : (∀ x, s'.run = some x → ¬ New s s' x) → s'.live = s.live
  grown : ∀ x, s'.run = some x → New s s' x → s'.live = s.live ++ [x]
  /-- What belongs to a run has nothing but calls. -/
  joined : ∀ x, s.run = some x → ∀ d ∈ log, d.inside = 0 → d.run = x ∧ d.what.IsCall

namespace Effect

variable {s s' s'' : Footing} {log later : List Deed} {x : String}

theorem refl (sound : s.Sound) : Effect s [] s where
  guarded := rfl
  request := rfl
  drawn := Nat.le_refl _
  opened := Nat.le_refl _
  others _ _ _ := rfl
  sound := sound
  bound _ run := run
  held := .inl rfl
  activated free x run := by rw [free] at run; cases run
  old x _ := by split <;> simp [Going]
  new x new := absurd new not_new_self
  kept _ := rfl
  grown x _ new := absurd new not_new_self
  joined _ _ := nofun

/-- A thread that has left a run behind does not come back to it. -/
theorem run_ne_of_new (first : Effect s log s') (second : Effect s' later s'') (sound : s.Sound) (new : New s s' x)
    (left : s'.run ≠ some x) : s''.run ≠ some x := by
  intro back
  have free : s'.run = none := by
    refine Option.eq_none_iff_forall_ne_some.mpr fun y run => left ?_
    rw [run, ← second.bound y run, back]
  rcases (second.activated free x back).2 with held | again
  · rcases first.held with same | ⟨-, -, same⟩
    · exact new.held_ne sound (same ▸ held)
    · rw [same, free] at held
      cases held
  · exact new.not_again again

theorem trans (first : Effect s log s') (second : Effect s' later s'') (sound : s.Sound) :
    Effect s (log ++ later) s'' where
  guarded := second.guarded.trans first.guarded
  request := second.request.trans first.request
  drawn := Nat.le_trans first.drawn second.drawn
  opened := Nat.le_trans first.opened second.opened
  others n other inside :=
    (second.others n (first.request ▸ other) (Nat.lt_of_lt_of_le inside first.opened)).trans
      (first.others n other inside)
  sound := second.sound
  bound x run := second.bound x (first.bound x run)
  held := by
    rcases first.held with same | ⟨unheld, free, activated⟩
    · rcases second.held with same' | ⟨unheld', free', activated'⟩
      · exact .inl (same'.trans same)
      · refine .inr ⟨same ▸ unheld', ?_, activated'⟩
        refine Option.eq_none_iff_forall_ne_some.mpr fun x run => ?_
        rw [first.bound x run] at free'
        cases free'
    · cases run : s'.run with
      | none =>
        rcases second.held with same' | ⟨-, -, activated'⟩
        · exact .inl (by rw [same', activated, run, unheld])
        · exact .inr ⟨unheld, free, activated'⟩
      | some x =>
        rcases second.held with same' | ⟨-, free', -⟩
        · exact .inr ⟨unheld, free, by rw [same', activated, run, second.bound x run]⟩
        · rw [run] at free'
          cases free'
  activated free x run := by
    cases between : s'.run with
    | some y =>
      obtain rfl : y = x := Option.some.inj ((second.bound y between).symm.trans run)
      obtain ⟨held, known⟩ := first.activated free y between
      rcases second.held with same | ⟨-, free', -⟩
      · exact ⟨same.trans held, known.imp_right fun new => new.later second.drawn⟩
      · rw [between] at free'
        cases free'
    | none =>
      obtain ⟨held, known⟩ := second.activated between x run
      refine ⟨held, known.imp (fun held' => ?_) fun new => new.earlier first.drawn⟩
      rcases first.held with same | ⟨-, -, same⟩
      · exact same ▸ held'
      · rw [same, between] at held'
        cases held'
  old x old := by
    have before := first.old x fun new => old (new.later second.drawn)
    have after := second.old x fun new => old (new.earlier first.drawn)
    rw [Deed.about_append]
    by_cases run : s''.run = some x
    · rw [if_pos run] at after ⊢
      split at before
      · exact Going.append before after
      · rwa [before]
    · rw [if_neg run] at after ⊢
      have elsewhere : s'.run ≠ some x := fun run' => run (second.bound x run')
      rw [if_neg elsewhere] at before
      rw [before, after]
      rfl
  new x new := by
    rw [Deed.about_append]
    rcases new.split s' with new | new
    · have before := first.new x new
      have after := second.old x new.not_again
      by_cases run : s'.run = some x
      · rw [if_pos run] at before
        rw [if_pos (second.bound x run)] at after ⊢
        exact before.append after
      · rw [if_neg run] at before
        have elsewhere := first.run_ne_of_new second sound new run
        rw [if_neg elsewhere] at after ⊢
        rwa [after, List.append_nil]
    · have unknown : ¬ New s s' x := fun earlier => earlier.not_again new
      have before := first.old x unknown
      rw [if_neg (new.run_ne first.sound)] at before
      rw [before]
      exact second.new x new
  kept old := by
    have live := first.kept fun x run new => old x (second.bound x run) (new.later second.drawn)
    exact (second.kept fun x run new => old x run (new.earlier first.drawn)).trans live
  grown x run new := by
    rcases new.split s' with new | new
    · have run' : s'.run = some x := Decidable.byContradiction fun left =>
        first.run_ne_of_new second sound new left run
      rw [second.kept fun y runs again => ?_, first.grown x run' new]
      obtain rfl : x = y := Option.some.inj (run.symm.trans runs)
      exact new.not_again again
    · rw [second.grown x run new, first.kept fun y run' earlier => ?_]
      obtain rfl : y = x := Option.some.inj ((second.bound y run').symm.trans run)
      exact earlier.not_again new
  joined x run d mem own := by
    rcases List.mem_append.mp mem with mem | mem
    · exact first.joined x run d mem own
    · exact second.joined x (first.bound x run) d mem own

/-- The event of a call. -/
theorem event (sound : s.Sound) (run : s.run = some x) {e : RunEvent} (asks : e.isTerminal = false) (taken : Bool) :
    Effect s [⟨x, .raised e taken, 0⟩] s := by
  have still := refl sound
  refine { still with
    old := fun y _ => ?_
    new := fun y new => absurd new not_new_self
    joined := fun y run' d mem _ => ?_ }
  · rw [run, Deed.about_cons]
    by_cases same : x = y
    · subst same
      rw [if_pos rfl, if_pos rfl]
      intro d mem
      rw [List.mem_singleton.mp mem]
      exact asks
    · rw [if_neg fun same' => same (Option.some.inj same'), if_neg same]
      rfl
  · obtain rfl := List.mem_singleton.mp mem
    exact ⟨Option.some.inj (run.symm.trans run'), asks⟩

/-- What is done on a thread of the call activity belongs to no run of the caller's. -/
theorem of_activity (effect : Effect s.activity log s') (sound : s.Sound) :
    Effect s (log.map Deed.deeper) (s.back s') := by
  have unheld : s'.held = none := by rw [Footing.held, effect.request]; rfl
  have free : s'.run = none := by
    refine Option.eq_none_iff_forall_ne_some.mpr fun x run => ?_
    have held := (effect.activated rfl x run).1
    rw [unheld] at held
    cases held
  have elsewhere (x : String) : s'.run ≠ some x := by rw [free]; nofun
  have opened (n : Nat) (inside : n < s.opened.length) : s'.opened.getD n none = s.opened.getD n none :=
    effect.others n nofun inside
  have live : s'.live = s.live := effect.kept fun x run => absurd run (elsewhere x)
  have held : (s.back s').held = s.held := by
    cases request : s.request with
    | none => rw [Footing.held, Footing.held, Footing.back, request]; rfl
    | some n =>
      rw [Footing.held, Footing.held, Footing.back, request]
      exact opened n (sound.request n request)
  refine ⟨rfl, rfl, effect.drawn, effect.opened, fun n _ => opened n, ⟨effect.sound.live, fun n later => ?_,
    effect.sound.opened, fun n request => ?_⟩, fun x run => run, .inl held, fun free x run => ?_, fun x old => ?_,
    fun x new => ?_, fun _ => live, fun x run new => ?_, fun x run d mem own => ?_⟩
  · exact sound.run n (Nat.lt_of_le_of_lt effect.drawn later)
  · exact Nat.lt_of_lt_of_le (sound.request n request) effect.opened
  · have run : s.run = some x := run
    rw [free] at run
    cases run
  · have none := effect.old x old
    rw [if_neg (elsewhere x)] at none
    rw [Deed.about_deeper, none]
    split <;> simp [Going]
  · have whole := effect.new x new
    rw [if_neg (elsewhere x)] at whole
    have other : (s.back s').run ≠ some x := New.run_ne (s := s) new sound
    rwa [Deed.about_deeper, if_neg other]
  · exact absurd run (New.run_ne (s := s) new sound)
  · obtain ⟨d, -, rfl⟩ := List.mem_map.mp mem
    cases own

end Effect

namespace Footing

variable {s s' : Footing} {x : String}

/-- One id has been drawn, and nothing else is new. -/
theorem new_drawn_succ (drawn : s'.drawn = s.drawn + 1) : New s s' x ↔ x = s.next := by
  constructor
  · rintro ⟨n, after, before, rfl⟩
    rw [next, show n = s.drawn + 1 by omega]
  · rintro rfl
    exact new_next (by omega)

theorem Sound.started (sound : s.Sound) : s.started.Sound where
  live n later := by
    rw [live_started sound, List.mem_append, List.mem_singleton]
    rintro (mem | same)
    · exact sound.live n (Nat.lt_of_succ_lt later) mem
    · exact absurd (drawnRun_injective same) (Nat.ne_of_gt later)
  run n later := sound.run n (Nat.lt_of_succ_lt later)
  opened n later := sound.opened n (Nat.lt_of_succ_lt later)
  request := sound.request

theorem Sound.refused (sound : s.Sound) : s.refused.Sound where
  live n later := by
    rw [live_refused sound]
    exact sound.live n (Nat.lt_of_succ_lt later)
  run n later := sound.run n (Nat.lt_of_succ_lt later)
  opened n later := sound.opened n (Nat.lt_of_succ_lt later)
  request := sound.request

end Footing

theorem Belongs.run_eq {s s' : Footing} {log : List Deed} {x : String} (belongs : Belongs s log (.ok (some x)) s') :
    s'.run = some x := by
  cases belongs with
  | bound run => exact run
  | held | started => rfl

/-- A run whose workflow could not be scheduled is forgotten at once. -/
theorem Effect.refused {s : Footing} (sound : s.Sound) (free : s.run = none) :
    Effect s [⟨s.next, .registered, 0⟩, ⟨s.next, .scheduled false, 0⟩, ⟨s.next, .forgotten, 0⟩] s.refused := by
  have elsewhere (x : String) : s.refused.run ≠ some x := by
    show s.run ≠ some x
    rw [free]
    nofun
  refine ⟨rfl, rfl, Nat.le_succ _, Nat.le_refl _, fun _ _ _ => rfl, sound.refused, fun x run => run, .inl rfl,
    fun _ x run => absurd run (elsewhere x), fun x old => ?_, fun x new => ?_, fun _ => live_refused sound,
    fun x run => absurd run (elsewhere x), fun x run => absurd run (elsewhere x)⟩
  · have other : s.next ≠ x := fun same => old ((new_drawn_succ rfl).mpr same.symm)
    rw [if_neg (elsewhere x)]
    simp [Deed.about_cons, other]
  · obtain rfl := (new_drawn_succ rfl).mp new
    rw [if_neg (elsewhere _)]
    simpa [Deed.about_cons] using Whole.refused

theorem Belongs.effect {s s' : Footing} {log : List Deed} {run : Result (Option String)}
    (belongs : Belongs s log run s') (sound : s.Sound) : Effect s log s' := by
  cases belongs with
  | bound | nowhere => exact .refl sound
  | @held x free held =>
    have known : ¬ ∃ n, s.drawn < n ∧ x = drawnRun n := by
      rintro ⟨n, later, rfl⟩
      exact sound.opened n later (mem_opened_of_held held)
    have sound' : Sound { s with run := some x } :=
      ⟨sound.live, fun n later run => known ⟨n, later, Option.some.inj run⟩, sound.opened, sound.request⟩
    refine ⟨rfl, rfl, Nat.le_refl _, Nat.le_refl _, fun _ _ _ => rfl, sound', fun y run => ?_, .inl rfl,
      fun _ y run => ?_, fun y _ => ?_, fun y new => absurd new not_new_self, fun _ => rfl,
      fun y _ new => absurd new not_new_self, fun y run => ?_⟩
    · rw [free] at run
      cases run
    · exact ⟨held.trans run, .inl (held.trans run)⟩
    · split <;> simp [Going]
    · rw [free] at run
      cases run
  | @started n free inside first =>
    have there := sound.request n inside
    have held : (s.opened.modify n fun _ => some s.next).getD n none = some s.next := by simp [there]
    have held' : Footing.held { s.started with
        run := some s.next, opened := s.opened.modify n fun _ => some s.next } = some s.next := by
      show (s.request.bind fun m => (s.opened.modify n fun _ => some s.next).getD m none) = _
      rw [inside]
      exact held
    refine ⟨rfl, rfl, Nat.le_succ _, ?_, fun m other _ => ?_, ⟨sound.started.live, fun m later run => ?_,
      fun m later mem => ?_, fun m request => ?_⟩, fun x run => ?_, .inr ⟨first, free, held'⟩, fun _ x run => ?_,
      fun x old => ?_, fun x new => ?_, fun old => ?_, fun x run _ => ?_, fun x run => ?_⟩
    · simp
    · have ne : n ≠ m := fun same => other (same ▸ inside)
      simp [List.getD_eq_getElem?_getD, ne]
    · exact absurd (drawnRun_injective (Option.some.inj run)) (Nat.ne_of_lt later)
    · obtain ⟨k, found⟩ := List.mem_iff_getElem?.mp mem
      rw [List.getElem?_modify] at found
      obtain ⟨run, there', same⟩ := Option.map_eq_some_iff.mp found
      split at same
      · exact absurd (drawnRun_injective (Option.some.inj same)) (Nat.ne_of_lt later)
      · exact sound.opened m (Nat.lt_of_succ_lt later) (same ▸ List.mem_of_getElem? there')
    · show m < (s.opened.modify n fun _ => some s.next).length
      rw [List.length_modify]
      exact sound.request m request
    · rw [free] at run
      cases run
    · have same : s.next = x := Option.some.inj run
      exact ⟨same ▸ held', .inr ((new_drawn_succ rfl).mpr same.symm)⟩
    · have other : s.next ≠ x := fun same => old ((new_drawn_succ rfl).mpr same.symm)
      rw [if_neg fun run => other (Option.some.inj run)]
      simp [Deed.about_cons, other]
    · obtain rfl := (new_drawn_succ rfl).mp new
      rw [if_pos rfl]
      exact ⟨[], nofun, by simp [Deed.about_cons]⟩
    · exact absurd ((new_drawn_succ rfl).mpr rfl) (old s.next rfl)
    · obtain rfl : s.next = x := Option.some.inj run
      exact live_started sound
    · rw [free] at run
      cases run
  | refused free => exact .refused sound free

/-! ## Blocks -/

namespace Footing

variable {s s' : Footing} {log : List Deed} {x : String}

/-- A new request is served. -/
def serving (s : Footing) : Footing := { s with request := some s.opened.length, opened := s.opened ++ [none] }

theorem Sound.serving (sound : s.Sound) : s.serving.Sound where
  live := sound.live
  run := sound.run
  opened n later mem := by
    rcases List.mem_append.mp mem with mem | mem
    · exact sound.opened n later mem
    · cases List.mem_singleton.mp mem
  request n request := by
    obtain rfl := Option.some.inj request
    simp [Footing.serving]

theorem held_serving (s : Footing) : s.serving.held = none := by
  simp [held, serving]

/-- A request inside of it leaves the request around it alone. -/
theorem opened_of_serving (effect : Effect s.serving log s') {n : Nat} (inside : n < s.opened.length) :
    s'.opened.getD n none = s.opened.getD n none := by
  have other : s.serving.request ≠ some n := fun same => absurd (Option.some.inj same) (Nat.ne_of_gt inside)
  have there : n < s.serving.opened.length := by simp [serving]; omega
  rw [effect.others n other there]
  simp [serving, List.getD_eq_getElem?_getD, List.getElem?_append_left inside]

theorem held_of_serving (effect : Effect s.serving log s') (sound : s.Sound) :
    Footing.held { s' with request := s.request } = s.held := by
  cases request : s.request with
  | none => rw [held, held, request]; rfl
  | some n =>
    rw [held, held, request]
    exact opened_of_serving effect (sound.request n request)

theorem held_eq_of_serving (effect : Effect s.serving log s') : s'.held = s'.opened.getD s.opened.length none := by
  rw [held, effect.request]
  rfl

theorem length_opened_of_serving (effect : Effect s.serving log s') : s.opened.length ≤ s'.opened.length := by
  have longer := effect.opened
  simp only [serving, List.length_append, List.length_singleton] at longer
  omega

end Footing

namespace Effect

variable {s s' : Footing} {log : List Deed} {x : String}

/-- A request that has started no run. -/
theorem idle (effect : Effect s.serving log s') (sound : s.Sound) (idle : s'.held = none) :
    Effect s log { s' with request := s.request } where
  guarded := effect.guarded
  request := rfl
  drawn := effect.drawn
  opened := (length_opened_of_serving effect :)
  others _ _ := opened_of_serving effect
  sound := {
    live := effect.sound.live
    run := effect.sound.run
    opened := effect.sound.opened
    request n request := (Nat.lt_of_lt_of_le (sound.request n request) (length_opened_of_serving effect) :) }
  bound := effect.bound
  held := .inl (held_of_serving effect sound)
  activated free x run := by
    have held := (effect.activated free x run).1
    rw [idle] at held
    cases held
  old := effect.old
  new := effect.new
  kept := effect.kept
  grown := effect.grown
  joined := effect.joined

/-- A request that has started a run ends with it. -/
theorem served (effect : Effect s.serving log s') (sound : s.Sound) (held : s'.held = some x) (taken : Bool) :
    Effect s (log ++ [⟨x, .raised .finish taken, 0⟩, ⟨x, .forgotten, 0⟩])
      ({ s' with request := s.request, run := none }.forget x) := by
  obtain ⟨free, run⟩ : s.run = none ∧ s'.run = some x := by
    rcases effect.held with same | ⟨-, free, same⟩
    · rw [held, held_serving] at same
      cases same
    · exact ⟨free, same ▸ held⟩
  have new : New s.serving s' x := by
    rcases (effect.activated free x run).2 with held | new
    · rw [held_serving] at held
      cases held
    · exact new
  have fresh : x ∉ s.live := new.not_live sound.serving
  have live : s'.live.filter (· ≠ x) = s.live := by
    rw [effect.grown x run new]
    exact filter_concat fresh
  have unbound (y : String) : s.run ≠ some y := by rw [free]; nofun
  refine ⟨effect.guarded, rfl, effect.drawn, (length_opened_of_serving effect :), fun _ _ => opened_of_serving effect,
    ⟨fun n later mem => ?_, fun _ _ => nofun, effect.sound.opened, fun n request => ?_⟩,
    fun y run => absurd run (unbound y), .inl (held_of_serving effect sound), fun _ _ => nofun, fun y old => ?_,
    fun y new' => ?_, fun _ => live, fun _ => nofun, fun y run => absurd run (unbound y)⟩
  · exact effect.sound.live n later (List.mem_filter.mp mem).1
  · exact (Nat.lt_of_lt_of_le (sound.request n request) (length_opened_of_serving effect) :)
  · have other : x ≠ y := fun same => old (same ▸ new)
    have none := effect.old y old
    rw [run, if_neg fun same => other (Option.some.inj same)] at none
    rw [if_neg nofun, Deed.about_append, none]
    simp [Deed.about_cons, other]
  · have life := effect.new y new'
    rw [if_neg nofun, Deed.about_append]
    by_cases same : x = y
    · subst same
      rw [if_pos run] at life
      obtain ⟨calls, going, begun⟩ := life
      rw [begun]
      simpa [Deed.about_cons] using Whole.ended going taken
    · rw [run, if_neg fun same' => same (Option.some.inj same')] at life
      simpa [Deed.about_cons, same] using life

/-- Tracked work that has a run of its own. -/
theorem tracked (effect : Effect { s.started with run := some s.next } log s') (sound : s.Sound) (free : s.run = none)
    (taken : Bool) :
    Effect s (⟨s.next, .registered, 0⟩ :: ⟨s.next, .scheduled true, 0⟩ :: log ++
      [⟨s.next, .raised .finish taken, 0⟩, ⟨s.next, .forgotten, 0⟩]) ({ s' with run := none }.forget s.next) := by
  have run : s'.run = some s.next := effect.bound _ rfl
  have drawn : s.drawn + 1 ≤ s'.drawn := effect.drawn
  have old : ¬ New { s.started with run := some s.next } s' s.next := New.not_again ((new_drawn_succ rfl).mpr rfl)
  have unbound (y : String) : s.run ≠ some y := by rw [free]; nofun
  have later {y : String} (other : y ≠ s.next) :
      New s s' y ↔ New { s.started with run := some s.next } s' y := by
    refine ⟨fun new => ?_, fun new => new.earlier (Nat.le_succ _)⟩
    exact (new.split { s.started with run := some s.next }).resolve_left fun first =>
      other ((new_drawn_succ rfl).mp first)
  have live : s'.live.filter (· ≠ s.next) = s.live := by
    have kept : s'.live = s.started.live := effect.kept fun y run' => by
      obtain rfl : s.next = y := Option.some.inj (run.symm.trans run')
      exact old
    rw [kept, live_started sound]
    exact filter_concat sound.next_not_mem
  have held : s'.held = s.held := by
    rcases effect.held with same | ⟨-, free, -⟩
    · exact same
    · cases free
  refine ⟨effect.guarded, effect.request, Nat.le_of_lt drawn, effect.opened, effect.others,
    ⟨fun n later mem => ?_, fun _ _ => nofun, effect.sound.opened, effect.sound.request⟩,
    fun y run => absurd run (unbound y), .inl held, fun _ _ => nofun, fun y old' => ?_, fun y new => ?_, fun _ => live,
    fun _ => nofun, fun y run => absurd run (unbound y)⟩
  · exact effect.sound.live n later (List.mem_filter.mp mem).1
  · have other : s.next ≠ y := fun same => old' (same ▸ new_next drawn)
    have none := effect.old y fun new => old' ((later other.symm).mpr new)
    rw [run, if_neg fun same => other (Option.some.inj same)] at none
    rw [if_neg nofun, List.cons_append, List.cons_append, Deed.about_cons, Deed.about_cons, Deed.about_append, none]
    simp [Deed.about_cons, other]
  · rw [if_neg nofun, List.cons_append, List.cons_append, Deed.about_cons, Deed.about_cons, Deed.about_append]
    by_cases same : s.next = y
    · subst same
      have going := effect.old _ old
      rw [if_pos run] at going
      simpa [Deed.about_cons] using Whole.ended going taken
    · have whole := effect.new y ((later (Ne.symm same)).mp new)
      rw [run, if_neg fun same' => same (Option.some.inj same')] at whole
      simpa [Deed.about_cons, same] using whole

end Effect

/-! ## Whole accounts -/

theorem Asking.isTerminal_event (c : Asking κ) (callId : String) :
    (RunEvent.call c.kind callId c.operation c.payload).isTerminal = false :=
  beq_eq_false_iff_ne.mpr c.asks

variable {m : Matter κ α ω} {s s' : Footing} {log : List Deed} {r : Result α}

theorem Account.effect (account : Account methods m s log r s') (sound : s.Sound) : Effect s log s' := by
  induction account with
  | done | tooDeep => exact .refl sound
  | touch _ _ ih | close _ ih | perform _ ih | guarded _ _ ih | plain _ ih | joined _ _ ih => exact ih sound
  | call _ _ first second | block _ _ first second =>
    have effect := first sound
    exact effect.trans (second effect.sound) sound
  | failed _ belongs | unregistered _ belongs => exact belongs.effect sound
  | onSpot _ belongs _ _ ih =>
    have effect := belongs.effect sound
    exact effect.trans (ih effect.sound) sound
  | @unreached c _ _ _ _ _ belongs _ callId | @unexecuted c _ _ _ _ _ belongs _ callId =>
    have effect := belongs.effect sound
    exact effect.trans (.event effect.sound belongs.run_eq (c.isTerminal_event callId) _) sound
  | @executed c s s' log later x after out guard belongs there callId performed r ih =>
    have effect := belongs.effect sound
    have raised := Effect.event effect.sound belongs.run_eq (c.isTerminal_event callId) true
    have sound' : s'.activity.Sound := ⟨effect.sound.live, fun _ _ => nofun, effect.sound.opened, nofun⟩
    exact effect.trans (raised.trans ((ih sound').of_activity effect.sound) effect.sound) sound
  | idle _ idle ih =>
    have effect := ih sound.serving
    exact effect.idle sound ((held_eq_of_serving effect).trans idle)
  | served _ held taken _ ih =>
    have effect := ih sound.serving
    exact effect.served sound ((held_eq_of_serving effect).trans held) taken
  | untracked free => exact .refused sound free
  | @tracked _ _ _ _ s s' _ _ free _ taken _ ih =>
    have sound' : Sound { s.started with run := some s.next } := by
      refine ⟨sound.started.live, fun n later run => ?_, sound.started.opened, sound.started.request⟩
      exact absurd (drawnRun_injective (Option.some.inj run)) (Nat.ne_of_lt later)
    exact (ih sound').tracked sound free taken

/-! ## The registry -/

/-- What a deed does to the registry. -/
def Deed.enter (live : List String) (d : Deed) : List String :=
  match d.what with
  | .registered => if d.run ∈ live then live else live ++ [d.run]
  | .forgotten => live.filter (· ≠ d.run)
  | _ => live

theorem Deed.foldl_enter_deeper (log : List Deed) (live : List String) :
    (log.map deeper).foldl enter live = log.foldl enter live := by
  induction log generalizing live with
  | nil => rfl
  | cons d log ih => exact ih (enter live d)

/-- What is done about a run says whether it is in the registry. -/
def Doing.there (before : Prop) : Doing → Prop
  | registered => True
  | forgotten => False
  | _ => before

theorem Deed.mem_foldl_enter (x : String) (log : List Deed) (live : List String) :
    x ∈ log.foldl enter live ↔ (about x log).foldl Doing.there (x ∈ live) := by
  induction log generalizing live with
  | nil => rfl
  | cons d log ih =>
    have entered : x ∈ enter live d ↔ if d.run = x then d.what.there (x ∈ live) else x ∈ live := by
      obtain ⟨run, what, inside⟩ := d
      cases what with
      | registered => by_cases known : run ∈ live <;> by_cases same : run = x <;> simp_all [enter, Doing.there, eq_comm]
      | forgotten => by_cases same : run = x <;> simp_all [enter, Doing.there, eq_comm]
      | scheduled | raised => simp [enter, Doing.there]
    rw [List.foldl_cons, ih, about_cons]
    split
    · rename_i same
      rw [if_pos same] at entered
      rw [List.foldl_cons, propext entered]
    · rename_i other
      rw [if_neg other] at entered
      rw [propext entered]

theorem Belongs.live_eq {run : Result (Option String)} (belongs : Belongs s log run s') :
    s'.live = log.foldl Deed.enter s.live := by
  cases belongs <;> rfl

/-- The registry is what the deeds make of it. -/
theorem Account.live_eq (account : Account methods m s log r s') : s'.live = log.foldl Deed.enter s.live := by
  induction account with
  | done | tooDeep => rfl
  | touch _ _ ih | close _ ih | perform _ ih | guarded _ _ ih | plain _ ih | joined _ _ ih | idle _ _ ih => exact ih
  | call _ _ first second | block _ _ first second => rw [List.foldl_append, ← first, second]
  | failed _ belongs | unregistered _ belongs => exact belongs.live_eq
  | onSpot _ belongs _ _ ih => rw [List.foldl_append, ← belongs.live_eq, ih]
  | unreached _ belongs | unexecuted _ belongs => rw [List.foldl_append, ← belongs.live_eq]; rfl
  | executed _ belongs _ _ _ _ ih =>
    rw [List.foldl_append, ← belongs.live_eq, List.foldl_cons, Deed.foldl_enter_deeper]
    exact ih
  | served _ _ _ _ ih => rw [List.foldl_append, ← ih]; rfl
  | untracked => rfl
  | @tracked _ _ _ _ s _ _ _ _ _ _ _ ih =>
    rw [List.foldl_append]
    exact congrArg (List.filter fun x => decide (x ≠ s.next)) ih

/-! ## Programs that begin with no run -/

/-- The runs that an account of a program tells of are well bracketed, and afterwards all is as it was before. -/
structure Bracketed (s : Footing) (log : List Deed) (s' : Footing) : Prop where
  /-- Whatever is done about a run is the whole of its life, or the beginning of it if the run belongs to the request
  around the program. -/
  lives : ∀ x, Deed.about x log = [] ∨ Whole (Deed.about x log) ∨
    s'.run = some x ∧ s'.held = some x ∧ (Begun (Deed.about x log) ∨ Going (Deed.about x log))
  /-- The registry is what the deeds have made of it, and a run is in it when its workflow is scheduled. -/
  registry : s'.live = log.foldl Deed.enter s.live
  registered : ∀ before d after taken, log = before ++ d :: after → d.what = .scheduled taken →
    d.run ∈ before.foldl Deed.enter s.live
  request : s'.request = s.request
  /-- Without a request around the program, no run is bound. -/
  run : s.request = none → s'.run = none
  live : s'.run = none → s'.live = s.live

/-- In the life of a run there is one deed before its workflow is scheduled. -/
theorem Whole.before_scheduled {ds before after : List Doing} {taken : Bool} (life : Whole ds ∨ Begun ds)
    (scheduled : ds = before ++ .scheduled taken :: after) : before = [.registered] := by
  have alone : ∃ (first : Doing) (rest : List Doing), ds = .registered :: first :: rest ∧ .scheduled taken ∉ rest := by
    rcases life with life | ⟨calls, going, rfl⟩
    · cases life with
      | refused => exact ⟨_, _, rfl, by simp⟩
      | ended going => exact ⟨_, _, rfl, by simpa using going.not_scheduled taken⟩
    · exact ⟨_, _, rfl, going.not_scheduled taken⟩
  obtain ⟨first, rest, rfl, none⟩ := alone
  match before, scheduled with
  | [], same => cases same
  | [d], same => rw [(List.cons.inj same).1]
  | d :: d' :: before, same =>
    have within : Doing.scheduled taken ∈ rest := by
      rw [(List.cons.inj (List.cons.inj same).2).2]
      simp
    exact absurd within none

theorem Account.brackets (account : Account methods m s log r s') (sound : s.Sound) (free : s.run = none) :
    Bracketed s log s' where
  lives x := by
    have effect := account.effect sound
    by_cases new : New s s' x
    · have life := effect.new x new
      by_cases run : s'.run = some x
      · rw [if_pos run] at life
        exact .inr (.inr ⟨run, (effect.activated free x run).1, .inl life⟩)
      · rw [if_neg run] at life
        exact .inr (.inl life)
    · have life := effect.old x new
      by_cases run : s'.run = some x
      · rw [if_pos run] at life
        exact .inr (.inr ⟨run, (effect.activated free x run).1, .inr life⟩)
      · rw [if_neg run] at life
        exact .inl life
  registry := account.live_eq
  registered before d after taken whole scheduled := by
    have effect := account.effect sound
    have told : Deed.about d.run log = Deed.about d.run before ++ .scheduled taken :: Deed.about d.run after := by
      rw [whole, Deed.about_append, Deed.about_cons, if_pos rfl, scheduled]
    have life : Whole (Deed.about d.run log) ∨ Begun (Deed.about d.run log) := by
      by_cases new : New s s' d.run
      · have life := effect.new d.run new
        split at life
        · exact .inr life
        · exact .inl life
      · have life := effect.old d.run new
        rw [told] at life
        split at life
        · exact absurd (by simp) (life.not_scheduled taken)
        · simp at life
    rw [Deed.mem_foldl_enter, Whole.before_scheduled life told]
    trivial
  request := (account.effect sound).request
  run outside := by
    have effect := account.effect sound
    refine Option.eq_none_iff_forall_ne_some.mpr fun x run => ?_
    have held := (effect.activated free x run).1
    rw [Footing.held, effect.request, outside] at held
    cases held
  live unbound := (account.effect sound).kept fun x run => by
    rw [unbound] at run
    cases run

end Rendezvous
