import Rendezvous.Proofs.Traffic.Order

/-!
# Callers that are left blocked

Every event is raised without fail, and the engine executes every call exactly once, though at any time
(`Traffic.Sure`).  Even then the run of a call may be dropped between the registration of the call and the time
when its execution looks the run up.  The execution fails for want of the run and does not touch the slot.  When
everything has come to rest, those are exactly the calls whose slots are pending; they stay pending, and their
callers wait for good (`Sure.blocked_iff`).  The slots of all other calls hold what their calls have come to.
-/

namespace Rendezvous

set_option autoImplicit false

variable {ι κ α : Type} {c : Caller κ} {text : α → Option String} {e e' : Exchange κ α} {x x' : Call κ α}
  {n slot : Nat} {stage : Stage α}

/-! ## One call -/

/-- How far an execution has come that is the only one of its call, whose run has the table `n` or had it. -/
def Once (gone : Prop) (n : Nat) : Option (Execution κ α) → List (κ × Result α) → Prop
  | none, done | some .finding, done | some (.performing _ _), done => done = []
  | some (.holding m), done => done = [] ∧ (m = n ∨ gone)
  | some (.missed _), done => done = [] ∧ gone
  | some (.settling _ _), done | some (.assigning _ _), done | some (.ended _), done => done ≠ []

/-- The event of a call has not failed, and its execution is the only one. -/
structure Spared (c : Caller κ) (e : Exchange κ α) (x : Call κ α) : Prop where
  sent : ∀ f, x.raised ≠ some (.error f)
  once : ∀ n slot stage, x.phase = .registered n slot stage →
    n < e.tables.length ∧ Once (e.tableOf? c.run ≠ some n) n x.execution x.performances

/-- As long as no execution has performed a call that could be raised, the call is in its table. -/
theorem Lot.of_unperformed {fate : Fate α} {y : Option (Execution κ α)} (lot : Lot c n slot e fate y [])
    (allows : stage.Allows slot fate) (sent : ∀ f, stage.raised ≠ some (.error f)) :
    Present c n slot e ∧ e.slot slot = .pending := by
  cases lot with
  | entered present pending => exact ⟨present, pending⟩
  | retracted =>
    cases stage with
    | retracted own f => exact absurd rfl (sent f)
    | _ => simp [Stage.Allows] at allows
  | failed f =>
    cases stage with
    | gaveUp f => exact absurd rfl (sent f)
    | _ => simp [Stage.Allows] at allows

theorem Spared.present (spared : Spared c e x) (inOrder : InOrder c e x)
    (registered : x.phase = .registered n slot stage) (unperformed : x.performances = []) :
    Present c n slot e ∧ e.slot slot = .pending := by
  simp only [InOrder, registered] at inOrder
  obtain ⟨-, told, fate, allows, lot⟩ := inOrder
  rw [unperformed] at lot
  exact lot.of_unperformed allows fun f failed => spared.sent f (told.trans failed)

/-- A table that has been lost stays lost. -/
theorem Once.imp {gone gone' : Prop} {y : Option (Execution κ α)} {done : List (κ × Result α)}
    (once : Once gone n y done) (stays : gone → gone') : Once gone' n y done := by
  match y, once with
  | none, once | some .finding, once | some (.performing _ _), once => exact once
  | some (.holding m), once => exact ⟨once.1, once.2.imp_right stays⟩
  | some (.missed f), once => exact ⟨once.1, stays once.2⟩
  | some (.settling _ _), once | some (.assigning _ _), once | some (.ended _), once => exact once

theorem Spared.frame (spared : Spared c e x) (tables : e.tables.length ≤ e'.tables.length)
    (gone : ∀ n, n < e.tables.length → e.tableOf? c.run ≠ some n → e'.tableOf? c.run ≠ some n) :
    Spared c e' x where
  sent := spared.sent
  once n slot stage registered := by
    obtain ⟨inside, once⟩ := spared.once n slot stage registered
    exact ⟨Nat.lt_of_lt_of_le inside tables, once.imp (gone n inside)⟩

/-- A caller that moves on without a new table leaves its execution as it is. -/
theorem Spared.caller (spared : Spared c e x) {phase : Phase α} {raised : Option (Result Unit)}
    (sent : ∀ f, raised ≠ some (.error f))
    (kept : ∀ n slot stage, phase = .registered n slot stage → ∃ stage, x.phase = .registered n slot stage) :
    Spared c e { x with phase, raised } where
  sent := sent
  once n slot stage registered := by
    obtain ⟨stage', before⟩ := kept n slot stage registered
    exact spared.once n slot stage' before

/-- An execution goes on. -/
theorem Spared.act (spared : Spared c e x) {y' : Execution κ α} {done : List (κ × Result α)}
    (acts : ∀ n slot stage, x.phase = .registered n slot stage →
      Once (e.tableOf? c.run ≠ some n) n x.execution x.performances →
      Once (e.tableOf? c.run ≠ some n) n (some y') done) :
    Spared c e { x with execution := some y', performances := done } where
  sent := spared.sent
  once n slot stage registered := by
    obtain ⟨inside, once⟩ := spared.once n slot stage registered
    exact ⟨inside, acts n slot stage registered once⟩

theorem Moves.spared (moves : Moves c text e x e' x') (inOrder : InOrder c e x) (spared : Spared c e x)
    (sent : ∀ f, x'.raised ≠ some (.error f)) : Spared c e' x' := by
  obtain ⟨live, tables, -⟩ := moves.exchange_frame
  have framed {x : Call κ α} (spared : Spared c e x) : Spared c e' x :=
    spared.frame (Nat.le_of_eq tables.symm) fun n _ gone found => gone (by
      rw [Exchange.tableOf?, ← live]
      exact found)
  cases moves with
  | leave | perform | hold | refuse =>
    refine ⟨sent, ?_⟩
    intro n slot stage registered
    cases registered
  | register at_ done =>
    simp only [InOrder, at_] at inOrder
    obtain ⟨inside, early⟩ := inOrder
    refine ⟨sent, fun n slot stage registered => ?_⟩
    obtain ⟨rfl, -, -⟩ := Phase.registered.inj registered
    exact ⟨tables ▸ inside, by rw [early.free]; exact early.unperformed⟩
  | accept at_ | reject f at_ | retract at_ found | fail at_ | giveUp at_ gone | wake at_ assigned =>
    refine framed (spared.caller sent fun n slot stage registered => ?_)
    obtain ⟨rfl, rfl, -⟩ := Phase.registered.inj registered
    exact ⟨_, at_⟩
  | missRun at_ gone =>
    refine spared.act fun n slot stage _ once => ?_
    rw [at_] at once
    rw [gone]
    exact ⟨once, (Option.some_ne_none n).symm⟩
  | findRun at_ found =>
    refine spared.act fun n slot stage _ once => ?_
    rw [at_] at once
    refine ⟨once, ?_⟩
    rw [found, ne_eq, Option.some.injEq]
    exact Decidable.em _
  | missCall at_ gone =>
    refine spared.act fun n slot stage registered once => ?_
    rw [at_] at once
    obtain ⟨unperformed, same | lost⟩ := once
    · obtain ⟨present, -⟩ := spared.present inOrder registered unperformed
      cases (same ▸ gone).symm.trans present.here
    · exact ⟨unperformed, lost⟩
  | findCall at_ found =>
    refine spared.act fun n slot stage _ once => ?_
    rw [at_] at once
    exact once.1
  | execute out at_ => exact spared.act fun n slot stage _ once => List.append_ne_nil_of_right_ne_nil _ (List.cons_ne_nil _ _)
  | takeOut at_ found =>
    refine framed (spared.act fun n slot stage _ once => ?_)
    rw [at_] at once
    exact once
  | comeLate at_ gone =>
    refine spared.act fun n slot stage _ once => ?_
    rw [at_] at once
    exact once
  | assign at_ =>
    refine framed (spared.act fun n slot stage _ once => ?_)
    rw [at_] at once
    exact once

/-! ## All calls -/

namespace Traffic

variable {t : Traffic ι κ α} {s s' : t.State}

/-- Every event has been delivered, and no execution is under way. -/
def Quiescent (s : t.State) : Prop :=
  ∀ i n slot stage, (s.calls i).phase = .registered n slot stage →
    ∃ y r, (s.calls i).execution = some y ∧ y.report? = some r

/-- Every call stands as it should, and has been executed at most once. -/
structure Good (s : t.State) : Prop where
  orderly : Orderly s
  spared : ∀ i, Spared (t.caller i) s.exchange (s.calls i)

theorem Good.opening : Good ({} : t.State) := ⟨.opening, fun _ => ⟨nofun, nofun⟩⟩

/-- What has become of a call when everything has come to rest. -/
theorem Good.settled (good : Good s) (quiet : Quiescent s) {i : ι}
    (registered : (s.calls i).phase = .registered n slot stage) :
    (∃ f, (s.calls i).execution = some (.missed f)) ∧ s.exchange.slot slot = .pending ∧
      s.exchange.tableOf? (t.caller i).run ≠ some n ∨
    (∃ report, (s.calls i).execution = some (.ended report)) ∧
      ∃ out, (s.calls i).performances = [((t.caller i).call.call, out)] ∧
        s.exchange.slot slot = .assigned (delivered out) := by
  have spared := good.spared i
  have inOrder := good.orderly.standing i
  obtain ⟨y, r, there, past⟩ := quiet i n slot stage registered
  obtain ⟨-, once⟩ := spared.once n slot stage registered
  rw [there] at once
  cases y with
  | finding | holding | performing | settling | assigning => cases past
  | missed f =>
    obtain ⟨unperformed, gone⟩ := once
    exact .inl ⟨⟨f, there⟩, (spared.present inOrder registered unperformed).2, gone⟩
  | ended report =>
    have performed : (s.calls i).performances ≠ [] := once
    simp only [InOrder, registered] at inOrder
    obtain ⟨-, told, fate, allows, lot⟩ := inOrder
    obtain ⟨out, once⟩ := lot.performed_once.resolve_left performed
    rw [once, there] at lot
    refine .inr ⟨⟨report, there⟩, out, once, ?_⟩
    rcases lot.kept trivial with assigned | rfl | ⟨f, rfl⟩
    · exact assigned
    · cases stage with
      | retracted own f => exact absurd told (spared.sent f)
      | _ => simp [Stage.Allows] at allows
    · cases stage with
      | gaveUp f => exact absurd told (spared.sent f)
      | _ => simp [Stage.Allows] at allows

variable [DecidableEq ι]

/-- A step in traffic where every event is raised, and every call is executed once. -/
inductive Sure : t.State → t.State → Prop
  | move {s : t.State} {i : ι} {e : Exchange κ α} {x : Call κ α}
      (moves : Moves (t.caller i) t.text s.exchange (s.calls i) e x)
      (sent : ∀ f, x.raised ≠ some (.error f)) : Sure s (s.put i e x)
  | execute {s : t.State} {i : ι} {n slot : Nat} {stage : Stage α}
      (registered : (s.calls i).phase = .registered n slot stage) (new : (s.calls i).execution = none) :
      Sure s (s.put i s.exchange { s.calls i with execution := some .finding })
  | createRun {s : t.State} (run : String) : Sure s { s with exchange := s.exchange.createRun run }
  | dropRun {s : t.State} (run : String) : Sure s { s with exchange := s.exchange.dropRun run }

namespace Sure

/-- The states that such steps lead to from another state. -/
abbrev Later : t.State → t.State → Prop := Relation.ReflTransGen Sure

theorem step (step : Sure s s') : ∃ who, Traffic.Step s who s' := by
  cases step with
  | move moves sent => exact ⟨_, .move moves⟩
  | execute registered new => exact ⟨_, .execute registered new⟩
  | createRun run => exact ⟨_, .createRun run⟩
  | dropRun run => exact ⟨_, .dropRun run⟩

omit [DecidableEq ι] in
theorem lost_of_live {e : Exchange κ α} {run : String} (live : e.live = e'.live)
    (gone : e'.tableOf? run ≠ some n) : e.tableOf? run ≠ some n := by
  rwa [Exchange.tableOf?, live, ← Exchange.tableOf?]

theorem good_put {i : ι} {e : Exchange κ α} {x : Call κ α} (good : Good s) (orderly : Orderly (s.put i e x))
    (live : e.live = s.exchange.live) (tables : s.exchange.tables.length ≤ e.tables.length)
    (spared : Spared (t.caller i) e x) : Good (s.put i e x) := by
  refine ⟨orderly, fun j => ?_⟩
  by_cases same : j = i
  · subst same
    rw [State.calls_put_self]
    exact spared
  · rw [State.calls_put_of_ne s same]
    exact (good.spared j).frame tables fun n _ => lost_of_live live

theorem good (taken : Sure s s') (good : Good s) : Good s' := by
  obtain ⟨who, traffic⟩ := taken.step
  have orderly := traffic.orderly good.orderly
  cases taken with
  | move moves sent =>
    obtain ⟨live, tables, -⟩ := moves.exchange_frame
    exact good_put good orderly live (Nat.le_of_eq tables.symm)
      (moves.spared (good.orderly.standing _) (good.spared _) sent)
  | execute registered new =>
    refine good_put good orderly rfl (Nat.le_refl _) ((good.spared _).act fun n slot stage _ once => ?_)
    rw [new] at once
    exact once
  | createRun run =>
    refine ⟨orderly, fun j => (good.spared j).frame ?_ fun n inside gone => ?_⟩
    · simp [Exchange.createRun]
    · -- the new table has a number that was not there
      rw [Exchange.createRun, Exchange.tableOf?]
      by_cases same : (t.caller j).run = run
      · rw [same, Entries.get?_put_self, ne_eq, Option.some.injEq]
        exact Nat.ne_of_gt inside
      · rwa [Entries.get?_put_of_ne same]
  | dropRun run =>
    refine ⟨orderly, fun j => (good.spared j).frame (Nat.le_refl _) fun n inside gone => ?_⟩
    rw [Exchange.dropRun, Exchange.tableOf?]
    by_cases same : (t.caller j).run = run
    · rw [same, Entries.get?_erase_self]
      exact (Option.some_ne_none n).symm
    · rwa [Entries.get?_erase_of_ne same]

theorem good_of_later (later : Later {} s) : Good s := by
  induction later with
  | refl => exact .opening
  | tail _ taken ih => exact taken.good ih

/-- A call that was missed is not executed any more. -/
theorem missed (taken : Sure s s') {i : ι} {f : Failure} (missed : (s.calls i).execution = some (.missed f))
    (registered : (s.calls i).phase = .registered n slot stage) :
    (s'.calls i).execution = some (.missed f) ∧ ∃ stage, (s'.calls i).phase = .registered n slot stage := by
  cases taken with
  | move moves sent =>
    rename_i j e x
    by_cases same : i = j
    · subst same
      rw [State.calls_put_self]
      exact ⟨moves.missed missed, moves.stays_registered registered⟩
    · rw [State.calls_put_of_ne s same]
      exact ⟨missed, stage, registered⟩
  | execute other new =>
    rename_i j m k stage'
    by_cases same : i = j
    · subst same
      cases missed.symm.trans new
    · rw [State.calls_put_of_ne s same]
      exact ⟨missed, stage, registered⟩
  | createRun run => exact ⟨missed, stage, registered⟩
  | dropRun run => exact ⟨missed, stage, registered⟩

/-- A call that was missed stays pending, whatever happens. -/
theorem pending_of_missed (reach : Later {} s) {i : ι} {f : Failure}
    (missed : (s.calls i).execution = some (.missed f))
    (registered : (s.calls i).phase = .registered n slot stage) (later : Later s s') :
    s'.exchange.slot slot = .pending := by
  have stays : (s'.calls i).execution = some (.missed f) ∧
      ∃ stage, (s'.calls i).phase = .registered n slot stage := by
    induction later with
    | refl => exact ⟨missed, stage, registered⟩
    | tail _ taken ih =>
      obtain ⟨missed, stage, registered⟩ := ih
      exact taken.missed missed registered
  obtain ⟨missed, stage, registered⟩ := stays
  have good := good_of_later (reach.trans later)
  obtain ⟨-, once⟩ := (good.spared i).once n slot stage registered
  rw [missed] at once
  exact ((good.spared i).present (good.orderly.standing i) registered once.1).2

/-- When everything has come to rest, the slot of a call is pending exactly if its execution did not find the run
or the call.  Then the run has been dropped since the call was registered, and the slot is never assigned; all
other slots hold what the one performance of their calls has come to. -/
theorem blocked_iff (reach : Later {} s) (quiet : Quiescent s) {i : ι}
    (registered : (s.calls i).phase = .registered n slot stage) :
    (s.exchange.slot slot = .pending ↔ ∃ f, (s.calls i).execution = some (.missed f)) ∧
    (s.exchange.slot slot = .pending → s.exchange.tableOf? (t.caller i).run ≠ some n ∧
      ∀ s', Later s s' → s'.exchange.slot slot = .pending) ∧
    (s.exchange.slot slot ≠ .pending →
      ∃ out, (s.calls i).performances = [((t.caller i).call.call, out)] ∧
        s.exchange.slot slot = .assigned (delivered out)) := by
  rcases (good_of_later reach).settled quiet registered with
    ⟨⟨f, missed⟩, pending, gone⟩ | ⟨⟨report, ended⟩, out, performed, assigned⟩
  · refine ⟨⟨fun _ => ⟨f, missed⟩, fun _ => pending⟩, fun _ => ⟨gone, fun s' later => ?_⟩, fun no => absurd pending no⟩
    exact pending_of_missed reach missed registered later
  · refine ⟨⟨fun pending => ?_, fun ⟨f, missed⟩ => ?_⟩, fun pending => ?_, fun _ => ⟨out, performed, assigned⟩⟩
    · cases pending.symm.trans assigned
    · cases missed.symm.trans ended
    · cases pending.symm.trans assigned

/-! ## A run that ends too early -/

/-- One call of a run. -/
def oneCall : Traffic Unit Nat Nat where
  caller _ := {
    run := "run-1"
    id := "call-1"
    call := { kind := .toolCall, call := 1, operation := "echo", payload := none } }
  text _ := none
  fresh _ _ _ := rfl

/-- The run is dropped after the event has been raised and before the call is executed. -/
theorem oneCall_run : ∃ s : oneCall.State, Later {} s ∧
    (s.calls ()).phase = .registered 0 0 .waiting ∧
    (s.calls ()).execution = some (.missed (Act.noRun "run-1" [])) ∧
    s.exchange.slot 0 = .pending := by
  have created : Later (t := oneCall) {} _ := .single (.createRun "run-1")
  have held := created.tail (.move (i := ()) (.hold (n := 0) rfl rfl) nofun)
  have registered := held.tail (.move (i := ()) (.register rfl rfl) nofun)
  have accepted := registered.tail (.move (i := ()) (.accept rfl) nofun)
  have dropped := accepted.tail (.dropRun "run-1")
  have begun := dropped.tail (.execute (i := ()) rfl rfl)
  have missed := begun.tail (.move (i := ()) (.missRun rfl rfl) nofun)
  exact ⟨_, missed, rfl, rfl, rfl⟩

theorem oneCall_quiescent {s : oneCall.State} {f : Failure} (missed : (s.calls ()).execution = some (.missed f)) :
    Quiescent s :=
  fun _ _ _ _ _ => ⟨_, _, missed, rfl⟩

/-- Everything has come to rest, the table is gone, and the caller waits for good. -/
theorem waits_for_dropped : ∃ s : oneCall.State, Later {} s ∧ Quiescent s ∧
    (s.calls ()).phase = .registered 0 0 .waiting ∧ s.exchange.tableOf? "run-1" ≠ some 0 ∧
    ∀ s', Later s s' → s'.exchange.slot 0 = .pending := by
  obtain ⟨s, reach, registered, missed, pending⟩ := oneCall_run
  have quiet := oneCall_quiescent missed
  obtain ⟨-, blocked, -⟩ := blocked_iff reach quiet registered
  exact ⟨s, reach, quiet, registered, blocked pending⟩

/-- So it is not so that all calls are completed. -/
theorem not_forall_completed : ¬ ∀ s : oneCall.State, Later {} s → Quiescent s →
    ∀ i n slot stage, (s.calls i).phase = .registered n slot stage →
      ∃ r, s.exchange.slot slot = .assigned r := by
  intro completed
  obtain ⟨s, reach, registered, missed, pending⟩ := oneCall_run
  obtain ⟨r, assigned⟩ := completed s reach (oneCall_quiescent missed) () 0 0 .waiting registered
  cases pending.symm.trans assigned

end Sure
end Traffic
end Rendezvous
