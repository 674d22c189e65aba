import Rendezvous.Proofs.Interleaving.Orphans
import Rendezvous.Proofs.Recording.Accounts
import Rendezvous.Proofs.Recording.Orders
import Rendezvous.Proofs.Recording.Playing

/-!
# What step activities do about runs

How far a step activity is says what has been done about the run of its step (`Scene.Stands`): as long as the agent's
turn is still to end, the run has been registered and scheduled, and there have been events of calls at most; the event
that ends it is raised, and the run forgotten, after that.  So at each point it is the beginning of a whole life of a
run (`Scene.Stands.begins`).

`Scene.Told` says so for all steps that have been ordered.  It is enough to say what a step of one activity, or of
anybody else, does about one run (`Scene.Told.replace`), as no two steps have the same run.

The activity starts and ends the run in several steps, and others may come in between; if nobody does, it is `startRun`
and `finishRun` (`Chronicle.Shows.startRun`, `Chronicle.Shows.finishRun`).
-/

namespace Rendezvous

set_option autoImplicit false

/-! ## Undisturbed -/

/-- The world is as the chronicle says. -/
structure Chronicle.Shows {κ α β ω : Type} (b : Chronicle) (w : World κ α β ω) : Prop where
  live : w.footing.live = b.live
  record : w.hub.engine.record.map EngineEntry.told = Deed.recorded b.log

namespace Chronicle.Shows

variable {κ α β ω : Type} {b : Chronicle} {w w' : World κ α β ω}

theorem of_recorded {b' : Chronicle} {log : List Deed} (world : b.Shows w) (recorded : Recorded w log w')
    (grown : b'.log = b.log ++ log) (live : w'.footing.live = b'.live) : b'.Shows w' := by
  refine ⟨live, ?_⟩
  rw [recorded, world.record, grown, Deed.recorded, Deed.recorded, Deed.recorded, List.filter_append, List.map_append]

/-- If nobody comes in between, the run of a step is registered, and then scheduled or forgotten again. -/
theorem startRun (world : b.Shows w) (o : StepOrder) (agentName : String) (userMessage systemMessage : Option String) :
    (∃ w', Act.startRun agentName userMessage systemMessage (some o.runId) w = (.ok o.runId, w') ∧
      ((b.note ⟨o.runId, .registered, 0⟩).note ⟨o.runId, .scheduled true, 0⟩).Shows w') ∨
    ∃ f w', Act.startRun agentName userMessage systemMessage (some o.runId) w = (.error f, w') ∧
      (((b.note ⟨o.runId, .registered, 0⟩).note ⟨o.runId, .scheduled false, 0⟩).note
        ⟨o.runId, .forgotten, 0⟩).Shows w' := by
  have opens : Act.startRun agentName userMessage systemMessage (some o.runId) w =
      Act.openRun o.runId agentName userMessage systemMessage w := by
    unfold Act.startRun
    rw [Text.given?_some o.runId_ne_empty]
    rfl
  rw [opens]
  rcases Act.openRun_eq o.runId agentName userMessage systemMessage w with
    ⟨w', starts, footing, recorded⟩ | ⟨f, w', fails, footing, recorded⟩
  · refine .inl ⟨w', starts, world.of_recorded recorded (List.append_assoc ..) ?_⟩
    rw [footing, Footing.register, world.live]
    rfl
  · refine .inr ⟨f, w', fails, world.of_recorded recorded ?_ ?_⟩
    · exact (List.append_assoc ..).trans (List.append_assoc ..)
    · rw [footing, Footing.forget, Footing.register, world.live]
      rfl

/-- The event that ends a run is raised, and the run is forgotten. -/
theorem finishRun (world : b.Shows w) (x : String) : ∃ taken w' r, Act.finishRun x w = (r, w') ∧
    ((b.note ⟨x, .raised .finish taken, 0⟩).note ⟨x, .forgotten, 0⟩).Shows w' := by
  obtain ⟨taken, w', r, finishes, footing, recorded⟩ := Act.finishRun_eq x w
  refine ⟨taken, w', r, finishes, world.of_recorded recorded (List.append_assoc ..) ?_⟩
  rw [footing, Footing.forget, world.live]
  rfl

end Chronicle.Shows

namespace Scene

open Ensemble

variable {κ : Type} {c : Company κ} {caller : Context} {s t : Scene c}

/-- Nothing has been done about a run, or everything. -/
def Finished (ds : List Doing) : Prop := ds = [] ∨ Whole ds

/-- How far a step activity is, how far it is with the engine, and what has been done about the run of the step. -/
inductive Stands : Errand Nat → c.Mark → List Doing → Prop
  | ordered (o : StepOrder) : Stands (.ordered o) .nothing []
  | found (o : StepOrder) (agent : Nat) : Stands (.found o agent) .nothing []
  | registered (o : StepOrder) (agent : Nat) : Stands (.found o agent) .registered [.registered]
  | scheduled (o : StepOrder) (agent : Nat) (r : c.Answer) :
      Stands (.found o agent) (.scheduled r) [.registered, .scheduled r.val.isOk]
  | begun {ds : List Doing} (o : StepOrder) (agent : Nat) (begun : Begun ds) : Stands (.begun o agent) .nothing ds
  | waiting {ds : List Doing} (step : OpenStep) (begun : Begun ds) : Stands (.waiting step) .nothing ds
  | ending {ds : List Doing} (step : OpenStep) (turn : Result Unit) (begun : Begun ds) :
      Stands (.ending step turn) .nothing ds
  | sent {ds : List Doing} (step : OpenStep) (turn : Result Unit) (begun : Begun ds) (r : c.Answer) :
      Stands (.ending step turn) (.sent r) (ds ++ [Doing.raised .finish r.val.isOk])
  | finished {ds : List Doing} (o : StepOrder) (r : Result StepReport) (finished : Finished ds) :
      Stands (.finished o r) .nothing ds

theorem Stands.finished_of {o : StepOrder} {r : Result StepReport} {m : c.Mark} {ds : List Doing}
    (stands : Stands (.finished o r) m ds) : Finished ds := by
  cases stands with
  | finished _ _ finished => exact finished

theorem Stands.begun_of {step : OpenStep} {m : c.Mark} {ds : List Doing} (stands : Stands (.waiting step) m ds) :
    Begun ds := by
  cases stands with
  | waiting _ begun => exact begun

/-- How far an activity is with the engine says what has been done about a run that is to be started. -/
theorem Stands.of_found {o : StepOrder} {agent : Nat} {m : c.Mark} {ds : List Doing}
    (stands : Stands (.found o agent) m ds) :
    (m = .nothing → ds = []) ∧ (m = .registered → ds = [.registered]) ∧
      ∀ r, m = .scheduled r → ds = [.registered, .scheduled r.val.isOk] := by
  cases stands with
  | found => exact ⟨fun _ => rfl, nofun, nofun⟩
  | registered => exact ⟨nofun, fun _ => rfl, nofun⟩
  | scheduled _ _ r =>
    refine ⟨nofun, nofun, fun r' same => ?_⟩
    cases same
    rfl

/-- So it does for a run that is to be ended. -/
theorem Stands.of_ending {step : OpenStep} {turn : Result Unit} {m : c.Mark} {ds : List Doing}
    (stands : Stands (.ending step turn) m ds) :
    (m = .nothing → Begun ds) ∧
      ∀ r, m = .sent r → ∃ before, Begun before ∧ ds = before ++ [.raised .finish r.val.isOk] := by
  cases stands with
  | ending _ _ begun => exact ⟨fun _ => begun, nofun⟩
  | sent _ _ begun r =>
    refine ⟨nofun, fun r' same => ?_⟩
    cases same
    exact ⟨_, begun, rfl⟩

/-- What has been done about the runs of the steps is what their activities have done, and the agents meanwhile. -/
structure Told (s : Scene c) : Prop where
  stands : ∀ a ∈ s.site.stage.errands, Stands a (s.marks a.order) (Deed.about a.order.runId s.chronicle.log)
  gone : ∀ o ∈ s.site.stage.orders, (∀ a ∈ s.site.stage.errands, a.order ≠ o) →
    Finished (Deed.about o.runId s.chronicle.log)
  new : ∀ o : StepOrder, o.plannerId = c.id → o ∉ s.site.stage.orders →
    s.marks o = .nothing ∧ Deed.about o.runId s.chronicle.log = []
  registry : s.chronicle.Registry c.id

/-- The steps that have been ordered are steps of this planner. -/
def Named (s : Scene c) : Prop := ∀ o ∈ s.site.stage.orders, o.plannerId = c.id

theorem own_runId {o : StepOrder} (named : o.plannerId = c.id) : Own c.id o.runId :=
  ⟨o.agentIndex, o.iteration, by rw [StepOrder.runId, named]⟩

/-- Orders of one planner with the same run are the same. -/
theorem runId_ne {o o' : StepOrder} (named : o.plannerId = c.id) (named' : o'.plannerId = c.id) (other : o ≠ o') :
    o.runId ≠ o'.runId := fun same => other (StepOrder.runId_injective (named.trans named'.symm) same)

theorem eq_of_order {errands : List (Errand Nat)} (distinct : (errands.map (·.order)).Nodup) {a b : Errand Nat}
    (mem : a ∈ errands) (mem' : b ∈ errands) (same : a.order = b.order) : a = b :=
  List.inj_on_of_nodup_map distinct mem mem' same

namespace Told

/-- Nobody has dealt with a run of a step. -/
theorem apart (told : Told s) (named : Named s) (errands : t.site.stage.errands = s.site.stage.errands)
    (orders : t.site.stage.orders = s.site.stage.orders) (marks : t.marks = s.marks)
    (apart : s.chronicle.Apart c.id t.chronicle) (placed : Placed s.site.stage) : Told t := by
  have about {o : StepOrder} (own : o.plannerId = c.id) :
      Deed.about o.runId t.chronicle.log = Deed.about o.runId s.chronicle.log := apart.about (own_runId own)
  refine ⟨?_, ?_, ?_, told.registry.apart apart⟩
  · intro a mem
    rw [errands] at mem
    rw [marks, about (named _ (placed.errands a mem))]
    exact told.stands a mem
  · intro o mem none
    rw [orders] at mem
    rw [errands] at none
    rw [about (named o mem)]
    exact told.gone o mem none
  · intro o own new
    rw [orders] at new
    rw [marks, about own]
    exact told.new o own new

/-- A step activity goes on, or something is done about the run of its step. -/
theorem replace (told : Told s) (named : Named s) (placed : Placed s.site.stage) {i : Nat} {before after : Errand Nat}
    (there : s.site.stage.errands[i]? = some before)
    (errands : t.site.stage.errands = s.site.stage.errands.set i after)
    (orders : t.site.stage.orders = s.site.stage.orders) (order : after.order = before.order)
    (marks : ∀ o, o ≠ before.order → t.marks o = s.marks o)
    (about : ∀ x, x ≠ before.order.runId → Own c.id x → Deed.about x t.chronicle.log = Deed.about x s.chronicle.log)
    (stands : Stands after (t.marks before.order) (Deed.about before.order.runId t.chronicle.log))
    (registry : t.chronicle.Registry c.id) : Told t := by
  have mem := List.mem_of_getElem? there
  have known := placed.errands before mem
  have others {o : StepOrder} (own : o.plannerId = c.id) (other : o ≠ before.order) :
      Deed.about o.runId t.chronicle.log = Deed.about o.runId s.chronicle.log :=
    about _ (runId_ne own (named _ known) other) (own_runId own)
  have moved {a : Errand Nat} (among : a ∈ s.site.stage.errands) (other : a ≠ before) :
      a ∈ s.site.stage.errands.set i after := mem_set_of_ne among there other
  refine ⟨?_, ?_, ?_, registry⟩
  · intro a among
    rw [errands] at among
    by_cases same : a.order = before.order
    · have here : after ∈ s.site.stage.errands.set i after :=
        List.mem_set (List.getElem?_eq_some_iff.mp there).1 after
      have once : ((s.site.stage.errands.set i after).map (·.order)).Nodup := by
        obtain ⟨old, new⟩ := perm_of_getElem? there after
        have perm := (new.map (·.order)).trans (.trans (.of_eq (by rw [List.map_cons, List.map_cons, order]))
          (old.map (·.order)).symm)
        exact perm.nodup_iff.mpr placed.distinct
      obtain rfl := eq_of_order once among here (same.trans order.symm)
      rw [same]
      exact stands
    · rcases List.mem_or_eq_of_mem_set among with old | rfl
      · rw [marks _ same, others (named _ (placed.errands a old)) same]
        exact told.stands a old
      · exact absurd order same
  · intro o ordered none
    rw [orders] at ordered
    rw [errands] at none
    have other : o ≠ before.order := by
      rintro rfl
      exact none after (List.mem_set (List.getElem?_eq_some_iff.mp there).1 after) order
    rw [others (named o ordered) other]
    refine told.gone o ordered fun a among same => ?_
    by_cases it : a = before
    · exact other (it ▸ same.symm)
    · exact none a (moved among it) same
  · intro o own new
    rw [orders] at new
    have other : o ≠ before.order := by
      rintro rfl
      exact new known
    rw [marks o other, others own other]
    exact told.new o own new

/-- The workflow orders steps, or lets one go that is over. -/
theorem flow {stage : c.ensemble.Stage} {x : Context × Chronicle} (told : Told s)
    (step : FlowStep x s.site.stage stage) (named : ∀ o ∈ stage.orders, o.plannerId = c.id)
    (numbered : Numbered stage) :
    Told { s with site := { s.site with stage } } := by
  rcases step.errands_frame with ⟨os, errands, orders⟩ | ⟨i, o, r, there, errands, orders, -⟩
  · have apart : ∀ o ∈ os, o ∉ s.site.stage.orders := by
      have once := numbered.once
      rw [orders] at once
      exact fun o new old => (List.nodup_append.mp once).2.2 o old o new rfl
    have own : ∀ o ∈ os, o.plannerId = c.id := fun o new => named o (orders ▸ List.mem_append_right _ new)
    refine ⟨?_, ?_, ?_, told.registry⟩
    · intro a mem
      have mem : a ∈ stage.errands := mem
      rw [errands] at mem
      rcases List.mem_append.mp mem with old | now
      · exact told.stands a old
      · obtain ⟨o, new, rfl⟩ := List.mem_map.mp now
        obtain ⟨mark, none⟩ := told.new o (own o new) (apart o new)
        show Stands (.ordered o) (s.marks o) (Deed.about o.runId s.chronicle.log)
        rw [mark, none]
        exact .ordered o
    · intro o mem none
      have mem : o ∈ stage.orders := mem
      have none : ∀ a ∈ stage.errands, a.order ≠ o := none
      rw [orders] at mem
      rw [errands] at none
      rcases List.mem_append.mp mem with old | new
      · exact told.gone o old fun a among => none a (List.mem_append_left _ among)
      · exact absurd rfl (none (.ordered o) (List.mem_append_right _ (List.mem_map_of_mem new)))
    · intro o own new
      have new : o ∉ stage.orders := new
      rw [orders] at new
      exact told.new o own fun old => new (List.mem_append_left _ old)
  · refine ⟨?_, ?_, ?_, told.registry⟩
    · intro a mem
      have mem : a ∈ stage.errands := mem
      rw [errands] at mem
      exact told.stands a (List.mem_of_mem_eraseIdx mem)
    · intro o' mem none
      have mem : o' ∈ stage.orders := mem
      have none : ∀ a ∈ stage.errands, a.order ≠ o' := none
      rw [orders] at mem
      rw [errands] at none
      by_cases same : o' = o
      · subst same
        exact (told.stands _ (List.mem_of_getElem? there)).finished_of
      · refine told.gone o' mem fun a among order => ?_
        refine none a (mem_eraseIdx_of_ne among there ?_) order
        rintro rfl
        exact same order.symm
    · intro o' own new
      have new : o' ∉ stage.orders := new
      rw [orders] at new
      exact told.new o' own new

end Told

/-! ## Step by step -/

theorem Finished.begins {ds : List Doing} (finished : Finished ds) : ∃ rest, Whole (ds ++ rest) := by
  rcases finished with rfl | whole
  · exact ⟨_, .refused⟩
  · exact ⟨[], (List.append_nil ds).symm ▸ whole⟩

/-- Wherever a step activity is, what has been done about its run is the beginning of a whole life. -/
theorem Stands.begins {a : Errand Nat} {m : c.Mark} {ds : List Doing} (stands : Stands a m ds) :
    ∃ rest, Whole (ds ++ rest) := by
  have begun {ds : List Doing} (begun : Begun ds) (taken : Bool) :
      Whole (ds ++ [.raised .finish taken, .forgotten]) := by
    obtain ⟨calls, going, rfl⟩ := begun
    exact .ended going taken
  cases stands with
  | ordered | found | registered => exact ⟨_, .refused⟩
  | scheduled _ _ r =>
    cases taken : r.val.isOk with
    | true => exact ⟨_, @Whole.ended [] (List.forall_mem_nil _) true⟩
    | false => exact ⟨_, .refused⟩
  | begun _ _ going | waiting _ going | ending _ _ going => exact ⟨_, begun going true⟩
  | sent _ _ going r =>
    refine ⟨[.forgotten], ?_⟩
    rw [List.append_assoc]
    exact begun going _
  | finished _ _ finished => exact finished.begins

/-- Something is done about the run of a step, other than an event of a call. -/
theorem Told.deal (told : Told s) (named : Named s) (placed : Placed s.site.stage) {i : Nat} {a : Errand Nat}
    (there : s.site.stage.errands[i]? = some a) {what : Doing} {m : c.Mark}
    (stands : Stands a m (Deed.about a.order.runId s.chronicle.log ++ [what])) : Told (s.deal a.order what m) := by
  have same : s.site.stage.errands.set i a = s.site.stage.errands := by
    obtain ⟨inside, rfl⟩ := List.getElem?_eq_some_iff.mp there
    exact List.set_getElem_self inside
  refine told.replace named placed there same.symm rfl rfl (fun o other => if_neg other) ?_ ?_ ?_
  · exact fun x other _ => Chronicle.about_note_of_ne (Ne.symm other)
  · have mark : (s.deal a.order what m).marks a.order = m := if_pos rfl
    rw [mark]
    exact (s.chronicle.about_note_self ⟨a.order.runId, what, 0⟩).symm ▸ stands
  · exact told.registry.note _

/-- A step activity comes to another place, and does not deal with the engine any more. -/
theorem Told.move (told : Told s) (named : Named s) (placed : Placed s.site.stage) {i : Nat} {a b : Errand Nat}
    (there : s.site.stage.errands[i]? = some a) (order : b.order = a.order)
    (stands : Stands b (.nothing : c.Mark) (Deed.about a.order.runId s.chronicle.log)) :
    Told ((s.mark a.order .nothing).move i b) := by
  refine told.replace named placed there rfl rfl order (fun o other => if_neg other) (fun _ _ _ => rfl) ?_
    told.registry
  have mark : ((s.mark a.order .nothing).move i b).marks a.order = .nothing := if_pos rfl
  rw [mark]
  exact stands

/-- Both at once. -/
theorem Told.settle (told : Told s) (named : Named s) (placed : Placed s.site.stage) {i : Nat} {a b : Errand Nat}
    (there : s.site.stage.errands[i]? = some a) (order : b.order = a.order) {what : Doing}
    (stands : Stands b (.nothing : c.Mark) (Deed.about a.order.runId s.chronicle.log ++ [what])) :
    Told ((s.deal a.order what .nothing).move i b) := by
  refine told.replace named placed there rfl rfl order (fun o other => if_neg other) ?_ ?_ (told.registry.note _)
  · exact fun x other _ => Chronicle.about_note_of_ne (Ne.symm other)
  · have mark : ((s.deal a.order what .nothing).move i b).marks a.order = .nothing := if_pos rfl
    rw [mark]
    exact (s.chronicle.about_note_self ⟨a.order.runId, what, 0⟩).symm ▸ stands

/-- A step activity that does not deal with the engine leaves the run of its step alone. -/
theorem Stands.errand {stage stage' : c.ensemble.Stage} {a b : Errand Nat} {m : c.Mark} {ds : List Doing}
    (stands : Stands a m ds) (aloof : Aloof a) (moves : ErrandStep stage a stage' b) : Stands b m ds := by
  cases moves with
  | find o agent live there =>
    cases stands
    exact .found o agent
  | miss o known gone | noAgent o f live absent =>
    cases stands
    exact .finished o _ (.inl rfl)
  | submit o agent =>
    cases stands with
    | begun _ _ begun => exact .waiting _ begun
  | wake step turn assigned =>
    cases stands with
    | waiting _ begun => exact .ending step turn begun
  | begin | unstarted | finish | unfinished => exact aloof.elim

theorem Told.errand {stage : c.ensemble.Stage} {i : Nat} {a b : Errand Nat} (told : Told s) (named : Named s)
    (placed : Placed s.site.stage) (there : s.site.stage.errands[i]? = some a) (aloof : Aloof a)
    (moves : ErrandStep s.site.stage a stage b) :
    Told { s with site := { s.site with stage := { stage with errands := stage.errands.set i b } } } := by
  have orders : stage.orders = s.site.stage.orders := by
    rcases moves.frame with rfl | ⟨o, agent, -, rfl, -⟩ <;> rfl
  refine told.replace named placed there ?_ orders moves.order_eq (fun _ _ => rfl) (fun _ _ _ => rfl) ?_ told.registry
  · show stage.errands.set i b = s.site.stage.errands.set i b
    rw [moves.slots_frame.1]
  · exact (told.stands a (List.mem_of_getElem? there)).errand aloof moves

/-- An event of a call is raised while the activity waits. -/
theorem Stands.event {step : OpenStep} {m : c.Mark} {ds : List Doing} {event : RunEvent}
    (stands : Stands (.waiting step) m ds) (call : event.isTerminal = false) (taken : Bool) :
    Stands (.waiting step) m (ds ++ [.raised event taken]) := by
  cases stands with
  | waiting _ begun =>
    refine .waiting step (begun.append fun d mem => ?_)
    cases List.mem_singleton.mp mem
    exact call

end Scene
end Rendezvous
