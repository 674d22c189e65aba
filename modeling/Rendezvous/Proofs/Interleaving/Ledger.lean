import Rendezvous.Proofs.Interleaving.Stage

/-!
# Who holds a slot

A slot is pending exactly as long as somebody holds it (`Ledger`): it is in the queue, it belongs to the
batch whose turn it is, the loop is just about to assign it, or it was in the queue when the loop found
the notice that the orchestration has ended.  The first three are settled in time.  `Tally` says that
nothing of a batch is left once the loop has come to its end, so what is pending then is what the last
look into the queue took without running it, and what was submitted after that
(`Reachable.pending_iff`).
-/

namespace Rendezvous

set_option autoImplicit false

namespace Planner

variable {α : Type}

/-! ## What the planner does to slots -/

/-- The slots of the current batch that have not been acknowledged. -/
def inTurn (p : Planner α) : List Nat := p.current.toList ++ p.pending

theorem pending_eq_nil_of_inTurn {p : Planner α} (none : p.inTurn = []) : p.pending = [] :=
  (List.append_eq_nil_iff.mp none).2

theorem openSlots_eq (p : Planner α) : p.openSlots = p.inTurn ++ slotsOf p.queue := rfl

theorem head?_toList_append_tail (slots : List Nat) : slots.head?.toList ++ slots.tail = slots := by
  cases slots <;> rfl

theorem slotsOf_append (ns ms : List (Notice α)) : slotsOf (ns ++ ms) = slotsOf ns ++ slotsOf ms :=
  List.filterMap_append

theorem slotsOf_of_turns? {ns : List (Notice α)} {batch : List (Submission α)}
    (turns : turns? ns = some batch) : slotsOf ns = batch.map (·.slot) := by
  induction ns generalizing batch with
  | nil => simp only [turns?, Option.some.injEq] at turns; subst turns; rfl
  | cons n rest ih =>
    cases n with
    | complete => simp [turns?] at turns
    | turn s =>
      obtain ⟨others, found, rfl⟩ := Option.map_eq_some_iff.mp turns
      rw [List.map_cons, ← ih found]
      rfl

theorem mem_of_turns? {ns : List (Notice α)} {batch : List (Submission α)}
    (turns : turns? ns = some batch) {s : Submission α} : s ∈ batch ↔ .turn s ∈ ns := by
  induction ns generalizing batch with
  | nil => simp only [turns?, Option.some.injEq] at turns; subst turns; simp
  | cons n rest ih =>
    cases n with
    | complete => simp [turns?] at turns
    | turn first =>
      obtain ⟨others, found, rfl⟩ := Option.map_eq_some_iff.mp turns
      simp [ih found]

theorem complete_mem_of_turns? {ns : List (Notice α)} (none : turns? ns = none) : .complete ∈ ns := by
  induction ns with
  | nil => simp [turns?] at none
  | cons n rest ih =>
    cases n with
    | complete => simp
    | turn s =>
      rw [turns?, Option.map_eq_none_iff] at none
      exact List.mem_cons_of_mem _ (ih none)

theorem complete_notMem_of_turns? {ns : List (Notice α)} {batch : List (Submission α)}
    (turns : turns? ns = some batch) : .complete ∉ ns := by
  induction ns generalizing batch with
  | nil => exact List.not_mem_nil
  | cons n rest ih =>
    cases n with
    | complete => cases turns
    | turn s =>
      obtain ⟨others, found, -⟩ := Option.map_eq_some_iff.mp turns
      simpa using ih found

/-- A batch is all there was in the queue. -/
theorem drain_call {p q : Planner α} {batch : List (Submission α)}
    (drained : p.drain = some (.call batch, q)) :
    batch ≠ [] ∧ turns? p.queue = some batch ∧ q = ({ p with queue := [] } : Planner α).dispatch batch := by
  unfold drain at drained
  split at drained
  · cases drained
  · rename_i notices nonempty
    split at drained
    · cases drained
    · rename_i found turns
      cases drained
      refine ⟨?_, turns, rfl⟩
      rintro rfl
      have none := slotsOf_of_turns? turns
      cases h : p.queue with
      | nil => exact nonempty h
      | cons n rest =>
        cases n with
        | complete => rw [h] at turns; simp [turns?] at turns
        | turn s => rw [h] at none; simp [slotsOf] at none

/-- The loop ends when it finds the notice that the orchestration has ended. -/
theorem drain_done {p q : Planner α} (drained : p.drain = some (.done, q)) :
    .complete ∈ p.queue ∧ q = { p with queue := [] } := by
  unfold drain at drained
  split at drained
  · cases drained
  · split at drained
    · rename_i ended
      cases drained
      exact ⟨complete_mem_of_turns? ended, rfl⟩
    · cases drained

theorem drain_of_complete {p : Planner α} (there : .complete ∈ p.queue) :
    ∃ q, p.drain = some (.done, q) := by
  have ended : turns? p.queue = none := by
    cases turns : turns? p.queue with
    | none => rfl
    | some batch => exact absurd there (complete_notMem_of_turns? turns)
  unfold drain
  split
  · rename_i empty
    rw [empty] at there
    cases there
  · rw [ended]
    exact ⟨_, rfl⟩

theorem drain_ne_noOp {p q : Planner α} : p.drain ≠ some (.noOp, q) := by
  intro drained
  unfold drain at drained
  split at drained
  · cases drained
  · split at drained <;> cases drained

theorem inTurn_dispatch (batch : List (Submission α)) (p : Planner α) :
    (p.dispatch batch).inTurn = p.pending ++ batch.map (·.slot) :=
  head?_toList_append_tail _

/-- A batch takes its slots from the queue; no slot is lost. -/
theorem openSlots_dispatch {p : Planner α} {batch : List (Submission α)} (none : p.inTurn = [])
    (turns : turns? p.queue = some batch) :
    (({ p with queue := [] } : Planner α).dispatch batch).openSlots = p.openSlots := by
  have pending := pending_eq_nil_of_inTurn none
  calc (({ p with queue := [] } : Planner α).dispatch batch).openSlots
    _ = (({ p with queue := [] } : Planner α).dispatch batch).inTurn := List.append_nil _
    _ = p.pending ++ batch.map (·.slot) := inTurn_dispatch batch _
    _ = p.inTurn ++ slotsOf p.queue := by rw [pending, none, slotsOf_of_turns? turns]
    _ = p.openSlots := (openSlots_eq p).symm

theorem inTurn_acknowledge (p : Planner α) : p.acknowledge.2.inTurn = p.pending :=
  head?_toList_append_tail _

end Planner

namespace Ensemble

variable {β σ : Type} {e : Ensemble β σ}

/-! ## The loop keeps count -/

/-- The turns of the current batch that are still to be acknowledged, as the place of the loop says. -/
def Tally (p : Planner β) : e.Loop → Prop
  | .unnamed | .opening => p.inTurn = [] ∧ p.outstanding = 0
  | .counting left =>
    p.inTurn.length = left ∧ (p.outstanding = left + 1 ∨ left = 0 ∧ p.outstanding = 0)
  | .looking => p.inTurn = [] ∧ p.outstanding ≤ 0
  | .running batch =>
    batch ≠ [] ∧ p.inTurn = batch.map (·.submission.slot) ∧ p.outstanding = batch.length
  | .acknowledging left => p.inTurn.length = left ∧ p.outstanding = left
  | .assigning _ left => p.inTurn.length = left ∧ p.outstanding = left + 1
  | .failing .. | .leaving _ | .ended _ => p.inTurn = []
  | .refused => p.inTurn ≠ []

/-- The slots of a batch come one after the other: none is pending behind a missing one. -/
structure Counted (s : e.Stage) : Prop where
  upright : s.planner.current = none → s.planner.pending = []
  tally : Tally s.planner s.loop

/-- A thread other than the loop touches nothing but the queue of the planner. -/
theorem Counted.of_put {s t : e.Stage} (counted : Counted s) (loop : t.loop = s.loop)
    (planner : t.planner = s.planner ∨ ∃ n, t.planner = s.planner.put n) : Counted t := by
  obtain ⟨upright, tally⟩ := counted
  rcases planner with same | ⟨n, put⟩
  · exact ⟨by rwa [same], by rwa [loop, same]⟩
  · refine ⟨by rw [put]; exact upright, ?_⟩
    rw [loop, put]
    revert tally
    cases s.loop <;> exact id

theorem FlowStep.frame {x : σ} {s t : e.Stage} (step : FlowStep x s t) :
    t.loop = s.loop ∧ t.slots = s.slots ∧ t.submitted = s.submitted ∧ t.taken = s.taken ∧
      t.dropped = s.dropped ∧ t.retired = s.retired ∧ t.live = s.live ∧
      (t.planner = s.planner ∨ t.planner = s.planner.complete) := by
  cases step <;> simp

theorem ErrandStep.frame {s t : e.Stage} {a b : Errand β} (step : ErrandStep s a t b) :
    t = s ∨ ∃ o agent, a = .begun o agent ∧ t = s.submit o agent ∧
      b = .waiting { order := o, agentName := (e.profile agent).name, slot := s.slots.length } := by
  cases step with
  | submit o agent => exact .inr ⟨o, agent, rfl, rfl, rfl⟩
  | _ => exact .inl rfl

/-- A turn that goes on remains the turn of its submission. -/
theorem map_submission_set {batch : List e.Turn} {t : e.Turn} {i : Nat} (there : batch[i]? = some t)
    (q : (e.behaviour t.submission.agent).State) :
    (batch.set i ⟨t.submission, q⟩).map (·.submission) = batch.map (·.submission) := by
  obtain ⟨inside, rfl⟩ := List.getElem?_eq_some_iff.mp there
  have same : batch[i].submission = (batch.map (·.submission)).get ⟨i, by simpa using inside⟩ := by
    simp
  rw [List.map_set, same]
  exact List.set_getElem_self _

theorem map_slot_set {batch : List e.Turn} {t : e.Turn} {i : Nat} (there : batch[i]? = some t)
    (q : (e.behaviour t.submission.agent).State) :
    (batch.set i ⟨t.submission, q⟩).map (·.submission.slot) = batch.map (·.submission.slot) := by
  have slots (ts : List e.Turn) : ts.map (·.submission.slot) = (ts.map (·.submission)).map (·.slot) :=
    List.map_map.symm
  rw [slots, slots, map_submission_set there]

theorem LoopStep.counted {s t : e.Stage} (step : LoopStep s t) (counted : Counted s) : Counted t := by
  obtain ⟨upright, tally⟩ := counted
  cases step with
  | name id at_ =>
    rw [at_] at tally
    exact ⟨upright, tally⟩
  | schedule start at_ valid engine =>
    rw [at_] at tally
    exact ⟨upright, by simp [Tally, tally.1, tally.2]⟩
  | invalid f at_ _ | unscheduled f at_ _ =>
    rw [at_] at tally
    exact ⟨upright, tally.1⟩
  | count left at_ =>
    rw [at_] at tally
    refine ⟨upright, ?_⟩
    obtain ⟨length, outstanding⟩ := tally
    have waiting : s.planner.countDown.isWaiting = decide (0 < left) := by
      rw [Planner.isWaiting_countDown]
      exact decide_eq_decide.mpr (by omega)
    cases left with
    | zero =>
      simp only [waiting, Nat.lt_irrefl, decide_false, Bool.false_eq_true, if_false]
      exact ⟨List.length_eq_zero_iff.mp length, by simp only [Planner.countDown]; omega⟩
    | succ left =>
      simp only [waiting, Nat.zero_lt_succ, decide_true, if_true]
      exact ⟨length, by simp only [Planner.countDown]; omega⟩
  | call batch p at_ drained runs =>
    rw [at_] at tally
    obtain ⟨nonempty, -, rfl⟩ := Planner.drain_call drained
    have none := Planner.pending_eq_nil_of_inTurn tally.1
    refine ⟨?_, ?_, ?_, ?_⟩
    · intro current
      simp_all [Planner.dispatch]
    · simpa using nonempty
    · simp [Planner.inTurn_dispatch, none, Turn.of, Function.comp_def]
    · simp [Planner.dispatch]
  | refuse batch p at_ drained refuses =>
    rw [at_] at tally
    obtain ⟨nonempty, -, rfl⟩ := Planner.drain_call drained
    have none := Planner.pending_eq_nil_of_inTurn tally.1
    refine ⟨?_, ?_⟩
    · intro current
      simp_all [Planner.dispatch]
    · simpa [Tally, Planner.inTurn_dispatch, none] using nonempty
  | stop p at_ drained =>
    rw [at_] at tally
    obtain ⟨-, rfl⟩ := Planner.drain_done drained
    exact ⟨upright, tally.1⟩
  | finish batch outcomes at_ all none =>
    rw [at_] at tally
    obtain ⟨-, turns, outstanding⟩ := tally
    exact ⟨upright, by simp [Tally, Stage.note, turns, outstanding]⟩
  | giveUp batch outcomes f at_ all first => exact ⟨fun _ => rfl, rfl⟩
  | acknowledge left at_ =>
    rw [at_] at tally
    obtain ⟨length, outstanding⟩ := tally
    refine ⟨?_, ?_, ?_⟩
    · intro current
      simp_all [Planner.acknowledge]
    · rw [Planner.inTurn_acknowledge]
      cases current : s.planner.current with
      | none => simp [Planner.inTurn, current, upright current] at length
      | some k => simpa [Planner.inTurn, current] using length
    · simpa [Planner.acknowledge] using outstanding
  | assign slot left at_ =>
    rw [at_] at tally
    exact ⟨upright, tally.1, .inl tally.2⟩
  | failNext slot rest f at_ | failed f at_ | leave r at_ =>
    rw [at_] at tally
    exact ⟨upright, tally⟩

theorem Step.counted {s t : e.Stage} {x y : σ} (step : Step s x t y) (counted : Counted s) :
    Counted t := by
  cases step with
  | loop step => exact step.counted counted
  | flow step =>
    obtain ⟨loop, -, -, -, -, -, -, planner⟩ := step.frame
    exact counted.of_put loop (planner.imp_right fun same => ⟨_, same⟩)
  | errand i there step =>
    rcases step.frame with rfl | ⟨o, agent, -, rfl, -⟩
    · exact counted.of_put rfl (.inl rfl)
    · exact counted.of_put rfl (.inr ⟨_, rfl⟩)
  | perform i at_ there moves =>
    obtain ⟨upright, tally⟩ := counted
    rw [at_] at tally
    refine ⟨upright, ?_, ?_, ?_⟩
    · simpa using tally.1
    · rw [map_slot_set there]
      exact tally.2.1
    · simpa using tally.2.2
  | linger i there moves => exact counted.of_put rfl (.inl rfl)

theorem Reachable.counted {s : e.Stage} (reach : Reachable s) : Counted s := by
  induction reach with
  | opening => exact ⟨fun _ => rfl, rfl, rfl⟩
  | step _ step ih => exact step.counted ih

/-! ## Every pending slot is held, once -/

/-- The slots that the loop is about to assign. -/
def Loop.inHand : e.Loop → List Nat
  | .assigning slot _ => slot.toList
  | .failing slots _ => slots
  | _ => []

/-- All slots that somebody holds. -/
def Stage.held (s : e.Stage) : List Nat :=
  s.planner.openSlots ++ s.loop.inHand ++ Planner.slotsOf s.dropped

/-- A slot is pending exactly as long as somebody holds it. -/
structure Ledger (s : e.Stage) : Prop where
  pending : ∀ k, s.slots[k]? = some .pending ↔ k ∈ s.held
  once : s.held.Nodup

theorem Ledger.of_perm {s t : e.Stage} (ledger : Ledger s) (slots : t.slots = s.slots)
    (held : t.held.Perm s.held) : Ledger t :=
  ⟨fun k => by rw [slots, ledger.pending, held.mem_iff], held.nodup_iff.mpr ledger.once⟩

/-- A slot that has been assigned is not held any more. -/
theorem Ledger.of_assigned {s t : e.Stage} (ledger : Ledger s) (slot : Nat) (r : Result Unit)
    (slots : t.slots = s.slots.modify slot (Slot.assign r)) (held : s.held.Perm (slot :: t.held)) :
    Ledger t := by
  have once := held.nodup_iff.mp ledger.once
  rw [List.nodup_cons] at once
  refine ⟨fun k => ?_, once.2⟩
  rw [slots, List.getElem?_modify]
  by_cases same : slot = k
  · subst same
    have pending := (ledger.pending slot).mpr (held.mem_iff.mpr List.mem_cons_self)
    simp [pending, Slot.assign, once.1]
  · have other : k ∈ s.held ↔ k ∈ t.held := by
      rw [held.mem_iff, List.mem_cons]
      simp [Ne.symm same]
    simpa [same] using (ledger.pending k).trans other

/-- A new slot is pending, and whoever has been given it holds it. -/
theorem Ledger.of_submitted {s t : e.Stage} (ledger : Ledger s)
    (slots : t.slots = s.slots ++ [.pending]) (held : t.held.Perm (s.slots.length :: s.held)) :
    Ledger t := by
  have fresh : s.slots.length ∉ s.held := by
    rw [← ledger.pending]
    simp
  refine ⟨fun k => ?_, held.nodup_iff.mpr (List.nodup_cons.mpr ⟨fresh, ledger.once⟩)⟩
  rw [slots, held.mem_iff, List.mem_cons, ← ledger.pending k, List.getElem?_append]
  by_cases inside : k < s.slots.length
  · simp [inside, Nat.ne_of_lt inside]
  · by_cases last : k = s.slots.length
    · simp [last]
    · have beyond : s.slots.length < k := by omega
      simp [inside, last, Nat.sub_eq_zero_iff_le, Nat.not_le.mpr beyond]

theorem held_submit (s : e.Stage) (o : StepOrder) (agent : β) :
    (s.submit o agent).held.Perm (s.slots.length :: s.held) := by
  simp only [Stage.held, Stage.submit, Planner.openSlots_submit, Stage.submission, List.append_assoc,
    List.singleton_append]
  exact List.perm_middle

theorem LoopStep.ledger {s t : e.Stage} (step : LoopStep s t) (counted : Counted s)
    (ledger : Ledger s) : Ledger t := by
  have tally := counted.tally
  cases step with
  | name id at_ | schedule start at_ _ _ | invalid f at_ _ | unscheduled f at_ _
  | finish batch outcomes at_ _ _ | leave r at_ =>
    refine ledger.of_perm rfl (.of_eq ?_)
    simp [Stage.held, Stage.note, Loop.inHand, at_, Planner.openSlots]
  | failed f at_ =>
    refine ledger.of_perm rfl (.of_eq ?_)
    simp [Stage.held, Loop.inHand, at_]
  | count left at_ =>
    refine ledger.of_perm rfl (.of_eq ?_)
    simp only [Stage.held, at_]
    split <;> rfl
  | call batch p at_ drained runs =>
    rw [at_] at tally
    obtain ⟨-, turns, rfl⟩ := Planner.drain_call drained
    refine ledger.of_perm rfl (.of_eq ?_)
    simp only [Stage.held, Loop.inHand, at_, Planner.openSlots_dispatch tally.1 turns]
  | refuse batch p at_ drained refuses =>
    rw [at_] at tally
    obtain ⟨-, turns, rfl⟩ := Planner.drain_call drained
    refine ledger.of_perm rfl (.of_eq ?_)
    simp only [Stage.held, Loop.inHand, at_, Planner.openSlots_dispatch tally.1 turns]
  | stop p at_ drained =>
    rw [at_] at tally
    obtain ⟨-, rfl⟩ := Planner.drain_done drained
    refine ledger.of_perm rfl ?_
    simp only [Stage.held, Loop.inHand, at_, Planner.openSlots_eq, Planner.slotsOf_append,
      List.append_nil]
    have turn : ({ s.planner with queue := [] } : Planner β).inTurn = [] := tally.1
    rw [turn, tally.1]
    simpa [Planner.slotsOf] using List.perm_append_comm
  | giveUp batch outcomes f at_ all first =>
    refine ledger.of_perm rfl (.of_eq ?_)
    simp only [Stage.held, Stage.note, Loop.inHand, at_, (Planner.abort_openSlots _).1,
      (Planner.abort_openSlots _).2, List.append_nil, List.nil_append]
  | acknowledge left at_ =>
    refine ledger.of_perm rfl ?_
    simp only [Stage.held, Loop.inHand, at_, List.append_nil, Planner.openSlots_eq,
      Planner.inTurn_acknowledge]
    apply List.Perm.append_right
    show (s.planner.pending ++ Planner.slotsOf s.planner.queue ++ s.planner.current.toList).Perm
      (s.planner.current.toList ++ s.planner.pending ++ Planner.slotsOf s.planner.queue)
    rw [List.append_assoc s.planner.current.toList]
    exact List.perm_append_comm
  | assign slot left at_ =>
    cases slot with
    | none =>
      refine ledger.of_perm rfl (.of_eq ?_)
      simp [Stage.held, Loop.inHand, at_]
    | some slot =>
      refine ledger.of_assigned slot (.ok ()) rfl ?_
      simp only [Stage.held, Loop.inHand, at_, Option.toList_some, List.append_nil, List.append_assoc,
        List.singleton_append]
      exact List.perm_middle
  | failNext slot rest f at_ =>
    refine ledger.of_assigned slot (.error f) rfl ?_
    simp only [Stage.held, Loop.inHand, at_, List.append_assoc, List.cons_append]
    exact List.perm_middle

theorem Step.ledger {s t : e.Stage} {x y : σ} (step : Step s x t y) (counted : Counted s)
    (ledger : Ledger s) : Ledger t := by
  cases step with
  | loop step => exact step.ledger counted ledger
  | flow step =>
    obtain ⟨loop, slots, -, -, dropped, -, -, planner⟩ := step.frame
    refine ledger.of_perm slots (.of_eq ?_)
    rcases planner with same | complete
    · simp [Stage.held, loop, dropped, same]
    · simp [Stage.held, loop, dropped, complete, Planner.complete, Planner.put, Planner.openSlots,
        Planner.slotsOf]
  | errand i there step =>
    rcases step.frame with rfl | ⟨o, agent, -, rfl, -⟩
    · exact ledger.of_perm rfl (.refl _)
    · exact ledger.of_submitted rfl (held_submit s o agent)
  | perform i at_ there moves =>
    refine ledger.of_perm rfl (.of_eq ?_)
    simp [Stage.held, Loop.inHand, at_]
  | linger i there moves => exact ledger.of_perm rfl (.refl _)

theorem Reachable.ledger {s : e.Stage} (reach : Reachable s) : Ledger s := by
  induction reach with
  | opening => exact ⟨by simp [Ensemble.opening, Stage.held, planner, Planner.init, Planner.openSlots,
      Loop.inHand, Planner.slotsOf], by simp [Ensemble.opening, Stage.held, planner, Planner.init,
      Planner.openSlots, Loop.inHand, Planner.slotsOf]⟩
  | step reach step ih => exact step.ledger reach.counted ih

/-- What the last look into the queue has taken without running it, and what has been submitted since. -/
def Stage.leftBehind (s : e.Stage) : List Nat := Planner.slotsOf (s.dropped ++ s.planner.queue)

/-- What the loop has ended with, as soon as it assigns no slots any more. -/
def Loop.outcome? : e.Loop → Option (Result Unit)
  | .leaving r | .ended r => some r
  | _ => none

theorem Loop.inHand_of_outcome? {l : e.Loop} {r : Result Unit} (ended : l.outcome? = some r) :
    l.inHand = [] := by
  cases l with
  | leaving r' | ended r' => rfl
  | _ => cases ended

/-- Once the loop assigns no slots any more, a slot is pending exactly if it was left behind. -/
theorem Reachable.pending_iff {s : e.Stage} (reach : Reachable s) {r : Result Unit}
    (ended : s.loop.outcome? = some r) (k : Nat) : s.slots[k]? = some .pending ↔ k ∈ s.leftBehind := by
  have tally := reach.counted.tally
  have none : s.planner.inTurn = [] := by
    cases loop : s.loop with
    | leaving r' | ended r' =>
      rw [loop] at tally
      exact tally
    | _ =>
      rw [loop] at ended
      cases ended
  rw [reach.ledger.pending, Stage.held, Stage.leftBehind, Planner.openSlots_eq, none,
    Loop.inHand_of_outcome? ended, Planner.slotsOf_append]
  simp [or_comm]

end Ensemble
end Rendezvous
