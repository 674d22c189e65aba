import Rendezvous.Proofs.Lockstep.Accounts

/-!
# Every batch is accounted for

Whatever the schedule, a planner hands out what has been submitted, in its order and each submission once.  After a batch,
each call of the loop ends the turn of the agent whose place in the batch is that of the call, and of no other; all of
these calls but the last one find nothing to do and leave the queue alone (`Accounted`).
-/

namespace Rendezvous

set_option autoImplicit false

namespace Desk

variable {α : Type} {d d' : Desk α}

namespace Place

/-- Whether the loop is at the queue. -/
def atQueue : Place α → Bool
  | taking _ _ => true
  | _ => false

/-- Whether a call of the loop is under way. -/
def isCalling : Place α → Bool
  | assigning _ | counting _ | taking _ _ => true
  | _ => false

end Place

/-- Only at the queue does the loop take anything from it. -/
theorem Move.queue (move : Move d d') (away : d.place.atQueue = false) : d'.planner.queue = d.planner.queue := by
  cases move with
  | start at_ | refuse at_ | acknowledge at_ | assign slot at_ | wait assigned at_ waits | look assigned at_ free => rfl
  | take assigned taken rest n at_ queue =>
    rw [at_] at away
    cases away
  | conclude assigned taken action p at_ empty drained =>
    rw [at_] at away
    cases away

/-- The loop never stops, except to wait for the queue. -/
theorem goesOn (open_ : d.place ≠ .ended) :
    (∃ d', Move d d') ∨ ∃ assigned, d.place = .taking assigned [] ∧ d.planner.queue = [] := by
  cases at_ : d.place with
  | before => exact .inl ⟨_, .start d at_⟩
  | idle => exact .inl ⟨_, .acknowledge d at_⟩
  | assigning slot => exact .inl ⟨_, .assign d slot at_⟩
  | counting assigned =>
    cases waiting : d.planner.countDown.isWaiting with
    | true => exact .inl ⟨_, .wait d assigned at_ waiting⟩
    | false => exact .inl ⟨_, .look d assigned at_ waiting⟩
  | taking assigned taken =>
    cases queue : d.planner.queue with
    | cons n rest => exact .inl ⟨_, .take d assigned taken rest n at_ queue⟩
    | nil =>
      cases taken with
      | nil => exact .inr ⟨assigned, rfl, rfl⟩
      | cons n rest =>
        obtain ⟨⟨action, p⟩, drained⟩ : ∃ next, ({ d.planner with queue := n :: rest } : Planner α).drain = some next :=
          Option.ne_none_iff_exists'.mp fun none => nomatch (Planner.drain_eq_none_iff _).mp none
        exact .inl ⟨_, .conclude d assigned _ action p at_ queue drained⟩
  | ended => exact absurd at_ open_

/-- What the schedule has come to: the calls of the loop fit the batches and what has been submitted. -/
structure Accounted (d : Desk α) : Prop where
  /-- The batches together are the beginning of what has been submitted. -/
  inOrder : handedOut d.answers <+: d.submitted
  /-- No two submissions have the same slot. -/
  once : (d.submitted.map (·.slot)).Nodup
  nonempty : ∀ a ∈ d.answers, a.action ≠ .call []
  /-- The first call ends no turn and goes to the queue. -/
  first : ∀ a, d.answers[0]? = some a → a.assigned = [] ∧ a.action ≠ .noOp ∧ a.looked = true
  /-- Every other call ends a turn. -/
  later : ∀ m a, d.answers[m + 1]? = some a → ∃ batch k, Closes d.answers (m + 1) batch k
  /-- It assigns the slot of this turn only; it has nothing for the loop to do, and does not go to the queue, if it is not
  the last turn of the batch. -/
  turn : ∀ m a batch k s, d.answers[m]? = some a → Closes d.answers m batch k → batch[k]? = some s →
    a.assigned = [s.slot] ∧
      (k + 1 < batch.length → a.action = .noOp ∧ a.looked = false) ∧
      (k + 1 = batch.length → a.action ≠ .noOp ∧ a.looked = true)
  /-- The same holds of a call that is under way, as far as it has come. -/
  underway : d.place.isCalling = true → (d.answers = [] ∧ d.place.assigned = []) ∨
    ∃ batch k s, Closes d.answers d.answers.length batch k ∧ batch[k]? = some s ∧ d.place.assigned ⊆ [s.slot] ∧
      (d.place.atQueue = true → k + 1 = batch.length)
  /-- Away from the queue, no step of the loop changes it. -/
  queue : d.place.atQueue = false → ∀ d', Move d d' → d'.planner.queue = d.planner.queue
  /-- The slots that have been assigned are those that calls have assigned, each of them once. -/
  slots : ∀ k r, d.slots[k]? = some (.assigned r) ↔ r = .ok () ∧ k ∈ d.settled
  settledOnce : d.settled.Nodup
  /-- A run is bound after a call exactly for an agent that is a batch of its own and has one. -/
  run : ∀ a ∈ d.answers, ∀ id, a.run = some id ↔ ∃ s, a.action = .call [s] ∧ s.run = some id
  /-- The loop never stops, except to wait for the queue. -/
  goesOn : d.place ≠ .ended → (∃ d', Move d d') ∨ ∃ assigned, d.place = .taking assigned [] ∧ d.planner.queue = []

/-- A call that ends a turn fits this turn and those behind it. -/
theorem Counted.fits (counted : Counted d) {m : Nat} {a : Answer α} {batch : List (Submission α)} {k : Nat}
    (there : d.answers[m]? = some a) (closes : Closes d.answers m batch k) :
    a.Fits ((batch.map (·.slot)).drop k) := by
  have known : m < d.answers.length := (List.getElem?_eq_some_iff.mp there).1
  rw [← closes.owed counted.follows known.le]
  exact counted.follows.fits there

theorem head?_drop_map {batch : List (Submission α)} {k : Nat} {s : Submission α} (at_ : batch[k]? = some s) :
    ((batch.map (·.slot)).drop k).head? = some s.slot := by
  rw [List.head?_drop, List.getElem?_map, at_]
  rfl

theorem Counted.turn (counted : Counted d) {m : Nat} {a : Answer α} {batch : List (Submission α)} {k : Nat}
    {s : Submission α} (there : d.answers[m]? = some a) (closes : Closes d.answers m batch k)
    (at_ : batch[k]? = some s) : a.assigned = [s.slot] ∧
      (k + 1 < batch.length → a.action = .noOp ∧ a.looked = false) ∧
      (k + 1 = batch.length → a.action ≠ .noOp ∧ a.looked = true) := by
  have fits := counted.fits there closes
  have length : ((batch.map (·.slot)).drop k).length = batch.length - k := by rw [List.length_drop, List.length_map]
  refine ⟨?_, fun several => ?_, fun last => ?_⟩
  · rw [fits.assigned, head?_drop_map at_]
    rfl
  · exact fits.waits (by omega)
  · exact fits.looks (by omega)

/-- What a call under way has assigned so far is owed, and it is at the queue only if nothing else is. -/
theorem Counted.calling (counted : Counted d) (calling : d.place.isCalling = true) :
    d.place.assigned ⊆ (owed d.answers).head?.toList ∧ (d.place.atQueue = true → (owed d.answers).length ≤ 1) := by
  have tally := counted.tally
  revert tally calling
  cases d.place with
  | before | idle | ended => exact nofun
  | assigning slot => exact fun _ _ => ⟨List.nil_subset _, nofun⟩
  | counting assigned => exact fun _ tally => ⟨tally.1 ▸ List.Subset.refl _, nofun⟩
  | taking assigned taken => exact fun _ tally => ⟨tally.1 ▸ List.Subset.refl _, fun _ => tally.2.2⟩

theorem Reachable.underway (reach : Reachable d) (calling : d.place.isCalling = true) :
    (d.answers = [] ∧ d.place.assigned = []) ∨
    ∃ batch k s, Closes d.answers d.answers.length batch k ∧ batch[k]? = some s ∧ d.place.assigned ⊆ [s.slot] ∧
      (d.place.atQueue = true → k + 1 = batch.length) := by
  have counted := reach.counted
  obtain ⟨assigned, atQueue⟩ := counted.calling calling
  have open_ : d.place ≠ .ended := fun ended => by rw [ended] at calling; cases calling
  by_cases nothing : owed d.answers = []
  · rw [nothing] at assigned
    exact .inl ⟨reach.begun.goesOn open_ nothing, List.subset_nil.mp assigned⟩
  · right
    obtain ⟨batch, k, closes, owes⟩ :=
      closes_of_owed (m := d.answers.length) le_rfl (by rwa [List.take_length])
    rw [List.take_length] at owes
    have within := closes.within
    obtain ⟨s, at_⟩ : ∃ s, batch[k]? = some s := ⟨_, List.getElem?_eq_getElem within⟩
    refine ⟨batch, k, s, closes, at_, ?_, fun queue => ?_⟩
    · rwa [owes, head?_drop_map at_] at assigned
    · have short := atQueue queue
      rw [owes, List.length_drop, List.length_map] at short
      omega

/-- The slots that have been assigned are the first of those that have been handed out. -/
theorem Counted.settled_isPrefix (counted : Counted d) : d.settled <+: (handedOut d.answers).map (·.slot) := by
  rw [← counted.follows.assigned_append_owed]
  refine (List.prefix_append_right_inj _).mpr ?_
  have tally := counted.tally
  revert tally
  have head : (owed d.answers).head?.toList <+: owed d.answers := by
    cases owed d.answers with
    | nil => exact List.nil_prefix
    | cons k rest => exact ⟨rest, rfl⟩
  cases d.place with
  | before | idle | assigning slot | ended => exact fun _ => List.nil_prefix
  | counting assigned | taking assigned taken => exact fun tally => tally.1 ▸ head

/-- Whatever the schedule, every batch is accounted for. -/
theorem Reachable.lockstep (reach : Reachable d) : Accounted d where
  inOrder := reach.numbered.handedOut_isPrefix
  once := by
    rw [reach.numbered.slots]
    exact List.nodup_range
  nonempty a mem := by
    obtain ⟨m, there⟩ := List.getElem?_of_mem mem
    exact (reach.counted.follows.fits there).nonempty
  first a there := by
    have fits : a.Fits [] := reach.counted.follows.fits there
    exact ⟨fits.assigned, fits.looks (Nat.zero_le 1)⟩
  later m a there := by
    have known := (List.getElem?_eq_some_iff.mp there).1
    have begun : owed (d.answers.take (m + 1)) ≠ [] := fun nothing =>
      nomatch reach.begun.calls (m + 1) a there nothing
    obtain ⟨batch, k, closes, -⟩ := closes_of_owed known.le begun
    exact ⟨batch, k, closes⟩
  turn _ _ _ _ _ there closes at_ := reach.counted.turn there closes at_
  underway := reach.underway
  queue away _ move := move.queue away
  slots := reach.settled
  settledOnce := by
    refine (reach.counted.settled_isPrefix.trans (reach.numbered.handedOut_isPrefix.map _)).sublist.nodup ?_
    rw [reach.numbered.slots]
    exact List.nodup_range
  run := reach.bound.after
  goesOn := Desk.goesOn

/-- Two agents are submitted before the loop looks, and one with a run of its own comes while they have their turns; then
the orchestration ends. -/
theorem Reachable.lockstep_pair : ∃ d : Desk String, Accounted d ∧
    d.answers.map (fun a => (a.assigned, a.looked, a.action.batch.map (·.agent), a.action.name, a.run)) =
      [([], true, ["writer", "editor"], "call", none), ([0], false, [], "no_op", none),
        ([1], true, ["critic"], "call", some "r3"), ([2], true, [], "done", none)] := by
  let opening : Desk String := Desk.opening { id := "p", topology := .parallel } [] 0
  have none : Reachable opening := .opening _ _ _
  have pair := ((none.step (.submit _ "writer" (some "r1"))).step (.submit _ "editor" (some "r2")))
  have first := ((((pair.step (.move (.start _ rfl))).step (.move (.look _ _ rfl rfl))).step
    (.move (.take _ _ _ _ _ rfl rfl))).step (.move (.take _ _ _ _ _ rfl rfl))).step
    (.move (.conclude _ _ _ _ _ rfl rfl rfl))
  have second := ((first.step (.move (.acknowledge _ rfl))).step (.move (.assign _ _ rfl))).step
    (.move (.wait _ _ rfl rfl))
  have third := (((((second.step (.submit _ "critic" (some "r3"))).step (.move (.acknowledge _ rfl))).step
    (.move (.assign _ _ rfl))).step (.move (.look _ _ rfl rfl))).step (.move (.take _ _ _ _ _ rfl rfl))).step
    (.move (.conclude _ _ _ _ _ rfl rfl rfl))
  have last := (((((third.step (.complete _)).step (.move (.acknowledge _ rfl))).step (.move (.assign _ _ rfl))).step
    (.move (.look _ _ rfl rfl))).step (.move (.take _ _ _ _ _ rfl rfl))).step
    (.move (.conclude _ _ _ _ _ rfl rfl rfl))
  exact ⟨_, last.lockstep, rfl⟩

end Desk
end Rendezvous
