import Rendezvous.Proofs.Activation.Once

/-!
# What is left of a request

The thread that has opened a request looks for the run once, when it leaves, and nothing stops the other threads from
activating the request after that.  So what becomes of the run depends on what has been found there
(`Team.after_leaving`): a run that has been found is ended and forgotten, and a run that is started later than that
stays in the registry, and the engine never hears of its end (`Team.run_outlives_request`).
-/

namespace Rendezvous

set_option autoImplicit false

namespace Team

variable {κ α β ω : Type} {n : Nat} {name : Option String} {s₀ s : Team κ α β ω}

/-- What is to be seen of a request that has been left, given the run that has been found and what came of the event
that ends it. -/
def Leaves (v₀ v : Hub.View) : Option (String × Result Unit) → Prop
  | none => v.ends = v₀.ends ∧ ∀ q, v.request = some q →
      ∃ rest, v.live = v₀.live ++ rest ∧ Entries.keys rest = q.run.toList
  | some (id, r) => v.live = v₀.live ∧ v.ends = v₀.ends ++ (if r.isOk then [id] else []) ∧
      ∃ q, v.request = some q ∧ q.run = some id

/-- Once the request has been left, and nobody is about to start a run: a run that has been found is not in the
registry, and the engine has been told that it has ended; any other run of the request is in the registry, and the
engine has not been told anything. -/
theorem after_leaving (opens : Opens n name s₀) (later : Later n s₀ s) {m : Member} (first : s.members[0]? = some m)
    {found : Option (String × Result Unit)} (left : m.place = .left found) (free : s.holder = none) :
    Leaves (s₀.hub.view n) (s.hub.view n) found := by
  obtain ⟨φ, o⟩ := opens.later later
  have fits := o.fits 0 m first
  rw [left] at fits
  cases found with
  | none =>
    have open_ : φ.closed = false := fits
    have ends : φ.end? = none := by
      cases φ with
      | ended a id r | gone a id r => cases open_
      | _ => rfl
    have live : φ.live? = φ.run? := by
      have idle := o.idle free
      cases φ with
      | trying id | started a id => cases idle
      | ended a id r | gone a id r => cases open_
      | still | running a id => rfl
    refine ⟨by rw [o.shows.ends, ends]; simp, fun q there => ?_⟩
    cases o.shows.request.symm.trans there
    obtain ⟨rest, more, keys⟩ := o.shows.live
    exact ⟨rest, more, keys.trans (congrArg _ live)⟩
  | some x =>
    obtain ⟨id, r⟩ := x
    obtain ⟨a, rfl⟩ := fits
    refine ⟨o.shows.live_eq, ?_, _, o.shows.request, rfl⟩
    rw [o.shows.ends]
    cases r <;> rfl

/-- A request of an engine that starts everything. -/
def openDesk : Team Unit Unit Unit Unit where
  hub := { requests := [{ agentName := some "desk" }] }
  host := ()
  members := [⟨{ request := some 0 }, .resting none⟩]

/-- A second thread activates a request that has been left. -/
theorem run_outlives_request : ∃ s m, Later 0 openDesk s ∧ s.members[0]? = some m ∧ m.place = .left none ∧
    s.holder = none ∧ Entries.keys s.hub.exchange.live = ["run-1"] ∧ (s.hub.view 0).ends = [] ∧
    Leaves (openDesk.hub.view 0) (s.hub.view 0) none := by
  let visitor : Member := ⟨{ request := some 0 }, .resting none⟩
  let gone : Member := ⟨{}, .left none⟩
  let joined : Team Unit Unit Unit Unit := { openDesk with members := [visitor, visitor] }
  let looks := joined.put 0 (.looking, joined.world ⟨{}, .resting none⟩)
  let left : Team Unit Unit Unit Unit := { openDesk with members := [gone, visitor] }
  have opens : Opens 0 (some "desk") openDesk :=
    ⟨⟨_, rfl, rfl⟩, rfl, rfl, fun _ _ => List.not_mem_nil⟩
  have joins : Later 0 openDesk joined := .single (.join (s := openDesk) (m := visitor) (List.mem_singleton.mpr rfl))
  have leaves : Later 0 joined looks := .single (.leave (s := joined) (m := visitor) none rfl rfl rfl)
  have misses : Later 0 looks left := .single (.move (s := looks) (i := 0) (m := ⟨{}, .looking⟩) rfl rfl)
  have activates := later_activate (n := 0) (s := left) rfl (i := 1) (m := visitor) rfl rfl rfl {} (k := 6)
    (by decide +kernel)
  have later := ((joins.trans leaves).trans misses).trans activates
  exact ⟨_, gone, later, rfl, rfl, by decide +kernel, by decide +kernel, by decide +kernel,
    after_leaving opens later (m := gone) rfl rfl (by decide +kernel)⟩

end Team
end Rendezvous
