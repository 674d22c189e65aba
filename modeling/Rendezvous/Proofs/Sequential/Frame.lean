import Rendezvous.Proofs.Naming
import Rendezvous.Proofs.Sequential.Board
import Rendezvous.Proofs.Sequential.Reference

/-!
# What an agent leaves alone

An agent that takes its turn may let other agents take turns, and so on.  Whatever it does, the planners and
the slots that were there before stay as they are, and the planners that were alive are still found
(`Hub.Keeps`); that composes (`Hub.Keeps.trans`).  What an action means to a scope is said on top of that
(`Act.Means`).

An orchestration is `Standing` as long as its planner is found; whatever an agent does leaves it standing
(`Standing.keep`).
-/

namespace Rendezvous

set_option autoImplicit false

/-- An id that a planner draws. -/
def drawnId (m : Nat) : String := "planner-" ++ toString m

theorem drawnId_injective {m n : Nat} (same : drawnId m = drawnId n) : m = n :=
  repr_injective ((String.append_right_inj "planner-").mp same)

/-- What comes behind may change. -/
theorem prefix_set {α : Type} {l l' : List α} {n : Nat} (kept : l <+: l') (behind : l.length ≤ n) (a : α) :
    l <+: l'.set n a := by
  obtain ⟨rest, rfl⟩ := kept
  rw [List.set_append, if_neg (by omega)]
  exact List.prefix_append l _

theorem prefix_modify {α : Type} {l l' : List α} {n : Nat} (kept : l <+: l') (behind : l.length ≤ n)
    (f : α → α) : l <+: l'.modify n f := by
  rw [List.prefix_iff_getElem?] at kept ⊢
  intro i inside
  have other : n ≠ i := by omega
  simp [kept i inside, other]

namespace Hub

variable {κ α β : Type}

theorem planner_of_getElem? {h : Hub κ α β} {k : Nat} {p : Planner β} (there : h.planners[k]? = some p) :
    h.planner k = p := by
  rw [planner, List.getD_eq_getElem?_getD, there]
  rfl

/-- What an agent leaves alone on the board. -/
structure Keeps (h h' : Hub κ α β) : Prop where
  planners : h.planners <+: h'.planners
  turns : h.turns <+: h'.turns
  drawn : h.plannersDrawn ≤ h'.plannersDrawn
  live : ∀ (m : Nat), m ≤ h.plannersDrawn →
    Entries.get? (drawnId m) h'.livePlanners = Entries.get? (drawnId m) h.livePlanners
  scopes : h'.scopes.length = h.scopes.length
  starts : h'.engine.closedStarts = h.engine.closedStarts
  events : h'.engine.closedEvents = h.engine.closedEvents

namespace Keeps

variable {h h' h'' : Hub κ α β}

theorem refl (h : Hub κ α β) : h.Keeps h :=
  ⟨List.prefix_refl _, List.prefix_refl _, Nat.le_refl _, fun _ _ => rfl, rfl, rfl, rfl⟩

theorem trans (first : h.Keeps h') (second : h'.Keeps h'') : h.Keeps h'' where
  planners := first.planners.trans second.planners
  turns := first.turns.trans second.turns
  drawn := Nat.le_trans first.drawn second.drawn
  live m known := (second.live m (Nat.le_trans known first.drawn)).trans (first.live m known)
  scopes := second.scopes.trans first.scopes
  starts := second.starts.trans first.starts
  events := second.events.trans first.events

theorem ready (kept : h.Keeps h') {n : Nat} (ready : h.Ready n) : h'.Ready n where
  scope := kept.scopes ▸ ready.scope
  starts := kept.starts.trans ready.starts
  events := kept.events.trans ready.events

theorem addPlanner (kept : h.Keeps h') (p : Planner β) (m : Nat) (more : h'.plannersDrawn ≤ m) :
    h.Keeps { h' with plannersDrawn := m, planners := h'.planners ++ [p] } :=
  { kept with
    planners := kept.planners.trans (List.prefix_append _ _)
    drawn := Nat.le_trans kept.drawn more }

theorem setPlanner (kept : h.Keeps h') {k : Nat} (later : h.planners.length ≤ k) (p : Planner β) :
    h.Keeps (h'.setPlanner k p) :=
  { kept with planners := prefix_set kept.planners later p }

theorem addTurn (kept : h.Keeps h') : h.Keeps h'.addTurn :=
  { kept with turns := kept.turns.trans (List.prefix_append _ _) }

theorem assignTurn (kept : h.Keeps h') {slot : Nat} (later : h.turns.length ≤ slot) (r : Result Unit) :
    h.Keeps (h'.assignTurn r slot) :=
  { kept with turns := prefix_modify kept.turns later _ }

theorem modifyScope (kept : h.Keeps h') (n : Nat) (write : Scope → Scope) :
    h.Keeps (h'.modifyScope n write) :=
  { kept with scopes := (List.length_modify _ _ _).trans kept.scopes }

theorem enlist (kept : h.Keeps h') {m : Nat} (later : h.plannersDrawn < m) (k : Nat) :
    h.Keeps (h'.enlist (drawnId m) k) :=
  { kept with
    live l known := by
      have other : drawnId l ≠ drawnId m := fun same => by
        have := drawnId_injective same
        omega
      exact (Entries.get?_put_of_ne other k _).trans (kept.live l known) }

theorem delist (kept : h.Keeps h') {m : Nat} (later : h.plannersDrawn < m) :
    h.Keeps (h'.delist (drawnId m)) :=
  { kept with
    live l known := by
      have other : drawnId l ≠ drawnId m := fun same => by
        have := drawnId_injective same
        omega
      exact (Entries.get?_erase_of_ne other _).trans (kept.live l known) }

end Keeps
end Hub

/-! ## What actions mean -/

namespace Act

variable {κ α β ω γ δ : Type}

/-- What an action makes of a scope, and what comes of it; the rest of the board is left alone. -/
def Means (n : Nat) (x : Act κ α β ω γ) (m : Meaning γ) : Prop :=
  ∀ (b : Board β), b.Ready n → ∃ b' : Board β,
    Yields b x (m (b.scope n)).2 b' ∧ b'.scope n = (m (b.scope n)).1 ∧ b.Keeps b'

namespace Means

variable {n : Nat} {x : Act κ α β ω γ} {m : Meaning γ}

theorem ofResult (r : Result γ) : Means n (Act.ofResult r : Act κ α β ω γ) fun s => (s, r) :=
  fun b _ => ⟨b, .ofResult r, rfl, .refl b⟩

theorem bind {f : γ → Act κ α β ω δ} {k : γ → Meaning δ} (first : Means n x m)
    (rest : ∀ a, Means n (f a) (k a)) : Means n (x >>= f) fun s => andThen (m s) k := by
  intro b ready
  obtain ⟨b', yields, scope, keeps⟩ := first b ready
  show ∃ b'', Yields b (x >>= f) (andThen (m (b.scope n)) k).2 b'' ∧
    b''.scope n = (andThen (m (b.scope n)) k).1 ∧ b.Keeps b''
  revert yields scope
  obtain ⟨y, r⟩ := m (b.scope n)
  intro yields scope
  cases r with
  | error f => exact ⟨b', yields.bind_error, scope, keeps⟩
  | ok a =>
    obtain ⟨b'', yields', scope', keeps'⟩ := rest a b' (keeps.ready ready)
    rw [scope] at yields' scope'
    exact ⟨b'', yields.bind yields', scope', keeps.trans keeps'⟩

theorem scope : Means n (Act.scope n : Act κ α β ω Scope) fun s => (s, .ok s) :=
  fun b _ => ⟨b, .scope n, rfl, .refl b⟩

theorem modifyScope (write : Scope → Scope) :
    Means n (Act.changeHub (Hub.modifyScope n write) : Act κ α β ω Unit) fun s => (write s, .ok ()) := by
  intro b ready
  refine ⟨b.modifyScope n write, .changeHub fun _ at_ => at_ ▸ rfl, ?_, ?_⟩
  · have inside := ready.scope
    simp [Hub.modifyScope, Hub.scope, List.getD_eq_getElem?_getD, inside]
  · exact (Hub.Keeps.refl b).modifyScope n write

end Means
end Act

/-! ## Orchestrations under way -/

/-- An orchestration that has begun with a board: its planner is found, and it has a number and an id that
were not there before. -/
structure Standing {β : Type} (start : Board β) (k m n : Nat) (p : Planner β) (x : Scope) (b : Board β) :
    Prop where
  keeps : start.Keeps b
  number : start.planners.length ≤ k
  fresh : start.plannersDrawn < m
  drawn : m ≤ b.plannersDrawn
  planner : b.planners[k]? = some p
  named : p.plan.id = drawnId m
  live : Entries.get? (drawnId m) b.livePlanners = some k
  scope : b.scope n = x

/-- An orchestration that is over: its planner is not found any more, and nothing is in its queue. -/
structure Dismissed {β : Type} (start : Board β) (k m n : Nat) (x : Scope) (b : Board β) : Prop where
  keeps : start.Keeps b
  empty : (b.planner k).queue = []
  gone : Entries.get? (drawnId m) b.livePlanners = none
  scope : b.scope n = x

namespace Standing

variable {β : Type} {start b b' : Board β} {k m n : Nat} {p q : Planner β} {x : Scope}

theorem planner_eq (s : Standing start k m n p x b) : b.planner k = p := Hub.planner_of_getElem? s.planner

theorem planner_setPlanner (s : Standing start k m n p x b) (q : Planner β) :
    (b.setPlanner k q).planners[k]? = some q := by
  obtain ⟨inside, -⟩ := List.getElem?_eq_some_iff.mp s.planner
  exact List.getElem?_set_self inside

theorem setPlanner (s : Standing start k m n p x b) (same : q.plan.id = p.plan.id) :
    Standing start k m n q x (b.setPlanner k q) :=
  { s with
    keeps := s.keeps.setPlanner s.number q
    planner := s.planner_setPlanner q
    named := same.trans s.named }

theorem addTurn (s : Standing start k m n p x b) : Standing start k m n p x b.addTurn :=
  { s with keeps := s.keeps.addTurn }

theorem assignTurn (s : Standing start k m n p x b) {slot : Nat} (later : start.turns.length ≤ slot)
    (r : Result Unit) : Standing start k m n p x (b.assignTurn r slot) :=
  { s with keeps := s.keeps.assignTurn later r }

/-- Whatever an agent does, the orchestration goes on to stand. -/
theorem keep (s : Standing start k m n p x b) (kept : b.Keeps b') :
    Standing start k m n p (b'.scope n) b' where
  keeps := s.keeps.trans kept
  number := s.number
  fresh := s.fresh
  drawn := Nat.le_trans s.drawn kept.drawn
  planner := by
    obtain ⟨inside, there⟩ := List.getElem?_eq_some_iff.mp s.planner
    rw [List.prefix_iff_getElem?.mp kept.planners k inside, there]
  named := s.named
  live := (kept.live m s.drawn).trans s.live
  scope := rfl

theorem delist (s : Standing start k m n p x b) (empty : p.queue = []) :
    Dismissed start k m n x (b.delist (drawnId m)) where
  keeps := s.keeps.delist s.fresh
  empty := (congrArg Planner.queue s.planner_eq).trans empty
  gone := Entries.get?_erase_self _ _
  scope := s.scope

end Standing
end Rendezvous
