import Rendezvous.Proofs.Sequential.Frame

/-!
# What an orchestration depends on

Of all that agents change, an orchestration depends on few things: the planners, how they are found, which
ids have been drawn, and the run that calls on its own thread belong to (`Sight`).  What an action does to
them is said by a precondition and a postcondition (`Act.Ensures`), and such statements compose.  Most
actions are `Aloof`: they do not touch what is in sight at all.

Whoever only works with planners of its own spares those that were there before (`Sight.Spares`).  A planner
that is `Seated` has a number and an id that were not there before, so sparing it comes for free.
-/

namespace Rendezvous

set_option autoImplicit false

/-- What an orchestration depends on. -/
structure Sight (β : Type) where
  planners : List (Planner β)
  live : Entries Nat
  drawn : Nat
  /-- The run that the calls of the thread belong to. -/
  run : Option String

/-- What is in sight of a thread. -/
def World.sight {κ α β ω : Type} (w : World κ α β ω) : Sight β :=
  ⟨w.hub.planners, w.hub.livePlanners, w.hub.plannersDrawn, w.context.run⟩

namespace Sight

variable {β : Type}

/-- The planners that were there before are as they were, and those whose ids had been drawn are found as
before. -/
structure Spares (v u : Sight β) : Prop where
  planners : v.planners <+: u.planners
  drawn : v.drawn ≤ u.drawn
  live : ∀ m ≤ v.drawn, Entries.get? (drawnId m) u.live = Entries.get? (drawnId m) v.live

theorem Spares.refl (v : Sight β) : v.Spares v := ⟨List.prefix_refl _, Nat.le_refl _, fun _ _ => rfl⟩

theorem Spares.trans {v u t : Sight β} (first : v.Spares u) (second : u.Spares t) : v.Spares t where
  planners := first.planners.trans second.planners
  drawn := Nat.le_trans first.drawn second.drawn
  live m known := (second.live m (Nat.le_trans known first.drawn)).trans (first.live m known)

/-- Whichever run the thread belongs to. -/
theorem Spares.of_run {v u : Sight β} (spares : v.Spares u) (run : Option String) :
    v.Spares { u with run } := ⟨spares.planners, spares.drawn, spares.live⟩

/-- A planner. -/
def planner (k : Nat) (v : Sight β) : Planner β :=
  v.planners.getD k { plan := { id := "", topology := .sequence } }

/-- A planner has been made and initialized since `start`: its number, the number in its id, how it is found
now, and what is in its queue. -/
structure Seated (start : Sight β) (k m : Nat) (found : Option Nat) (holds : List (Notice β) → Prop)
    (v : Sight β) : Prop where
  spares : start.Spares v
  number : start.planners.length ≤ k
  inside : k < v.planners.length
  fresh : start.drawn < m
  drawn : m ≤ v.drawn
  named : (v.planner k).plan.id = drawnId m
  found : Entries.get? (drawnId m) v.live = found
  holds : holds (v.planner k).queue

namespace Seated

variable {start v u : Sight β} {k m : Nat} {found : Option Nat} {holds holds' : List (Notice β) → Prop}

theorem of_run (s : Seated start k m found holds v) (run : Option String) :
    Seated start k m found holds { v with run } :=
  { s with spares := s.spares.of_run run }

theorem imp (s : Seated start k m found holds v) (weaker : ∀ q, holds q → holds' q) :
    Seated start k m found holds' v :=
  { s with holds := weaker _ s.holds }

/-- Whoever spares all planners spares this one. -/
theorem of_spares (s : Seated start k m found holds v) (spares : v.Spares u) :
    Seated start k m found holds u := by
  have same : u.planner k = v.planner k := by
    have there := List.prefix_iff_getElem?.mp spares.planners k s.inside
    rw [planner, planner, List.getD_eq_getElem?_getD, List.getD_eq_getElem?_getD, there,
      List.getElem?_eq_getElem s.inside]
  exact {
    spares := s.spares.trans spares
    number := s.number
    inside := Nat.lt_of_lt_of_le s.inside spares.planners.length_le
    fresh := s.fresh
    drawn := Nat.le_trans s.drawn spares.drawn
    named := by rw [same, s.named]
    found := (spares.live m s.drawn).trans s.found
    holds := by rw [same]; exact s.holds }

/-- The planner changes, but not its id. -/
theorem set (s : Seated start k m found holds v) {p : Planner β} (named : p.plan.id = drawnId m)
    (held : holds' p.queue) : Seated start k m found holds' { v with planners := v.planners.set k p } := by
  have here : ({ v with planners := v.planners.set k p } : Sight β).planner k = p := by
    simp [planner, List.getD_eq_getElem?_getD, s.inside]
  exact {
    spares := ⟨prefix_set s.spares.planners s.number p, s.spares.drawn, s.spares.live⟩
    number := s.number
    inside := by rw [List.length_set]; exact s.inside
    fresh := s.fresh
    drawn := s.drawn
    named := by rw [here, named]
    found := s.found
    holds := by rw [here]; exact held }

/-- The planner is not found any more. -/
theorem erase (s : Seated start k m found holds v) :
    Seated start k m none holds { v with live := Entries.erase (drawnId m) v.live } :=
  { s with
    spares := by
      refine ⟨s.spares.planners, s.spares.drawn, fun l known => ?_⟩
      have other : drawnId l ≠ drawnId m := fun same => by
        have := drawnId_injective same
        have := s.fresh
        omega
      rw [Entries.get?_erase_of_ne other]
      exact s.spares.live l known
    found := Entries.get?_erase_self _ _ }

/-- A planner that has just been made and initialized. -/
theorem made (v : Sight β) (q : Planner β) {p : Planner β} (named : p.plan.id = drawnId (v.drawn + 1))
    (held : holds p.queue) :
    v.Seated v.planners.length (v.drawn + 1) (some v.planners.length) holds { v with
      planners := (v.planners ++ [q]).set v.planners.length p
      live := Entries.put (drawnId (v.drawn + 1)) v.planners.length v.live
      drawn := v.drawn + 1 } := by
  have placed : (v.planners ++ [q]).set v.planners.length p = v.planners ++ [p] := by
    rw [List.set_append, if_neg (Nat.lt_irrefl _), Nat.sub_self]
    rfl
  have here : (v.planners ++ [p]).getD v.planners.length { plan := { id := "", topology := .sequence } } = p := by
    simp [List.getD_eq_getElem?_getD]
  rw [placed]
  exact {
    spares := by
      refine ⟨List.prefix_append _ _, Nat.le_succ _, fun l known => ?_⟩
      have other : drawnId l ≠ drawnId (v.drawn + 1) := fun same => by
        have := drawnId_injective same
        omega
      exact Entries.get?_put_of_ne other _ _
    number := Nat.le_refl _
    inside := by simp
    fresh := Nat.lt_succ_self _
    drawn := Nat.le_refl _
    named := by rw [planner, here, named]
    found := Entries.get?_put_self _ _ _
    holds := by rw [planner, here]; exact held }

end Seated
end Sight

namespace Act

variable {κ α β ω γ δ : Type}

/-! ## Assertions -/

/-- Whatever is in sight, if it is as `P` says then an action leaves it, with its result, as `Q` says. -/
def Ensures (P : Sight β → Prop) (x : Act κ α β ω γ) (Q : Result γ → Sight β → Prop) : Prop :=
  ∀ w, P w.sight → Q (x w).1 (x w).2.sight

/-- An action that does not touch what is in sight. -/
def Aloof (x : Act κ α β ω γ) : Prop := ∀ w, (x w).2.sight = w.sight

namespace Ensures

variable {P P' : Sight β → Prop} {x : Act κ α β ω γ} {f : γ → Act κ α β ω δ} {last : Act κ α β ω Unit}
  {Q Q' : Result γ → Sight β → Prop} {R : Result δ → Sight β → Prop}

theorem imp (ensures : Ensures P x Q) (stronger : ∀ v, P' v → P v) (weaker : ∀ r v, Q r v → Q' r v) :
    Ensures P' x Q' :=
  fun w holds => weaker _ _ (ensures w (stronger _ holds))

theorem ofResult {r : Result γ} (holds : ∀ v, P v → Q r v) :
    Ensures P (Act.ofResult r : Act κ α β ω γ) Q := fun w before => holds w.sight before

theorem pure {a : γ} (holds : ∀ v, P v → Q (.ok a) v) :
    Ensures P (Pure.pure a : Act κ α β ω γ) Q := ofResult holds

theorem throw {e : Failure} (holds : ∀ v, P v → Q (.error e) v) :
    Ensures P (MonadExcept.throw e : Act κ α β ω γ) Q := ofResult holds

theorem bind (first : Ensures P x Q) (rest : ∀ a, Ensures (Q (.ok a)) (f a) R)
    (fails : ∀ e v, Q (.error e) v → R (.error e) v) : Ensures P (x >>= f) R := by
  intro w before
  have after := first w before
  rcases result : x w with ⟨_ | a, w'⟩
  · rw [result] at after
    rw [bind_apply_of_error result]
    exact fails _ _ after
  · rw [result] at after
    rw [bind_apply_of_ok result]
    exact rest a w' after

theorem aloof (aloof : Aloof x) : Ensures P x fun _ => P := fun w before => by rwa [aloof w]

/-- A thread of its own belongs to a run of its own, which ends with it. -/
theorem onThread (start : Context) (inside : ∀ run, Ensures (fun v => P { v with run }) x
    fun r v => Q r { v with run }) : Ensures P (Act.onThread start x) Q :=
  fun w before => inside w.context.run { w with context := start } before

/-- A look at the hub shows what is in sight. -/
theorem hub_bind {f : Hub κ α β → Act κ α β ω γ}
    (rest : ∀ h, Ensures (fun v => P v ∧ h.planners = v.planners ∧ h.livePlanners = v.live) (f h) Q) :
    Ensures P (Act.hub >>= f) Q := fun w before => rest w.hub w ⟨before, rfl, rfl⟩

theorem planner_bind {k : Nat} {f : Planner β → Act κ α β ω γ}
    (rest : ∀ p, Ensures (fun v => P v ∧ v.planner k = p) (f p) Q) :
    Ensures P (Act.planner k >>= f) Q := fun w before => rest (w.sight.planner k) w ⟨before, rfl⟩

end Ensures

/-- Whatever is in sight, if it is as `P` says then an action has a result, and leaves it as `Q` says. -/
def Succeeds (P : Sight β → Prop) (x : Act κ α β ω γ) (Q : γ → Sight β → Prop) : Prop :=
  Ensures P x fun r v => ∃ a, r = .ok a ∧ Q a v

namespace Succeeds

variable {P P' I : Sight β → Prop} {x : Act κ α β ω γ} {f : γ → Act κ α β ω δ} {Q Q' : γ → Sight β → Prop}
  {R : Result δ → Sight β → Prop} {S : δ → Sight β → Prop}

theorem imp (succeeds : Succeeds P x Q) (stronger : ∀ v, P' v → P v) (weaker : ∀ a v, Q a v → Q' a v) :
    Succeeds P' x Q' :=
  Ensures.imp succeeds stronger fun _ v ⟨a, ok, holds⟩ => ⟨a, ok, weaker a v holds⟩

theorem pure {a : γ} (holds : ∀ v, P v → Q a v) : Succeeds P (Pure.pure a : Act κ α β ω γ) Q :=
  fun w before => ⟨a, rfl, holds w.sight before⟩

theorem bind_ensures (first : Succeeds P x Q) (rest : ∀ a, Ensures (Q a) (f a) R) :
    Ensures P (x >>= f) R := by
  refine Ensures.bind first (fun a w ⟨b, ok, holds⟩ => ?_) fun e v ⟨b, ok, _⟩ => nomatch ok
  obtain rfl : a = b := Except.ok.inj ok
  exact rest a w holds

theorem bind (first : Succeeds P x Q) (rest : ∀ a, Succeeds (Q a) (f a) S) : Succeeds P (x >>= f) S :=
  first.bind_ensures rest

/-- An attempt succeeds however the action goes. -/
theorem attempt {R : Result γ → Sight β → Prop} (inside : Ensures P x R) : Succeeds P (Act.attempt x) R :=
  fun w before => ⟨_, rfl, inside w before⟩

theorem setPlanner {k : Nat} {p : Planner β} : Succeeds P (Act.setPlanner k p : Act κ α β ω Unit)
    fun _ v => ∃ u, P u ∧ v = { u with planners := u.planners.set k p } :=
  fun w before => ⟨(), rfl, w.sight, before, rfl⟩

theorem setRun {run : Option String} : Succeeds P (Act.setRun run : Act κ α β ω Unit)
    fun _ v => ∃ u, P u ∧ v = { u with run } :=
  fun w before => ⟨(), rfl, w.sight, before, rfl⟩

/-- Whatever each of several actions keeps, all of them keep. -/
theorem mapM {ι : Type} {g : ι → Act κ α β ω γ} {items : List ι}
    (each : ∀ i ∈ items, Succeeds I (g i) fun _ => I) : Succeeds I (items.mapM g) fun _ => I := by
  induction items with
  | nil => exact pure fun _ => id
  | cons i rest ih =>
    rw [List.forall_mem_cons] at each
    rw [List.mapM_cons]
    exact each.1.bind fun _ => (ih each.2).bind fun _ => pure fun _ => id

theorem forM {ι : Type} {g : ι → Act κ α β ω PUnit} {items : List ι}
    (each : ∀ i ∈ items, Succeeds I (g i) fun _ => I) : Succeeds I (items.forM g) fun _ => I := by
  induction items with
  | nil => exact pure fun _ => id
  | cons i rest ih =>
    rw [List.forall_mem_cons] at each
    exact each.1.bind fun _ => ih each.2

end Succeeds

/-- Whatever is in sight, if it is as `P` says then an action leaves it as `Q` says, or fails and leaves it
as `E` says. -/
def Leads (P : Sight β → Prop) (x : Act κ α β ω γ) (Q : γ → Sight β → Prop) (E : Failure → Sight β → Prop) :
    Prop :=
  Ensures P x fun
    | .ok a => Q a
    | .error e => E e

namespace Leads

variable {P P' : Sight β → Prop} {x : Act κ α β ω γ} {f : γ → Act κ α β ω δ} {Q Q' : γ → Sight β → Prop}
  {S : δ → Sight β → Prop} {E : Failure → Sight β → Prop}

theorem of_succeeds (succeeds : Succeeds P x Q) : Leads P x Q E := by
  intro w before
  obtain ⟨a, ok, holds⟩ := succeeds w before
  rw [ok]
  exact holds

theorem imp (leads : Leads P x Q E) (stronger : ∀ v, P' v → P v) (weaker : ∀ a v, Q a v → Q' a v) :
    Leads P' x Q' E := by
  refine Ensures.imp leads stronger fun r v => ?_
  cases r with
  | ok a => exact weaker a v
  | error e => exact id

theorem weaken {E' : Failure → Sight β → Prop} (leads : Leads P x Q E) (weaker : ∀ e v, E e v → E' e v) :
    Leads P x Q E' := by
  refine Ensures.imp leads (fun _ => id) fun r v => ?_
  cases r with
  | ok a => exact id
  | error e => exact weaker e v

/-- Whichever run the thread belongs to. -/
theorem of_run (leads : ∀ run, Leads (fun v => P v ∧ v.run = run) x Q E) : Leads P x Q E :=
  fun w before => leads w.sight.run w ⟨before, rfl⟩

theorem bind (first : Leads P x Q E) (rest : ∀ a, Leads (Q a) (f a) S E) : Leads P (x >>= f) S E :=
  Ensures.bind first rest fun _ _ => id

/-- An action whose result is known. -/
theorem known_bind {a : γ} {R : Sight β → Prop} (first : Succeeds P x fun b v => b = a ∧ R v)
    (rest : Leads R (f a) S E) : Leads P (x >>= f) S E :=
  (of_succeeds first).bind fun _ w ⟨same, holds⟩ => same ▸ rest w holds

/-- Whichever of two preconditions holds. -/
theorem or (left : Leads P x Q E) (right : Leads P' x Q E) : Leads (fun v => P v ∨ P' v) x Q E :=
  fun w before => before.elim (left w) (right w)

theorem pure {a : γ} (holds : ∀ v, P v → Q a v) : Leads P (Pure.pure a : Act κ α β ω γ) Q E :=
  Ensures.pure holds

theorem throw {e : Failure} (holds : ∀ v, P v → E e v) :
    Leads P (MonadExcept.throw e : Act κ α β ω γ) Q E := Ensures.throw holds

end Leads

/-! ## Actions that keep out of sight -/

namespace Aloof

variable {x : Act κ α β ω γ} {f : γ → Act κ α β ω δ} {last : Act κ α β ω Unit}

theorem ofResult (r : Result γ) : Aloof (Act.ofResult r : Act κ α β ω γ) := fun _ => rfl

theorem pure (a : γ) : Aloof (Pure.pure a : Act κ α β ω γ) := ofResult (.ok a)

theorem throw (e : Failure) : Aloof (MonadExcept.throw e : Act κ α β ω γ) := ofResult (.error e)

theorem bind (first : Aloof x) (rest : ∀ a, Aloof (f a)) : Aloof (x >>= f) := by
  intro w
  rw [← first w]
  rcases result : x w with ⟨_ | a, w'⟩
  · rw [bind_apply_of_error result]
  · rw [bind_apply_of_ok result]
    exact rest a w'

theorem attempt (inside : Aloof x) : Aloof (Act.attempt x) := inside

theorem andFinally (inside : Aloof x) (after : Aloof last) : Aloof (Act.andFinally x last) :=
  bind inside.attempt fun _ => bind after fun _ => ofResult _

theorem hub : Aloof (Act.hub : Act κ α β ω (Hub κ α β)) := fun _ => rfl

theorem planner (k : Nat) : Aloof (Act.planner k : Act κ α β ω (Planner β)) := fun _ => rfl

theorem onExchange (g : Exchange κ α → γ × Exchange κ α) :
    Aloof (Act.onExchange g : Act κ α β ω γ) := fun _ => rfl

theorem changeHub {g : Hub κ α β → Hub κ α β} (planners : ∀ h, (g h).planners = h.planners)
    (live : ∀ h, (g h).livePlanners = h.livePlanners) (drawn : ∀ h, (g h).plannersDrawn = h.plannersDrawn) :
    Aloof (Act.changeHub g : Act κ α β ω Unit) := fun w => by
  simp only [Act.changeHub, change, World.sight, planners, live, drawn]

theorem onEngine (g : Engine → Result Engine) : Aloof (Act.onEngine g : Act κ α β ω Unit) :=
  bind hub fun _ => bind (ofResult _) fun _ => changeHub (fun _ => rfl) (fun _ => rfl) fun _ => rfl

theorem drawRun : Aloof (Act.drawRun : Act κ α β ω String) := by
  refine bind hub fun _ => bind (changeHub ?_ ?_ ?_) fun _ => pure _
  all_goals exact fun _ => rfl

theorem startRun (name : String) (userMessage systemMessage run : Option String) :
    Aloof (Act.startRun name userMessage systemMessage run : Act κ α β ω String) := by
  unfold Act.startRun
  cases Text.given? run with
  | some _ | none =>
    refine bind ?_ fun id => bind (onExchange _) fun _ => bind (onEngine _).attempt fun r => ?_
    · first
      | exact pure _
      | exact drawRun
    · cases r with
      | ok _ => exact pure id
      | error f => exact bind (onExchange _) fun _ => throw f

theorem finishRun (id : String) : Aloof (Act.finishRun id : Act κ α β ω Unit) :=
  andFinally (onEngine _) (onExchange _)

theorem findPlanner (id : String) : Aloof (Act.findPlanner id : Act κ α β ω Nat) := by
  refine bind hub fun h => ?_
  dsimp only
  split
  · exact pure _
  · exact throw _

theorem ofSlot (s : Slot γ) : Aloof (Act.ofSlot s : Act κ α β ω γ) := by
  unfold Act.ofSlot
  split
  · exact ofResult _
  · exact throw _

theorem endStep (s : OpenStep) : Aloof (Act.endStep s : Act κ α β ω StepReport) :=
  bind (andFinally (bind hub fun _ => ofSlot _) (finishRun _)) fun _ => pure _

theorem askExit (o : ExitOrder) : Aloof (Act.askExit o : Act κ α β ω Bool) :=
  bind hub fun _ => bind (findPlanner _) fun _ => ofResult _

theorem askCondition (o : ConditionOrder) : Aloof (Act.askCondition o : Act κ α β ω Bool) :=
  bind hub fun _ => bind (findPlanner _) fun _ => ofResult _

theorem onThread (start : Context) (inside : Aloof x) : Aloof (Act.onThread start x) := by
  intro w
  have same := inside { w with context := start }
  have back : (Act.onThread start x w).2.sight =
      { (x { w with context := start }).2.sight with run := w.context.run } := rfl
  rw [back, same]
  rfl

end Aloof
end Act
end Rendezvous
