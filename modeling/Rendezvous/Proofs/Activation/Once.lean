import Rendezvous.Proofs.Activation.Team

/-!
# A request starts at most one run

However many threads serve a request, however their activations are interleaved, and whatever the engine refuses: the
request goes through the phases of its run one after the other (`Phase`), each thread is where the phase allows it to
be (`Place.Fits`), and only the thread that has the lock, or the one that leaves, brings the next phase about.  What
this amounts to for the callers is `Team.activated_once`.
-/

namespace Rendezvous

set_option autoImplicit false

namespace Team

variable {κ α β ω : Type}

/-! ## The phases of a request -/

/-- How far a request and its run have come. -/
inductive Phase where
  /-- There is no run. -/
  | still
  /-- A run is in the registry; its workflow has not been started. -/
  | trying (id : String)
  /-- The workflow has been started as it was asked for. -/
  | started (a : Ask) (id : String)
  /-- The request has a run. -/
  | running (a : Ask) (id : String)
  /-- The event that ends the run has been raised, with this result. -/
  | ended (a : Ask) (id : String) (r : Result Unit)
  /-- The run is not in the registry any more. -/
  | gone (a : Ask) (id : String) (r : Result Unit)

namespace Phase

/-- The run of the request. -/
def run? : Phase → Option String
  | still | trying _ | started _ _ => none
  | running _ id | ended _ id _ | gone _ id _ => some id

/-- The run that is in the registry on behalf of the request. -/
def live? : Phase → Option String
  | still | gone _ _ _ => none
  | trying id | started _ id | running _ id | ended _ id _ => some id

/-- The run that has been started, and what was asked for. -/
def begun? : Phase → Option (Ask × String)
  | still | trying _ => none
  | started a id | running a id | ended a id _ | gone a id _ => some (a, id)

/-- The run whose end the engine has heard of. -/
def end? : Phase → Option String
  | ended _ id (.ok ()) | gone _ id (.ok ()) => some id
  | _ => none

/-- Whether somebody is about to start a run. -/
def working : Phase → Bool
  | trying _ | started _ _ => true
  | _ => false

/-- Whether the run has come to its end. -/
def closed : Phase → Bool
  | ended _ _ _ | gone _ _ _ => true
  | _ => false

theorem working_of_run? {φ : Phase} {id : String} (run : φ.run? = some id) : φ.working = false := by
  cases φ <;> first | rfl | cases run

theorem begun_of_run? {φ : Phase} {id : String} (run : φ.run? = some id) : ∃ a, φ.begun? = some (a, id) := by
  cases φ <;> first | exact ⟨_, congrArg _ (congrArg _ (Option.some.inj run))⟩ | cases run

theorem still_of_idle {φ : Phase} (run : φ.run? = none) (idle : φ.working = false) : φ = still := by
  cases φ with
  | still => rfl
  | trying id | started a id => cases idle
  | running a id | ended a id r | gone a id r => cases run

theorem running_of_open {φ : Phase} {id : String} (run : φ.run? = some id) (open_ : φ.closed = false) :
    ∃ a, φ = running a id := by
  cases φ with
  | running a id' => exact ⟨a, congrArg _ (Option.some.inj run)⟩
  | still | trying id | started a id => cases run
  | ended a id r | gone a id r => cases open_

end Phase

/-- What the engine keeps of the start of a run. -/
def entry (name : Option String) (x : Ask × String) : EngineEntry :=
  .started Names.runWorkflow (x.1.start name x.2).toValue x.2

/-- The complaint that the run cannot be started. -/
def cannotStart (id : String) : Failure :=
  .of (.unreachable ("Cannot start " ++ Names.runWorkflow ++ " " ++ id))

/-- What is to be seen of a request in a phase. -/
structure Phase.Shows (name : Option String) (v₀ : Hub.View) (φ : Phase) (v : Hub.View) : Prop where
  request : v.request = some { agentName := name, run := φ.run? }
  live : ∃ rest, v.live = v₀.live ++ rest ∧ Entries.keys rest = φ.live?.toList
  starts : v.starts = v₀.starts ++ (φ.begun?.map (entry name)).toList
  ends : v.ends = v₀.ends ++ φ.end?.toList
  drawn : v₀.drawn ≤ v.drawn
  named : ∀ id, φ.live? = some id → ∃ m, v₀.drawn < m ∧ m ≤ v.drawn ∧ id = drawnRun m

namespace Phase.Shows

variable {name : Option String} {v₀ v : Hub.View} {a : Ask} {id : String}

/-- Nothing but the run of the request has come to the registry. -/
theorem live_eq {φ : Phase} (shows : φ.Shows name v₀ v) :
    match φ.live? with
    | none => v.live = v₀.live
    | some id => ∃ k, v.live = v₀.live ++ [(id, k)] := by
  obtain ⟨rest, live, keys⟩ := shows.live
  cases is : φ.live? with
  | none =>
    rw [is, Option.toList_none, Entries.keys, List.map_eq_nil_iff] at keys
    rw [live, keys, List.append_nil]
  | some id =>
    rw [is, Option.toList_some, Entries.keys, List.map_eq_singleton_iff] at keys
    obtain ⟨x, rfl, rfl⟩ := keys
    exact ⟨x.2, live⟩

theorem register (shows : still.Shows name v₀ v)
    (fresh : ∀ m, v₀.drawn < m → drawnRun m ∉ Entries.keys v₀.live) (k : Nat) :
    (trying (drawnRun (v.drawn + 1))).Shows name v₀
      { v with live := Entries.put (drawnRun (v.drawn + 1)) k v.live, drawn := v.drawn + 1 } where
  request := shows.request
  live := by
    have live : v.live = v₀.live := shows.live_eq
    have absent := fresh (v.drawn + 1) (Nat.lt_succ_of_le shows.drawn)
    exact ⟨[(drawnRun (v.drawn + 1), k)], by rw [live, Entries.put_of_absent absent], rfl⟩
  starts := shows.starts
  ends := shows.ends
  drawn := Nat.le_succ_of_le shows.drawn
  named id is := by
    cases is
    exact ⟨v.drawn + 1, Nat.lt_succ_of_le shows.drawn, Nat.le_refl _, rfl⟩

theorem start (shows : (trying id).Shows name v₀ v) (a : Ask) :
    (started a id).Shows name v₀ { v with starts := v.starts ++ [entry name (a, id)] } where
  request := shows.request
  live := shows.live
  starts := by rw [shows.starts]; simp [begun?]
  ends := shows.ends
  drawn := shows.drawn
  named := shows.named

theorem note (shows : (started a id).Shows name v₀ v) :
    (running a id).Shows name v₀ { v with request := some { agentName := name, run := some id } } where
  request := rfl
  live := shows.live
  starts := shows.starts
  ends := shows.ends
  drawn := shows.drawn
  named := shows.named

/-- A run that is forgotten leaves the registry as it was before the run came. -/
theorem forget {φ φ' : Phase} (shows : φ.Shows name v₀ v) (live : φ.live? = some id) (gone : φ'.live? = none)
    (run : φ'.run? = φ.run?) (begun : φ'.begun? = φ.begun?) (ending : φ'.end? = φ.end?)
    (fresh : ∀ m, v₀.drawn < m → drawnRun m ∉ Entries.keys v₀.live) :
    φ'.Shows name v₀ { v with live := Entries.erase id v.live } where
  request := by rw [run]; exact shows.request
  live := by
    have there := shows.live_eq
    rw [live] at there
    obtain ⟨k, there⟩ := there
    obtain ⟨m, later, -, rfl⟩ := shows.named id live
    refine ⟨[], ?_, by rw [gone]; rfl⟩
    show Entries.erase (drawnRun m) v.live = _
    rw [there, Entries.erase_append_of_absent (fresh m later), List.append_nil]
  starts := by rw [begun]; exact shows.starts
  ends := by rw [ending]; exact shows.ends
  drawn := shows.drawn
  named id is := by
    rw [gone] at is
    cases is

theorem finish (shows : (running a id).Shows name v₀ v) :
    (ended a id (.ok ())).Shows name v₀ { v with ends := v.ends ++ [id] } where
  request := shows.request
  live := shows.live
  starts := shows.starts
  ends := by rw [shows.ends]; simp [end?]
  drawn := shows.drawn
  named := shows.named

theorem refuse (shows : (running a id).Shows name v₀ v) (f : Failure) :
    (ended a id (.error f)).Shows name v₀ v where
  request := shows.request
  live := shows.live
  starts := shows.starts
  ends := shows.ends
  drawn := shows.drawn
  named := shows.named

end Phase.Shows

/-! ## What is to be seen of a step -/

section Views

variable {w : World κ α β ω} {n : Nat}

theorem view_registered : (Place.registered w).hub.view n = { w.hub.view n with
    live := Entries.put (drawnRun ((w.hub.view n).drawn + 1)) w.hub.exchange.tables.length (w.hub.view n).live
    drawn := (w.hub.view n).drawn + 1 } := rfl

theorem view_forgot (id : String) : (Place.forgot id w).hub.view n =
    { w.hub.view n with live := Entries.erase id (w.hub.view n).live } := rfl

theorem view_noted {q : Request} (there : w.hub.requests[n]? = some q) (id : String) :
    (Place.noted n id w).hub.view n = { w.hub.view n with request := some { q with run := some id } } := by
  simp [Place.noted, Hub.view, there]

theorem runOf_eq {q : Request} (there : w.hub.requests[n]? = some q) : Place.runOf n w = q.run := by
  rw [Place.runOf, List.getD_eq_getElem?_getD, there, Option.getD_some]

theorem start_cases (a : Ask) (id : String) {name : Option String} {run : Option String}
    (there : w.hub.requests[n]? = some { agentName := name, run }) :
    Place.starts n a id w = .error (cannotStart id) ∨ ∃ e, Place.starts n a id w = .ok e ∧
      (Place.onward e w).hub.view n =
        { w.hub.view n with starts := (w.hub.view n).starts ++ [entry name (a, id)] } := by
  rw [Place.starts, List.getD_eq_getElem?_getD, there, Option.getD_some, Engine.start]
  split
  · exact .inl rfl
  · refine .inr ⟨_, rfl, ?_⟩
    simp [Place.onward, Hub.view, EngineEntry.isStart, EngineEntry.ends?, entry]

theorem raise_cases (id : String) :
    (∃ f, w.hub.engine.raise id .finish = .error f) ∨ ∃ e, w.hub.engine.raise id .finish = .ok e ∧
      (Place.onward e w).hub.view n = { w.hub.view n with ends := (w.hub.view n).ends ++ [id] } := by
  rw [Engine.raise]
  split
  · exact .inl ⟨_, rfl⟩
  · refine .inr ⟨_, rfl, ?_⟩
    simp [Place.onward, Hub.view, EngineEntry.isStart, EngineEntry.ends?, RunEvent.finish]

end Views

/-! ## Where threads can be -/

/-- An activation that has not failed knows the run, and if it has tried to start one, this is it. -/
def Phase.Knows (φ : Phase) (c : Call) (tried : Option String) (id : String) : Prop :=
  φ.run? = some id ∧ ∃ a, φ.begun? = some (a, id) ∧ (tried = none ∨ tried = some id ∧ c.ask = a)

/-- An activation has failed, and the thread belongs to the run that it has belonged to before. -/
def Call.Failed (c : Call) (run tried : Option String) (f : Failure) : Prop :=
  run = c.before ∧ ∃ id, tried = some id ∧ f = cannotStart id

/-- What is left of an activation that has come to its end. -/
def Returned.Fits (φ : Phase) (run : Option String) (d : Returned) : Prop :=
  match d.answer with
  | .ok x => ∃ id, x = some id ∧ run = some id ∧ φ.Knows d.toCall d.tried id
  | .error f => d.Failed run d.tried f

/-- A place at which a thread can be in a phase; the thread belongs to the given run. -/
def Place.Fits (φ : Phase) (run : Option String) : Place → Prop
  | resting none => True
  | resting (some d) => d.Fits φ run
  | asking c => run = c.before
  | inside c => run = c.before ∧ φ.working = false
  | registering c => run = c.before ∧ φ = .still
  | starting c id => run = c.before ∧ φ = .trying id
  | noting c id => φ = .started c.ask id
  | dropping c id f => run = c.before ∧ φ = .trying id ∧ f = cannotStart id
  | releasing c tried (.ok ()) => ∃ id, φ.Knows c tried id
  | releasing c tried (.error f) => c.Failed run tried f ∧ φ = .still
  | binding c tried => ∃ id, φ.Knows c tried id
  | looking | left none => φ.closed = false
  | finishing id => ∃ a, φ = .running a id
  | forgetting id r => ∃ a, φ = .ended a id r
  | clearing id r | left (some (id, r)) => ∃ a, φ = .gone a id r

/-- Where a thread is that does not have the lock does not depend on what is done until there is a run. -/
theorem Place.Fits.of_early {φ φ' : Phase} {run : Option String} {p : Place} (fits : p.Fits φ run)
    (early : φ.run? = none) (open_ : φ'.closed = false) (free : p.holds = false) : p.Fits φ' run := by
  cases p with
  | resting last =>
    cases last with
    | none => trivial
    | some d =>
      simp only [Place.Fits, Returned.Fits] at fits ⊢
      cases answer : d.answer with
      | ok x =>
        rw [answer] at fits
        obtain ⟨id, -, -, known, -⟩ := fits
        rw [early] at known
        cases known
      | error f =>
        rw [answer] at fits
        exact fits
  | asking c => exact fits
  | binding c tried =>
    obtain ⟨id, known, -⟩ := fits
    rw [early] at known
    cases known
  | looking => exact open_
  | left found =>
    cases found with
    | none => exact open_
    | some x =>
      obtain ⟨a, rfl⟩ := fits
      cases early
  | finishing id | forgetting id r | clearing id r =>
    obtain ⟨a, rfl⟩ := fits
    cases early
  | inside c | registering c | starting c id | noting c id | dropping c id f | releasing c tried r => cases free

/-- Where a thread is that does not leave does not depend on how the run ends. -/
theorem Place.Fits.of_late {φ φ' : Phase} {run : Option String} {p : Place} (fits : p.Fits φ run)
    {id : String} (late : φ.run? = some id) (same : φ'.run? = φ.run?) (begun : φ'.begun? = φ.begun?)
    (stays : p.leaves = false) : p.Fits φ' run := by
  have idle : φ'.working = false := by
    cases φ' with
    | trying | started =>
      rw [late] at same
      cases same
    | _ => rfl
  have knows {c : Call} {tried : Option String} {id : String} (known : φ.Knows c tried id) :
      φ'.Knows c tried id := by
    unfold Phase.Knows
    rw [same, begun]
    exact known
  cases p with
  | resting last =>
    cases last with
    | none => trivial
    | some d =>
      simp only [Place.Fits, Returned.Fits] at fits ⊢
      cases answer : d.answer with
      | ok x =>
        rw [answer] at fits
        obtain ⟨id, is, belongs, known⟩ := fits
        exact ⟨id, is, belongs, knows known⟩
      | error f =>
        rw [answer] at fits
        exact fits
  | asking c => exact fits
  | inside c => exact ⟨fits.1, idle⟩
  | releasing c tried r =>
    cases r with
    | ok u => exact fits.imp fun _ => knows
    | error f =>
      obtain ⟨-, rfl⟩ := fits
      cases late
  | binding c tried => exact fits.imp fun _ => knows
  | registering c =>
    obtain ⟨-, rfl⟩ := fits
    cases late
  | starting c id | dropping c id f =>
    obtain ⟨-, rfl, -⟩ := fits
    cases late
  | noting c id =>
    cases fits
    cases late
  | looking | left found | finishing id | forgetting id r | clearing id r => cases stays

/-! ## The invariant -/

/-- The team as it can be in a phase. -/
structure Orderly (n : Nat) (name : Option String) (v₀ : Hub.View) (φ : Phase) (s : Team κ α β ω) : Prop where
  shows : φ.Shows name v₀ (s.hub.view n)
  fits : ∀ (i : Nat) (m : Member), s.members[i]? = some m → Place.Fits φ m.context.run m.place
  lock : ∀ i, s.holder = some i ↔ ∃ m : Member, s.members[i]? = some m ∧ m.place.holds = true
  owner : ∀ (i : Nat) (m : Member), s.members[i]? = some m → m.place.leaves = true → i = 0
  /-- Without the lock nobody starts a run. -/
  idle : s.holder = none → φ.working = false
  /-- A run comes to its end when the thread leaves that has opened the request. -/
  closing : φ.closed = true → ∃ m : Member, s.members[0]? = some m ∧ m.place.leaves = true

variable {n : Nat} {name : Option String} {v₀ : Hub.View} {φ φ' : Phase} {s : Team κ α β ω}

theorem members_put {i : Nat} {m : Member} (there : s.members[i]? = some m) (x : Place × World κ α β ω) (j : Nat) :
    (s.put i x).members[j]? = if j = i then some ⟨x.2.context, x.1⟩ else s.members[j]? := by
  have inside : i < s.members.length := (List.getElem?_eq_some_iff.mp there).1
  rw [Team.put, List.getElem?_set]
  by_cases same : j = i
  · simp [same, inside]
  · rw [if_neg same, if_neg (Ne.symm same)]

/-- A thread comes to a place, which may bring the next phase about. -/
theorem Orderly.put (o : Orderly n name v₀ φ s) {i : Nat} {m : Member} (there : s.members[i]? = some m)
    {q p : Place} (at_ : m.place = q) {w : World κ α β ω} (shows : φ'.Shows name v₀ (w.hub.view n))
    (fits : p.Fits φ' w.context.run)
    (others : ∀ (j : Nat) (m' : Member), j ≠ i → s.members[j]? = some m' → m'.place.Fits φ' m'.context.run)
    (takes : p.holds = true → q.holds = true ∨ s.holder = none)
    (leaves : p.leaves = true → i = 0) (stays : q.leaves = true → p.leaves = true)
    (idle : p.holds = false → q.holds = true ∨ s.holder = none → φ'.working = false)
    (closing : φ'.closed = true → φ.closed = true ∨ i = 0 ∧ p.leaves = true) :
    Orderly n name v₀ φ' (s.put i (p, w)) where
  shows := shows
  fits j m' there' := by
    rw [members_put there] at there'
    by_cases same : j = i
    · rw [if_pos same] at there'
      cases there'
      exact fits
    · rw [if_neg same] at there'
      exact others j m' same there'
  lock j := by
    rw [members_put there]
    show (if p.holds then some i else if s.holder = some i then none else s.holder) = some j ↔ _
    by_cases holds : p.holds = true
    · rw [if_pos holds]
      by_cases same : j = i
      · simp [same, holds]
      · rw [if_neg same, ← o.lock j]
        refine ⟨fun h => absurd (Option.some.inj h).symm same, fun h => ?_⟩
        rcases takes holds with held | free
        · have mine : s.holder = some i := (o.lock i).mpr ⟨m, there, at_ ▸ held⟩
          exact absurd (Option.some.inj (h.symm.trans mine)) same
        · rw [free] at h
          cases h
    · rw [if_neg holds]
      by_cases same : j = i
      · subst same
        by_cases mine : s.holder = some j
        · simp [mine, holds]
        · simp [mine, holds]
      · rw [if_neg same, ← o.lock j]
        by_cases mine : s.holder = some i
        · rw [if_pos mine]
          refine ⟨nofun, fun h => absurd (Option.some.inj (h.symm.trans mine)) same⟩
        · rw [if_neg mine]
  owner j m' there' leaving := by
    rw [members_put there] at there'
    by_cases same : j = i
    · rw [if_pos same] at there'
      cases there'
      rw [same]
      exact leaves leaving
    · rw [if_neg same] at there'
      exact o.owner j m' there' leaving
  idle free := by
    have free' : (if p.holds then some i else if s.holder = some i then none else s.holder) = none := free
    by_cases holds : p.holds = true
    · rw [if_pos holds] at free'
      cases free'
    · rw [if_neg holds] at free'
      refine idle (by simpa using holds) ?_
      by_cases mine : s.holder = some i
      · obtain ⟨m', there', held⟩ := (o.lock i).mp mine
        rw [there] at there'
        cases there'
        exact .inl (at_ ▸ held)
      · rw [if_neg mine] at free'
        exact .inr free'
  closing closed := by
    rcases closing closed with before | ⟨rfl, leaving⟩
    · obtain ⟨m', there', leaving⟩ := o.closing before
      by_cases same : 0 = i
      · subst same
        rw [there] at there'
        cases there'
        exact ⟨⟨w.context, p⟩, by rw [members_put there, if_pos rfl], stays (at_ ▸ leaving)⟩
      · exact ⟨m', by rw [members_put there, if_neg same, there'], leaving⟩
    · exact ⟨⟨w.context, p⟩, by rw [members_put there, if_pos rfl], leaving⟩

/-- A thread comes to a place in the same phase. -/
theorem Orderly.goOn (o : Orderly n name v₀ φ s) {i : Nat} {m : Member} (there : s.members[i]? = some m)
    {q p : Place} (at_ : m.place = q) {w : World κ α β ω} (view : w.hub.view n = s.hub.view n)
    (fits : p.Fits φ w.context.run) (takes : p.holds = true → q.holds = true ∨ s.holder = none)
    (leaves : p.leaves = true → i = 0) (stays : q.leaves = true → p.leaves = true)
    (idle : p.holds = false → q.holds = true → φ.working = false) : Orderly n name v₀ φ (s.put i (p, w)) :=
  o.put there at_ (view ▸ o.shows) fits (fun j m' _ there' => o.fits j m' there') takes leaves stays
    (fun out => (·.elim (idle out) o.idle)) .inl

theorem Place.leaves_of_holds {p : Place} (holds : p.holds = true) : p.leaves = false := by
  cases p <;> first | rfl | cases holds

/-- A thread neither takes the lock nor puts it back, and does not begin to leave. -/
theorem Orderly.stay (o : Orderly n name v₀ φ s) {i : Nat} {m : Member} (there : s.members[i]? = some m)
    {q p : Place} (at_ : m.place = q) {w : World κ α β ω} (view : w.hub.view n = s.hub.view n)
    (fits : p.Fits φ w.context.run) (holds : p.holds = q.holds) (leaves : p.leaves = q.leaves) :
    Orderly n name v₀ φ (s.put i (p, w)) :=
  o.goOn there at_ view fits (fun held => .inl (holds ▸ held))
    (fun leaving => o.owner i m there (at_ ▸ leaves ▸ leaving)) leaves.trans
    fun out held => absurd (out.symm.trans (holds.trans held)) Bool.false_ne_true

/-- A thread puts the lock back. -/
theorem Orderly.release (o : Orderly n name v₀ φ s) {i : Nat} {m : Member} (there : s.members[i]? = some m)
    {q p : Place} (at_ : m.place = q) {w : World κ α β ω} (view : w.hub.view n = s.hub.view n)
    (fits : p.Fits φ w.context.run) (held : q.holds = true) (out : p.holds = false) (stays : p.leaves = false)
    (idle : φ.working = false) : Orderly n name v₀ φ (s.put i (p, w)) :=
  o.goOn there at_ view fits (fun h => absurd (out.symm.trans h) Bool.false_ne_true)
    (fun h => absurd (stays.symm.trans h) Bool.false_ne_true)
    (fun h => absurd ((Place.leaves_of_holds held).symm.trans h) Bool.false_ne_true) fun _ _ => idle

/-- The thread that has the lock brings the next phase about. -/
theorem Orderly.advance (o : Orderly n name v₀ φ s) {i : Nat} {m : Member} (there : s.members[i]? = some m)
    {q p : Place} (at_ : m.place = q) (holds : q.holds = true) {w : World κ α β ω} (keeps : p.holds = true)
    (shows : φ'.Shows name v₀ (w.hub.view n)) (fits : p.Fits φ' w.context.run)
    (early : φ.run? = none) (open_ : φ'.closed = false) : Orderly n name v₀ φ' (s.put i (p, w)) := by
  have mine : s.holder = some i := (o.lock i).mpr ⟨m, there, at_ ▸ holds⟩
  refine o.put there at_ shows fits (fun j m' other there' => ?_) (fun _ => .inl holds)
    (fun h => absurd ((Place.leaves_of_holds keeps).symm.trans h) Bool.false_ne_true)
    (fun h => absurd ((Place.leaves_of_holds holds).symm.trans h) Bool.false_ne_true)
    (fun h => absurd (h.symm.trans keeps) Bool.false_ne_true) fun h => absurd (open_.symm.trans h) Bool.false_ne_true
  refine (o.fits j m' there').of_early early open_ ?_
  by_contra held
  have theirs : s.holder = some j := (o.lock j).mpr ⟨m', there', by simpa using held⟩
  exact other (Option.some.inj (theirs.symm.trans mine))

/-- The thread that leaves brings the next phase about. -/
theorem Orderly.retreat (o : Orderly n name v₀ φ s) {m : Member} {i : Nat} (there : s.members[i]? = some m)
    {q p : Place} (at_ : m.place = q) (leaving : q.leaves = true) {w : World κ α β ω} (leaves : p.leaves = true)
    (shows : φ'.Shows name v₀ (w.hub.view n)) (fits : p.Fits φ' w.context.run)
    {id : String} (late : φ.run? = some id) (same : φ'.run? = φ.run?) (begun : φ'.begun? = φ.begun?) :
    Orderly n name v₀ φ' (s.put i (p, w)) := by
  have first : i = 0 := o.owner i m there (at_ ▸ leaving)
  have out : p.holds = false := by cases p <;> first | rfl | cases leaves
  have idle : φ'.working = false := Phase.working_of_run? (same.trans late)
  refine o.put there at_ shows fits (fun j m' other there' => ?_) (fun h => absurd (out.symm.trans h) nofun)
    (fun _ => first) (fun _ => leaves) (fun _ _ => idle) fun _ => .inr ⟨first, leaves⟩
  refine (o.fits j m' there').of_late late same begun ?_
  by_contra theirs
  exact other ((o.owner j m' there' (by simpa using theirs)).trans first.symm)

/-- A busy thread goes on. -/
theorem Orderly.move (o : Orderly n name v₀ φ s) (fresh : ∀ m, v₀.drawn < m → drawnRun m ∉ Entries.keys v₀.live)
    {i : Nat} {m : Member} (there : s.members[i]? = some m) (busy : m.place.busy = true) :
    ∃ φ', Orderly n name v₀ φ' (s.put i (m.place.go n (s.world m))) := by
  have fits := o.fits i m there
  have request : (s.world m).hub.requests[n]? = some { agentName := name, run := φ.run? } := o.shows.request
  have found : Place.runOf n (s.world m) = φ.run? := runOf_eq request
  cases at_ : m.place with
  | resting last | asking c | left found =>
    rw [at_] at busy
    cases busy
  | inside c =>
    rw [at_] at fits
    cases run : φ.run? with
    | some id =>
      refine ⟨φ, ?_⟩
      rw [Place.go, found, run]
      obtain ⟨a, begun⟩ := Phase.begun_of_run? run
      exact o.stay there at_ rfl ⟨id, run, a, begun, .inl rfl⟩ rfl rfl
    | none =>
      obtain rfl := Phase.still_of_idle run fits.2
      refine ⟨.still, ?_⟩
      rw [Place.go, found]
      exact o.stay there at_ rfl ⟨fits.1, rfl⟩ rfl rfl
  | registering c =>
    rw [at_] at fits
    obtain ⟨before, rfl⟩ := fits
    exact ⟨_, o.advance there at_ rfl rfl (o.shows.register fresh _) ⟨before, rfl⟩ rfl rfl⟩
  | starting c id =>
    rw [at_] at fits
    obtain ⟨before, rfl⟩ := fits
    rw [Place.go]
    rcases start_cases c.ask id request with refused | ⟨e, taken, view⟩
    · refine ⟨.trying id, ?_⟩
      rw [refused]
      exact o.stay there at_ rfl ⟨before, rfl, rfl⟩ rfl rfl
    · rw [taken]
      exact ⟨_, o.advance there at_ rfl rfl (view ▸ o.shows.start c.ask) rfl rfl rfl⟩
  | noting c id =>
    rw [at_] at fits
    obtain rfl : φ = .started c.ask id := fits
    exact ⟨_, o.advance there at_ rfl rfl (view_noted request id ▸ o.shows.note)
      ⟨id, rfl, c.ask, rfl, .inr ⟨rfl, rfl⟩⟩ rfl rfl⟩
  | dropping c id f =>
    rw [at_] at fits
    obtain ⟨before, rfl, rfl⟩ := fits
    exact ⟨.still, o.advance there at_ rfl rfl (o.shows.forget rfl rfl rfl rfl rfl fresh)
      ⟨⟨before, id, rfl, rfl⟩, rfl⟩ rfl rfl⟩
  | releasing c tried r =>
    rw [at_] at fits
    refine ⟨φ, ?_⟩
    cases r with
    | ok u =>
      obtain ⟨id, known⟩ := fits
      exact o.release there at_ rfl ⟨id, known⟩ rfl rfl rfl (Phase.working_of_run? known.1)
    | error f => exact o.release there at_ rfl fits.1 rfl rfl rfl (fits.2 ▸ rfl)
  | binding c tried =>
    rw [at_] at fits
    obtain ⟨id, known⟩ := fits
    refine ⟨φ, ?_⟩
    rw [Place.go, found, known.1]
    exact o.stay there at_ rfl ⟨id, rfl, rfl, known⟩ rfl rfl
  | looking =>
    rw [at_] at fits
    refine ⟨φ, ?_⟩
    rw [Place.go, found]
    cases run : φ.run? with
    | none => exact o.stay there at_ rfl fits rfl rfl
    | some id =>
      obtain ⟨a, rfl⟩ := Phase.running_of_open run fits
      exact o.stay there at_ rfl ⟨a, rfl⟩ rfl rfl
  | finishing id =>
    rw [at_] at fits
    obtain ⟨a, rfl⟩ := fits
    rw [Place.go]
    rcases raise_cases (w := s.world m) (n := n) id with ⟨f, refused⟩ | ⟨e, taken, view⟩
    · rw [refused]
      exact ⟨_, o.retreat there at_ rfl rfl (o.shows.refuse f) ⟨a, rfl⟩ rfl rfl rfl⟩
    · rw [taken]
      exact ⟨_, o.retreat there at_ rfl rfl (view ▸ o.shows.finish) ⟨a, rfl⟩ rfl rfl rfl⟩
  | forgetting id r =>
    rw [at_] at fits
    obtain ⟨a, rfl⟩ := fits
    have ending : (Phase.gone a id r).end? = (Phase.ended a id r).end? := by cases r <;> rfl
    exact ⟨.gone a id r, o.retreat there at_ rfl rfl (o.shows.forget rfl rfl rfl rfl ending fresh) ⟨a, rfl⟩
      rfl rfl rfl⟩
  | clearing id r =>
    rw [at_] at fits
    exact ⟨φ, o.stay there at_ rfl fits rfl rfl⟩

/-- A thread that enters keeps out of everything. -/
theorem Orderly.join (o : Orderly n name v₀ φ s) (context : Context) :
    Orderly n name v₀ φ { s with members := s.members ++ [⟨context, .resting none⟩] } := by
  have places {i : Nat} {m' : Member} (there : (s.members ++ [⟨context, .resting none⟩])[i]? = some m') :
      s.members[i]? = some m' ∨ m'.place = .resting none := by
    rcases Nat.lt_or_ge i s.members.length with old | new
    · rw [List.getElem?_append_left old] at there
      exact .inl there
    · rw [List.getElem?_append_right new, List.getElem?_singleton] at there
      split at there
      · cases there
        exact .inr rfl
      · cases there
  have keeps {i : Nat} {m' : Member} (there : s.members[i]? = some m') :
      (s.members ++ [⟨context, .resting none⟩])[i]? = some m' := by
    rw [List.getElem?_append_left (List.getElem?_eq_some_iff.mp there).1, there]
  refine ⟨o.shows, fun i m' there => ?_, fun i => ?_, fun i m' there leaving => ?_, o.idle, fun closed => ?_⟩
  · rcases places there with old | new
    · exact o.fits i m' old
    · rw [new]
      trivial
  · refine (o.lock i).trans ⟨fun ⟨m', there, holds⟩ => ⟨m', keeps there, holds⟩, fun ⟨m', there, holds⟩ => ?_⟩
    rcases places there with old | new
    · exact ⟨m', old, holds⟩
    · rw [new] at holds
      cases holds
  · rcases places there with old | new
    · exact o.owner i m' old leaving
    · rw [new] at leaving
      cases leaving
  · obtain ⟨m', there, leaving⟩ := o.closing closed
    exact ⟨m', keeps there, leaving⟩

theorem Orderly.step (o : Orderly n name v₀ φ s) (fresh : ∀ m, v₀.drawn < m → drawnRun m ∉ Entries.keys v₀.live)
    {t : Team κ α β ω} (step : Step n s t) : ∃ φ', Orderly n name v₀ φ' t := by
  cases step with
  | join mem => exact ⟨φ, o.join _⟩
  | ask there rests serves a => exact ⟨φ, o.stay there rests rfl rfl rfl rfl⟩
  | @enter i m c there asks free =>
    have fits := o.fits i m there
    rw [asks] at fits
    exact ⟨φ, o.goOn there asks rfl ⟨fits, o.idle free⟩ (fun _ => .inr free) nofun nofun nofun⟩
  | move there busy => exact o.move fresh there busy
  | @leave m last outer there rests serves =>
    have open_ : φ.closed = false := by
      by_contra closed
      obtain ⟨m', there', leaving⟩ := o.closing (by simpa using closed)
      rw [there] at there'
      cases there'
      rw [rests] at leaving
      cases leaving
    exact ⟨φ, o.goOn there rests rfl open_ nofun (fun _ => rfl) nofun nofun⟩
  | elsewhere hub host apart =>
    exact ⟨φ, apart ▸ o.shows, o.fits, o.lock, o.owner, o.idle, o.closing⟩

/-- A request that has just been opened has no run. -/
theorem Opens.orderly (opens : Opens n name s) : Orderly n name (s.hub.view n) .still s := by
  obtain ⟨context, members, -⟩ := opens.alone
  have only {i : Nat} {m : Member} (there : s.members[i]? = some m) : m = ⟨context, .resting none⟩ := by
    rw [members, List.getElem?_singleton] at there
    split at there <;> cases there
    rfl
  refine ⟨⟨opens.request, ⟨[], (List.append_nil _).symm, rfl⟩, (List.append_nil _).symm, (List.append_nil _).symm,
    Nat.le_refl _, nofun⟩, fun i m there => ?_, fun i => ?_, fun i m there leaving => ?_, fun _ => rfl, nofun⟩
  · rw [only there]
    trivial
  · rw [opens.free]
    refine ⟨nofun, fun ⟨m, there, holds⟩ => ?_⟩
    rw [only there] at holds
    cases holds
  · rw [only there] at leaving
    cases leaving

/-- However the steps of the threads are interleaved, the request is in some phase, and all threads are where that
allows them to be. -/
theorem Opens.later {s₀ : Team κ α β ω} (opens : Opens n name s₀) (later : Later n s₀ s) :
    ∃ φ, Orderly n name (s₀.hub.view n) φ s := by
  induction later with
  | refl => exact ⟨.still, opens.orderly⟩
  | tail _ step ih =>
    obtain ⟨φ, o⟩ := ih
    exact o.step opens.fresh step

/-! ## Single steps -/

/-- Only a thread that has found the run, or ends it, changes what it belongs to. -/
theorem run_go (w : World κ α β ω) (p : Place) : (p.go n w).2.context.run = w.context.run ∨
    (∃ c tried, p = .binding c tried) ∨ ∃ id r, p = .clearing id r := by
  cases p with
  | binding c tried => exact .inr (.inl ⟨c, tried, rfl⟩)
  | clearing id r => exact .inr (.inr ⟨id, r, rfl⟩)
  | inside c | looking =>
    rw [Place.go]
    split <;> exact .inl rfl
  | starting c id | finishing id =>
    rw [Place.go]
    split <;> exact .inl rfl
  | releasing c tried r => cases r <;> exact .inl rfl
  | _ => exact .inl rfl

/-- No thread touches what another one belongs to. -/
theorem Step.run {t : Team κ α β ω} (step : Step n s t) {i : Nat} {m m' : Member}
    (before : s.members[i]? = some m) (after : t.members[i]? = some m') :
    m'.context.run = m.context.run ∨ (∃ c tried, m.place = .binding c tried) ∨ ∃ id r, m.place = .clearing id r := by
  have puts {j : Nat} {m₁ : Member} (there : s.members[j]? = some m₁) {x : Place × World κ α β ω}
      (own : x.2.context.run = m₁.context.run ∨ (∃ c tried, m₁.place = .binding c tried) ∨
        ∃ id r, m₁.place = .clearing id r) (after : (s.put j x).members[i]? = some m') :
      m'.context.run = m.context.run ∨ (∃ c tried, m.place = .binding c tried) ∨
        ∃ id r, m.place = .clearing id r := by
    rw [members_put there] at after
    split at after
    · rename_i same
      subst same
      cases after
      rw [there] at before
      cases before
      exact own
    · rw [before] at after
      cases after
      exact .inl rfl
  cases step with
  | join mem =>
    rw [List.getElem?_append_left (List.getElem?_eq_some_iff.mp before).1, before] at after
    cases after
    exact .inl rfl
  | ask there rests serves a => exact puts there (.inl rfl) after
  | enter there asks free => exact puts there (.inl rfl) after
  | @move j m₁ there busy => exact puts there (run_go (s.world m₁) m₁.place) after
  | leave outer there rests serves => exact puts there (.inl rfl) after
  | elsewhere hub host apart =>
    rw [before] at after
    cases after
    exact .inl rfl

/-- A workflow is started by an activation, as that has asked for it. -/
theorem Orderly.starts_step (o : Orderly n name v₀ φ s) {t : Team κ α β ω} (step : Step n s t) :
    (t.hub.view n).starts = (s.hub.view n).starts ∨
      ∃ (i : Nat) (m : Member) (c : Call) (id : String), s.members[i]? = some m ∧ m.place = .starting c id ∧
        (t.hub.view n).starts = (s.hub.view n).starts ++ [entry name (c.ask, id)] := by
  cases step with
  | join mem => exact .inl rfl
  | ask there rests serves a => exact .inl rfl
  | enter there asks free => exact .inl rfl
  | leave outer there rests serves => exact .inl rfl
  | elsewhere hub host apart => exact .inl (by rw [apart])
  | @move i m there busy =>
    show ((m.place.go n (s.world m)).2.hub.view n).starts = (s.hub.view n).starts ∨
      ∃ (i' : Nat) (m' : Member) (c : Call) (id : String), s.members[i']? = some m' ∧ m'.place = .starting c id ∧
        ((m.place.go n (s.world m)).2.hub.view n).starts = (s.hub.view n).starts ++ [entry name (c.ask, id)]
    cases at_ : m.place with
    | starting c id =>
      rw [Place.go]
      have request : (s.world m).hub.requests[n]? = some { agentName := name, run := φ.run? } := o.shows.request
      rcases start_cases c.ask id request with refused | ⟨e, taken, view⟩
      · rw [refused]
        exact .inl rfl
      · rw [taken]
        exact .inr ⟨i, m, c, id, there, at_, congrArg Hub.View.starts view⟩
    | finishing id =>
      rw [Place.go]
      rcases raise_cases (w := s.world m) (n := n) id with ⟨f, refused⟩ | ⟨e, taken, view⟩
      · rw [refused]
        exact .inl rfl
      · rw [taken]
        have same := congrArg Hub.View.starts view
        exact .inl same
    | inside c | looking =>
      rw [Place.go]
      split <;> exact .inl rfl
    | releasing c tried r => cases r <;> exact .inl rfl
    | _ => exact .inl rfl

/-! ## A thread that nobody gets in the way of -/

theorem put_put (free : s.holder = none) (i : Nat) (x y : Place × World κ α β ω) :
    (s.put i x).put i y = s.put i y := by
  by_cases first : x.1.holds = true <;> simp [put, free, first]

/-- Nobody has to wait for the lock if it is free, and whoever has it goes on. -/
theorem later_alone (free : s.holder = none) {i : Nat} {m : Member} (there : s.members[i]? = some m) {k : Nat}
    {x : Place × World κ α β ω} (busy : ∀ j < k, (Place.alone n j x).1.busy = true) :
    Later n (s.put i x) (s.put i (Place.alone n k x)) := by
  induction k generalizing x with
  | zero => exact .refl
  | succ k ih =>
    have here : (s.put i x).members[i]? = some ⟨x.2.context, x.1⟩ := by rw [members_put there, if_pos rfl]
    have step : Step n (s.put i x) ((s.put i x).put i (x.1.go n x.2)) := .move here (busy 0 (Nat.succ_pos k))
    rw [put_put free] at step
    exact .head step (ih fun j inside => busy (j + 1) (Nat.succ_lt_succ inside))

/-- If the lock is free, an activation can go on to where it would come to alone. -/
theorem later_activate (free : s.holder = none) {i : Nat} {m : Member} (there : s.members[i]? = some m)
    {last : Option Returned} (rests : m.place = .resting last) (serves : m.context.request = some n) (a : Ask)
    {k : Nat} (busy : ∀ j < k, (Place.alone n j (.inside ⟨a, m.context.run⟩, s.world m)).1.busy = true) :
    Later n s (s.put i (Place.alone n k (.inside ⟨a, m.context.run⟩, s.world m))) := by
  have asks : Step n s (s.put i (.asking ⟨a, m.context.run⟩, s.world m)) := .ask there rests serves a
  have here : (s.put i (.asking ⟨a, m.context.run⟩, s.world m)).members[i]? =
      some ⟨m.context, .asking ⟨a, m.context.run⟩⟩ := by
    rw [members_put there, if_pos rfl]
    rfl
  have enters : Step n (s.put i (.asking ⟨a, m.context.run⟩, s.world m))
      ((s.put i (.asking ⟨a, m.context.run⟩, s.world m)).put i (.inside ⟨a, m.context.run⟩, s.world m)) :=
    .enter (m := ⟨m.context, .asking ⟨a, m.context.run⟩⟩) here rfl (by simp [Team.put, free, Place.holds])
  rw [put_put free] at enters
  exact .head asks (.head enters (later_alone free there busy))

/-! ## What this amounts to -/

/-- What the activations of a request amount to; the run that has been started is given, with what the call had asked
for that has started it. -/
structure Once (n : Nat) (name : Option String) (s₀ s : Team κ α β ω) (begun : Option (Ask × String)) : Prop where
  /-- At most one workflow has been started, as it was asked for. -/
  started : (s.hub.view n).starts = (s₀.hub.view n).starts ++ (begun.map (entry name)).toList
  /-- Whatever the threads do after that, there is no second one. -/
  final : begun ≠ none → ∀ t, Later n s t → (t.hub.view n).starts = (s.hub.view n).starts
  /-- The workflow is started by a call, with the name and the messages of that call. -/
  asked : ∀ t, Step n s t → (t.hub.view n).starts = (s.hub.view n).starts ∨
    ∃ (i : Nat) (m : Member) (c : Call) (id : String), s.members[i]? = some m ∧ m.place = .starting c id ∧
      (t.hub.view n).starts = (s.hub.view n).starts ++ [entry name (c.ask, id)]
  /-- A call that has not failed has come back with the run, and its thread belongs to the run. -/
  succeeded : ∀ (i : Nat) (m : Member) (d : Returned) (x : Option String), s.members[i]? = some m →
    m.place = .resting (some d) → d.answer = .ok x → ∃ a id, begun = some (a, id) ∧ x = some id ∧
      m.context.run = some id ∧ (d.tried = none ∨ d.tried = some id ∧ d.ask = a)
  /-- Every call that comes back when there is a run comes back with the run. -/
  returns : begun ≠ none → ∀ t, Step n s t → ∀ (i : Nat) (m m' : Member) (d : Returned), s.members[i]? = some m →
    m.place.busy = true → t.members[i]? = some m' → m'.place = .resting (some d) →
      ∃ a id, begun = some (a, id) ∧ d.answer = .ok (some id) ∧ m'.context.run = some id
  /-- A call that is about to fail leaves no run behind, and the registry as it was. -/
  refused : ∀ (i : Nat) (m : Member) (c : Call) (tried : Option String) (f : Failure), s.members[i]? = some m →
    m.place = .releasing c tried (.error f) → begun = none ∧ (s.hub.view n).live = (s₀.hub.view n).live ∧
      (s.hub.view n).request = (s₀.hub.view n).request
  /-- A call that has failed has failed because its run could not be started; the thread belongs to what it has
  belonged to before. -/
  failed : ∀ (i : Nat) (m : Member) (d : Returned) (f : Failure), s.members[i]? = some m →
    m.place = .resting (some d) → d.answer = .error f → m.context.run = d.before ∧
      ∃ id, d.tried = some id ∧ f = cannotStart id
  /-- If nobody is about to start a run, and the request is not being left, the run of the request is all that has
  come to the registry. -/
  registry : s.holder = none → (∀ m ∈ s.members, m.place.leaves = false) →
    ∃ rest, (s.hub.view n).live = (s₀.hub.view n).live ++ rest ∧ Entries.keys rest = (begun.map Prod.snd).toList
  /-- As long as there is no run, a thread that serves the request gets one started, if only the engine takes it. -/
  activatable : begun = none → s.holder = none → ∀ (i : Nat) (m : Member) (last : Option Returned) (a : Ask)
    (e : Engine), s.members[i]? = some m → m.place = .resting last → m.context.request = some n →
      Place.starts n a (drawnRun (s.hub.runsDrawn + 1)) (s.world m) = .ok e → ∃ t id, Later n s t ∧
        (t.hub.view n).starts = (s₀.hub.view n).starts ++ [entry name (a, id)] ∧
        t.members[i]? = some ⟨{ m.context with run := some id },
          .resting (some { ask := a, before := m.context.run, tried := some id, answer := .ok (some id) })⟩
  /-- No thread touches what another one belongs to. -/
  own : ∀ t, Step n s t → ∀ (i : Nat) (m m' : Member), s.members[i]? = some m → t.members[i]? = some m' →
    m'.context.run = m.context.run ∨ (∃ c tried, m.place = .binding c tried) ∨ ∃ id r, m.place = .clearing id r

theorem Phase.live_eq {φ : Phase} (idle : φ.working = false) (open_ : φ.closed = false) :
    φ.live? = φ.begun?.map Prod.snd := by
  cases φ with
  | still | running a id => rfl
  | trying id | started a id => cases idle
  | ended a id r | gone a id r => cases open_

theorem Orderly.of_resting (o : Orderly n name v₀ φ s) {i : Nat} {m : Member} {d : Returned}
    (there : s.members[i]? = some m) (rests : m.place = .resting (some d)) : d.Fits φ m.context.run := by
  have fits := o.fits i m there
  rw [rests] at fits
  exact fits

/-- What a call knows that has come back with a run. -/
theorem Returned.Fits.of_ok {d : Returned} {run x : Option String} (fits : d.Fits φ run) (answer : d.answer = .ok x) :
    ∃ a id, φ.begun? = some (a, id) ∧ x = some id ∧ run = some id ∧
      (d.tried = none ∨ d.tried = some id ∧ d.ask = a) := by
  unfold Returned.Fits at fits
  rw [answer] at fits
  obtain ⟨id, is, belongs, -, a, begun, tried⟩ := fits
  exact ⟨a, id, begun, is, belongs, tried⟩

/-- The engine does not forget what has been started. -/
theorem Opens.starts_prefix {s₀ t : Team κ α β ω} (opens : Opens n name s₀) (later : Later n s₀ s)
    (onward : Later n s t) : (s.hub.view n).starts <+: (t.hub.view n).starts := by
  induction onward with
  | refl => exact List.prefix_refl _
  | tail before step ih =>
    obtain ⟨φ, o⟩ := opens.later (later.trans before)
    rcases o.starts_step step with same | ⟨_, _, _, _, _, _, more⟩
    · rw [same]
      exact ih
    · rw [more]
      exact ih.trans (List.prefix_append _ _)

/-- There is no second run. -/
theorem Orderly.final {s₀ t : Team κ α β ω} (opens : Opens n name s₀) (later : Later n s₀ s)
    (o : Orderly n name (s₀.hub.view n) φ s) (begun : φ.begun? ≠ none) (onward : Later n s t) :
    (t.hub.view n).starts = (s.hub.view n).starts := by
  obtain ⟨φ', o'⟩ := opens.later (later.trans onward)
  refine ((opens.starts_prefix later onward).eq_of_length_le ?_).symm
  obtain ⟨x, is⟩ := Option.ne_none_iff_exists'.mp begun
  rw [o.shows.starts, o'.shows.starts, is, List.length_append, List.length_append]
  cases φ'.begun? <;> simp

/-- A call comes back after it has put the lock back. -/
theorem go_resting {w : World κ α β ω} {p : Place} {d : Returned} (busy : p.busy = true)
    (rests : (p.go n w).1 = .resting (some d)) :
    (∃ c tried f, p = .releasing c tried (.error f)) ∨ ∃ c tried, p = .binding c tried := by
  cases p with
  | binding c tried => exact .inr ⟨c, tried, rfl⟩
  | releasing c tried r =>
    cases r with
    | ok u => cases rests
    | error f => exact .inl ⟨c, tried, f, rfl⟩
  | resting last | asking c | left found => cases busy
  | inside c | looking | starting c id | finishing id =>
    rw [Place.go] at rests
    split at rests <;> cases rests
  | _ => cases rests

/-- A call that comes back when there is a run comes back with the run. -/
theorem Orderly.returns (o : Orderly n name v₀ φ s) {t : Team κ α β ω} (step : Step n s t) (begun : φ.begun? ≠ none)
    {i : Nat} {m m' : Member} {d : Returned} (before : s.members[i]? = some m) (busy : m.place.busy = true)
    (after : t.members[i]? = some m') (rests : m'.place = .resting (some d)) :
    ∃ a id, φ.begun? = some (a, id) ∧ d.answer = .ok (some id) ∧ m'.context.run = some id := by
  have fits := o.fits i m before
  have stays (same : m' = m) : False := by
    rw [← same, rests] at busy
    cases busy
  have puts {j : Nat} {m₁ : Member} (there : s.members[j]? = some m₁) {x : Place × World κ α β ω}
      (after : (s.put j x).members[i]? = some m') : i = j ∧ m₁ = m ∧ m' = ⟨x.2.context, x.1⟩ := by
    rw [members_put there] at after
    split at after
    · rename_i same
      subst same
      rw [there] at before
      exact ⟨rfl, Option.some.inj before, (Option.some.inj after).symm⟩
    · exact (stays (Option.some.inj (after.symm.trans before))).elim
  cases step with
  | join mem =>
    rw [List.getElem?_append_left (List.getElem?_eq_some_iff.mp before).1] at after
    exact (stays (Option.some.inj (after.symm.trans before))).elim
  | ask there rests' serves a | enter there asks free | leave outer there rests' serves =>
    obtain ⟨-, -, rfl⟩ := puts there after
    cases rests
  | elsewhere hub host apart => exact (stays (Option.some.inj (after.symm.trans before))).elim
  | @move j m₁ there busy' =>
    obtain ⟨-, rfl, rfl⟩ := puts there after
    rcases go_resting busy rests with ⟨c, tried, f, at_⟩ | ⟨c, tried, at_⟩
    · rw [at_] at fits
      exact absurd (fits.2 ▸ rfl) begun
    · rw [at_] at fits rests ⊢
      obtain ⟨id, run, a, is, -⟩ := fits
      have request : (s.world m₁).hub.requests[n]? = some { agentName := name, run := φ.run? } := o.shows.request
      have found : Place.runOf n (s.world m₁) = some id := (runOf_eq request).trans run
      rw [Place.go, found] at rests ⊢
      cases rests
      exact ⟨a, id, is, rfl, rfl⟩

section Activatable

variable {w : World κ α β ω} {c : Call} {e : Engine}

theorem alone_inside (there : n < w.hub.requests.length) (missing : Place.runOf n w = none)
    (taken : Place.starts n c.ask (drawnRun (w.hub.runsDrawn + 1)) w = .ok e) :
    Place.alone n 6 (.inside c, w) =
      (.resting (some { c with tried := some (drawnRun (w.hub.runsDrawn + 1))
                               answer := .ok (some (drawnRun (w.hub.runsDrawn + 1))) }),
        Place.belonging (some (drawnRun (w.hub.runsDrawn + 1)))
          (Place.noted n (drawnRun (w.hub.runsDrawn + 1)) (Place.onward e (Place.registered w)))) ∧
      ∀ j < 6, (Place.alone n j (.inside c, w)).1.busy = true := by
  have taken' : Place.starts n c.ask (drawnRun (w.hub.runsDrawn + 1)) (Place.registered w) = .ok e := taken
  have there' : n < (Place.onward e (Place.registered w)).hub.requests.length := there
  constructor
  · simp only [Place.alone, Place.go, missing, taken', Place.runOf_noted there']
  · intro j inside
    obtain rfl | rfl | rfl | rfl | rfl | rfl : j = 0 ∨ j = 1 ∨ j = 2 ∨ j = 3 ∨ j = 4 ∨ j = 5 := by omega
    all_goals simp only [Place.alone, Place.go, missing, taken', Place.busy]

/-- Once nobody has the lock, and as long as there is no run, an activation starts the run. -/
theorem Orderly.activatable (o : Orderly n name v₀ .still s) (free : s.holder = none) {i : Nat} {m : Member}
    {last : Option Returned} {a : Ask} (there : s.members[i]? = some m) (rests : m.place = .resting last)
    (serves : m.context.request = some n)
    (taken : Place.starts n a (drawnRun (s.hub.runsDrawn + 1)) (s.world m) = .ok e) :
    ∃ t id, Later n s t ∧ (t.hub.view n).starts = v₀.starts ++ [entry name (a, id)] ∧
      t.members[i]? = some ⟨{ m.context with run := some id },
        .resting (some { ask := a, before := m.context.run, tried := some id, answer := .ok (some id) })⟩ := by
  have request : (s.world m).hub.requests[n]? = some { agentName := name, run := none } := o.shows.request
  have known : n < (s.world m).hub.requests.length := (List.getElem?_eq_some_iff.mp request).1
  obtain ⟨goes, busy⟩ := alone_inside (c := ⟨a, m.context.run⟩) known (runOf_eq request) taken
  have later := later_activate free there rests serves a busy
  rw [goes] at later
  refine ⟨_, _, later, ?_, (members_put there _ i).trans (if_pos rfl)⟩
  have same : (Place.registered (s.world m)).hub.requests[n]? = some { agentName := name, run := none } := request
  rcases start_cases a (drawnRun (s.hub.runsDrawn + 1)) same with refused | ⟨e', taken', view⟩
  · cases refused.symm.trans taken
  · cases taken'.symm.trans taken
    have starts : ((Place.onward e (Place.registered (s.world m))).hub.view n).starts =
        (s.hub.view n).starts ++ [entry name (a, drawnRun (s.hub.runsDrawn + 1))] := congrArg Hub.View.starts view
    rw [o.shows.starts, Phase.begun?, Option.map_none, Option.toList_none, List.append_nil] at starts
    exact starts

end Activatable

variable {s₀ : Team κ α β ω}

/-- However many threads serve a request, however their steps are interleaved and whatever the engine refuses, the
activations of the request start at most one run. -/
theorem activated_once (opens : Opens n name s₀) (later : Later n s₀ s) : ∃ begun, Once n name s₀ s begun := by
  obtain ⟨φ, o⟩ := opens.later later
  refine ⟨φ.begun?, o.shows.starts, fun begun t onward => o.final opens later begun onward,
    fun t step => o.starts_step step, fun i m d x there rests answer => (o.of_resting there rests).of_ok answer,
    fun begun t step i m m' d before busy after rests => o.returns step begun before busy after rests,
    fun i m c tried f there at_ => ?_, fun i m d f there rests answer => ?_, fun free stays => ?_,
    fun begun free i m last a e there rests serves taken => ?_,
    fun t step i m m' before after => step.run before after⟩
  · have fits := o.fits i m there
    rw [at_] at fits
    obtain ⟨-, rfl⟩ := fits
    exact ⟨rfl, o.shows.live_eq, o.shows.request.trans opens.request.symm⟩
  · have fits := o.of_resting there rests
    unfold Returned.Fits at fits
    rw [answer] at fits
    exact fits
  · have open_ : φ.closed = false := by
      by_contra closed
      obtain ⟨m, there, leaving⟩ := o.closing (by simpa using closed)
      exact absurd (leaving.symm.trans (stays m (List.mem_of_getElem? there))) nofun
    obtain ⟨rest, live, keys⟩ := o.shows.live
    exact ⟨rest, live, keys.trans (congrArg _ (Phase.live_eq (o.idle free) open_))⟩
  · have still : φ = .still := by
      have idle := o.idle free
      cases φ with
      | still => rfl
      | trying id => cases idle
      | started a id | running a id | ended a id r | gone a id r => cases begun
    subst still
    exact o.activatable free there rests serves taken

/-- A request of a desk; the engine does not start the first run that is drawn. -/
def desk : Team Unit Unit Unit Unit where
  hub := { requests := [{ agentName := some "desk" }], engine := { closedStarts := ["run-1"] } }
  host := ()
  members := [⟨{ request := some 0 }, .resting none⟩]

/-- The call of a second thread fails, and the first thread gets a run started after that. -/
theorem activated_after_refusal : ∃ s, Later 0 desk s ∧
    s.members.map (·.context.run) = [some "run-2", none] ∧ (s.hub.view 0).starts.length = 1 ∧
    ∃ begun, Once 0 (some "desk") desk s begun := by
  let visitor : Member := ⟨{ request := some 0 }, .resting none⟩
  let joined : Team Unit Unit Unit Unit := { desk with members := desk.members ++ [visitor] }
  let second : Ask := { userMessage := some "second" }
  let first : Ask := { userMessage := some "first" }
  let refused := joined.put 1 (Place.alone 0 5 (.inside ⟨second, none⟩, joined.world visitor))
  have opens : Opens 0 (some "desk") desk :=
    ⟨⟨_, rfl, rfl⟩, rfl, rfl, fun _ _ => List.not_mem_nil⟩
  have joins : Later 0 desk joined := .single (.join (s := desk) (m := visitor) (List.mem_singleton.mpr rfl))
  have fails : Later 0 joined refused :=
    later_activate (i := 1) (m := visitor) rfl rfl rfl rfl second (by decide +kernel)
  have starts : Later 0 refused (refused.put 0 (Place.alone 0 6 (.inside ⟨first, none⟩, refused.world visitor))) :=
    later_activate (i := 0) (m := visitor) (by decide +kernel) rfl rfl rfl first (by decide +kernel)
  have later := (joins.trans fails).trans starts
  exact ⟨_, later, by decide +kernel, by decide +kernel, activated_once opens later⟩

end Team
end Rendezvous
