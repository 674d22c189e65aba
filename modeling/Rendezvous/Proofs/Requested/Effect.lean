import Rendezvous.Proofs.Routing.Transparency

/-!
# What a routed call does beside the hub

A routed call is performed on the spot, or by the call activity as a guarded one, or it fails before it is
performed.  Beside the hub it changes what its performance changes, and an outcome that is no failure is that
of its performance (`Act.route_came`).  This holds of every hub, whatever its tables and slots contain.
-/

namespace Rendezvous

set_option autoImplicit false

variable {κ α β ω γ δ : Type}

/-- What comes of a call, and what it makes of what there is beside the hub; it may depend on the guard. -/
abbrev Responding (κ α ω : Type) : Type := Bool → κ → ω → Result α × ω

/-- Calls touch nothing but what there is beside the hub, and that as the responses say. -/
def Performer.Local (h : Performer κ α β ω) (respond : Responding κ α ω) : Prop :=
  ∀ (k : κ) (w : World κ α β ω), h.perform k w =
    ((respond w.context.guarded k w.host).1, { w with host := (respond w.context.guarded k w.host).2 })

/-- What has come of a call that was to be routed. -/
inductive Came (respond : Responding κ α ω) (k : κ) (before : ω) : Result α → ω → Prop where
  /-- The call was performed; what is no failure is the outcome of that. -/
  | performed (guarded : Bool) (r : Result α)
      (faithful : ∀ a, r = .ok a → (respond guarded k before).1 = .ok a) :
      Came respond k before r (respond guarded k before).2
  /-- The call failed before it was performed. -/
  | failed (e : Failure) : Came respond k before (.error e) before

/-- An outcome is that of the performance. -/
theorem Came.of_ok {respond : Responding κ α ω} {k : κ} {before after : ω} {a : α}
    (came : Came respond k before (.ok a) after) : ∃ guarded, respond guarded k before = (.ok a, after) := by
  generalize result : (Except.ok a : Result α) = r at came
  cases came with
  | performed guarded r faithful => exact ⟨guarded, Prod.ext ((faithful a result.symm).trans result) rfl⟩
  | failed e => cases result

namespace Act

/-! ## Actions that touch nothing beside the hub -/

/-- An action that touches nothing beside the hub. -/
def Reserved (x : Act κ α β ω γ) : Prop := ∀ w, (x w).2.host = w.host

namespace Reserved

variable {x : Act κ α β ω γ} {f : γ → Act κ α β ω δ}

theorem bind (first : Reserved x) (rest : ∀ a, Reserved (f a)) : Reserved (x >>= f) := by
  intro w
  rw [← first w]
  rcases result : x w with ⟨_ | a, w'⟩
  · rw [bind_apply_of_error result]
  · rw [bind_apply_of_ok result]
    exact rest a w'

theorem ofResult (r : Result γ) : Reserved (Act.ofResult r : Act κ α β ω γ) := fun _ => rfl

theorem pure (a : γ) : Reserved (Pure.pure a : Act κ α β ω γ) := ofResult (.ok a)

theorem changeHub (g : Hub κ α β → Hub κ α β) : Reserved (Act.changeHub g : Act κ α β ω Unit) := fun _ => rfl

theorem onEngine (g : Engine → Result Engine) : Reserved (Act.onEngine g : Act κ α β ω Unit) :=
  bind (fun _ => rfl) fun _ => bind (ofResult _) fun _ => changeHub _

theorem startRun (name : String) (userMessage systemMessage run : Option String) :
    Reserved (Act.startRun name userMessage systemMessage run : Act κ α β ω String) := by
  have draws : Reserved (drawRun : Act κ α β ω String) :=
    bind (fun _ => rfl) fun _ => bind (changeHub _) fun _ => pure _
  unfold Act.startRun
  cases Text.given? run with
  | some id =>
    refine bind (pure id) fun id => bind (fun _ => rfl) fun _ => bind (onEngine _) fun r => ?_
    cases r with
    | ok _ => exact pure id
    | error f => exact bind (fun _ => rfl) fun _ => ofResult (.error f)
  | none =>
    refine bind draws fun id => bind (fun _ => rfl) fun _ => bind (onEngine _) fun r => ?_
    cases r with
    | ok _ => exact pure id
    | error f => exact bind (fun _ => rfl) fun _ => ofResult (.error f)

theorem activate (agentName userMessage systemMessage : Option String) :
    Reserved (Act.activate agentName userMessage systemMessage : Act κ α β ω (Option String)) := by
  refine bind (fun _ => rfl) fun c => ?_
  cases c.request with
  | none => exact pure none
  | some n =>
    refine bind (fun _ => rfl) fun q => ?_
    have belong (id : String) : Reserved (κ := κ) (α := α) (β := β) (ω := ω)
        (do setRun (some id); return some id) := bind (fun _ => rfl) fun _ => pure _
    dsimp only
    cases q.run with
    | some id => exact belong id
    | none => exact bind (startRun _ _ _ _) fun id => bind (changeHub _) fun _ => belong id

theorem runOf (c : RoutedCall κ) : Reserved (Act.runOf c : Act κ α β ω (Option String)) := by
  refine bind (fun _ => rfl) fun context => ?_
  cases context.run with
  | some run => exact pure (some run)
  | none => exact activate _ _ _

end Reserved

/-! ## Calls that the call activity executes -/

variable {h : Performer κ α β ω} {respond : Responding κ α ω}

/-- What is left in the slot of a call that the call activity has executed. -/
def handedBack (respond : Responding κ α ω) (k : κ) (before : ω) : Result α :=
  (respond true k before).1.mapError Failure.rootCause

theorem ok_of_handedBack {k : κ} {before : ω} {a : α} (back : handedBack respond k before = .ok a) :
    (respond true k before).1 = .ok a := by
  unfold handedBack at back
  cases result : (respond true k before).1 with
  | ok b => rwa [result] at back
  | error f =>
    rw [result] at back
    cases back

/-- The call activity executes the call that it finds, and settles it. -/
theorem executeCall_of_pending (localized : h.Local respond) {w : World κ α β ω} {o : CallOrder} {t : Nat}
    {p : Pending κ} (live : w.hub.exchange.tableOf? o.runId = some t)
    (found : (w.hub.exchange.table t).call? o.callId = some p) :
    ∃ report w', executeCall h o w = (report, w') ∧ w'.host = (respond true p.call w.host).2 ∧
      w'.hub.exchange = (w.hub.exchange.settle t o.callId (handedBack respond p.call w.host)).2 := by
  have performs := localized p.call (w.executing o)
  exact ⟨_, _, executeCall_apply live found performs, rfl, rfl⟩

/-- Raising the event of a call fails, or has the call executed, if it is pending. -/
inductive Raised (respond : Responding κ α ω) (table : Nat) (callId : String) (w : World κ α β ω) :
    Result Unit → World κ α β ω → Prop where
  | refused (e : Failure) {w' : World κ α β ω} (host : w'.host = w.host) : Raised respond table callId w (.error e) w'
  | executed (p : Pending κ) {w' : World κ α β ω} (found : (w.hub.exchange.table table).call? callId = some p)
      (host : w'.host = (respond true p.call w.host).2)
      (exchange : w'.hub.exchange =
        (w.hub.exchange.settle table callId (handedBack respond p.call w.host)).2) :
      Raised respond table callId w (.ok ()) w'
  | missed {w' : World κ α β ω} (missing : (w.hub.exchange.table table).call? callId = none)
      (host : w'.host = w.host) (exchange : w'.hub.exchange = w.hub.exchange) :
      Raised respond table callId w (.ok ()) w'

theorem raiseCall_raised (localized : h.Local respond) {w : World κ α β ω} {run : String} {table : Nat}
    (live : w.hub.exchange.tableOf? run = some table) (kind : EventKind) (callId operation : String)
    (payload : Option String) :
    Raised respond table callId w (raiseCall h run (.call kind callId operation payload) w).1
      (raiseCall h run (.call kind callId operation payload) w).2 := by
  let event : RunEvent := .call kind callId operation payload
  let order : CallOrder := { runId := run, callId, operation, payload }
  by_cases reached : Engine.covers w.hub.engine.closedEvents run = true
  · have refused : raiseCall h run event w =
        (.error (.of (.unreachable ("Workflow " ++ run ++ " is unreachable"))), w) := by
      refine bind_apply_of_error (x := onEngine (Engine.raise run event)) ?_ _
      simp only [onEngine, bind, hub, Engine.raise, reached, if_true]
      rfl
    rw [refused]
    exact .refused _ rfl
  · let w' : World κ α β ω := { w with hub := { w.hub with
      engine := { w.hub.engine with record := w.hub.engine.record ++ [.raised run event none] } } }
    have raised : onEngine (Engine.raise run event) w = (.ok (), w') := by
      simp only [onEngine, bind, hub, Engine.raise, reached]
      rfl
    have raises : raiseCall h run event w = _ := bind_apply_of_ok raised _
    rw [raises, CallOrder.ofEvent_call]
    dsimp only
    rw [attempt_bind_apply, onThread_apply]
    cases found : (w.hub.exchange.table table).call? callId with
    | none =>
      have missed : executeCall h order { w' with context := {} } = _ := executeCall_of_noCall live found h
      rw [missed]
      exact .missed found rfl rfl
    | some p =>
      obtain ⟨report, w'', executes, host, exchange⟩ :
          ∃ report w'', executeCall h order { w' with context := {} } = (report, w'') ∧ _ :=
        executeCall_of_pending localized live found
      rw [executes]
      exact .executed p found host exchange

/-! ## Routed calls -/

/-- The id that the next call gets. -/
def nextCall (w : World κ α β ω) : String := "call-" ++ toString (w.hub.callsDrawn + 1)

/-- The world once a call has been registered. -/
def registering (table : Nat) (c : RoutedCall κ) (w : World κ α β ω) : World κ α β ω :=
  { w with hub := { w.hub with
    callsDrawn := w.hub.callsDrawn + 1
    exchange := w.hub.exchange.registered table (nextCall w) c.call } }

/-- The event that orders the next call. -/
def ordering (c : RoutedCall κ) (w : World κ α β ω) : RunEvent :=
  .call c.kind (nextCall w) c.operation c.payload

/-- A call whose id is pending already is refused. -/
theorem rendezvous_of_pending {w : World κ α β ω} {table : Nat} {p : Pending κ} (run : String)
    (c : RoutedCall κ) (pending : (w.hub.exchange.table table).call? (nextCall w) = some p) :
    rendezvous h run table c w =
      (.error (.of (.badValue ("Call id " ++ nextCall w ++ " is already pending in run "
        ++ (w.hub.exchange.table table).runId))),
        { w with hub := { w.hub with callsDrawn := w.hub.callsDrawn + 1 } }) := by
  have drawn : drawCall w = (.ok (nextCall w),
    { w with hub := { w.hub with callsDrawn := w.hub.callsDrawn + 1 } }) := rfl
  refine (bind_apply_of_ok drawn _).trans ((bind_apply_of_ok (x := hub) rfl _).trans ?_)
  dsimp only
  rw [Exchange.register_of_known pending c.call]
  rfl

/-- Otherwise it is registered, and its slot is awaited once its event has been raised. -/
theorem rendezvous_of_fresh {w : World κ α β ω} {table : Nat} (run : String) (c : RoutedCall κ)
    (fresh : (w.hub.exchange.table table).call? (nextCall w) = none) :
    rendezvous h run table c w = (do
      match ← attempt (raiseCall h run (ordering c w)) with
      | .ok () => await w.hub.exchange.slots.length
      | .error f =>
        let _ ← onExchange fun e => e.settle table (nextCall w) (.error f)
        throw f : Act κ α β ω α) (registering table c w) := by
  have drawn : drawCall w = (.ok (nextCall w),
    { w with hub := { w.hub with callsDrawn := w.hub.callsDrawn + 1 } }) := rfl
  refine (bind_apply_of_ok drawn _).trans ((bind_apply_of_ok (x := hub) rfl _).trans ?_)
  dsimp only
  rw [Exchange.register_of_fresh fresh c.call]
  exact (bind_apply_of_ok (x := ofResult _) rfl _).trans (bind_apply_of_ok (x := changeHub _) rfl _)

theorem await_apply (slot : Nat) (w : World κ α β ω) :
    await slot w = (((w.hub.exchange.slot slot).outcome?).getD (.error (.of .blocked)), w) := by
  show ofSlot (w.hub.exchange.slot slot) w = _
  unfold ofSlot
  cases (w.hub.exchange.slot slot).outcome? with
  | none => rfl
  | some outcome => rfl

/-- What has become of a new call is the call itself, with its slot. -/
theorem pending_of_registering {table : Nat} {c : RoutedCall κ} {w : World κ α β ω} {p : Pending κ}
    (found : ((registering table c w).hub.exchange.table table).call? (nextCall w) = some p) :
    table < w.hub.exchange.tables.length ∧ p = ⟨c.call, w.hub.exchange.slots.length⟩ := by
  have there : table < w.hub.exchange.tables.length := by
    refine Nat.lt_of_not_le fun out => ?_
    have none : (registering table c w).hub.exchange.table table = { runId := "" } := by
      simp [registering, Exchange.registered, Exchange.table, out]
    rw [none] at found
    cases found
  have registered := Exchange.call?_registered there (nextCall w) c.call
  exact ⟨there, Option.some.inj (found.symm.trans registered)⟩

/-- What is awaited in the new slot is the outcome of the call. -/
theorem rendezvous_came (localized : h.Local respond) {w : World κ α β ω} {run : String} {table : Nat}
    (live : w.hub.exchange.tableOf? run = some table) (c : RoutedCall κ) :
    Came respond c.call w.host (rendezvous h run table c w).1 (rendezvous h run table c w).2.host := by
  cases known : (w.hub.exchange.table table).call? (nextCall w) with
  | some p =>
    rw [rendezvous_of_pending run c known]
    exact .failed _
  | none =>
    have live' : (registering table c w).hub.exchange.tableOf? run = some table := live
    have raised := raiseCall_raised localized live' c.kind (nextCall w) c.operation c.payload
    rw [rendezvous_of_fresh run c known, attempt_bind_apply]
    rw [show RunEvent.call c.kind (nextCall w) c.operation c.payload = ordering c w from rfl] at raised
    rcases raises : raiseCall h run (ordering c w) (registering table c w) with ⟨r, w'⟩
    rw [raises] at raised
    cases raised with
    | refused e host =>
      have same : w'.host = w.host := host
      rw [← same]
      exact .failed e
    | missed missing host exchange =>
      have same : w'.host = w.host := host
      have empty : w'.hub.exchange.slot w.hub.exchange.slots.length = .pending := by
        rw [exchange]
        simp [registering, Exchange.registered, Exchange.slot]
      dsimp only
      rw [await_apply, empty, ← same]
      exact .failed _
    | executed p found host exchange =>
      obtain ⟨there, rfl⟩ := pending_of_registering found
      have assigned : w'.hub.exchange.slot w.hub.exchange.slots.length =
          .assigned (handedBack respond c.call w.host) := by
        rw [exchange]
        exact Exchange.slot_settle_registered there (nextCall w) c.call _
      dsimp only
      rw [await_apply, assigned, show w'.host = (respond true c.call w.host).2 from host]
      exact .performed true _ fun a => ok_of_handedBack

/-- A routed call is performed once, or fails without being performed. -/
theorem route_came (localized : h.Local respond) (c : RoutedCall κ) (w : World κ α β ω) :
    Came respond c.call w.host (route h c w).1 (route h c w).2.host := by
  have direct (w : World κ α β ω) : Came respond c.call w.host (h.perform c.call w).1
      (h.perform c.call w).2.host := by
    rw [localized]
    exact .performed w.context.guarded _ fun _ => id
  by_cases guard : w.context.guarded = true
  · rw [route_of_guarded guard]
    exact direct w
  · have reserved := Reserved.runOf c w
    rcases belongs : runOf c w with ⟨e | run?, w'⟩
    · rw [belongs] at reserved
      have fails : route h c w = (.error e, w') :=
        (bind_apply_of_ok (x := context) (w := w) rfl _).trans
          ((congrFun (if_neg guard) w).trans (bind_apply_of_error belongs _))
      rw [fails, show w'.host = w.host from reserved]
      exact .failed e
    · rw [belongs] at reserved
      rw [← show w'.host = w.host from reserved]
      cases run? with
      | none =>
        have goes : route h c w = h.perform c.call w' :=
          (bind_apply_of_ok (x := context) (w := w) rfl _).trans
            ((congrFun (if_neg guard) w).trans (bind_apply_of_ok belongs _))
        rw [goes]
        exact direct w'
      | some run =>
        cases live : w'.hub.exchange.tableOf? run with
        | none =>
          have goes : route h c w = h.perform c.call w' := by
            refine (bind_apply_of_ok (x := context) (w := w) rfl _).trans
              ((congrFun (if_neg guard) w).trans ((bind_apply_of_ok belongs _).trans ?_))
            refine (bind_apply_of_ok (x := hub) (w := w') rfl _).trans ?_
            rw [live]
          rw [goes]
          exact direct w'
        | some table =>
          have goes : route h c w = rendezvous h run table c w' := by
            refine (bind_apply_of_ok (x := context) (w := w) rfl _).trans
              ((congrFun (if_neg guard) w).trans ((bind_apply_of_ok belongs _).trans ?_))
            refine (bind_apply_of_ok (x := hub) (w := w') rfl _).trans ?_
            rw [live]
          rw [goes]
          exact rendezvous_came localized live c

end Act
end Rendezvous
