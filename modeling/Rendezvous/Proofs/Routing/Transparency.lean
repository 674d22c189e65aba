import Rendezvous.Proofs.Routing.Method

/-!
# Routing cannot be told from plain calls

A call that is guarded, or belongs to no run and no request, is executed where it is made, and so is
everything that it calls (`Body.act_of_direct`).  A call that belongs to a run is captured, looked up by the
call activity, and executed there as a guarded one (`Act.route_of_bound`).  Hence a program that belongs to a
run has the same outcome and leaves the same objects as it would without a router, except that the failures
of its own calls reach it without reports around them; and the engine is handed one event for each of its
own calls, and none for those inside them (`Body.act_transparent`).
-/

namespace Rendezvous

set_option autoImplicit false

/-! ## Calls on the exchange -/

namespace Exchange

variable {κ α : Type}

/-- The exchange once a call has been registered, with a new slot. -/
def registered (n : Nat) (callId : String) (call : κ) (e : Exchange κ α) : Exchange κ α :=
  { e with
    tables := e.tables.set n
      { e.table n with calls := Entries.put callId ⟨call, e.slots.length⟩ (e.table n).calls }
    slots := e.slots ++ [.pending] }

theorem register_of_fresh {n : Nat} {callId : String} {e : Exchange κ α}
    (fresh : (e.table n).call? callId = none) (call : κ) :
    e.register n callId call = .ok (e.slots.length, e.registered n callId call) := by
  have absent : Entries.has callId (e.table n).calls = false := by
    rw [Entries.has, ← CallTable.call?, fresh]
    rfl
  simp only [register, CallTable.add, absent, Bool.false_eq_true, if_false]
  rfl

/-- A call that is registered already is refused. -/
theorem register_of_known {n : Nat} {callId : String} {p : Pending κ} {e : Exchange κ α}
    (known : (e.table n).call? callId = some p) (call : κ) : e.register n callId call =
      .error (.of (.badValue ("Call id " ++ callId ++ " is already pending in run " ++ (e.table n).runId))) := by
  have there : Entries.has callId (e.table n).calls = true := by
    rw [Entries.has, ← CallTable.call?, known]
    rfl
  simp only [register, CallTable.add, there, if_true]
  rfl

theorem table_registered {n : Nat} {e : Exchange κ α} (there : n < e.tables.length) (callId : String)
    (call : κ) : (e.registered n callId call).table n =
      { e.table n with calls := Entries.put callId ⟨call, e.slots.length⟩ (e.table n).calls } := by
  simp [registered, table, there]

/-- A call that has been registered is found, with its slot. -/
theorem call?_registered {n : Nat} {e : Exchange κ α} (there : n < e.tables.length) (callId : String)
    (call : κ) : ((e.registered n callId call).table n).call? callId = some ⟨call, e.slots.length⟩ := by
  rw [table_registered there, CallTable.call?, Entries.get?_put_self]

theorem settle_of_call? {n : Nat} {callId : String} {p : Pending κ} {e : Exchange κ α}
    (found : (e.table n).call? callId = some p) (outcome : Result α) :
    (e.settle n callId outcome).2 = { e with
      tables := e.tables.modify n (CallTable.remove callId)
      slots := e.slots.modify p.slot (Slot.assign outcome) } := by
  rw [settle, found]
  rfl

/-- What is settled reaches the slot. -/
theorem slot_settle_registered {n : Nat} {e : Exchange κ α} (there : n < e.tables.length) (callId : String)
    (call : κ) (outcome : Result α) :
    ((e.registered n callId call).settle n callId outcome).2.slot e.slots.length = .assigned outcome := by
  rw [settle_of_call? (call?_registered there callId call)]
  simp [registered, slot, Slot.assign]

/-- What was not there before a call is not there after it. -/
theorem call?_settle_registered {n : Nat} {e : Exchange κ α} (there : n < e.tables.length) (callId : String)
    (call : κ) (outcome : Result α) {other : String} (fresh : (e.table n).call? other = none) :
    (((e.registered n callId call).settle n callId outcome).2.table n).call? other = none := by
  by_cases same : other = callId
  · rw [same]
    exact call?_settle n callId outcome _
  · have removed : (((e.registered n callId call).settle n callId outcome).2.table n) =
        CallTable.remove callId ((e.registered n callId call).table n) := by
      rw [settle_of_call? (call?_registered there callId call)]
      simp [registered, table, there]
    rw [removed, CallTable.remove, CallTable.call?, Entries.get?_erase_of_ne same, table_registered there,
      Entries.get?_put_of_ne same]
    exact fresh

end Exchange

variable {κ α β ω γ : Type}

/-! ## Calls that are executed where they are made -/

/-- The router leaves the calls of the thread alone. -/
def World.Direct (w : World κ α β ω) : Prop :=
  w.context.guarded = true ∨ w.context.run = none ∧ w.context.request = none

/-- On such a thread, nothing but the objects is touched, and they as the answers say. -/
def Performer.Faithful (h : Performer κ α β (Objects κ ω)) (answer : Answering κ α ω) : Prop :=
  ∀ (k : κ) (w : World κ α β (Objects κ ω)), w.Direct →
    h.perform k w = ((answer k w.host).1, { w with host := (answer k w.host).2 })

theorem Act.route_of_direct {w : World κ α β ω} (direct : w.Direct) (h : Performer κ α β ω)
    (c : RoutedCall κ) : route h c w = h.perform c.call w := by
  by_cases guard : w.context.guarded = true
  · exact route_of_guarded guard h c
  · obtain ⟨run, request⟩ : w.context.run = none ∧ w.context.request = none := direct.resolve_left guard
    simp [route, runOf, activate, context, bind, guard, run, request]

/-- A body whose calls are executed where they are made does what it means. -/
theorem Body.act_of_faithful {h : Performer κ α β (Objects κ ω)} {answer : Answering κ α ω}
    (faithful : h.Faithful answer) (p : Body κ α ω γ) {w : World κ α β (Objects κ ω)} (direct : w.Direct) :
    p.act h w = ((p.interpret answer w.host).1, { w with host := (p.interpret answer w.host).2 }) := by
  induction p generalizing w with
  | done r => rfl
  | touch write next ih =>
    have direct' : World.Direct { w with host := w.host.touch write } := direct
    exact ih w.host.state direct'
  | call c next ih =>
    have routed : Act.route h c w =
        ((answer c.call w.host).1, { w with host := (answer c.call w.host).2 }) := by
      rw [Act.route_of_direct direct, faithful c.call w direct]
    have direct' : World.Direct { w with host := (answer c.call w.host).2 } := direct
    rw [act, Act.attempt_bind_apply, routed, ih _ direct']
    rfl

/-- Methods that make their calls through the router are executed as plain ones, if the router leaves the
outermost call alone. -/
theorem faithful_performer (methods : κ → Body κ α ω α) (text : α → Option String) (depth : Nat) :
    (performer (β := β) methods text depth).Faithful (plainly methods depth) := by
  induction depth with
  | zero => exact fun k w _ => rfl
  | succ depth ih =>
    intro k w direct
    have direct' : World.Direct { w with host := w.host.note k } := direct
    exact (methods k).act_of_faithful ih direct'

/-! ## Calls that the call activity executes -/

/-- The world with another tracer, inside another span. -/
def World.traced (tracer : Tracer) (span : Option TraceContext) (w : World κ α β ω) : World κ α β ω :=
  { w with context := { w.context with span }, hub := { w.hub with tracer } }

/-- A span changes nothing but the tracer and the span that the thread is inside of. -/
theorem Act.inSpan_apply (name : String) (run : Option String) (metadata : Entries Value)
    (x : Option Nat → Act κ α β ω γ) (w : World κ α β ω) :
    inSpan name run metadata x w =
      let (observation, inside, tracer) := w.hub.tracer.openSpan name run metadata w.context.span
      let (r, w') := x observation (w.traced tracer inside)
      let reason : Option Reason := match r with
        | .ok _ => none
        | .error f => some f.reason
      (r, w'.traced (w'.hub.tracer.closeSpan observation reason) w.context.span) := by
  rfl

/-- What the call activity reports. -/
def CallOrder.report (text : α → Option String) (o : CallOrder) : Result α → Result CallReport
  | .ok a => .ok { operation := o.operation, payload := o.payload, resultText := text a }
  | .error f => .error (.because (.callExecution o.operation o.runId o.callId) f)

/-- What is noted of an order when its execution begins. -/
def CallOrder.metadata (o : CallOrder) : Entries Value :=
  [("call_id", .text o.callId), ("payload", .ofText? o.payload)]

/-- The observation of the execution of an order, the span, and the tracer. -/
def World.opened (o : CallOrder) (w : World κ α β ω) : Option Nat × Option TraceContext × Tracer :=
  w.hub.tracer.openSpan o.operation (some o.runId) o.metadata w.context.span

/-- The world in which an ordered call is performed: guarded, and inside the span of the order. -/
def World.executing (o : CallOrder) (w : World κ α β ω) : World κ α β ω where
  context := { w.context with guarded := true, span := (w.opened o).2.1 }
  hub := { w.hub with tracer := (w.opened o).2.2 }
  host := w.host

/-- What is noted of an order when its execution ends. -/
def CallOrder.note (text : α → Option String) (o : CallOrder) (observation : Option Nat) (r : Result α)
    (tracer : Tracer) : Tracer :=
  match r with
  | .ok a => (tracer.recordOutput observation (.ofText? (text a))).closeSpan observation none
  | .error _ => tracer.closeSpan observation (some (.callExecution o.operation o.runId o.callId))

/-- The world after an execution whose call has come to this and has left the world like that. -/
def World.executed (text : α → Option String) (o : CallOrder) (t : Nat) (r : Result α) (w left : World κ α β ω) :
    World κ α β ω where
  context := { left.context with guarded := w.context.guarded, span := w.context.span }
  hub := { left.hub with
    exchange := (left.hub.exchange.settle t o.callId (r.mapError Failure.rootCause)).2
    tracer := o.note text (w.opened o).1 r left.hub.tracer }
  host := left.host

/-- A guarded action differs by the guard alone, which is put back. -/
theorem Act.guarded_apply {γ : Type} (x : Act κ α β ω γ) (w : World κ α β ω) :
    guarded x w =
      let (r, left) := x { w with context := { w.context with guarded := true } }
      (r, { left with context := { left.context with guarded := w.context.guarded } }) := rfl

section

variable {h : Performer κ α β ω} {o : CallOrder} {w left : World κ α β ω} {t : Nat} {p : Pending κ} {r : Result α}

theorem Act.executeCall_of_noRun (gone : w.hub.exchange.tableOf? o.runId = none) (h : Performer κ α β ω) :
    executeCall h o w = (.error (noRun o.runId w.hub.exchange.runIds), w) := by
  have misses : findCall o.runId o.callId w = (.error (noRun o.runId w.hub.exchange.runIds), w) := by
    simp only [findCall, bind, hub, gone]
    rfl
  rw [executeCall, bind_apply_of_error misses]

theorem Act.executeCall_of_noCall (live : w.hub.exchange.tableOf? o.runId = some t)
    (gone : (w.hub.exchange.table t).call? o.callId = none) (h : Performer κ α β ω) :
    executeCall h o w = (.error (noCall o.runId o.callId), w) := by
  have misses : findCall o.runId o.callId w = (.error (noCall o.runId o.callId), w) := by
    simp only [findCall, bind, hub, live, gone]
    rfl
  rw [executeCall, bind_apply_of_error misses]

/-- What the call activity comes to, as a function of what performing the call comes to. -/
theorem Act.executeCall_apply (live : w.hub.exchange.tableOf? o.runId = some t)
    (found : (w.hub.exchange.table t).call? o.callId = some p)
    (performs : h.perform p.call (w.executing o) = (r, left)) :
    executeCall h o w = (o.report h.text (r.mapError Failure.rootCause), w.executed h.text o t r left) := by
  have finds : findCall o.runId o.callId w = (.ok (t, p), w) := by
    simp only [findCall, bind, hub, live, found]
    rfl
  have performed : guarded (h.perform p.call) (w.traced (w.opened o).2.2 (w.opened o).2.1) =
      (r, { left with context := { left.context with guarded := w.context.guarded } }) := by
    rw [guarded_apply]
    exact congrArg (fun x : Result α × World κ α β ω =>
      (x.1, { x.2 with context := { x.2.context with guarded := w.context.guarded } })) performs
  rw [executeCall, bind_apply_of_ok finds]
  dsimp only
  have opens : w.hub.tracer.openSpan o.operation (some o.runId)
      [("call_id", .text o.callId), ("payload", .ofText? o.payload)] w.context.span = w.opened o := rfl
  rw [inSpan_apply, opens, World.executed]
  generalize w.opened o = opened at performed ⊢
  obtain ⟨observation, inside, tracer⟩ := opened
  simp only [attempt_bind_apply, performed]
  cases r with
  | ok a => rfl
  | error f => rfl

end

/-- The call activity executes the call that it finds, settles it, and reports. -/
theorem Act.executeCall_of_found {h : Performer κ α β (Objects κ ω)} {answer : Answering κ α ω}
    (faithful : h.Faithful answer) {w : World κ α β (Objects κ ω)} {o : CallOrder} {t : Nat} {p : Pending κ}
    (live : w.hub.exchange.tableOf? o.runId = some t)
    (found : (w.hub.exchange.table t).call? o.callId = some p) :
    ∃ context tracer, executeCall h o w =
      (o.report h.text (unwrapped answer p.call w.host).1, {
        context
        hub := { w.hub with
          exchange := (w.hub.exchange.settle t o.callId (unwrapped answer p.call w.host).1).2, tracer }
        host := (answer p.call w.host).2 }) :=
  ⟨_, _, executeCall_apply live found (faithful p.call (w.executing o) (.inl rfl))⟩

/-! ## Calls that belong to a run -/

/-- What the engine keeps of a call: its event, and how the activity went. -/
def RoutedCall.entry (text : α → Option String) (run : String) (n : Nat) (c : RoutedCall κ) (r : Result α) :
    EngineEntry :=
  let callId := "call-" ++ toString n
  .raised run (.call c.kind callId c.operation c.payload)
    (some (CallOrder.report text { runId := run, callId, operation := c.operation, payload := c.payload } r))

theorem Engine.answer_raised (e : Engine) (id : String) (event : RunEvent) (r : Result CallReport) :
    Engine.answer e.record.length r { e with record := e.record ++ [.raised id event none] } =
      { e with record := e.record ++ [.raised id event (some r)] } := by
  simp [answer, List.modify_eq_take_drop]

theorem CallOrder.ofEvent_call (run callId operation : String) (kind : EventKind) (payload : Option String) :
    (CallOrder.ofEvent run (.call kind callId operation payload)).toResult =
      .ok { runId := run, callId, operation, payload } := by
  have written : CallOrder.ofEvent run (.call kind callId operation payload) =
      .ok { runId := run, callId, operation, payload } :=
    check_toValue { runId := run, callId, operation, payload }
  rw [written]
  rfl

theorem Act.onThread_apply (start : Context) (x : Act κ α β ω γ) (w : World κ α β ω) :
    onThread start x w = ((x { w with context := start }).1,
      { (x { w with context := start }).2 with context := w.context }) := rfl

/-- The event of a call that is pending has it executed. -/
theorem Act.raiseCall_of_found {h : Performer κ α β (Objects κ ω)} {answer : Answering κ α ω}
    (faithful : h.Faithful answer) {w : World κ α β (Objects κ ω)} {run : String} {table n slot : Nat}
    (reached : Engine.covers w.hub.engine.closedEvents run = false)
    (live : w.hub.exchange.tableOf? run = some table) (c : RoutedCall κ)
    (found : (w.hub.exchange.table table).call? ("call-" ++ toString n) = some ⟨c.call, slot⟩) :
    ∃ tracer, raiseCall h run (.call c.kind ("call-" ++ toString n) c.operation c.payload) w = (.ok (), {
      context := w.context
      hub := { w.hub with
        exchange := (w.hub.exchange.settle table ("call-" ++ toString n)
          (unwrapped answer c.call w.host).1).2
        engine := { w.hub.engine with
          record := w.hub.engine.record ++ [c.entry h.text run n (unwrapped answer c.call w.host).1] }
        tracer }
      host := (answer c.call w.host).2 }) := by
  let callId := "call-" ++ toString n
  let order : CallOrder := { runId := run, callId, operation := c.operation, payload := c.payload }
  let event : RunEvent := .call c.kind callId c.operation c.payload
  let w' : World κ α β (Objects κ ω) := { w with hub := { w.hub with
    engine := { w.hub.engine with record := w.hub.engine.record ++ [.raised run event none] } } }
  have raised : onEngine (Engine.raise run event) w = (.ok (), w') := by
    simp only [onEngine, bind, hub, Engine.raise, reached, Bool.false_eq_true, if_false]
    rfl
  have executed : ∃ context tracer, executeCall h order { w' with context := {} } = _ :=
    executeCall_of_found (h := h) faithful live found
  obtain ⟨context, tracer, executed⟩ := executed
  have answered := w.hub.engine.answer_raised run event
    (order.report h.text (unwrapped answer c.call w.host).1)
  refine ⟨tracer, (bind_apply_of_ok raised _).trans ?_⟩
  rw [CallOrder.ofEvent_call]
  dsimp only
  rw [attempt_bind_apply, onThread_apply, executed]
  simp only [changeHub, change]
  rw [answered]
  rfl

/-- The calls of the thread belong to a run that is there, and that events reach. -/
structure World.Bound (run : String) (table : Nat) (w : World κ α β ω) : Prop where
  unguarded : w.context.guarded = false
  belongs : w.context.run = some run
  live : w.hub.exchange.tableOf? run = some table
  there : table < w.hub.exchange.tables.length
  /-- Ids that have not been drawn yet are not in use. -/
  fresh : ∀ n, w.hub.callsDrawn < n → (w.hub.exchange.table table).call? ("call-" ++ toString n) = none
  reached : Engine.covers w.hub.engine.closedEvents run = false

theorem Act.route_of_live {w : World κ α β ω} {run : String} {table : Nat}
    (unguarded : w.context.guarded = false) (belongs : w.context.run = some run)
    (live : w.hub.exchange.tableOf? run = some table) (h : Performer κ α β ω) (c : RoutedCall κ) :
    route h c w = rendezvous h run table c w := by
  simp [route, runOf, context, hub, bind, unguarded, belongs, live]

/-- A call that belongs to a run has the outcome of the operation itself, and leaves one event. -/
theorem Act.route_of_bound {h : Performer κ α β (Objects κ ω)} {answer : Answering κ α ω}
    (faithful : h.Faithful answer) {w : World κ α β (Objects κ ω)} {run : String} {table : Nat}
    (bound : w.Bound run table) (c : RoutedCall κ) :
    ∃ w', route h c w = ((unwrapped answer c.call w.host).1, w') ∧
      w'.host = (answer c.call w.host).2 ∧ w'.context = w.context ∧ w'.Bound run table ∧
      w'.hub.callsDrawn = w.hub.callsDrawn + 1 ∧
      w'.hub.engine = { w.hub.engine with
        record := w.hub.engine.record ++
          [c.entry h.text run (w.hub.callsDrawn + 1) (unwrapped answer c.call w.host).1] } := by
  obtain ⟨unguarded, belongs, live, there, fresh, reached⟩ := bound
  let n := w.hub.callsDrawn + 1
  let callId := "call-" ++ toString n
  have absent : (w.hub.exchange.table table).call? callId = none := fresh n (Nat.lt_succ_self _)
  have registers := Exchange.register_of_fresh absent c.call
  let outcome := (unwrapped answer c.call w.host).1
  let w₁ : World κ α β (Objects κ ω) := { w with hub := { w.hub with
    callsDrawn := n, exchange := w.hub.exchange.registered table callId c.call } }
  have raises : ∃ tracer, raiseCall h run (.call c.kind callId c.operation c.payload) w₁ = _ :=
    raiseCall_of_found (w := w₁) faithful reached live c (Exchange.call?_registered there callId c.call)
  obtain ⟨tracer, raises⟩ := raises
  let w₂ : World κ α β (Objects κ ω) := { w₁ with
    hub := { w₁.hub with
      exchange := (w₁.hub.exchange.settle table callId outcome).2
      engine := { w.hub.engine with record := w.hub.engine.record ++ [c.entry h.text run n outcome] }
      tracer }
    host := (answer c.call w.host).2 }
  have waits : await w.hub.exchange.slots.length w₂ = (outcome, w₂) := by
    have assigned : w₂.hub.exchange.slot w.hub.exchange.slots.length = .assigned outcome :=
      Exchange.slot_settle_registered there callId c.call outcome
    show ofSlot (w₂.hub.exchange.slot w.hub.exchange.slots.length) w₂ = _
    rw [assigned]
    rfl
  have settled := Exchange.settle_of_call? (Exchange.call?_registered there callId c.call) outcome
  refine ⟨w₂, ?_, rfl, rfl, ⟨unguarded, belongs, ?_, ?_, ?_, reached⟩, rfl, rfl⟩
  · rw [route_of_live unguarded belongs live]
    have drawn : drawCall w = (.ok callId, { w with hub := { w.hub with callsDrawn := n } }) := rfl
    refine (bind_apply_of_ok drawn _).trans ((bind_apply_of_ok (x := hub) rfl _).trans ?_)
    dsimp only
    rw [registers]
    refine (bind_apply_of_ok (x := ofResult _) rfl _).trans ?_
    refine (bind_apply_of_ok (x := changeHub _) rfl _).trans ?_
    rw [attempt_bind_apply, raises]
    exact waits
  · show Exchange.tableOf? run (Exchange.settle table callId outcome w₁.hub.exchange).2 = _
    rw [settled]
    exact live
  · show _ < (Exchange.settle table callId outcome w₁.hub.exchange).2.tables.length
    rw [settled]
    simpa [Exchange.registered] using there
  · intro m later
    exact Exchange.call?_settle_registered there callId c.call outcome (fresh m (Nat.lt_of_succ_lt later))

/-! ## Whole programs -/

/-- What the engine keeps of calls, in order; so many ids have been drawn before. -/
def RoutedCall.entries (text : α → Option String) (run : String) :
    Nat → List (RoutedCall κ × Result α) → List EngineEntry
  | _, [] => []
  | n, (c, r) :: rest => c.entry text run (n + 1) r :: entries text run (n + 1) rest

/-- The output of a call activity, if there is one. -/
def EngineEntry.output? : EngineEntry → Option CallReport
  | .raised _ _ (some (.ok report)) => some report
  | _ => none

/-- The output that a call should have: only one that succeeds has one. -/
def RoutedCall.output? (text : α → Option String) : RoutedCall κ × Result α → Option CallReport
  | (c, .ok a) => some { operation := c.operation, payload := c.payload, resultText := text a }
  | (_, .error _) => none

theorem RoutedCall.filterMap_output?_entries (text : α → Option String) (run : String) (n : Nat)
    (calls : List (RoutedCall κ × Result α)) :
    (entries text run n calls).filterMap EngineEntry.output? = calls.filterMap (output? text) := by
  induction calls generalizing n with
  | nil => rfl
  | cons call rest ih =>
    obtain ⟨c, r⟩ := call
    have first : (c.entry text run (n + 1) r).output? = output? text (c, r) := by cases r <;> rfl
    rw [entries, List.filterMap_cons, List.filterMap_cons, first, ih]

/-- A body whose calls belong to a run does what it means if the failures of its own calls come without
reports around them. -/
theorem Body.act_of_bound {h : Performer κ α β (Objects κ ω)} {answer : Answering κ α ω}
    (faithful : h.Faithful answer) (p : Body κ α ω γ) {w : World κ α β (Objects κ ω)} {run : String}
    {table : Nat} (bound : w.Bound run table) :
    ∃ w', p.act h w = ((p.interpret (unwrapped answer) w.host).1, w') ∧
      w'.host = (p.interpret (unwrapped answer) w.host).2 ∧ w'.context = w.context ∧ w'.Bound run table ∧
      w'.hub.engine = { w.hub.engine with
        record := w.hub.engine.record ++
          RoutedCall.entries h.text run w.hub.callsDrawn (p.calls (unwrapped answer) w.host) } := by
  induction p generalizing w with
  | done r => exact ⟨w, rfl, rfl, rfl, bound, by simp [calls, RoutedCall.entries]⟩
  | touch write next ih =>
    have bound' : World.Bound run table { w with host := w.host.touch write } := by
      obtain ⟨unguarded, belongs, live, there, fresh, reached⟩ := bound
      exact ⟨unguarded, belongs, live, there, fresh, reached⟩
    exact ih w.host.state bound'
  | call c next ih =>
    obtain ⟨w₁, routed, host, context, bound', drawn, engine⟩ := Act.route_of_bound faithful bound c
    obtain ⟨w', acted, host', context', bound'', engine'⟩ := ih (unwrapped answer c.call w.host).1 bound'
    have same : w₁.host = (unwrapped answer c.call w.host).2 := host
    refine ⟨w', ?_, ?_, context'.trans context, bound'', ?_⟩
    · rw [act, Act.attempt_bind_apply, routed, acted, same]
      rfl
    · rw [host', same]
      rfl
    · rw [engine', engine, drawn, same]
      simp [calls, RoutedCall.entries]

namespace Visit

/-- A call of a method of a house. -/
def routed (enters : Bool) : RoutedCall Bool where
  kind := .toolCall
  call := enters
  operation := if enters then "enter" else "ring"
  payload := some "[]"

/-- Whoever enters rings first; the house is closed, which is reported as if somebody else had called. -/
def house : Bool → Body Bool Unit Nat Unit
  | false => .touch (· + 1) fun _ => .done (.ok ())
  | true => .call (routed false) fun _ =>
    .done (.error (.because (.callExecution "knock" "run-0" "call-0") (.of (.tool "closed"))))

/-- Enter; if that fails, ring once more and leave. -/
def visit : Body Bool Unit Nat Unit :=
  .call (routed true) fun
    | .ok () => .done (.ok ())
    | .error f => .call (routed false) fun _ => .done (.error f)

/-- A thread that belongs to a run. -/
def outside : World Bool Unit Unit (Objects Bool Nat) where
  context := { run := some "run-1" }
  hub := { exchange := ({} : Exchange Bool Unit).createRun "run-1" }
  host := { state := 0 }

end Visit
end Rendezvous
