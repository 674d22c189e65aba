import Rendezvous.Proofs.Recording.Brackets
import Rendezvous.Proofs.Traffic.Calls

/-!
# What the hub does has an account

There is an account of whatever a program does on the hub (`Conduct.act_accounted`): of starting and finishing a run
(`Act.startRun_eq`, `Act.finishRun_eq`), of a routed call, also where the call activity performs it
(`Act.route_accounted`), and of a block (`Act.block_accounted`).  The deeds that the engine has taken are those that its
record has grown by (`Recorded`).

So the runs of every program are well bracketed (`Conduct.bracketed`).
-/

namespace Rendezvous

set_option autoImplicit false

variable {κ α β ω γ : Type} {methods : κ → Conduct κ α ω}

/-! ## The record of the engine -/

/-- What an entry of the engine's record tells. -/
def EngineEntry.told : EngineEntry → String × Doing
  | started _ _ id => (id, .scheduled true)
  | raised id event _ => (id, .raised event true)

/-- Whether the engine has taken something. -/
def Doing.taken : Doing → Bool
  | scheduled taken => taken
  | raised _ taken => taken
  | _ => false

/-- The deeds that are in the record of the engine. -/
def Deed.recorded (log : List Deed) : List (String × Doing) :=
  (log.filter (·.what.taken)).map fun d => (d.run, d.what)

/-- The record of the engine has grown by what the engine has taken. -/
def Recorded (w : World κ α β ω) (log : List Deed) (w' : World κ α β ω) : Prop :=
  w'.hub.engine.record.map EngineEntry.told = w.hub.engine.record.map EngineEntry.told ++ Deed.recorded log

namespace Recorded

variable {w w' w'' : World κ α β ω} {log later : List Deed}

theorem refl (w : World κ α β ω) : Recorded w [] w := (List.append_nil _).symm

theorem trans (first : Recorded w log w') (second : Recorded w' later w'') : Recorded w (log ++ later) w'' := by
  rw [Recorded, second, first, Deed.recorded, Deed.recorded, Deed.recorded, List.filter_append, List.map_append,
    List.append_assoc]

theorem deeper (recorded : Recorded w log w') : Recorded w (log.map Deed.deeper) w' := by
  rw [Recorded, recorded, Deed.recorded, Deed.recorded, List.filter_map, List.map_map]
  rfl

end Recorded

theorem map_modify {δ ε : Type} {f : δ → δ} {h : ε → ε} {g : δ → ε} (same : ∀ a, g (f a) = h (g a)) (n : Nat)
    (l : List δ) : (l.modify n f).map g = (l.map g).modify n h := by
  induction l generalizing n with
  | nil => simp
  | cons a l ih =>
    cases n with
    | zero => simp [same]
    | succ n => simp [ih]

theorem Engine.told_answer (position : Nat) (r : Result CallReport) (e : Engine) :
    (e.answer position r).record.map EngineEntry.told = e.record.map EngineEntry.told := by
  refine (map_modify (h := id) (fun entry => ?_) position e.record).trans (List.modify_id ..)
  cases entry <;> rfl

/-! ## Pieces -/

namespace Act

/-- Whatever an action does, there is an account of it. -/
def Accounted (methods : κ → Conduct κ α ω) (m : Matter κ α ω) (x : Act κ α β ω α) : Prop :=
  ∀ w, ∃ log, Account methods m w.footing log (x w).1 (x w).2.footing ∧ Recorded w log (x w).2

/-- A run that has been registered stays there if its workflow has been scheduled. -/
def keepStarted (id : String) : Result Unit → Act κ α β ω String
  | .ok () => pure id
  | .error f => do dropRun id; throw f

/-- Whoever has raised the event of a call waits for the call. -/
def awaitRaised (slot table : Nat) (callId : String) : Result Unit → Act κ α β ω α
  | .ok () => await slot
  | .error f => do
    let _ ← onExchange fun e => e.settle table callId (.error f)
    throw f

/-- A call of a run that may be there. -/
def throughTable (h : Performer κ α β ω) (c : RoutedCall κ) (run : String) : Option Nat → Act κ α β ω α
  | none => h.perform c.call
  | some table => rendezvous h run table c

/-- A call that may belong to a run. -/
def throughRun (h : Performer κ α β ω) (c : RoutedCall κ) : Option String → Act κ α β ω α
  | none => h.perform c.call
  | some run => do throughTable h c run ((← hub).exchange.tableOf? run)

/-- A request ends the run that it may have started. -/
def closeRequest : Option String → Act κ α β ω Unit
  | none => pure ()
  | some id => andFinally (finishRun id) (setRun none)

/-- A run with an id of its own is registered, and its workflow is scheduled or the run is forgotten again. -/
def openRun (id agentName : String) (userMessage systemMessage : Option String) : Act κ α β ω String := do
  onExchange fun e => ((), e.createRun id)
  let start : RunStart := { runId := id, agentName, userMessage, systemMessage }
  attempt (startWorkflow Names.runWorkflow start.toValue id) >>= keepStarted id

theorem openRun_eq (id agentName : String) (userMessage systemMessage : Option String) (w : World κ α β ω) :
    (∃ w', openRun id agentName userMessage systemMessage w = (.ok id, w') ∧ w'.footing = w.footing.register id ∧
      Recorded w [⟨id, .registered, 0⟩, ⟨id, .scheduled true, 0⟩] w') ∨
    ∃ f w', openRun id agentName userMessage systemMessage w = (.error f, w') ∧
      w'.footing = (w.footing.register id).forget id ∧
      Recorded w [⟨id, .registered, 0⟩, ⟨id, .scheduled false, 0⟩, ⟨id, .forgotten, 0⟩] w' := by
  let start : RunStart := { runId := id, agentName, userMessage, systemMessage }
  let registered : World κ α β ω := { w with hub := { w.hub with exchange := w.hub.exchange.createRun id } }
  have opens : openRun id agentName userMessage systemMessage w =
      (attempt (startWorkflow Names.runWorkflow start.toValue id) >>= keepStarted id) registered := rfl
  have live : registered.hub.exchange.runIds = (w.footing.register id).live := Entries.keys_put ..
  rw [opens, attempt_bind_apply]
  cases closed : Engine.covers w.hub.engine.closedStarts id with
  | false =>
    let started : World κ α β ω := { registered with hub := { registered.hub with engine := { w.hub.engine with
      record := w.hub.engine.record ++ [.started Names.runWorkflow start.toValue id] } } }
    have starts : startWorkflow Names.runWorkflow start.toValue id registered = (.ok (), started) := by
      simp only [startWorkflow, onEngine, bind, hub, Engine.start, registered, closed]
      rfl
    rw [starts]
    refine .inl ⟨started, rfl, ?_, List.map_append⟩
    rw [World.footing, live]
    rfl
  | true =>
    have fails : ∃ f, startWorkflow Names.runWorkflow start.toValue id registered = (.error f, registered) := by
      simp only [startWorkflow, onEngine, bind, hub, Engine.start, registered, closed]
      exact ⟨_, rfl⟩
    obtain ⟨f, fails⟩ := fails
    rw [fails]
    refine .inr ⟨f, _, rfl, ?_, (List.append_nil _).symm⟩
    have forgotten : (registered.hub.exchange.dropRun id).runIds = ((w.footing.register id).forget id).live :=
      (Entries.keys_erase id _).trans (congrArg (List.filter _) live)
    exact congrArg (fun live => { w.footing with live }) forgotten

/-- A run that is not given an id gets the one that is drawn next. -/
theorem startRun_eq (agentName : String) (userMessage systemMessage : Option String) (w : World κ α β ω) :
    (∃ w', startRun agentName userMessage systemMessage none w = (.ok w.footing.next, w') ∧
      w'.footing = w.footing.started ∧
      Recorded w [⟨w.footing.next, .registered, 0⟩, ⟨w.footing.next, .scheduled true, 0⟩] w') ∨
    ∃ f w', startRun agentName userMessage systemMessage none w = (.error f, w') ∧ w'.footing = w.footing.refused ∧
      Recorded w [⟨w.footing.next, .registered, 0⟩, ⟨w.footing.next, .scheduled false, 0⟩,
        ⟨w.footing.next, .forgotten, 0⟩] w' :=
  openRun_eq w.footing.next agentName userMessage systemMessage
    { w with hub := { w.hub with runsDrawn := w.hub.runsDrawn + 1 } }

/-- The event that ends a run is raised, and the run is forgotten whether or not the engine takes it. -/
theorem finishRun_eq (x : String) (w : World κ α β ω) : ∃ taken w' r, finishRun x w = (r, w') ∧
    w'.footing = w.footing.forget x ∧ Recorded w [⟨x, .raised .finish taken, 0⟩, ⟨x, .forgotten, 0⟩] w' := by
  have forgotten : (w.hub.exchange.dropRun x).runIds = (w.footing.forget x).live := Entries.keys_erase ..
  have opens : finishRun x w = (do
      let r ← attempt (onEngine (Engine.raise x .finish))
      dropRun x
      ofResult r) w := rfl
  rw [opens, attempt_bind_apply]
  cases closed : Engine.covers w.hub.engine.closedEvents x with
  | false =>
    let raised : World κ α β ω := { w with hub := { w.hub with
      engine := { w.hub.engine with record := w.hub.engine.record ++ [.raised x .finish none] } } }
    have raises : onEngine (Engine.raise x .finish) w = (.ok (), raised) := by
      simp only [onEngine, bind, hub, Engine.raise, closed]
      rfl
    rw [raises]
    refine ⟨true, _, _, rfl, ?_, List.map_append⟩
    exact congrArg (fun live => { w.footing with live }) forgotten
  | true =>
    have fails : ∃ f, onEngine (Engine.raise x .finish) w = (.error f, w) := by
      simp only [onEngine, bind, hub, Engine.raise, closed]
      exact ⟨_, rfl⟩
    obtain ⟨f, fails⟩ := fails
    rw [fails]
    refine ⟨false, _, _, rfl, ?_, (List.append_nil _).symm⟩
    exact congrArg (fun live => { w.footing with live }) forgotten

/-- The run of the request, as the hub has it. -/
theorem held_footing {w : World κ α β ω} {n : Nat} (inside : w.context.request = some n) :
    w.footing.held = (w.hub.requests.getD n {}).run := by
  have known : w.footing.held = (w.hub.requests.map (·.run)).getD n none := by
    simp [Footing.held, World.footing, inside]
  rw [known]
  cases there : w.hub.requests[n]? <;> simp [List.getD_eq_getElem?_getD, there]

theorem runOf_belongs (c : RoutedCall κ) (w : World κ α β ω) : ∃ log,
    Belongs w.footing log (runOf c w).1 (runOf c w).2.footing ∧ Recorded w log (runOf c w).2 := by
  cases bound : w.context.run with
  | some x =>
    have opens : runOf c w = (.ok (some x), w) := by simp [runOf, bind, context, bound]
    rw [opens]
    exact ⟨[], .bound bound, .refl w⟩
  | none =>
    cases inside : w.context.request with
    | none =>
      have opens : runOf c w = (.ok none, w) := by simp [runOf, activate, bind, context, bound, inside]
      rw [opens]
      exact ⟨[], .nowhere bound inside, .refl w⟩
    | some n =>
      have held := held_footing inside
      cases known : (w.hub.requests.getD n {}).run with
      | some x =>
        have opens : runOf c w = (.ok (some x), { w with context := { w.context with run := some x } }) := by
          simp only [runOf, activate, bind, context, bound, inside, request, hub, pure, ofResult, known, setRun,
            changeContext, change]
        rw [opens]
        exact ⟨[], .held bound (held.trans known), .refl w⟩
      | none =>
        let name := Text.orElse none (Text.orElse (w.hub.requests.getD n {}).agentName defaultAgentName)
        have opens : runOf c w = (do
            let id ← startRun name c.userMessage c.systemMessage
            changeHub fun h => { h with requests := h.requests.modify n fun q => { q with run := some id } }
            setRun (some id)
            return some id) w := by
          simp only [runOf, activate, bind, context, bound, inside, request, hub, pure, ofResult, known]
          rfl
        have first := held.trans known
        rcases startRun_eq name c.userMessage c.systemMessage w with
          ⟨w', starts, footing, recorded⟩ | ⟨f, w', fails, footing, recorded⟩
        · rw [opens, bind_apply_of_ok starts]
          refine ⟨_, ?_, recorded⟩
          have opened : (w'.hub.requests.modify n fun q => { q with run := some w.footing.next }).map (·.run) =
              w.footing.opened.modify n fun _ => some w.footing.next := by
            refine (map_modify (g := Request.run) (h := fun _ => some w.footing.next) (fun _ => rfl) n _).trans ?_
            exact congrArg (fun s => s.opened.modify n fun _ => some w.footing.next) footing
          have belongs := Belongs.started (s := w.footing) bound inside first
          rw [← footing, ← opened] at belongs
          exact belongs
        · rw [opens, bind_apply_of_error fails]
          refine ⟨_, ?_, recorded⟩
          rw [footing]
          exact .refused bound inside first f

theorem runIds_settle (n : Nat) (callId : String) (outcome : Result α) (e : Exchange κ α) :
    (e.settle n callId outcome).2.runIds = e.runIds := by
  unfold Exchange.settle
  split <;> rfl

/-- The call activity performs the call that it finds. -/
theorem executeCall_account {h : Performer κ α β ω} {c : Asking κ}
    (performs : Accounted methods (.perform c.call) (h.perform c.call)) {o : CallOrder} {w : World κ α β ω}
    {t slot : Nat} (live : w.hub.exchange.tableOf? o.runId = some t)
    (found : (w.hub.exchange.table t).call? o.callId = some ⟨c.call, slot⟩) :
    ∃ log out after, Account methods (.perform c.call) w.footing.activity log out after ∧
      Recorded w log (executeCall h o { w with context := {} }).2 ∧
      w.footing.back (executeCall h o { w with context := {} }).2.footing = w.footing.back after := by
  let v : World κ α β ω := { w with context := {} }
  obtain ⟨log, account, recorded⟩ := performs (v.executing o)
  let left := (h.perform c.call (v.executing o)).2
  let outcome := (h.perform c.call (v.executing o)).1.mapError Failure.rootCause
  refine ⟨log, _, _, account, ?_⟩
  have applied : executeCall h o v = _ := executeCall_apply live found rfl
  rw [applied]
  exact ⟨recorded, congrArg (fun live => w.footing.back { left.footing with live })
    (runIds_settle t o.callId outcome left.hub.exchange)⟩

/-- A call that has been registered is executed if its event is taken, and the call activity finds it. -/
theorem raiseCall_account {h : Performer κ α β ω} {c : Asking κ}
    (performs : Accounted methods (.perform c.call) (h.perform c.call)) {w : World κ α β ω} {run callId : String}
    {t : Nat} {e : Exchange κ α} (live : w.hub.exchange.tableOf? run = some t)
    (registered : w.hub.exchange = e.registered t callId c.call) :
    let event : RunEvent := .call c.kind callId c.operation c.payload
    (∃ f, raiseCall h run event w = (.error f, w)) ∨
    ∃ w', raiseCall h run event w = (.ok (), w') ∧
      (w'.footing = w.footing ∧ Recorded w [⟨run, .raised event true, 0⟩] w' ∨
        ∃ log out after, Account methods (.perform c.call) w.footing.activity log out after ∧
          w'.footing = w.footing.back after ∧
          Recorded w (⟨run, .raised event true, 0⟩ :: log.map Deed.deeper) w') := by
  intro event
  cases closed : Engine.covers w.hub.engine.closedEvents run with
  | true =>
    left
    simp only [raiseCall, onEngine, bind, hub, Engine.raise, closed]
    exact ⟨_, rfl⟩
  | false =>
    right
    let raised : World κ α β ω := { w with hub := { w.hub with
      engine := { w.hub.engine with record := w.hub.engine.record ++ [.raised run event none] } } }
    let order : CallOrder := { runId := run, callId, operation := c.operation, payload := c.payload }
    have raises : onEngine (Engine.raise run event) w = (.ok (), raised) := by
      simp only [onEngine, bind, hub, Engine.raise, closed]
      rfl
    have first : Recorded w [⟨run, .raised event true, 0⟩] raised := List.map_append
    let executed := executeCall h order { raised with context := {} }
    let answered : World κ α β ω := { executed.2 with
      context := w.context
      hub := { executed.2.hub with
        engine := executed.2.hub.engine.answer w.hub.engine.record.length executed.1 } }
    have opens : raiseCall h run event w = (.ok (), answered) := by
      refine (bind_apply_of_ok raises _).trans ?_
      rw [CallOrder.ofEvent_call]
      rfl
    refine ⟨answered, opens, ?_⟩
    have same {log : List Deed} (recorded : Recorded raised log executed.2) : Recorded raised log answered :=
      (Engine.told_answer ..).trans recorded
    by_cases there : t < e.tables.length
    · have found := Exchange.call?_registered there callId c.call
      rw [← registered] at found
      obtain ⟨log, out, after, account, recorded, back⟩ :=
        executeCall_account performs (o := order) (w := raised) live found
      exact .inr ⟨log, out, after, account, back, first.trans (same recorded).deeper⟩
    · have beyond : (w.hub.exchange.table t).call? callId = none := by
        rw [registered]
        simp [Exchange.table, Exchange.registered, List.getD_eq_getElem?_getD, there, CallTable.call?, Entries.get?]
      have missed : executed = (.error (noCall run callId), { raised with context := {} }) :=
        executeCall_of_noCall live beyond h
      refine .inl ⟨?_, first.trans (same ?_)⟩
      · show World.footing { executed.2 with context := w.context } = _
        rw [missed]
        rfl
      · rw [missed]
        exact .refl _

/-- Waiting changes nothing. -/
theorem world_await (slot : Nat) (w : World κ α β ω) : (await slot w).2 = w := by
  show (ofSlot (w.hub.exchange.slot slot) w).2 = w
  cases w.hub.exchange.slot slot <;> rfl

theorem rendezvous_account {h : Performer κ α β ω} {c : Asking κ}
    (performs : Accounted methods (.perform c.call) (h.perform c.call)) {w w' : World κ α β ω} {run : String} {t : Nat}
    {log : List Deed} (guard : w.footing.guarded = false)
    (belongs : Belongs w.footing log (.ok (some run)) w'.footing) (recorded : Recorded w log w')
    (live : w'.hub.exchange.tableOf? run = some t) :
    ∃ log, Account methods (.call c) w.footing log (rendezvous h run t c.toRoutedCall w').1
      (rendezvous h run t c.toRoutedCall w').2.footing ∧ Recorded w log (rendezvous h run t c.toRoutedCall w').2 := by
  have there : run ∈ w'.footing.live := by
    refine (Entries.has_iff_mem_keys run w'.hub.exchange.live).mp ?_
    rw [Entries.has, show Entries.get? run w'.hub.exchange.live = some t from live]
    rfl
  let callId := "call-" ++ toString (w'.hub.callsDrawn + 1)
  let drawn : World κ α β ω := { w' with hub := { w'.hub with callsDrawn := w'.hub.callsDrawn + 1 } }
  have draws : drawCall w' = (.ok callId, drawn) := rfl
  cases done : w'.hub.exchange.register t callId c.call with
  | error f =>
    have fails : rendezvous h run t c.toRoutedCall w' = (.error f, drawn) := by
      refine (bind_apply_of_ok draws _).trans ((bind_apply_of_ok (x := hub) rfl _).trans ?_)
      dsimp only
      rw [done]
      rfl
    rw [fails]
    exact ⟨log, .unregistered guard belongs there f, recorded⟩
  | ok made =>
    obtain ⟨slot, e⟩ := made
    let registered : World κ α β ω := { drawn with hub := { drawn.hub with exchange := e } }
    let event : RunEvent := .call c.kind callId c.operation c.payload
    have opens : rendezvous h run t c.toRoutedCall w' =
        (attempt (raiseCall h run event) >>= awaitRaised slot t callId) registered := by
      refine (bind_apply_of_ok draws _).trans ((bind_apply_of_ok (x := hub) rfl _).trans ?_)
      dsimp only
      rw [done]
      rfl
    have same : e = w'.hub.exchange.registered t callId c.call := (Exchange.of_register done).2
    have still : registered.footing = w'.footing := by
      show World.footing { drawn with hub := { drawn.hub with exchange := e } } = _
      rw [same]
      rfl
    have live' : registered.hub.exchange.tableOf? run = some t := by
      show e.tableOf? run = some t
      rw [same]
      exact live
    rw [opens, attempt_bind_apply]
    rcases raiseCall_account performs live' same with ⟨f, fails⟩ | ⟨w'', raises, outcome⟩
    · rw [fails]
      let settled : World κ α β ω := { registered with hub := { registered.hub with
        exchange := (registered.hub.exchange.settle t callId (.error f)).2 } }
      have still' : settled.footing = w'.footing :=
        (congrArg (fun live => { registered.footing with live }) (runIds_settle ..)).trans still
      have refused : Recorded w' [⟨run, .raised event false, 0⟩] settled := (List.append_nil _).symm
      have account : Account methods (.call c) w.footing _ _ _ := .unreached guard belongs there callId f
      rw [← still'] at account
      exact ⟨_, account, recorded.trans refused⟩
    · rw [raises]
      show ∃ log, Account methods (.call c) w.footing log (await slot w'').1 (await slot w'').2.footing ∧
        Recorded w log (await slot w'').2
      rw [world_await]
      rcases outcome with ⟨footing, taken⟩ | ⟨later, out, after, account, footing, taken⟩
      · have account : Account methods (.call c) w.footing _ _ _ :=
          .unexecuted guard belongs there callId (await slot w'').1
        rw [← still, ← footing] at account
        exact ⟨_, account, recorded.trans taken⟩
      · rw [still] at account footing
        have account := Account.executed guard belongs there callId account (await slot w'').1
        rw [← footing] at account
        exact ⟨_, account, recorded.trans taken⟩

/-- Of every routed call there is an account. -/
theorem route_accounted {h : Performer κ α β ω} (performs : ∀ k, Accounted methods (.perform k) (h.perform k))
    (c : Asking κ) : Accounted methods (.call c) (route h c.toRoutedCall) := by
  intro w
  cases guard : w.context.guarded with
  | true =>
    obtain ⟨log, account, recorded⟩ := performs c.call w
    rw [route_of_guarded guard]
    exact ⟨log, .guarded guard account, recorded⟩
  | false =>
    obtain ⟨log, belongs, recorded⟩ := runOf_belongs c.toRoutedCall w
    have opens : route h c.toRoutedCall w =
        (runOf c.toRoutedCall >>= throughRun h c.toRoutedCall) w := by
      have decides : route h c.toRoutedCall w = (if w.context.guarded then h.perform c.call else _) w := rfl
      rw [decides, guard]
      rfl
    rw [opens]
    rcases runs : runOf c.toRoutedCall w with ⟨_ | run, w'⟩
    · rw [runs] at belongs recorded
      rw [bind_apply_of_error runs]
      exact ⟨log, .failed guard belongs, recorded⟩
    · rw [runs] at belongs recorded
      rw [bind_apply_of_ok runs]
      cases run with
      | none =>
        obtain ⟨later, account, recorded'⟩ := performs c.call w'
        exact ⟨log ++ later, .onSpot guard belongs (fun x mem => absurd mem (Option.not_mem_none x)) account,
          recorded.trans recorded'⟩
      | some run =>
        rw [throughRun, bind_apply_of_ok (x := hub) rfl]
        cases live : w'.hub.exchange.tableOf? run with
        | none =>
          obtain ⟨later, account, recorded'⟩ := performs c.call w'
          have gone : run ∉ w'.footing.live := (Entries.get?_eq_none_iff run w'.hub.exchange.live).mp live
          refine ⟨log ++ later, .onSpot guard belongs (fun x mem => ?_) account, recorded.trans recorded'⟩
          exact Option.mem_some_iff.mp mem ▸ gone
        | some table => exact rendezvous_account (performs c.call) guard belongs recorded live

/-- So there is of every block around something of which there is one. -/
theorem block_accounted {body : Conduct κ α ω} {x : Act κ α β ω α} (inner : Accounted methods (.conduct body) x)
    (b : Block) : Accounted methods (.block b body) (b.around x) := by
  intro w
  cases b with
  | plain =>
    obtain ⟨log, account, recorded⟩ := inner w
    exact ⟨log, .plain account, recorded⟩
  | request agentName =>
    let n := w.hub.requests.length
    let entered : World κ α β ω := { w with
      context := { w.context with request := some n }
      hub := { w.hub with requests := w.hub.requests ++ [{ agentName }] } }
    let left : World κ α β ω := { (x entered).2 with
      context := { (x entered).2.context with request := w.context.request } }
    have opens : (Block.request agentName).around x w =
        (closeRequest (left.hub.requests.getD n {}).run >>= fun _ => ofResult (x entered).1) left := by
      show (request n >>= fun q => _) left = _
      rw [bind_apply_of_ok (x := request n) rfl]
      cases (left.hub.requests.getD n {}).run <;> rfl
    have serves : entered.footing =
        { w.footing with request := some w.footing.opened.length, opened := w.footing.opened ++ [none] } := by
      simp [World.footing, entered, n]
    obtain ⟨log, account, recorded⟩ := inner entered
    rw [serves] at account
    have known : (x entered).2.footing.opened.getD w.footing.opened.length none =
        (left.hub.requests.getD n {}).run := by
      have same : w.footing.opened.length = n := List.length_map ..
      rw [same]
      cases there : (x entered).2.hub.requests[n]? <;>
        simp [World.footing, left, List.getD_eq_getElem?_getD, there]
    rw [opens]
    cases run : (left.hub.requests.getD n {}).run with
    | none => exact ⟨log, .idle account (known.trans run), recorded⟩
    | some run' =>
      obtain ⟨taken, w', r, finishes, footing, ended⟩ := finishRun_eq run' left
      let freed : World κ α β ω := { w' with context := { w'.context with run := none } }
      have freed_footing : freed.footing = Footing.forget run' { left.footing with run := none } :=
        congrArg (fun s : Footing => { s with run := none }) footing
      have closes : andFinally (finishRun run') (setRun none) left = (r, freed) := by
        show ((setRun none >>= fun _ => ofResult (finishRun run' left).1) (finishRun run' left).2 : Result Unit × _) = _
        rw [finishes]
        rfl
      have ends (out : Result α) : Account methods (.block (.request agentName) body) w.footing _ out _ :=
        .served account (known.trans run) taken out
      rw [bind_apply, closeRequest, closes]
      cases r with
      | ok => exact ⟨_, freed_footing ▸ ends (x entered).1, recorded.trans ended⟩
      | error f => exact ⟨_, freed_footing ▸ ends (.error f), recorded.trans ended⟩
  | tracked agentName userMessage systemMessage =>
    cases bound : w.context.run with
    | some run =>
      obtain ⟨log, account, recorded⟩ := inner w
      rw [Block.around, tracked_of_bound bound]
      exact ⟨log, .joined bound account, recorded⟩
    | none =>
      have opens : (Block.tracked agentName userMessage systemMessage).around x w = (do
          let id ← startRun agentName userMessage systemMessage
          andFinally (bindRun (some id) x) (finishRun id)) w := by
        simp [Block.around, tracked, bind, context, bound]
      rw [opens]
      rcases startRun_eq agentName userMessage systemMessage w with
        ⟨w', starts, footing, recorded⟩ | ⟨f, w', fails, footing, recorded⟩
      · let id := w.footing.next
        let entered : World κ α β ω := { w' with context := { w'.context with run := some id } }
        let left : World κ α β ω := { (x entered).2 with
          context := { (x entered).2.context with run := w'.context.run } }
        have binds : bindRun (some id) x w' = ((x entered).1, left) := rfl
        obtain ⟨log, account, recorded'⟩ := inner entered
        have entered_footing : entered.footing = { w.footing.started with run := some id } :=
          congrArg (fun s : Footing => { s with run := some id }) footing
        rw [entered_footing] at account
        have free : w'.context.run = none := (congrArg Footing.run footing).trans bound
        obtain ⟨taken, w'', r, finishes, left_footing, ended⟩ := finishRun_eq id left
        have closes : andFinally (bindRun (some id) x) (finishRun id) w' =
            (finishRun id >>= fun _ => ofResult (x entered).1) left := rfl
        have ends (out : Result α) : Account methods (.block (.tracked agentName userMessage systemMessage) body)
            w.footing _ out _ := .tracked bound account taken out
        have last : w''.footing = Footing.forget id { (x entered).2.footing with run := none } := by
          rw [left_footing]
          exact congrArg (fun run => Footing.forget id { (x entered).2.footing with run }) free
        rw [← last] at ends
        have told := (recorded.trans recorded').trans ended
        rw [bind_apply_of_ok starts, closes, bind_apply, finishes]
        cases r with
        | ok => exact ⟨_, ends (x entered).1, told⟩
        | error f => exact ⟨_, ends (.error f), told⟩
      · rw [bind_apply_of_error fails]
        refine ⟨_, ?_, recorded⟩
        rw [footing]
        exact .untracked bound f

end Act

/-! ## Whole programs -/

namespace Conduct

open Act

/-- A program whose calls have accounts has one. -/
theorem act_accounted {h : Performer κ α β ω} (performs : ∀ k, Accounted methods (.perform k) (h.perform k))
    (p : Conduct κ α ω) : Accounted methods (.conduct p) (p.act h) := by
  induction p with
  | done r => exact fun w => ⟨[], .done r w.footing, .refl w⟩
  | touch write next ih =>
    intro w
    obtain ⟨log, account, recorded⟩ := ih w.host { w with host := write w.host }
    exact ⟨log, .touch w.host account, recorded⟩
  | close starts events next ih =>
    intro w
    obtain ⟨log, account, recorded⟩ := ih { w with hub := { w.hub with
      engine := { w.hub.engine with closedStarts := starts, closedEvents := events } } }
    exact ⟨log, .close account, recorded⟩
  | call c next ih =>
    intro w
    obtain ⟨log, made, recorded⟩ := route_accounted performs c w
    obtain ⟨later, rest, recorded'⟩ := ih _ (route h c.toRoutedCall w).2
    exact ⟨log ++ later, .call made rest, recorded.trans recorded'⟩
  | block b body next ihBody ih =>
    intro w
    obtain ⟨log, opened, recorded⟩ := block_accounted ihBody b w
    obtain ⟨later, rest, recorded'⟩ := ih _ (b.around (body.act h) w).2
    exact ⟨log ++ later, .block opened rest, recorded.trans recorded'⟩

theorem performer_accounted (methods : κ → Conduct κ α ω) (text : α → Option String) (depth : Nat) (k : κ) :
    Accounted methods (.perform k) ((performer (β := β) methods text depth).perform k) := by
  induction depth generalizing k with
  | zero => exact fun w => ⟨[], .tooDeep k w.footing, .refl w⟩
  | succ depth ih =>
    intro w
    obtain ⟨log, account, recorded⟩ := act_accounted ih (methods k) w
    exact ⟨log, .perform account, recorded⟩

variable {text : α → Option String} {depth : Nat} {p : Conduct κ α ω} {w : World κ α β ω}

end Conduct
end Rendezvous
