import Rendezvous.Proofs.Activation.Team
import Rendezvous.Proofs.Recording.Accounts
import Rendezvous.Proofs.Tables.Execution

/-!
# Runs whose workflow cannot be started

A run is registered before its workflow is started, and forgotten again if that fails.  Registering a run takes the
place of whatever has been registered under its id, and that does not come back when the run is forgotten: a start that
is refused takes its id off the registry (`Act.startRun_refused`).  So the registry is as before exactly if there has
been no live run of that id.  If there has been one, whoever waits for one of its calls waits for good, as the call
activity does not find the run any more (`Act.registry_of_refused`).
-/

namespace Rendezvous

set_option autoImplicit false

variable {κ α β ω : Type}

/-! ## The registry -/

namespace Exchange

variable {e : Exchange κ α} {id other : String} {n : Nat}

/-- The live runs in order, each with its table and the calls that are pending in it. -/
def registry (e : Exchange κ α) : Entries (Nat × CallTable κ) := e.live.map fun run => (run.1, run.2, e.table run.2)

/-- To begin a run and to forget it again is to forget it. -/
def replaced (id : String) (e : Exchange κ α) : Exchange κ α := (e.createRun id).dropRun id

theorem live_replaced : (e.replaced id).live = Entries.erase id e.live := Entries.erase_put ..

theorem table_replaced (inside : n < e.tables.length) : (e.replaced id).table n = e.table n := by
  simp [replaced, createRun, dropRun, table, List.getD_eq_getElem?_getD, List.getElem?_append_left inside]

theorem registry_replaced (sound : e.Sound) : (e.replaced id).registry = Entries.erase id e.registry := by
  have tables : ∀ run ∈ Entries.erase id e.live,
      (run.1, run.2, (e.replaced id).table run.2) = (run.1, run.2, e.table run.2) := fun run mem => by
    rw [table_replaced (sound.live run (Entries.mem_erase.mp mem).1)]
  rw [registry, live_replaced, List.map_congr_left tables, registry]
  exact (Entries.erase_map (fun n => (n, e.table n)) id e.live).symm

theorem get?_registry : Entries.get? id e.registry = (e.tableOf? id).map fun n => (n, e.table n) :=
  Entries.get?_map (fun n => (n, e.table n)) id e.live

end Exchange

/-! ## Starts that are refused -/

/-- The id of a run that is asked for. -/
def World.idFor (run : Option String) (w : World κ α β ω) : String :=
  (Text.given? run).getD (drawnRun (w.hub.runsDrawn + 1))

/-- How many ids of runs have been drawn once the run that is asked for has one. -/
def World.drawnFor (run : Option String) (w : World κ α β ω) : Nat :=
  if (Text.given? run).isSome then w.hub.runsDrawn else w.hub.runsDrawn + 1

/-- The world in which a start has been refused. -/
def World.refused (run : Option String) (w : World κ α β ω) : World κ α β ω :=
  { w with hub := { w.hub with
    runsDrawn := w.drawnFor run
    exchange := w.hub.exchange.replaced (w.idFor run) } }

/-- What the start of a run tells the engine. -/
def World.startFor (name : String) (userMessage systemMessage run : Option String) (w : World κ α β ω) : RunStart where
  runId := w.idFor run
  agentName := name
  userMessage := userMessage
  systemMessage := systemMessage

/-- The world in which a run has been registered and given an id, and its workflow has not been started yet. -/
def World.asked (run : Option String) (w : World κ α β ω) : World κ α β ω :=
  { w with hub := { w.hub with
    runsDrawn := w.drawnFor run
    exchange := w.hub.exchange.createRun (w.idFor run) } }

/-- The start of a run, whether its id is given or drawn. -/
theorem Act.startRun_asked (name : String) (userMessage systemMessage run : Option String) (w : World κ α β ω) :
    startRun name userMessage systemMessage run w =
      match w.hub.engine.start Names.runWorkflow (w.startFor name userMessage systemMessage run).toValue
        (w.idFor run) with
      | .ok e => (.ok (w.idFor run), Team.Place.onward e (w.asked run))
      | .error f => (.error f, w.refused run) := by
  have opens : startRun name userMessage systemMessage run w = openRun (w.idFor run) name userMessage systemMessage
      { w with hub := { w.hub with runsDrawn := w.drawnFor run } } := by
    rw [World.idFor, World.drawnFor, startRun]
    cases Text.given? run with
    | some id => rfl
    | none => rfl
  rw [opens]
  refine (bind_apply_of_ok (x := onExchange _) rfl _).trans ?_
  dsimp only
  rw [attempt_bind_apply, Team.Place.startWorkflow_apply]
  dsimp only [World.startFor]
  cases w.hub.engine.start Names.runWorkflow _ _ with
  | ok e => rfl
  | error f => rfl

/-- A start is refused because the engine takes no workflow of that id; then all that is left of it is that the id is
not registered. -/
theorem Act.startRun_refused {name : String} {userMessage systemMessage run : Option String} {w w' : World κ α β ω}
    {f : Failure} (refused : startRun name userMessage systemMessage run w = (.error f, w')) :
    w' = w.refused run ∧ Engine.covers w.hub.engine.closedStarts (w.idFor run) = true ∧
      f = .of (.unreachable ("Cannot start " ++ Names.runWorkflow ++ " " ++ w.idFor run)) := by
  rw [startRun_asked, Engine.start] at refused
  cases closed : Engine.covers w.hub.engine.closedStarts (w.idFor run) with
  | true =>
    rw [closed] at refused
    cases refused
    exact ⟨rfl, rfl, rfl⟩
  | false =>
    rw [closed] at refused
    cases refused

/-- What a refused start comes to, for the registry and for those who wait for calls. -/
structure TurnedDown (run : Option String) (w w' : World κ α β ω) : Prop where
  /-- The id is not registered, and all else is: the same runs in the same order, with the same tables and calls. -/
  registry : w'.hub.exchange.registry = Entries.erase (w.idFor run) w.hub.exchange.registry
  unchanged : w'.hub.exchange.registry = w.hub.exchange.registry ↔ w.hub.exchange.tableOf? (w.idFor run) = none
  slots : w'.hub.exchange.slots = w.hub.exchange.slots
  /-- Whatever call of the run is ordered, nobody completes it. -/
  lost : ∀ (h : Performer κ α β ω) o, o.runId = w.idFor run →
    Act.executeCall h o w' = (.error (Act.noRun o.runId w'.hub.exchange.runIds), w')
  /-- Calls of all other runs are found as before. -/
  kept : ∀ other t callId, other ≠ w.idFor run → w.hub.exchange.tableOf? other = some t →
    Act.findCall other callId w' = ((Act.findCall other callId w).1, w')

/-- A start that is refused leaves the registry as it was exactly if there was no run of its id; otherwise that run is
lost, with the calls that are pending in it. -/
theorem Act.registry_of_refused {name : String} {userMessage systemMessage run : Option String}
    {w w' : World κ α β ω} {f : Failure} (sound : w.hub.exchange.Sound)
    (refused : startRun name userMessage systemMessage run w = (.error f, w')) :
    f = .of (.unreachable ("Cannot start " ++ Names.runWorkflow ++ " " ++ w.idFor run)) ∧ TurnedDown run w w' := by
  obtain ⟨rfl, -, complaint⟩ := startRun_refused refused
  have registry : (w.refused run).hub.exchange.registry = Entries.erase (w.idFor run) w.hub.exchange.registry :=
    Exchange.registry_replaced sound
  refine ⟨complaint, registry, ?_, rfl, fun h o own => ?_, fun other t callId ne live => ?_⟩
  · rw [registry, Entries.erase_eq_self_iff, ← Entries.get?_eq_none_iff, Exchange.get?_registry, Option.map_eq_none_iff]
  · refine executeCall_of_noRun ?_ h
    rw [own]
    show Entries.get? _ (w.hub.exchange.replaced (w.idFor run)).live = none
    rw [Exchange.live_replaced, Entries.get?_erase_self]
  · have live' : (w.refused run).hub.exchange.tableOf? other = some t := by
      show Entries.get? other (w.hub.exchange.replaced (w.idFor run)).live = some t
      rw [Exchange.live_replaced, Entries.get?_erase_of_ne ne]
      exact live
    have same : (w.refused run).hub.exchange.table t = w.hub.exchange.table t :=
      Exchange.table_replaced (sound.inside live)
    simp only [findCall, bind, hub, live, live', same]
    cases (w.hub.exchange.table t).call? callId with
    | none => rfl
    | some p => rfl

namespace Reuse

/-- A run with a call that is pending, and an engine that takes no more workflows. -/
def desk : World String Nat Unit Unit where
  hub := {
    exchange := (({} : Exchange String Nat).createRun "run-7").registered 0 "a" "first"
    engine := { closedStarts := ["*"] } }
  host := ()

theorem sound_desk : desk.hub.exchange.Sound :=
  (Exchange.Arises.registered (.tail .refl (.createRun "run-7")) rfl "first").sound

/-- If the run is started once more under its id, it is gone; if another one is started, it stays. -/
theorem refused_desk :
    (∃ f w', Act.startRun "writer" none none (some "run-7") desk = (.error f, w') ∧ TurnedDown (some "run-7") desk w' ∧
      w'.hub.exchange.registry = []) ∧
    ∃ f w', Act.startRun "writer" none none none desk = (.error f, w') ∧ TurnedDown none desk w' ∧
      w'.hub.exchange.registry = desk.hub.exchange.registry := by
  have again : ∃ f w', Act.startRun "writer" none none (some "run-7") desk = (.error f, w') := ⟨_, _, rfl⟩
  have another : ∃ f w', Act.startRun "writer" none none none desk = (.error f, w') := ⟨_, _, rfl⟩
  obtain ⟨f, w', again⟩ := again
  obtain ⟨f', w'', another⟩ := another
  have lost := (Act.registry_of_refused sound_desk again).2
  have kept := (Act.registry_of_refused sound_desk another).2
  exact ⟨⟨f, w', again, lost, lost.registry⟩, ⟨f', w'', another, kept, kept.unchanged.mpr rfl⟩⟩

/-- A start that is refused may change the registry. -/
theorem not_forall_registry_unchanged :
    ¬ ∀ (w w' : World String Nat Unit Unit) (name : String) (userMessage systemMessage run : Option String)
        (f : Failure), w.hub.exchange.Sound →
      Act.startRun name userMessage systemMessage run w = (.error f, w') →
        w'.hub.exchange.registry = w.hub.exchange.registry := by
  intro unchanged
  have same := unchanged desk _ "writer" none none (some "run-7") _ sound_desk rfl
  exact absurd (congrArg Entries.keys same) (by decide)

end Reuse
end Rendezvous
