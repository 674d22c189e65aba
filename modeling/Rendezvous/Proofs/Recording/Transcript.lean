import Rendezvous.Run.Workflow

/-!
# The transcript of a run is faithful

`RunWorkflow.signal` and its like let a workflow move on as soon as something has come to it.  Here what comes
and what the workflow does about it are steps of their own (`Course`): events arrive before the start, while a call
is executed and after the end, several of them may have come before the workflow looks, and the report on a call comes
whenever it likes.

Where a workflow stands is a matter of what has come to it (`Stand`).  So at any time the orders and the transcript
are those of the first events in the order in which they came, no event is lost or taken twice, and the run ends as
its events and reports say (`Ends`), and in no other way (`Course.faithful`).
-/

namespace Rendezvous

set_option autoImplicit false

/-! ## What events stand for -/

namespace RunEvent

/-- The order that an event stands for, if it names its call and its operation. -/
def order? (run : String) (e : RunEvent) : Option CallOrder :=
  match e.callId, e.operation with
  | some callId, some operation => some { runId := run, callId, operation, payload := e.payload }
  | _, _ => none

/-- The complaint about an event that does not name its call or its operation. -/
def incomplete (e : RunEvent) : Failure :=
  let complaint (field : String) (given : Option String) : List Problem :=
    if given.isSome then [] else [{ kind := .notText, path := [.name field] }]
  .of (.invalid (complaint "call_id" e.callId ++ complaint "operation_name" e.operation))

theorem toResult_ofEvent (run : String) (e : RunEvent) :
    (CallOrder.ofEvent run e).toResult =
      match e.order? run with
      | some o => .ok o
      | none => .error e.incomplete := by
  obtain ⟨kind, callId, operation, payload⟩ := e
  cases callId <;> cases operation <;> cases payload <;> rfl

end RunEvent

/-- The transcript of a run whose calls have been reported, each with the event that it comes from. -/
def RunStart.transcript (s : RunStart) (events : List RunEvent) (reports : List CallReport) : Transcript where
  runId := s.runId
  agentName := s.agentName
  calls := events.zipWith (fun e r => CallRecord.ofReport e.kind r) reports

/-- One record more. -/
theorem RunStart.transcript_concat {before : List RunEvent} {reports : List CallReport}
    (all : reports.length = before.length) (s : RunStart) (e : RunEvent) (r : CallReport) :
    s.transcript (before ++ [e]) (reports ++ [r]) =
      { s.transcript before reports with
        calls := (s.transcript before reports).calls ++ [CallRecord.ofReport e.kind r] } := by
  simp only [RunStart.transcript, List.zipWith_append all.symm, List.zipWith_cons_cons, List.zipWith_nil_left]

/-- Events of calls, and the orders that they stand for. -/
structure Called (run : String) (events : List RunEvent) (orders : List CallOrder) : Prop where
  running : ∀ e ∈ events, e.isTerminal = false
  orders : events.map (RunEvent.order? run) = orders.map some

namespace Called

variable {run : String} {before : List RunEvent} {orders : List CallOrder} {e : RunEvent} {o : CallOrder}

theorem nil (run : String) : Called run [] [] := ⟨nofun, rfl⟩

theorem concat (called : Called run before orders) (running : e.isTerminal = false) (named : e.order? run = some o) :
    Called run (before ++ [e]) (orders ++ [o]) where
  running e' mem := by
    rcases List.mem_append.mp mem with old | new
    · exact called.running e' old
    · exact List.mem_singleton.mp new ▸ running
  orders := by rw [List.map_append, List.map_append, called.orders, List.map_singleton, named, List.map_singleton]

theorem length_eq (called : Called run before orders) : orders.length = before.length := by
  simpa using (congrArg List.length called.orders).symm

theorem last (called : Called run (before ++ [e]) orders) :
    ∃ earlier o, orders = earlier ++ [o] ∧ Called run before earlier ∧ e.isTerminal = false ∧
      e.order? run = some o := by
  rcases List.eq_nil_or_concat orders with rfl | ⟨earlier, o, rfl⟩
  · exact absurd called.length_eq (by simp)
  · have same := called.orders
    rw [List.concat_eq_append, List.map_append, List.map_append] at same
    obtain ⟨first, second⟩ := List.append_inj' same rfl
    refine ⟨earlier, o, List.concat_eq_append, ⟨fun e' mem => ?_, first⟩, ?_, by simpa using second⟩
    · exact called.running e' (List.mem_append_left _ mem)
    · exact called.running e (List.mem_append_right _ List.mem_cons_self)

end Called

/-- How a run ends, once it has taken all that concerns it from the events that have come and has heard these
answers of the call activity. -/
inductive Ends (s : RunStart) : List RunEvent → List (Result CallReport) → Result Transcript → Prop
  /-- The first event that ends a run is reached. -/
  | returned {before after : List RunEvent} {e : RunEvent} {orders : List CallOrder} {reports : List CallReport}
      (called : Called s.runId before orders) (all : reports.length = before.length) (last : e.isTerminal = true) :
      Ends s (before ++ e :: after) (reports.map .ok) (.ok (s.transcript before reports))
  /-- A call fails. -/
  | failed {before after : List RunEvent} {e : RunEvent} {orders : List CallOrder} {reports : List CallReport}
      (called : Called s.runId (before ++ [e]) orders) (all : reports.length = before.length) (f : Failure) :
      Ends s (before ++ e :: after) (reports.map .ok ++ [.error f]) (.error f)
  /-- An event does not say what is to be executed. -/
  | incomplete {before after : List RunEvent} {e : RunEvent} {orders : List CallOrder} {reports : List CallReport}
      (called : Called s.runId before orders) (all : reports.length = before.length) (running : e.isTerminal = false)
      (gap : e.order? s.runId = none) :
      Ends s (before ++ e :: after) (reports.map .ok) (.error e.incomplete)

namespace RunWorkflow

variable {s : RunStart} {received more : List RunEvent} {answers heard : List (Result CallReport)}
  {w w₀ w' : RunWorkflow}

/-! ## Steps -/

/-- The workflow is started, and has not looked for events yet. -/
def begin (s : RunStart) (w : RunWorkflow) : RunWorkflow :=
  { w with transcript := { runId := s.runId, agentName := s.agentName }, state := .running, phase := .event }

/-- An event is put in the queue. -/
def arrive (e : RunEvent) (w : RunWorkflow) : RunWorkflow := { w with events := w.events ++ [e] }

/-- The report on a call is added to the transcript, or is the end of the run. -/
def hear (r : Result CallReport) (w : RunWorkflow) : RunWorkflow :=
  match w.phase, r with
  | .report _, .error f => w.finish (.error f)
  | .report kind, .ok r =>
    { w with transcript := { w.transcript with calls := w.transcript.calls ++ [CallRecord.ofReport kind r] }
             currentCall := none, phase := .event }
  | _, _ => w

/-- What comes to the workflow of a run on the way from one place to another: the events that arrive, the answers of the
call activity to its orders, and the workflow's own steps in between. -/
inductive Course (s : RunStart) (w₀ : RunWorkflow) :
    List RunEvent → List (Result CallReport) → RunWorkflow → Prop
  | here : Course s w₀ [] [] w₀
  | begin {received : List RunEvent} {answers : List (Result CallReport)} {w : RunWorkflow}
      (course : Course s w₀ received answers w) (at_ : w.phase = .start) : Course s w₀ received answers (w.begin s)
  | arrive {received : List RunEvent} {answers : List (Result CallReport)} {w : RunWorkflow}
      (course : Course s w₀ received answers w) (e : RunEvent) : Course s w₀ (received ++ [e]) answers (w.arrive e)
  | advance {received : List RunEvent} {answers : List (Result CallReport)} {w : RunWorkflow}
      (course : Course s w₀ received answers w) : Course s w₀ received answers w.advance
  | hear {received : List RunEvent} {answers : List (Result CallReport)} {w : RunWorkflow} {kind : EventKind}
      (course : Course s w₀ received answers w) (at_ : w.phase = .report kind) (r : Result CallReport) :
      Course s w₀ received (answers ++ [r]) (w.hear r)

theorem Course.start (course : Course s w₀ received answers w) (at_ : w.phase = .start) :
    Course s w₀ received answers (w.start s) := (course.begin at_).advance

theorem Course.signal (course : Course s w₀ received answers w) (e : RunEvent) :
    Course s w₀ (received ++ [e]) answers (w.signal e) := (course.arrive e).advance

theorem Course.report {kind : EventKind} (course : Course s w₀ received answers w) (at_ : w.phase = .report kind)
    (r : Result CallReport) : Course s w₀ received (answers ++ [r]) (w.report r) := by
  have heard := (course.hear at_ r).advance
  have same : (w.hear r).advance = w.report r := by
    cases r <;> simp [RunWorkflow.hear, RunWorkflow.report, RunWorkflow.finish, RunWorkflow.advance, at_]
  rwa [same] at heard

/-! ## Where a workflow stands -/

/-- Where a workflow stands to which these events and answers have come. -/
inductive Stand (s : RunStart) : List RunEvent → List (Result CallReport) → RunWorkflow → Prop
  | fresh (queue : List RunEvent) : Stand s queue [] { events := queue }
  | looking {before queue : List RunEvent} {orders : List CallOrder} {reports : List CallReport}
      (called : Called s.runId before orders) (all : reports.length = before.length) :
      Stand s (before ++ queue) (reports.map .ok) {
        events := queue, orders, transcript := s.transcript before reports, state := .running, phase := .event }
  | calling {before queue : List RunEvent} {e : RunEvent} {orders : List CallOrder} {reports : List CallReport}
      (called : Called s.runId (before ++ [e]) orders) (all : reports.length = before.length) :
      Stand s (before ++ e :: queue) (reports.map .ok) {
        events := queue, orders, transcript := s.transcript before reports, state := .running
        currentCall := e.callId, phase := .report e.kind }
  | returned {before queue : List RunEvent} {e : RunEvent} {orders : List CallOrder} {reports : List CallReport}
      (called : Called s.runId before orders) (all : reports.length = before.length) (last : e.isTerminal = true) :
      Stand s (before ++ e :: queue) (reports.map .ok) {
        events := queue, orders, transcript := s.transcript before reports, state := .completed
        phase := .nothing (.ok (s.transcript before reports)) }
  | failed {before queue : List RunEvent} {e : RunEvent} {orders : List CallOrder} {reports : List CallReport}
      (called : Called s.runId (before ++ [e]) orders) (all : reports.length = before.length) (f : Failure) :
      Stand s (before ++ e :: queue) (reports.map .ok ++ [.error f]) {
        events := queue, orders, transcript := s.transcript before reports, state := .running
        currentCall := e.callId, phase := .nothing (.error f) }
  | incomplete {before queue : List RunEvent} {e : RunEvent} {orders : List CallOrder} {reports : List CallReport}
      (called : Called s.runId before orders) (all : reports.length = before.length) (running : e.isTerminal = false)
      (gap : e.order? s.runId = none) :
      Stand s (before ++ e :: queue) (reports.map .ok) {
        events := queue, orders, transcript := s.transcript before reports, state := .running
        currentCall := e.callId, phase := .nothing (.error e.incomplete) }

theorem Stand.begin (stand : Stand s received answers w) (at_ : w.phase = .start) :
    Stand s received answers (w.begin s) := by
  cases stand with
  | fresh => exact .looking (.nil s.runId) (List.length_nil (α := CallReport))
  | _ => cases at_

theorem Stand.arrive (stand : Stand s received answers w) (e : RunEvent) :
    Stand s (received ++ [e]) answers (w.arrive e) := by
  cases stand with
  | fresh => exact .fresh _
  | looking called all =>
    rw [List.append_assoc]
    exact .looking called all
  | calling called all =>
    rw [List.append_assoc, List.cons_append]
    exact .calling called all
  | returned called all last =>
    rw [List.append_assoc, List.cons_append]
    exact .returned called all last
  | failed called all f =>
    rw [List.append_assoc, List.cons_append]
    exact .failed called all f
  | incomplete called all running gap =>
    rw [List.append_assoc, List.cons_append]
    exact .incomplete called all running gap

theorem Stand.advance (stand : Stand s received answers w) : Stand s received answers w.advance := by
  cases stand with
  | looking called all =>
    rename_i before queue orders reports
    cases queue with
    | nil => exact .looking called all
    | cons e rest =>
      simp only [RunWorkflow.advance, RunWorkflow.take]
      cases terminal : e.isTerminal with
      | true => exact .returned called all terminal
      | false =>
        have named : (s.transcript before reports).runId = s.runId := rfl
        rw [named, RunEvent.toResult_ofEvent]
        cases order : e.order? s.runId with
        | some o => exact .calling (called.concat terminal order) all
        | none => exact .incomplete called all terminal order
  | fresh => exact .fresh _
  | calling called all => exact .calling called all
  | returned called all last => exact .returned called all last
  | failed called all f => exact .failed called all f
  | incomplete called all running gap => exact .incomplete called all running gap

theorem Stand.hear {kind : EventKind} (stand : Stand s received answers w) (at_ : w.phase = .report kind)
    (r : Result CallReport) : Stand s received (answers ++ [r]) (w.hear r) := by
  cases stand with
  | calling called all =>
    rename_i before queue e orders reports
    cases r with
    | error f => exact .failed called all f
    | ok r =>
      have longer : (reports ++ [r]).length = (before ++ [e]).length := by
        rw [List.length_append, List.length_append, all, List.length_singleton, List.length_singleton]
      have heard : ((reports ++ [r]).map .ok : List (Result CallReport)) = reports.map .ok ++ [.ok r] := List.map_append
      have received : before ++ e :: queue = (before ++ [e]) ++ queue := List.append_cons ..
      have stand := received ▸ heard ▸ @Stand.looking s _ queue _ _ called longer
      rw [s.transcript_concat all] at stand
      exact stand
  | _ => cases at_

theorem Course.stand (course : Course s {} received answers w) : Stand s received answers w := by
  induction course with
  | here => exact .fresh []
  | begin _ at_ ih => exact ih.begin at_
  | arrive _ e ih => exact ih.arrive e
  | advance _ ih => exact ih.advance
  | hear _ at_ r ih => exact ih.hear at_ r

/-! ## How a workflow ends -/

/-- How a run that has recorded these calls ends, given the events and the answers that are left for it. -/
def outcome? (s : RunStart) : List CallRecord → List RunEvent → List (Result CallReport) → Option (Result Transcript)
  | _, [], _ => none
  | calls, e :: events, answers =>
    if e.isTerminal then some (.ok { runId := s.runId, agentName := s.agentName, calls })
    else if (e.order? s.runId).isNone then some (.error e.incomplete)
    else match answers with
      | [] => none
      | .error f :: _ => some (.error f)
      | .ok r :: answers => outcome? s (calls ++ [CallRecord.ofReport e.kind r]) events answers

/-- What has been recorded is behind the run. -/
theorem outcome?_called {before : List RunEvent} {reports : List CallReport} {orders : List CallOrder}
    (called : Called s.runId before orders) (all : reports.length = before.length) (calls : List CallRecord)
    (rest : List RunEvent) (answers : List (Result CallReport)) :
    outcome? s calls (before ++ rest) (reports.map .ok ++ answers) =
      outcome? s (calls ++ (s.transcript before reports).calls) rest answers := by
  induction before generalizing reports orders calls with
  | nil =>
    obtain rfl := List.eq_nil_of_length_eq_zero all
    simp [RunStart.transcript]
  | cons e before ih =>
    obtain ⟨r, reports, rfl⟩ := List.exists_cons_of_length_eq_add_one all
    obtain ⟨o, orders, rfl⟩ := List.exists_cons_of_length_eq_add_one called.length_eq
    have running := called.running e List.mem_cons_self
    have same := called.orders
    rw [List.map_cons, List.map_cons, List.cons.injEq] at same
    have later : Called s.runId before orders :=
      ⟨fun e' mem => called.running e' (List.mem_cons_of_mem _ mem), same.2⟩
    rw [List.map_cons, List.cons_append, List.cons_append, outcome?, if_neg (by simp [running]), same.1,
      if_neg (by simp)]
    simpa [RunStart.transcript] using ih later (Nat.succ.inj all) (calls ++ [CallRecord.ofReport e.kind r])

theorem outcome?_of_ends {r : Result Transcript} (ends : Ends s received answers r) :
    outcome? s [] received answers = some r := by
  cases ends with
  | @returned before after e orders reports called all last =>
    rw [← List.append_nil (reports.map _), outcome?_called called all, outcome?, if_pos last]
    rfl
  | failed called all f =>
    obtain ⟨earlier, o, -, called, running, named⟩ := called.last
    rw [outcome?_called called all, outcome?, if_neg (by simp [running]), named, if_neg (by simp)]
  | @incomplete before after e orders reports called all running gap =>
    rw [← List.append_nil (reports.map _), outcome?_called called all, outcome?, if_neg (by simp [running]), gap,
      if_pos Option.isNone_none]

/-- How many calls are being executed. -/
def underway (w : RunWorkflow) : Nat :=
  match w.phase with
  | .report _ => 1
  | _ => 0

/-- How many of the events have ended the run. -/
def closed (w : RunWorkflow) : Nat :=
  match w.phase with
  | .nothing (.ok _) => 1
  | _ => 0

/-- What a workflow shows is what has come to it. -/
structure Faithful (s : RunStart) (received : List RunEvent) (answers : List (Result CallReport)) (w : RunWorkflow) :
    Prop where
  /-- The orders are those of the first events. -/
  ordered : Called s.runId (received.take w.orders.length) w.orders
  /-- There is no order before the one before it has been answered. -/
  single : w.orders.length = answers.length + w.underway
  /-- The transcript is that of the calls that have been reported. -/
  recorded : ∃ reports : List CallReport,
    w.transcript.calls = (s.transcript received reports).calls ∧
      (answers = reports.map .ok ∨ ∃ f, answers = reports.map .ok ++ [.error f] ∧ w.result? = some (.error f))
  named : w.phase ≠ .start → w.transcript.runId = s.runId ∧ w.transcript.agentName = s.agentName
  /-- No event is lost, and none is taken twice. -/
  conserved : (∀ f, w.result? ≠ some (.error f)) →
    w.transcript.calls.length + w.underway + w.events.length + w.closed = received.length
  /-- A run ends as what has come to it says, -/
  ended : ∀ r, w.result? = some r → Ends s received answers r
  /-- and does so as soon as it has looked at its events. -/
  ends : w.phase ≠ .start → (w.phase = .event → w.events = []) → ∀ r, Ends s received answers r → w.result? = some r
  /-- What is returned is what has been shown. -/
  returned : ∀ t, w.result? = some (.ok t) → t = w.transcript

/-- Events that come later are in no transcript yet. -/
theorem calls_transcript_append {before : List RunEvent} {reports : List CallReport}
    (all : reports.length = before.length) (rest : List RunEvent) :
    (s.transcript (before ++ rest) reports).calls = (s.transcript before reports).calls := by
  have apart : List.zipWith (fun (e : RunEvent) r => CallRecord.ofReport e.kind r) (before ++ rest)
      (reports ++ []) = _ :=
    List.zipWith_append all.symm
  simpa [RunStart.transcript] using apart

theorem length_calls_transcript {before : List RunEvent} {reports : List CallReport}
    (all : reports.length = before.length) : (s.transcript before reports).calls.length = before.length := by
  simp [RunStart.transcript, all]

theorem Stand.outcome? (stand : Stand s received answers w) (started : w.phase ≠ .start)
    (looked : w.phase = .event → w.events = []) : outcome? s [] received answers = w.result? := by
  cases stand with
  | fresh => exact absurd rfl started
  | @looking before queue orders reports called all =>
    obtain rfl : queue = [] := looked rfl
    rw [← List.append_nil (reports.map _), outcome?_called called all, RunWorkflow.outcome?]
    rfl
  | @calling before queue e orders reports called all =>
    obtain ⟨earlier, o, -, called, running, named⟩ := called.last
    rw [← List.append_nil (reports.map _), outcome?_called called all, RunWorkflow.outcome?,
      if_neg (by simp [running]), named, if_neg (by simp)]
    rfl
  | returned called all last => exact outcome?_of_ends (.returned called all last)
  | failed called all f => exact outcome?_of_ends (.failed called all f)
  | incomplete called all running gap => exact outcome?_of_ends (.incomplete called all running gap)

theorem Stand.shows (stand : Stand s received answers w) : Faithful s received answers w where
  ordered := by
    cases stand with
    | fresh => exact .nil _
    | looking called all | returned called all | incomplete called all =>
      simpa [called.length_eq] using called
    | @calling before queue e orders reports called all | @failed before queue e orders reports called all =>
      have cut : (before ++ e :: queue).take orders.length = before ++ [e] := by
        rw [List.append_cons]
        exact List.take_left' called.length_eq.symm
      exact cut ▸ called
  single := by
    cases stand with
    | fresh => rfl
    | looking called all | calling called all | returned called all | failed called all | incomplete called all =>
      simp [underway, called.length_eq, all]
  recorded := by
    cases stand with
    | fresh => exact ⟨[], by simp [RunStart.transcript], .inl rfl⟩
    | looking called all | calling called all | returned called all | incomplete called all =>
      exact ⟨_, (calls_transcript_append all _).symm, .inl rfl⟩
    | failed called all f => exact ⟨_, (calls_transcript_append all _).symm, .inr ⟨f, rfl, rfl⟩⟩
  named started := by
    cases stand with
    | fresh => exact absurd rfl started
    | _ => exact ⟨rfl, rfl⟩
  conserved sound := by
    cases stand with
    | fresh => simp [underway, closed]
    | looking called all | calling called all | returned called all =>
      simp +arith [underway, closed, length_calls_transcript all]
    | failed _ _ f => exact absurd rfl (sound f)
    | incomplete => exact absurd rfl (sound _)
  ended r result := by
    cases stand with
    | returned called all last => exact Option.some.inj result ▸ .returned called all last
    | failed called all f => exact Option.some.inj result ▸ .failed called all f
    | incomplete called all running gap => exact Option.some.inj result ▸ .incomplete called all running gap
    | _ => cases result
  ends started looked r ends := (stand.outcome? started looked).symm.trans (outcome?_of_ends ends)
  returned t result := by
    cases stand with
    | returned => exact (Except.ok.inj (Option.some.inj result)).symm
    | _ => cases result

/-! ## Later on -/

/-- What has been ordered and shown stays, and a run that has ended does nothing any more: it hears no answer, and
whatever comes to it waits. -/
structure Prolongs (w : RunWorkflow) (heard : List (Result CallReport)) (w' : RunWorkflow) : Prop where
  orders : w.orders <+: w'.orders
  calls : w.transcript.calls <+: w'.transcript.calls
  ended : ∀ r, w.result? = some r →
    heard = [] ∧ w'.result? = some r ∧ w'.orders = w.orders ∧ w'.transcript = w.transcript

theorem Course.trans (course : Course s w₀ received answers w) (onward : Course s w more heard w') :
    Course s w₀ (received ++ more) (answers ++ heard) w' := by
  induction onward with
  | here => simpa using course
  | begin _ at_ ih => exact ih.begin at_
  | arrive _ e ih => exact List.append_assoc .. ▸ ih.arrive e
  | advance _ ih => exact ih.advance
  | hear _ at_ r ih => exact List.append_assoc .. ▸ ih.hear at_ r

theorem orders_take (e : RunEvent) (w : RunWorkflow) : w.orders <+: (w.take e).orders := by
  unfold take
  split
  · exact List.prefix_rfl
  · simp only
    split
    · exact List.prefix_rfl
    · exact List.prefix_append _ _

theorem transcript_take (e : RunEvent) (w : RunWorkflow) : (w.take e).transcript = w.transcript := by
  unfold take
  split
  · rfl
  · simp only
    split <;> rfl

theorem Prolongs.advance (prolongs : Prolongs w heard w') : Prolongs w heard w'.advance := by
  unfold RunWorkflow.advance
  split
  · rename_i e rest at_ queue
    refine ⟨prolongs.orders.trans (orders_take e { w' with events := rest }), ?_, fun r result => ?_⟩
    · rw [transcript_take]
      exact prolongs.calls
    · have result := (prolongs.ended r result).2.1
      simp [result?, at_] at result
  · exact prolongs

theorem Course.prolongs (course : Course s {} received answers w) (onward : Course s w more heard w') :
    Prolongs w heard w' := by
  induction onward with
  | here => exact ⟨List.prefix_rfl, List.prefix_rfl, fun r result => ⟨rfl, result, rfl, rfl⟩⟩
  | @begin more heard w' onward at_ ih =>
    refine ⟨ih.orders, ?_, fun r result => ?_⟩
    · have stand := (course.trans onward).stand
      generalize received ++ more = received, answers ++ heard = answers at stand
      cases stand with
      | fresh => exact ih.calls
      | _ => cases at_
    · have result := (ih.ended r result).2.1
      simp [result?, at_] at result
  | arrive onward e ih => exact ⟨ih.orders, ih.calls, ih.ended⟩
  | advance onward ih => exact ih.advance
  | @hear more heard w' kind onward at_ r ih =>
    refine ⟨?_, ?_, fun r result => ?_⟩
    · cases r <;> simpa [RunWorkflow.hear, at_, finish] using ih.orders
    · cases r with
      | error f => simpa [RunWorkflow.hear, at_, finish] using ih.calls
      | ok r => simpa [RunWorkflow.hear, at_] using ih.calls.trans (List.prefix_append _ _)
    · have result := (ih.ended r result).2.1
      simp [result?, at_] at result

/-- At any time a workflow is faithful to what has come to it, and what it has ordered and shown by then stays. -/
theorem Course.faithful (course : Course s {} received answers w) :
    Faithful s received answers w ∧
      ∀ (more : List RunEvent) (heard : List (Result CallReport)) (w' : RunWorkflow),
        Course s w more heard w' → Prolongs w heard w' :=
  ⟨course.stand.shows, fun _ _ _ => course.prolongs⟩

/-- A run whose event comes before it is started, and that is ended while its call is executed; what comes later
waits. -/
theorem Course.faithful_early :
    let s : RunStart := { runId := "run", agentName := "A" }
    let e := RunEvent.call .toolCall "call-1" "echo" (some "x")
    let r : CallReport := { operation := "echo", payload := some "x", resultText := some "y" }
    let w := ((((RunWorkflow.signal e {}).start s).signal .finish).report (.ok r)).signal e
    w.phase = .nothing (.ok (s.transcript [e] [r])) ∧ Faithful s [e, .finish, e] [.ok r] w := by
  intro s e r w
  have first : Course s {} [e] [] ((RunWorkflow.signal e {}).start s) := (Course.here.signal e).start rfl
  have second := ((first.signal .finish).report (show _ = RunPhase.report .toolCall from rfl) (.ok r)).signal e
  exact ⟨rfl, second.faithful.1⟩

end RunWorkflow
end Rendezvous
