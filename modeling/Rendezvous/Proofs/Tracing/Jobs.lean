import Rendezvous.Proofs.Routing.Transparency

/-!
# Jobs inside spans

A job (`Job`) may touch its state, open spans inside one another, record outputs on those around it, flush, fail,
and catch what fails; meanwhile the service that keeps the records may break down and recover.  It does not look at the
context; somebody else may, who takes down what there is to see (`Glimpse`).

What a job does to its state, and what it comes to, is a matter of the job alone (`Job.plain`, `Job.act_worked`).  Where
the tracer is enabled, the context within is that of the innermost span, and it is put back however a span is left.
-/

namespace Rendezvous

set_option autoImplicit false

variable {κ α β ω ρ γ : Type}

/-! ## Jobs -/

/-- Something that is done under a tracer. -/
inductive Job (ω ρ : Type) : Type where
  | done (r : Result ρ)
  /-- Read the state and change it. -/
  | touch (write : ω → ω) (next : ω → Job ω ρ)
  /-- What the part comes to, also when it fails. -/
  | attempt (part : Job ω ρ) (next : Result ρ → Job ω ρ)
  /-- A part inside a span, and what it comes to. -/
  | span (name : String) (run : Option String) (metadata : Entries Value) (part : Job ω ρ)
    (next : Result ρ → Job ω ρ)
  /-- Record an output on a span around; they are counted from inside. -/
  | record (span : Nat) (output : Value) (next : Job ω ρ)
  | flush (next : Job ω ρ)
  /-- From here on these parts of the service are out of order. -/
  | service (faults : TraceFaults) (next : Job ω ρ)
  /-- Somebody looks at the context. -/
  | watch (next : Job ω ρ)

/-- A span that work is inside of. -/
structure Frame where
  name : String
  run : Option String
  observation : Option Nat

/-- What there is to see at some point: the spans that are open, the innermost first, and the context. -/
structure Glimpse where
  around : List Frame
  context : Option TraceContext

/-- The state of work, and what has been seen meanwhile. -/
structure Watched (ω : Type) where
  state : ω
  sights : List Glimpse := []

namespace Job

/-- Perform work inside of some spans. -/
def act (around : List Frame) : Job ω ρ → Act κ α β (Watched ω) ρ
  | done r => Act.ofResult r
  | touch write next => do
    let state := (← Act.world).host.state
    Act.change fun w => { w with host := { w.host with state := write state } }
    (next state).act around
  | attempt part next => do
    let r ← Act.attempt (part.act around)
    (next r).act around
  | span name run metadata part next => do
    let r ← Act.attempt <| Act.inSpan name run metadata fun observation =>
      part.act (⟨name, run, observation⟩ :: around)
    (next r).act around
  | record n output next => do
    Act.onTracer fun t => ((), t.recordOutput (around[n]?.bind (·.observation)) output)
    next.act around
  | flush next => do
    Act.onTracer fun t => ((), t.flush)
    next.act around
  | service faults next => do
    Act.onTracer fun t => ((), { t with faults })
    next.act around
  | watch next => do
    let context := (← Act.context).span
    Act.change fun w => { w with host := { w.host with sights := w.host.sights ++ [⟨around, context⟩] } }
    next.act around

/-- What work comes to, and the state that it leaves, with no word of tracing. -/
def plain : Job ω ρ → ω → Result ρ × ω
  | done r, s => (r, s)
  | touch write next, s => (next s).plain (write s)
  | attempt part next, s => (next (part.plain s).1).plain (part.plain s).2
  | span _ _ _ part next, s => (next (part.plain s).1).plain (part.plain s).2
  | record _ _ next, s => next.plain s
  | flush next, s => next.plain s
  | service _ next, s => next.plain s
  | watch next, s => next.plain s

end Job

/-! ## The context -/

/-- The context inside of a span: its name, and the trace of its run. -/
def Frame.context (f : Frame) : TraceContext where
  trace := Tracer.traceOf? f.run
  run := f.run
  span := f.name
  observation := f.observation

/-- The context inside of some spans that have been opened outside of it. -/
def Frame.innermost (outside : Option TraceContext) : List Frame → Option TraceContext
  | [] => outside
  | f :: _ => some f.context

namespace Tracer

variable {t : Tracer}

theorem isEnabled_openSpan (name : String) (run : Option String) (metadata : Entries Value)
    (outside : Option TraceContext) : (t.openSpan name run metadata outside).2.2.isEnabled = t.isEnabled := by
  unfold openSpan
  cases on : t.isEnabled with
  | false => exact on
  | true =>
    cases t.faults.start with
    | false | true => exact on

theorem isEnabled_closeSpan (observation : Option Nat) (reason : Option Reason) :
    (t.closeSpan observation reason).isEnabled = t.isEnabled := by
  cases observation with
  | none | some n => rfl

theorem isEnabled_recordOutput (observation : Option Nat) (output : Value) :
    (t.recordOutput observation output).isEnabled = t.isEnabled := by
  cases observation with
  | none => rfl
  | some n =>
    unfold recordOutput
    cases faulty : t.faults.update with
    | false | true => rfl

theorem isEnabled_flush : t.flush.isEnabled = t.isEnabled := by
  unfold flush
  split <;> rfl

/-- The context inside of a span that an enabled tracer opens, whether or not it could be started. -/
theorem inside_openSpan (on : t.isEnabled = true) (name : String) (run : Option String) (metadata : Entries Value)
    (outside : Option TraceContext) : (t.openSpan name run metadata outside).2.1 =
      some (Frame.context ⟨name, run, (t.openSpan name run metadata outside).1⟩) := by
  unfold openSpan
  rw [on]
  cases t.faults.start with
  | false | true => rfl

end Tracer

/-! ## What work leaves -/

/-- Inside of some spans, nothing has been changed but the tracer, the state and what has been seen.  If the tracer is enabled
and the context is that of the innermost span, so it has been wherever somebody looked. -/
structure World.Worked (around : List Frame) (w w' : World κ α β (Watched ω)) : Prop where
  context : w'.context = w.context
  hub : w'.hub = { w.hub with tracer := w'.hub.tracer }
  enabled : w'.hub.tracer.isEnabled = w.hub.tracer.isEnabled
  seen : ∃ seen, w'.host.sights = w.host.sights ++ seen ∧ (w.hub.tracer.isEnabled = true →
    ∀ outside, w.context.span = Frame.innermost outside around → ∀ s ∈ seen, s.context = Frame.innermost outside s.around)

namespace World.Worked

variable {around : List Frame} {w w₁ w₂ : World κ α β (Watched ω)}

theorem trans (first : Worked around w w₁) (later : Worked around w₁ w₂) : Worked around w w₂ where
  context := later.context.trans first.context
  hub := by rw [later.hub, first.hub]
  enabled := later.enabled.trans first.enabled
  seen := by
    obtain ⟨seen₁, sights₁, right₁⟩ := first.seen
    obtain ⟨seen₂, sights₂, right₂⟩ := later.seen
    refine ⟨seen₁ ++ seen₂, by rw [sights₂, sights₁, List.append_assoc], fun on outside here => ?_⟩
    exact List.forall_mem_append.mpr
      ⟨right₁ on outside here, right₂ (first.enabled.trans on) outside (by rw [first.context, here])⟩

theorem refl (w : World κ α β (Watched ω)) : Worked around w w :=
  ⟨rfl, rfl, rfl, [], (List.append_nil _).symm, fun _ _ _ => List.forall_mem_nil _⟩

/-- Before, something has been done while nobody looked. -/
theorem preceded (later : Worked around w₁ w₂) (context : w₁.context = w.context)
    (hub : w₁.hub = { w.hub with tracer := w₁.hub.tracer })
    (enabled : w₁.hub.tracer.isEnabled = w.hub.tracer.isEnabled) (sights : w₁.host.sights = w.host.sights) :
    Worked around w w₂ :=
  have unseen : Worked around w w₁ :=
    ⟨context, hub, enabled, [], by rw [sights, List.append_nil], fun _ _ _ => List.forall_mem_nil _⟩
  unseen.trans later

/-- Somebody has looked once. -/
theorem watched (w : World κ α β (Watched ω)) : Worked around w
    { w with host := { w.host with sights := w.host.sights ++ [⟨around, w.context.span⟩] } } :=
  ⟨rfl, rfl, rfl, _, rfl, fun _ _ here => List.forall_mem_singleton.mpr here⟩

/-- Whatever is done inside of a span, and however it is left, outside of it there is nothing else. -/
theorem inSpan {name : String} {run : Option String} {metadata : Entries Value} {observation : Option Nat}
    {inside : Option TraceContext} {tracer : Tracer}
    (opens : w.hub.tracer.openSpan name run metadata w.context.span = (observation, inside, tracer))
    (within : Worked (⟨name, run, observation⟩ :: around) (w.traced tracer inside) w₁) (reason : Option Reason) :
    Worked around w (w₁.traced (w₁.hub.tracer.closeSpan observation reason) w.context.span) where
  context := congrArg (fun c : Context => { c with span := w.context.span }) within.context
  hub := congrArg (fun h : Hub κ α β => { h with tracer := w₁.hub.tracer.closeSpan observation reason }) within.hub
  enabled := by
    have opened := Tracer.isEnabled_openSpan (t := w.hub.tracer) name run metadata w.context.span
    rw [opens] at opened
    exact (Tracer.isEnabled_closeSpan observation reason).trans (within.enabled.trans opened)
  seen := by
    obtain ⟨seen, sights, right⟩ := within.seen
    refine ⟨seen, sights, fun on outside _ => ?_⟩
    have opened := Tracer.isEnabled_openSpan (t := w.hub.tracer) name run metadata w.context.span
    have named := Tracer.inside_openSpan on name run metadata w.context.span
    rw [opens] at opened named
    exact right (opened.trans on) outside named

end World.Worked

namespace Job

section

variable (around : List Frame) (w : World κ α β (Watched ω))

theorem act_touch (write : ω → ω) (next : ω → Job ω ρ) : (touch write next).act around w =
    (next w.host.state).act around { w with host := { w.host with state := write w.host.state } } := rfl

theorem act_attempt (part : Job ω ρ) (next : Result ρ → Job ω ρ) : (attempt part next).act around w =
    (next (part.act around w).1).act around (part.act around w).2 := rfl

/-- Inside the span, the context is another one; afterwards it is put back. -/
theorem act_span {name : String} {run : Option String} {metadata : Entries Value} {observation : Option Nat}
    {inside : Option TraceContext} {tracer : Tracer} {part : Job ω ρ} {r : Result ρ} {w₁ : World κ α β (Watched ω)}
    (opens : w.hub.tracer.openSpan name run metadata w.context.span = (observation, inside, tracer))
    (within : part.act (⟨name, run, observation⟩ :: around) (w.traced tracer inside) = (r, w₁))
    (next : Result ρ → Job ω ρ) : ∃ reason, (span name run metadata part next).act around w =
      (next r).act around (w₁.traced (w₁.hub.tracer.closeSpan observation reason) w.context.span) := by
  have spans := Act.inSpan_apply name run metadata (fun o => part.act (⟨name, run, o⟩ :: around)) w
  rw [opens] at spans
  simp only [within] at spans
  exact ⟨_, congrArg (fun x : Result ρ × World κ α β (Watched ω) => (next x.1).act around x.2) spans⟩

theorem act_record (n : Nat) (output : Value) (next : Job ω ρ) : (record n output next).act around w =
    next.act around { w with hub := { w.hub with
      tracer := w.hub.tracer.recordOutput (around[n]?.bind (·.observation)) output } } := rfl

theorem act_flush (next : Job ω ρ) : (flush next).act around w =
    next.act around { w with hub := { w.hub with tracer := w.hub.tracer.flush } } := rfl

theorem act_service (faults : TraceFaults) (next : Job ω ρ) : (service faults next).act around w =
    next.act around { w with hub := { w.hub with tracer := { w.hub.tracer with faults } } } := rfl

theorem act_watch (next : Job ω ρ) : (watch next).act around w =
    next.act around { w with host := { w.host with sights := w.host.sights ++ [⟨around, w.context.span⟩] } } := rfl

end

/-- A job comes to what it comes to without a tracer, and leaves the state that it leaves then, and nothing else. -/
theorem act_worked (p : Job ω ρ) (around : List Frame) (w : World κ α β (Watched ω)) :
    (p.act around w).1 = (p.plain w.host.state).1 ∧ (p.act around w).2.host.state = (p.plain w.host.state).2 ∧
      World.Worked around w (p.act around w).2 := by
  induction p generalizing around w with
  | done r => exact ⟨rfl, rfl, .refl w⟩
  | touch write next ih =>
    rw [act_touch]
    obtain ⟨result, state, worked⟩ := ih w.host.state around
      { w with host := { w.host with state := write w.host.state } }
    exact ⟨result, state, worked.preceded rfl rfl rfl rfl⟩
  | attempt part next part_ih next_ih =>
    obtain ⟨result, state, worked⟩ := part_ih around w
    obtain ⟨result', state', worked'⟩ := next_ih (part.act around w).1 around (part.act around w).2
    rw [act_attempt, plain, ← result, ← state]
    exact ⟨result', state', worked.trans worked'⟩
  | span name run metadata part next part_ih next_ih =>
    obtain ⟨observation, inside, tracer, opens⟩ : ∃ observation inside tracer,
        w.hub.tracer.openSpan name run metadata w.context.span = (observation, inside, tracer) := ⟨_, _, _, rfl⟩
    obtain ⟨result, state, worked⟩ := part_ih (⟨name, run, observation⟩ :: around) (w.traced tracer inside)
    rcases within : part.act (⟨name, run, observation⟩ :: around) (w.traced tracer inside) with ⟨r, w₁⟩
    rw [within] at result state worked
    obtain ⟨reason, acts⟩ := act_span around w opens within next
    obtain ⟨result', state', worked'⟩ :=
      next_ih r around (w₁.traced (w₁.hub.tracer.closeSpan observation reason) w.context.span)
    have came : part.plain w.host.state = (r, w₁.host.state) := Prod.ext result.symm state.symm
    rw [acts, plain, came]
    exact ⟨result', state', (World.Worked.inSpan opens worked reason).trans worked'⟩
  | record n output next ih =>
    rw [act_record]
    obtain ⟨result, state, worked⟩ := ih around
      { w with hub := { w.hub with tracer := w.hub.tracer.recordOutput (around[n]?.bind (·.observation)) output } }
    exact ⟨result, state, worked.preceded rfl rfl (Tracer.isEnabled_recordOutput _ _) rfl⟩
  | flush next ih =>
    rw [act_flush]
    obtain ⟨result, state, worked⟩ := ih around { w with hub := { w.hub with tracer := w.hub.tracer.flush } }
    exact ⟨result, state, worked.preceded rfl rfl Tracer.isEnabled_flush rfl⟩
  | service faults next ih =>
    rw [act_service]
    obtain ⟨result, state, worked⟩ := ih around { w with hub := { w.hub with tracer := { w.hub.tracer with faults } } }
    exact ⟨result, state, worked.preceded rfl rfl rfl rfl⟩
  | watch next ih =>
    rw [act_watch]
    obtain ⟨result, state, worked⟩ := ih around
      { w with host := { w.host with sights := w.host.sights ++ [⟨around, w.context.span⟩] } }
    exact ⟨result, state, (World.Worked.watched w).trans worked⟩

end Job
end Rendezvous
