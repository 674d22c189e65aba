import Rendezvous.Proofs.Requested.Effect
import Rendezvous.Program.Host

/-!
# What a model reaches

A model is told about the tools, and asked to ask for these; it may ask for anything.  An agent is documented
to call a tool through the router or to complain that there is none (`offeredTalker`).  It does so for every
name that is confined to tools (`Toolset.confines`).  By any other name the object around a toolset knows
something else, which is called on the spot.  As long as a model asks for nothing but confined names, however
its replies go and wherever it is asked, the agent is the documented one (`Program.invoke_confined`).
-/

namespace Rendezvous

set_option autoImplicit false

/-! ## Names -/

namespace Toolset

/-- Whether nothing is known by a name but a tool: what is null counts as unknown. -/
def confines (name : String) (s : Toolset) : Bool :=
  match s.routed? name with
  | none | some .tool | some (.other (.value .null)) => true
  | some _ => false

/-- Only a tool is known as one. -/
theorem contains_toolNames {name : String} {s : Toolset} (confined : s.confines name = true) :
    s.toolNames.contains name = true ↔ s.routed? name = some .tool := by
  unfold confines at confined
  unfold routed? at confined ⊢
  cases own : Entries.get? name ownAttributes with
  | some a =>
    rw [own] at confined
    cases confined
  | none =>
    by_cases tool : s.toolNames.contains name = true
    · simp only [tool, if_true]
    · simp only [tool]
      cases s.attribute? name <;> simp

/-- The names that are not confined: those that the object around the toolset has for itself, and those of
whatever else the toolset knows, unless it is null. -/
theorem confines_eq_false_iff (name : String) (s : Toolset) : s.confines name = false ↔
    name ∈ Entries.keys ownAttributes ∨
      name ∉ s.toolNames ∧ ∃ a, s.attribute? name = some a ∧ a ≠ .value .null := by
  rw [← Entries.has_iff_mem_keys, Entries.has]
  unfold confines routed?
  cases Entries.get? name ownAttributes with
  | some a => simp
  | none =>
    by_cases tool : name ∈ s.toolNames
    · simp [tool]
    · cases s.attribute? name with
      | none => simp [tool]
      | some a =>
        cases a with
        | tool t | operation signature => simp [tool]
        | value v => cases v <;> simp [tool]

theorem specification_name {s : Toolset} {t : Tool} {spec : ToolSpec} (told : s.specification t = .ok spec) :
    spec.name = t.name ∧ Entries.get? t.name s.attributes = none := by
  unfold specification at told
  cases hidden : Entries.get? t.name s.attributes with
  | some v =>
    rw [hidden] at told
    cases told
  | none =>
    rw [hidden] at told
    unfold Tool.specification at told
    cases schema : t.argumentSchema with
    | error e =>
      simp only [schema, bind, Except.bind] at told
      cases told
    | ok parameters =>
      simp only [schema, bind, Except.bind, pure, Except.pure] at told
      cases told
      exact ⟨rfl, rfl⟩

/-- The tools that a model is told about are all tools, in order, and nothing hides them. -/
theorem names_of_specifications {s : Toolset} {specs : List ToolSpec} (told : s.specifications = .ok specs) :
    specs.map (·.name) = s.toolNames ∧ ∀ t ∈ s.tools, Entries.get? t.name s.attributes = none := by
  have each (tools : List Tool) (specs : List ToolSpec) (told : tools.mapM s.specification = .ok specs) :
      specs.map (·.name) = tools.map (·.name) ∧ ∀ t ∈ tools, Entries.get? t.name s.attributes = none := by
    induction tools generalizing specs with
    | nil =>
      cases told
      exact ⟨rfl, nofun⟩
    | cons t rest ih =>
      rw [List.mapM_cons] at told
      cases first : s.specification t with
      | error e =>
        rw [first] at told
        cases told
      | ok spec =>
        cases others : rest.mapM s.specification with
        | error e =>
          rw [first, others] at told
          cases told
        | ok specs' =>
          rw [first, others] at told
          cases told
          obtain ⟨named, free⟩ := specification_name first
          obtain ⟨names, allFree⟩ := ih specs' others
          exact ⟨by rw [List.map_cons, List.map_cons, named, names], List.forall_mem_cons.mpr ⟨free, allFree⟩⟩
  exact each s.tools specs told

/-- Whatever a model is told about is a tool. -/
theorem tool_of_specifications {s : Toolset} {specs : List ToolSpec} (told : s.specifications = .ok specs)
    {spec : ToolSpec} (offered : spec ∈ specs) :
    ∃ t ∈ s.tools, t.name = spec.name ∧ s.attribute? spec.name = some (.tool t) := by
  obtain ⟨names, free⟩ := names_of_specifications told
  have named : spec.name ∈ s.toolNames := by
    rw [← names]
    exact List.mem_map_of_mem offered
  cases found : s.tool? spec.name with
  | none =>
    obtain ⟨t, there, same⟩ := List.mem_map.mp named
    have other := List.find?_eq_none.mp found t there
    simp [same] at other
  | some t =>
    have there : t ∈ s.tools := List.mem_of_find?_eq_some found
    have same : t.name = spec.name := by simpa using List.find?_some found
    refine ⟨t, there, same, ?_⟩
    rw [attribute?, found, ← same, free t there]

end Toolset

/-! ## What the calls of a program do -/

/-- A model that has been asked goes on with its script. -/
def ScriptedModel.next (request : ChatRequest) (m : ScriptedModel) : ScriptedModel where
  replies := m.replies.tail
  requests := m.requests ++ [request]

namespace Host

/-- Ask a model. -/
def asked (n : Nat) (request : ChatRequest) (h : Host) : Host :=
  { h with models := h.models.set n ((h.model n).next request) }

/-- What a model replies next. -/
def reply (n : Nat) (h : Host) : Result ChatReply :=
  match (h.model n).replies with
  | [] => .error (.of (.breakdown "no scripted reply left"))
  | v :: _ => Program.scriptedReply v

/-- What comes of the calls of a program. -/
def respond : Responding Routine Outcome Host
  | guarded, .tool on c, h => (((h.toolset on).call guarded c).map .value, h)
  | _, .chat n request, h => ((h.reply n).map .reply, h.asked n request)

@[simp] theorem toolset_asked (on : ToolSource) (n : Nat) (request : ChatRequest) (h : Host) :
    (h.asked n request).toolset on = h.toolset on := by cases on <;> rfl

theorem replies_asked {n : Nat} {h : Host} {v : Value} {rest : List Value}
    (script : (h.model n).replies = v :: rest) (request : ChatRequest) :
    ((h.asked n request).model n).replies = rest := by
  have there : n < h.models.length := by
    refine Nat.lt_of_not_le fun out => ?_
    have empty : h.model n = {} := by simp [model, List.getD_eq_getElem?_getD, out]
    rw [empty] at script
    cases script
  have placed : (h.asked n request).model n = (h.model n).next request := by
    simp [asked, model, List.getD_eq_getElem?_getD, there]
  rw [placed, ScriptedModel.next, script]
  rfl

end Host

namespace Program

theorem local_performer : performer.Local Host.respond := by
  intro k w
  cases k with
  | tool on c =>
    cases called : (w.host.toolset on).call w.context.guarded c <;>
      simp [performer, toolset, host, Act.world, Act.context, Act.ofResult, bind, pure, called, Host.respond,
        Except.map]
  | chat n request =>
    cases script : (w.host.model n).replies with
    | nil =>
      simp [performer, reply, host, changeHost, Act.world, Act.change, Act.ofResult, bind, pure, script,
        Host.respond, Host.reply, Host.asked, ScriptedModel.next, Except.map]
    | cons v rest =>
      cases replied : scriptedReply v <;>
        simp [performer, reply, host, changeHost, Act.world, Act.change, Act.ofResult, bind, pure, script,
          Host.respond, Host.reply, Host.asked, ScriptedModel.next, Except.map, replied]

/-! ## Requests -/

/-- What a tool answers leaves everything as it is. -/
theorem host_of_route_tool {on : ToolSource} {c : ToolCall} {w w' : World Routine Outcome Seat Host}
    {o : Outcome} (routed : Act.route performer (toolRoutine on c) w = (.ok o, w')) : w'.host = w.host := by
  have came := Act.route_came local_performer (toolRoutine on c) w
  rw [routed] at came
  obtain ⟨guarded, performed⟩ := came.of_ok
  exact (congrArg Prod.snd performed).symm

/-- What a model replies is what comes next in its script. -/
theorem ask_ok {model : Nat} {request : ChatRequest} {w w' : World Routine Outcome Seat Host} {r : ChatReply}
    (asks : ask model request w = (.ok r, w')) :
    ∃ v rest, (w.host.model model).replies = v :: rest ∧ scriptedReply v = .ok r ∧
      (w'.host.model model).replies = rest ∧ ∀ on, w'.host.toolset on = w.host.toolset on := by
  have came := Act.route_came local_performer (chatRoutine model request) w
  unfold ask at asks
  rcases routed : Act.route performer (chatRoutine model request) w with ⟨e | o, w₁⟩
  · rw [Act.bind_apply_of_error routed] at asks
    cases asks
  · rw [Act.bind_apply_of_ok routed] at asks
    rw [routed] at came
    obtain ⟨guarded, performed⟩ := came.of_ok
    cases o with
    | value v => cases asks
    | reply r' =>
      cases asks
      have replies : (w.host.reply model).map Outcome.reply = .ok (.reply r) := congrArg Prod.fst performed
      have host : w.host.asked model request = w'.host := congrArg Prod.snd performed
      cases script : (w.host.model model).replies with
      | nil => simp [Host.reply, script, Except.map] at replies
      | cons v rest =>
        rw [Host.reply, script] at replies
        cases replied : scriptedReply v with
        | error e => simp [replied, Except.map] at replies
        | ok r'' =>
          simp only [replied, Except.map, Except.ok.injEq, Outcome.reply.injEq] at replies
          subst replies
          refine ⟨v, rest, rfl, replied, ?_, fun on => ?_⟩
          · rw [← host, Host.replies_asked script]
          · rw [← host, Host.toolset_asked]

/-- Call what a model asks for as it is documented: a tool that the model has been told about, through the
router. -/
def useOffered (agent : String) (specs : List ToolSpec) (on : ToolSource) (r : ToolRequest) : Do String :=
  if (specs.map (·.name)).contains r.name then do
    return (← Act.route performer (toolRoutine on { operation := r.name, named := r.arguments })).toValue.shown
  else throw (noTool agent r.name)

/-- An agent that talks with a model as it is documented. -/
def offeredTalker (profile : Profile) (model : Nat) (on : ToolSource) (rounds : Int) :
    Agent Routine Outcome Host where
  kind := "ToolCallingAgent"
  profile := profile
  invoke n := do
    let s ← Act.scope n
    let specs ← Act.ofResult (← toolset on).specifications
    let partners : Partners Do :=
      { tools := specs, ask := ask model, use := useOffered profile.name specs on }
    return .ofText? (← Conversation.hold partners profile rounds s)

/-- What a model asks for in so many replies, as long as each asks for something. -/
def requested : Nat → List Value → List ToolRequest
  | 0, _ | _, [] => []
  | n + 1, v :: rest =>
    match scriptedReply v with
    | .error _ => []
    | .ok reply => if reply.hasToolCalls then reply.toolCalls ++ requested n rest else []

theorem toolset_apply (on : ToolSource) (w : World Routine Outcome Seat Host) :
    toolset on w = (.ok (w.host.toolset on), w) := rfl

/-- A request by a confined name is dealt with as it is documented. -/
theorem useTool_of_confines {on : ToolSource} {w : World Routine Outcome Seat Host} {specs : List ToolSpec}
    (told : (w.host.toolset on).specifications = .ok specs) {r : ToolRequest}
    (confined : (w.host.toolset on).confines r.name = true) (agent : String) :
    useTool agent (some on) r w = useOffered agent specs on r w := by
  have offered : (specs.map (·.name)).contains r.name = true ↔
      (w.host.toolset on).routed? r.name = some .tool := by
    rw [(Toolset.names_of_specifications told).1]
    exact Toolset.contains_toolNames confined
  have looks : useTool agent (some on) r w = _ := Act.bind_apply_of_ok (toolset_apply on w) _
  rw [looks, useOffered]
  unfold Toolset.confines at confined
  by_cases tool : (w.host.toolset on).routed? r.name = some .tool
  · rw [if_pos (offered.mpr tool)]
    have calls : callOn on { operation := r.name, named := r.arguments } w = _ :=
      Act.bind_apply_of_ok (toolset_apply on w) _
    simp only [tool] at calls ⊢
    rcases routed : Act.route performer (toolRoutine on { operation := r.name, named := r.arguments }) w
      with ⟨e | o, w'⟩
    · rw [Act.bind_apply_of_error routed] at calls ⊢
      rw [Act.bind_apply_of_error calls]
    · rw [Act.bind_apply_of_ok routed] at calls ⊢
      rw [Act.bind_apply_of_ok calls]
  · rw [if_neg (mt offered.mp tool)]
    cases known : (w.host.toolset on).routed? r.name with
    | none => rfl
    | some a =>
      rw [known] at confined tool
      cases a with
      | tool => exact absurd rfl tool
      | own a => cases confined
      | other a =>
        cases a with
        | tool t | operation signature => cases confined
        | value v =>
          cases v <;> first | rfl | cases confined

theorem host_of_useOffered {agent : String} {specs : List ToolSpec} {on : ToolSource} {r : ToolRequest}
    {w w' : World Routine Outcome Seat Host} {text : String}
    (used : useOffered agent specs on r w = (.ok text, w')) : w'.host = w.host := by
  unfold useOffered at used
  split at used
  · rcases routed : Act.route performer (toolRoutine on { operation := r.name, named := r.arguments }) w
      with ⟨e | o, w₁⟩
    · rw [Act.bind_apply_of_error routed] at used
      cases used
    · rw [Act.bind_apply_of_ok routed] at used
      cases used
      exact host_of_route_tool routed
  · cases used

/-! ## Conversations -/

section Conversation

variable {on : ToolSource} {specs : List ToolSpec} {s : Toolset} (agent : String) (model : Nat)

/-- Those whom the agent talks with. -/
def partners (agent : String) (model : Nat) (on : ToolSource) (specs : List ToolSpec) : Partners Do :=
  { tools := specs, ask := ask model, use := useTool agent (some on) }

/-- Those whom the agent talks with as it is documented. -/
def offeredPartners (agent : String) (model : Nat) (on : ToolSource) (specs : List ToolSpec) : Partners Do :=
  { tools := specs, ask := ask model, use := useOffered agent specs on }

theorem answers_of_confines (told : s.specifications = .ok specs) {requests : List ToolRequest}
    (confined : ∀ r ∈ requests, s.confines r.name = true) {w : World Routine Outcome Seat Host}
    (same : w.host.toolset on = s) :
    Conversation.answers (partners agent model on specs) requests w =
        Conversation.answers (offeredPartners agent model on specs) requests w ∧
      ∀ messages w', Conversation.answers (offeredPartners agent model on specs) requests w = (.ok messages, w') →
        w'.host = w.host := by
  induction requests generalizing w with
  | nil => exact ⟨rfl, fun _ _ h => by cases h; rfl⟩
  | cons r rest ih =>
    rw [List.forall_mem_cons] at confined
    have first : (partners agent model on specs).use r w = (offeredPartners agent model on specs).use r w :=
      useTool_of_confines (by rw [same]; exact told) (by rw [same]; exact confined.1) agent
    rw [Conversation.answers, Conversation.answers]
    rcases used : (offeredPartners agent model on specs).use r w with ⟨e | text, w₁⟩
    · rw [Act.bind_apply_of_error (first.trans used), Act.bind_apply_of_error used]
      exact ⟨rfl, fun _ _ h => by cases h⟩
    · have kept := host_of_useOffered used
      rw [Act.bind_apply_of_ok (first.trans used), Act.bind_apply_of_ok used]
      obtain ⟨equal, keeps⟩ := ih confined.2 (w := w₁) (by rw [kept]; exact same)
      rw [Act.bind_apply, Act.bind_apply, equal]
      refine ⟨rfl, fun messages w' others => ?_⟩
      rcases answered : Conversation.answers (offeredPartners agent model on specs) rest w₁ with ⟨e | texts, w₂⟩
      · rw [answered] at others
        cases others
      · rw [answered] at others
        cases others
        exact (keeps texts _ answered).trans kept

/-- As long as a model asks for confined names, the conversation is the documented one. -/
theorem converse_of_confines (told : s.specifications = .ok specs) (exceeded : Failure) (rounds : Nat)
    {messages : List Message} {w : World Routine Outcome Seat Host} (same : w.host.toolset on = s)
    (confined : ∀ r ∈ requested rounds (w.host.model model).replies, s.confines r.name = true) :
    Conversation.converse (partners agent model on specs) exceeded (rounds + 1) messages w =
      Conversation.converse (offeredPartners agent model on specs) exceeded (rounds + 1) messages w := by
  induction rounds generalizing messages w with
  | zero => rfl
  | succ rounds ih =>
    rw [Conversation.converse, Conversation.converse]
    show (ask model _ >>= _) w = (ask model _ >>= _) w
    rcases asks : ask model { messages, tools := specs } w with ⟨e | reply, w₁⟩
    · exact (Act.bind_apply_of_error asks _).trans (Act.bind_apply_of_error asks _).symm
    · refine (Act.bind_apply_of_ok asks _).trans (Eq.trans ?_ (Act.bind_apply_of_ok asks _).symm)
      by_cases calls : reply.hasToolCalls = true
      · obtain ⟨v, rest, script, replied, left, kept⟩ := ask_ok asks
        rw [script, requested, replied] at confined
        simp only [calls, if_true, List.forall_mem_append] at confined
        have same₁ : w₁.host.toolset on = s := (kept on).trans same
        obtain ⟨equal, keeps⟩ := answers_of_confines agent model told confined.1 same₁
        simp only [calls, if_true, Nat.succ_ne_zero, if_false]
        rw [Act.bind_apply, Act.bind_apply, equal]
        rcases answered : Conversation.answers (offeredPartners agent model on specs) reply.toolCalls w₁
          with ⟨e | texts, w₂⟩
        · rfl
        · have host := keeps texts w₂ answered
          refine ih (by rw [host]; exact same₁) ?_
          rw [host, left]
          exact confined.2
      · simp only [calls]
        rfl

theorem hold_of_confines (told : s.specifications = .ok specs) (profile : Profile) (rounds : Int)
    (scope : Scope) {w : World Routine Outcome Seat Host} (same : w.host.toolset on = s)
    (confined : ∀ r ∈ requested rounds.toNat (w.host.model model).replies, s.confines r.name = true) :
    Conversation.hold (partners agent model on specs) profile rounds scope w =
      Conversation.hold (offeredPartners agent model on specs) profile rounds scope w := by
  unfold Conversation.hold
  cases Conversation.opening profile scope with
  | nil => rfl
  | cons first others =>
    rcases Int.lt_or_le rounds 0 with none | some
    · have never : (rounds + 1).toNat = 0 := by omega
      simp only [never]
      rfl
    · have often : (rounds + 1).toNat = rounds.toNat + 1 := by omega
      simp only [often]
      exact converse_of_confines agent model told _ _ same confined

end Conversation

/-- As long as a model asks for confined names, the agent is the documented one. -/
theorem invoke_of_confines (profile : Profile) (model : Nat) (on : ToolSource) (rounds : Int) (n : Nat)
    (w : World Routine Outcome Seat Host)
    (confined : ∀ r ∈ requested rounds.toNat (w.host.model model).replies,
      (w.host.toolset on).confines r.name = true) :
    (talker profile model (some on) rounds).invoke n w = (offeredTalker profile model on rounds).invoke n w := by
  have begins {γ : Type} (f : Scope → Do γ) : (Act.scope n >>= f) w = f (w.hub.scope n) w := rfl
  have looks {γ : Type} (f : Toolset → Do γ) : (toolset on >>= f) w = f (w.host.toolset on) w := rfl
  refine (begins _).trans (Eq.trans ?_ (begins _).symm)
  refine (looks _).trans (Eq.trans ?_ (looks _).symm)
  cases told : (w.host.toolset on).specifications with
  | error e => rfl
  | ok specs =>
    have held := hold_of_confines profile.name model told profile rounds (w.hub.scope n) rfl confined
    show (Conversation.hold (partners profile.name model on specs) profile rounds (w.hub.scope n) >>=
        fun text => pure (Value.ofText? text)) w =
      (Conversation.hold (offeredPartners profile.name model on specs) profile rounds (w.hub.scope n) >>=
        fun text => pure (Value.ofText? text)) w
    rw [Act.bind_apply, Act.bind_apply, held]

/-- What comes of calling something that is no tool, on the spot. -/
def callExposed (on : ToolSource) (c : ToolCall) (a : RoutedAttribute)
    (w : World Routine Outcome Seat Host) : Result Value × World Routine Outcome Seat Host :=
  match a with
  | .own a =>
    match (w.host.toolset on).callOwn c a with
    | .ok (v, s) => (.ok v, { w with host := w.host.withToolset on s })
    | .error e => (.error e, w)
  | .tool => ((w.host.toolset on).call w.context.guarded c, w)
  | .other a => ((w.host.toolset on).callAttribute w.context.guarded c a, w)

/-- A request by a name that is not confined is not routed: what is known by the name is called on the spot. -/
theorem useTool_of_exposed {on : ToolSource} {w : World Routine Outcome Seat Host} {r : ToolRequest}
    (exposed : (w.host.toolset on).confines r.name = false) (agent : String) :
    ∃ a, (w.host.toolset on).routed? r.name = some a ∧ a ≠ .tool ∧
      useTool agent (some on) r w =
        let (answer, w') := callExposed on { operation := r.name, named := r.arguments } a w
        (answer.map Value.shown, w') := by
  have looks : useTool agent (some on) r w = _ := Act.bind_apply_of_ok (toolset_apply on w) _
  have calls : callOn on { operation := r.name, named := r.arguments } w = _ :=
    Act.bind_apply_of_ok (toolset_apply on w) _
  unfold Toolset.confines at exposed
  cases known : (w.host.toolset on).routed? r.name with
  | none => simp [known] at exposed
  | some a =>
    rw [known] at exposed
    have called : useTool agent (some on) r w =
        (callOn on { operation := r.name, named := r.arguments } >>= fun v => pure v.shown) w := by
      rw [looks]
      simp only [known]
      cases a with
      | tool => cases exposed
      | own a => rfl
      | other a =>
        cases a with
        | tool t | operation signature => rfl
        | value v => cases v <;> first | rfl | cases exposed
    refine ⟨a, rfl, ?_, ?_⟩
    · rintro rfl
      cases exposed
    rw [called, Act.bind_apply, calls]
    simp only [known]
    cases a with
    | tool => cases exposed
    | own a =>
      cases answered : (w.host.toolset on).callOwn { operation := r.name, named := r.arguments } a with
      | error e => simp only [callExposed, answered]; rfl
      | ok x => simp only [callExposed, answered]; rfl
    | other a =>
      cases answered : (w.host.toolset on).callAttribute w.context.guarded
          { operation := r.name, named := r.arguments } a with
      | error e => simp [callExposed, answered, bind, Act.context, Act.ofResult, Except.map]
      | ok v => simp [callExposed, answered, bind, Act.context, Act.ofResult, Except.map]

/-- Whatever an agent is, whatever its object around a toolset knows, and whatever its model replies: as long
as the model asks for confined names only, the agent calls nothing for it but the tools that it has told the
model about, through the router, and complains about every other name.  What it tells the model about are
tools, which nothing hides.  The names that are not confined are those that the object around the toolset has
for itself and those of what else the toolset knows; a request by such a name is not routed, and what is
known by it is called on the spot. -/
theorem invoke_confined (profile : Profile) (model : Nat) (on : ToolSource) (rounds : Int) (n : Nat)
    (w : World Routine Outcome Seat Host) :
    ((∀ r ∈ requested rounds.toNat (w.host.model model).replies,
        (w.host.toolset on).confines r.name = true) →
      (talker profile model (some on) rounds).invoke n w =
        (offeredTalker profile model on rounds).invoke n w) ∧
    (∀ specs, (w.host.toolset on).specifications = .ok specs → ∀ spec ∈ specs,
      ∃ t ∈ (w.host.toolset on).tools, t.name = spec.name ∧
        (w.host.toolset on).attribute? spec.name = some (.tool t)) ∧
    (∀ name, (w.host.toolset on).confines name = false ↔
      name ∈ Entries.keys Toolset.ownAttributes ∨ name ∉ (w.host.toolset on).toolNames ∧
        ∃ a, (w.host.toolset on).attribute? name = some a ∧ a ≠ .value .null) ∧
    (∀ agent r, (w.host.toolset on).confines r.name = false →
      ∃ a, (w.host.toolset on).routed? r.name = some a ∧ a ≠ .tool ∧
        useTool agent (some on) r w =
          let (answer, w') := callExposed on { operation := r.name, named := r.arguments } a w
          (answer.map Value.shown, w')) :=
  ⟨invoke_of_confines profile model on rounds n w, fun _ told _ => Toolset.tool_of_specifications told,
    fun name => Toolset.confines_eq_false_iff name _, fun agent _ exposed => useTool_of_exposed exposed agent⟩

/-! ## A model that asks for something else -/

namespace Asking

/-- Somebody who talks with a model about tools. -/
def clerk : Profile := { name := "clerk", userMessage := some "Q" }

/-- A reply that asks for something without arguments, as data. -/
def asksFor (name : String) : Value :=
  .dict [("tool_calls", .list [.dict [("id", .text "1"), ("name", .text name)]])]

/-- A model that asks for something and then is content. -/
def before (name : String) : World Routine Outcome Seat Host where
  host := { models := [{ replies := [asksFor name, .dict [("text", .text "done")]] }] }

/-- The toolbox can describe itself; that is no tool, and the model that asks for it is answered. -/
theorem not_forall_offered : ¬ ∀ (profile : Profile) (model : Nat) (on : ToolSource) (rounds : Int) (n : Nat)
    (w : World Routine Outcome Seat Host),
    (talker profile model (some on) rounds).invoke n w = (offeredTalker profile model on rounds).invoke n w := by
  intro offered
  have same := congrArg (fun x => x.1.isOk) (offered clerk 0 .toolbox 1 0 (before "describe"))
  have answered : ((talker clerk 0 (some .toolbox) 1).invoke 0 (before "describe")).1.isOk = true := by
    decide +kernel
  have refused : ((offeredTalker clerk 0 .toolbox 1).invoke 0 (before "describe")).1.isOk = false := by
    decide +kernel
  simp only [answered, refused] at same
  cases same

/-- A model that asks for a tool is answered through the router, as it is documented. -/
theorem confined_nothing :
    (∀ r ∈ requested 1 ((before "nothing").host.model 0).replies,
      ((before "nothing").host.toolset .toolbox).confines r.name = true) ∧
    (talker clerk 0 (some .toolbox) 1).invoke 0 (before "nothing") =
      (offeredTalker clerk 0 .toolbox 1).invoke 0 (before "nothing") ∧
    ((talker clerk 0 (some .toolbox) 1).invoke 0 (before "nothing")).1.isOk = true := by
  have confined : ∀ r ∈ requested 1 ((before "nothing").host.model 0).replies,
      ((before "nothing").host.toolset .toolbox).confines r.name = true := by
    decide +kernel
  exact ⟨confined, (invoke_confined clerk 0 .toolbox 1 0 (before "nothing")).1 confined, by decide +kernel⟩

end Asking
end Program
end Rendezvous
