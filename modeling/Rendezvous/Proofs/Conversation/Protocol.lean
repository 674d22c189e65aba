import Rendezvous.Program.Host
import Rendezvous.Proofs.Conversation.Rounds

/-!
# The protocol of a conversation

Whatever model and whatever tools an agent talks with, and whatever they have done before: when there is a prompt, the
conversation keeps to a protocol (`Protocol`, `hold_keeps_protocol`).  It says what each request is made of, how often the
model is asked, which calls are made, and what the conversation comes to.

The agents of programs talk with a scripted model and with the tools of a toolset, through the router; their conversations
are of this kind (`Program.invoke_talker`).
-/

namespace Rendezvous

set_option autoImplicit false

variable {κ α β ω ρ : Type}

namespace Conversation

/-- What is required of the notes of a conversation with so many rounds of calls permitted, and of what it comes to. -/
structure Protocol (tools : List ToolSpec) (text : ρ → String) (first : List Message) (rounds : Nat) (exceeded : Failure)
    (notes : List (Entry ρ)) (r : Result (Option String)) : Prop where
  /-- The first request is the prompts. -/
  begins : (requests notes).head? = some { messages := first, tools }
  /-- Each other one is that before it, the reply, and the answers to the calls of the reply, which have all been made. -/
  continues : ∀ {before between after : List (Entry ρ)} {q q' : ChatRequest} {reply reply' : Result ChatReply},
    notes = before ++ .asked q reply :: (between ++ .asked q' reply' :: after) → requests between = [] →
      ∃ a answers, reply = .ok a ∧ a.hasToolCalls = true ∧ Served text a.toolCalls between answers ∧
        q' = { messages := q.messages ++ asking a :: answers, tools := q.tools }
  /-- Answers are to the calls of the nearest reply before them, one for each, and none is missing. -/
  paired : ∀ q ∈ requests notes, unanswered? q.messages = some []
  /-- What has been sent stays as it is. -/
  kept : (requests notes).Pairwise fun q q' => q.messages <+: q'.messages
  limited : (requests notes).length ≤ rounds + 1
  /-- The calls of so many replies are made, and no others. -/
  made : Unbroken notes → calls notes = ((replies notes).take rounds).flatMap (·.toolCalls)
  /-- The first reply without calls is the last. -/
  plain : ∀ {k : Nat} {a : ChatReply}, (replies notes)[k]? = some a → a.hasToolCalls = false →
    r = .ok a.text ∧ (requests notes).length = k + 1
  /-- Without such a reply there is a complaint after the last permitted request. -/
  insists : Unbroken notes → (∀ q f, .asked q (.error f) ∉ notes) → (∀ a ∈ replies notes, a.hasToolCalls = true) →
    r = .error exceeded ∧ (requests notes).length = rounds + 1
  /-- A model that fails is the end of it. -/
  silent : ∀ {q f}, .asked q (.error f) ∈ notes → r = .error f

theorem Told.protocol {tools : List ToolSpec} {text : ρ → String} {exceeded : Failure} {rounds : Nat}
    {first : List Message} {notes : List (Entry ρ)} {r : Result (Option String)}
    (told : Told tools text exceeded (rounds + 1) first notes r) (settled : unanswered? first = some []) :
    Protocol tools text first rounds exceeded notes r where
  begins := by
    obtain ⟨reply, later, rfl⟩ := told.begins
    rfl
  continues := told.continues
  paired := told.paired settled
  kept := told.kept
  limited := told.length_le
  made := told.calls_eq
  plain := told.ends_plain
  insists := told.exceeds
  silent := told.ends_silent

theorem hold_of_prompted (p : Partners (Act κ α β ω)) {profile : Profile} (rounds : Nat) {s : Scope}
    (prompted : opening profile s ≠ []) : hold p profile rounds s =
      converse p (tooManyRounds profile rounds) (rounds + 1) (opening profile s) := by
  unfold hold
  split
  · exact absurd ‹_› prompted
  · rfl

/-- A model that has some replies, and tools that count their arguments. -/
def rehearsed : Correspondents κ α β (List ChatReply) Nat where
  tools := []
  ask _ := fun w =>
    match w.host with
    | [] => (.error (.of (.breakdown "no reply left")), w)
    | reply :: rest => (.ok reply, { w with host := rest })
  call c := fun w => (.ok c.arguments.length, w)
  text := toString

/-- A reply with two calls, and one that is plain. -/
def twoReplies : List ChatReply := [
  { text := some "well", toolCalls := [{ id := "1", name := "a", arguments := [("x", .null)] }, { id := "2", name := "b" }] },
  { text := some "done" }]

end Conversation

/-! ## The agents of programs -/

namespace Program

open Conversation

/-- What a model asks for, before it is put into words. -/
def called (agent : String) (tools : Option ToolSource) (r : ToolRequest) : Do Value := do
  match tools with
  | none => throw (noTools agent r.name)
  | some on =>
    let s ← toolset on
    match s.routed? r.name with
    | none | some (.other (.value .null)) => throw (noTool agent r.name)
    | some _ => callOn on { operation := r.name, named := r.arguments }

theorem useTool_eq (agent : String) (tools : Option ToolSource) (r : ToolRequest) :
    useTool agent tools r = Value.shown <$> called agent tools r := by
  cases tools with
  | none => rfl
  | some on =>
    rw [map_eq_pure_bind]
    show _ = (toolset on >>= fun s => _) >>= _
    rw [bind_assoc]
    refine congrArg (toolset on >>= ·) (funext fun s => ?_)
    cases s.routed? r.name with
    | none => rfl
    | some a =>
      cases a with
      | tool | own => rfl
      | other a =>
        cases a with
        | tool | operation => rfl
        | value v => cases v <;> rfl

/-- The scripted model and the tools of a program. -/
def company (agent : String) (model : Nat) (tools : Option ToolSource) (specs : List ToolSpec) :
    Correspondents Routine Outcome Seat Host Value where
  tools := specs
  ask := ask model
  call := called agent tools
  text := Value.shown

/-- The conversations of such agents are with those. -/
theorem invoke_talker (profile : Profile) (model : Nat) (tools : Option ToolSource) (rounds : Int) (n : Nat) :
    (talker profile model tools rounds).invoke n = do
      let s ← Act.scope n
      let specs ← match tools with
        | none => pure []
        | some on => do Act.ofResult (← toolset on).specifications
      return .ofText? (← hold (company profile.name model tools specs).partners profile rounds s) := by
  have same (specs : List ToolSpec) : (company profile.name model tools specs).partners =
      { tools := specs, ask := ask model, use := useTool profile.name tools } := by
    rw [funext (useTool_eq profile.name tools)]
    rfl
  simp only [same]
  rfl

end Program
end Rendezvous
