import Mathlib.Data.List.Basic
import Rendezvous.Agent.Conversation
import Rendezvous.Hub.Act

/-!
# The record of a conversation

The model and the tools of an agent are actions that may do anything (`Correspondents`), and whatever they are asked and
come to can be noted without a difference for anybody (`Correspondents.noting`).  What is noted of a conversation is as
follows, request by request (`Told`, `converse_told`): the model is asked; a reply without tool calls is the end; the calls
of a reply are made in order, and their answers become part of the next request; the calls of the last permitted reply are
not made.
-/

namespace Rendezvous

set_option autoImplicit false

variable {κ α β ω ρ γ ε : Type}

/-! ## Notes -/

/-- The world together with what has been noted so far. -/
def World.keeping (w : World κ α β ω) (notes : List ε) : World κ α β (ω × List ε) := { w with host := (w.host, notes) }

/-- What comes of an action is noted. -/
def Act.noted (note : Result γ → ε) (x : Act κ α β ω γ) : Act κ α β (ω × List ε) γ := fun w =>
  let (r, left) := x { w with host := w.host.1 }
  (r, left.keeping (w.host.2 ++ [note r]))

theorem Act.noted_apply (note : Result γ → ε) (x : Act κ α β ω γ) (w : World κ α β ω) (notes : List ε) :
    noted note x (w.keeping notes) = ((x w).1, (x w).2.keeping (notes ++ [note (x w).1])) := rfl

theorem Act.map_apply {δ : Type} (f : γ → δ) (x : Act κ α β ω γ) (w : World κ α β ω) :
    (f <$> x) w = ((x w).1.map f, (x w).2) := by
  rw [map_eq_pure_bind, bind_apply]
  rcases x w with ⟨_ | a, w'⟩ <;> rfl

namespace Conversation

/-- A model and tools, whatever they do, and the texts of what comes of the tools. -/
structure Correspondents (κ α β ω ρ : Type) where
  tools : List ToolSpec
  ask : ChatRequest → Act κ α β ω ChatReply
  call : ToolRequest → Act κ α β ω ρ
  text : ρ → String

/-- Something that an agent has asked for, and what has come of it. -/
inductive Entry (ρ : Type) where
  | asked (request : ChatRequest) (r : Result ChatReply)
  | called (c : ToolRequest) (r : Result ρ)

namespace Correspondents

/-- Those whom the agent talks with. -/
def partners (c : Correspondents κ α β ω ρ) : Partners (Act κ α β ω) where
  tools := c.tools
  ask := c.ask
  use r := c.text <$> c.call r

/-- All requests and calls are noted. -/
def noting (c : Correspondents κ α β ω ρ) : Correspondents κ α β (ω × List (Entry ρ)) ρ where
  tools := c.tools
  ask q := Act.noted (.asked q) (c.ask q)
  call r := Act.noted (.called r) (c.call r)
  text := c.text

end Correspondents

/-! ## What is noted -/

/-- The answer of a tool, as a message. -/
def answered (text : ρ → String) (c : ToolRequest) (v : ρ) : Message := .answer c.id (text v)

/-- The notes of calls that are made in order, up to the first that fails, and the messages that come of them. -/
inductive Used (text : ρ → String) : List ToolRequest → List (Entry ρ) → Result (List Message) → Prop
  | nil : Used text [] [] (.ok [])
  | fails (c : ToolRequest) (rest : List ToolRequest) (f : Failure) :
      Used text (c :: rest) [.called c (.error f)] (.error f)
  | cons (c : ToolRequest) (v : ρ) {rest : List ToolRequest} {entries : List (Entry ρ)} {r : Result (List Message)}
      (used : Used text rest entries r) :
      Used text (c :: rest) (.called c (.ok v) :: entries) (r.map (answered text c v :: ·))

/-- The notes of a conversation with so many requests left, from some messages on, and what it comes to. -/
inductive Told (tools : List ToolSpec) (text : ρ → String) (exceeded : Failure) :
    Nat → List Message → List (Entry ρ) → Result (Option String) → Prop
  | never (messages : List Message) : Told tools text exceeded 0 messages [] (.error exceeded)
  | silent (n : Nat) (messages : List Message) (f : Failure) :
      Told tools text exceeded (n + 1) messages [.asked { messages, tools } (.error f)] (.error f)
  | plain (n : Nat) (messages : List Message) (reply : ChatReply) (none : reply.hasToolCalls = false) :
      Told tools text exceeded (n + 1) messages [.asked { messages, tools } (.ok reply)] (.ok reply.text)
  | last (messages : List Message) (reply : ChatReply) (some : reply.hasToolCalls = true) :
      Told tools text exceeded 1 messages [.asked { messages, tools } (.ok reply)] (.error exceeded)
  | breaks (n : Nat) (messages : List Message) (reply : ChatReply) {f : Failure} {entries : List (Entry ρ)}
      (some : reply.hasToolCalls = true) (used : Used text reply.toolCalls entries (.error f)) :
      Told tools text exceeded (n + 2) messages (.asked { messages, tools } (.ok reply) :: entries) (.error f)
  | goesOn (n : Nat) (messages : List Message) (reply : ChatReply) {answers : List Message}
      {entries later : List (Entry ρ)} {r : Result (Option String)} (some : reply.hasToolCalls = true)
      (used : Used text reply.toolCalls entries (.ok answers))
      (rest : Told tools text exceeded (n + 1) (messages ++ asking reply :: answers) later r) :
      Told tools text exceeded (n + 2) messages (.asked { messages, tools } (.ok reply) :: (entries ++ later)) r

/-! ## Conversations, request by request -/

section

variable {p : Partners (Act κ α β ω)} {w w' w'' : World κ α β ω} {f exceeded : Failure}

theorem answers_of_error {c : ToolRequest} (fails : p.use c w = (.error f, w')) (rest : List ToolRequest) :
    answers p (c :: rest) w = (.error f, w') := by
  rw [answers, Act.bind_apply_of_error fails]

theorem answers_of_ok {c : ToolRequest} {text : String} (uses : p.use c w = (.ok text, w')) (rest : List ToolRequest) :
    answers p (c :: rest) w =
      ((answers p rest w').1.map (Message.answer c.id text :: ·), (answers p rest w').2) := by
  rw [answers, Act.bind_apply_of_ok uses, Act.bind_apply]
  rcases answers p rest w' with ⟨_ | messages, left⟩ <;> rfl

variable {n : Nat} {messages texts : List Message} {reply : ChatReply}

theorem converse_of_error (asks : p.ask { messages, tools := p.tools } w = (.error f, w')) :
    converse p exceeded (n + 1) messages w = (.error f, w') := by
  rw [converse, Act.bind_apply_of_error asks]

theorem converse_of_plain (asks : p.ask { messages, tools := p.tools } w = (.ok reply, w'))
    (none : reply.hasToolCalls = false) : converse p exceeded (n + 1) messages w = (.ok reply.text, w') := by
  rw [converse, Act.bind_apply_of_ok asks, none]
  rfl

theorem converse_of_last (asks : p.ask { messages, tools := p.tools } w = (.ok reply, w'))
    (some : reply.hasToolCalls = true) : converse p exceeded 1 messages w = (.error exceeded, w') := by
  rw [converse, Act.bind_apply_of_ok asks, some]
  rfl

theorem converse_of_calls (asks : p.ask { messages, tools := p.tools } w = (.ok reply, w'))
    (some : reply.hasToolCalls = true) : converse p exceeded (n + 2) messages w =
      (answers p reply.toolCalls >>= fun texts =>
        converse p exceeded (n + 1) (messages ++ asking reply :: texts)) w' := by
  rw [converse, Act.bind_apply_of_ok asks, some]
  rfl

end

variable (c : Correspondents κ α β ω ρ)

/-- Noting makes no difference, and what is noted is that the calls of a reply are made in order. -/
theorem answers_used (calls : List ToolRequest) (w : World κ α β ω) (notes : List (Entry ρ)) : ∃ entries,
    answers c.noting.partners calls (w.keeping notes) =
      ((answers c.partners calls w).1, (answers c.partners calls w).2.keeping (notes ++ entries)) ∧
    Used c.text calls entries (answers c.partners calls w).1 := by
  induction calls generalizing w notes with
  | nil => exact ⟨[], by rw [List.append_nil]; rfl, .nil⟩
  | cons r rest ih =>
    have uses : c.partners.use r w = _ := Act.map_apply c.text (c.call r) w
    have noted : c.noting.partners.use r (w.keeping notes) =
        ((c.call r w).1.map c.text, (c.call r w).2.keeping (notes ++ [.called r (c.call r w).1])) :=
      Act.map_apply c.text (Act.noted (Entry.called r) (c.call r)) (w.keeping notes)
    rcases called : c.call r w with ⟨f | v, w'⟩ <;> rw [called] at uses noted
    · rw [answers_of_error noted rest, answers_of_error uses rest]
      exact ⟨_, rfl, .fails r rest f⟩
    · obtain ⟨entries, others, used⟩ := ih w' (notes ++ [.called r (.ok v)])
      rw [answers_of_ok noted rest, answers_of_ok uses rest, others, List.append_assoc]
      exact ⟨_, rfl, .cons r v used⟩

/-- Noting makes no difference, and what is noted of a conversation is as it should be. -/
theorem converse_told (exceeded : Failure) (n : Nat) (messages : List Message) (w : World κ α β ω)
    (notes : List (Entry ρ)) : ∃ entries,
    converse c.noting.partners exceeded n messages (w.keeping notes) =
      ((converse c.partners exceeded n messages w).1,
        (converse c.partners exceeded n messages w).2.keeping (notes ++ entries)) ∧
    Told c.tools c.text exceeded n messages entries (converse c.partners exceeded n messages w).1 := by
  induction n generalizing messages w notes with
  | zero => exact ⟨[], by rw [List.append_nil]; rfl, .never messages⟩
  | succ n ih =>
    let request : ChatRequest := { messages, tools := c.tools }
    rcases asks : c.partners.ask request w with ⟨r, w₁⟩
    have noted : c.noting.partners.ask request (w.keeping notes) = (r, w₁.keeping (notes ++ [.asked request r])) := by
      have same := Act.noted_apply (Entry.asked request) (c.ask request) w notes
      rwa [show c.ask request w = _ from asks] at same
    cases r with
    | error f =>
      rw [converse_of_error noted, converse_of_error asks]
      exact ⟨_, rfl, .silent n messages f⟩
    | ok reply =>
      cases some : reply.hasToolCalls with
      | false =>
        rw [converse_of_plain noted some, converse_of_plain asks some]
        exact ⟨_, rfl, .plain n messages reply some⟩
      | true =>
        cases n with
        | zero =>
          rw [converse_of_last noted some, converse_of_last asks some]
          exact ⟨_, rfl, .last messages reply some⟩
        | succ n =>
          rw [converse_of_calls noted some, converse_of_calls asks some]
          obtain ⟨entries, made, used⟩ := answers_used c reply.toolCalls w₁ (notes ++ [.asked request (.ok reply)])
          rcases came : answers c.partners reply.toolCalls w₁ with ⟨f | texts, w₂⟩ <;> rw [came] at made used
          · rw [Act.bind_apply_of_error made, Act.bind_apply_of_error came, List.append_assoc]
            exact ⟨_, rfl, .breaks n messages reply some used⟩
          · obtain ⟨later, others, told⟩ := ih (messages ++ asking reply :: texts) w₂
              (notes ++ [.asked request (.ok reply)] ++ entries)
            rw [Act.bind_apply_of_ok made, Act.bind_apply_of_ok came, others, List.append_assoc, List.append_assoc]
            exact ⟨.asked request (.ok reply) :: (entries ++ later), rfl, .goesOn n messages reply some used told⟩

end Conversation
end Rendezvous
