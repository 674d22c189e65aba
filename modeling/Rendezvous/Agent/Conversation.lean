import Rendezvous.Contract.Chat
import Rendezvous.Profile
import Rendezvous.Template
import Rendezvous.Text.Given
import Rendezvous.Failure

/-!
# Conversations of an agent

An agent that may call tools asks a model, does what the model wants done, and asks again with the answers
added to the conversation, until the model answers without asking for tools.  How often it asks is limited;
the tools that the last permitted reply asks for are not called any more.

The model and the tools are operations of any monad.  `converse_of_answered` says that a reply without tool
calls is the end of the conversation.
-/

namespace Rendezvous

/-- Those whom an agent talks with. -/
structure Partners (m : Type → Type) where
  /-- What the model is told about the tools. -/
  tools : List ToolSpec
  ask : ChatRequest → m ChatReply
  /-- Call a tool: the text of what comes of it. -/
  use : ToolRequest → m String

/-- How many rounds of tool calls a conversation may have, unless something else is said. -/
def defaultToolRounds : Nat := 10

namespace Conversation

/-- The text of a template, unless it comes out empty. -/
def rendered? (s : Scope) (template : Option String) : Option String :=
  Text.given? (template.map fun t => Template.render t s)

/-- The messages that a conversation begins with. -/
def opening (p : Profile) (s : Scope) : List Message :=
  ((rendered? s p.systemMessage).map Message.system).toList
    ++ ((rendered? s p.userMessage).map Message.user).toList

/-- The complaint about a conversation that has nothing to begin with. -/
def noPrompt (p : Profile) : Failure :=
  .of (.badValue ("Agent " ++ p.name ++ " has no user or system message"))

/-- The complaint about a model that goes on asking for tools. -/
def tooManyRounds (p : Profile) (rounds : Int) : Failure :=
  .of (.breakdown ("Agent " ++ p.name ++ " exceeded " ++ toString rounds ++ " tool round(s)"))

/-- The message with which the assistant asks for tools. -/
def asking (r : ChatReply) : Message := { role := .assistant, content := r.text, toolCalls := r.toolCalls }

variable {m : Type → Type} [Monad m] [MonadExceptOf Failure m]

/-- Call the tools that a model asks for, in order. -/
def answers (p : Partners m) : List ToolRequest → m (List Message)
  | [] => pure []
  | c :: rest => do
    let text ← p.use c
    return Message.answer c.id text :: (← answers p rest)

/-- Go on with a conversation in which the model may be asked a number of times. -/
def converse (p : Partners m) (exceeded : Failure) : Nat → List Message → m (Option String)
  | 0, _ => throw exceeded
  | n + 1, messages => do
    let reply ← p.ask { messages, tools := p.tools }
    if reply.hasToolCalls then
      if n = 0 then throw exceeded
      else converse p exceeded n (messages ++ asking reply :: (← answers p reply.toolCalls))
    else return reply.text

/-- The conversation of an agent: the text of the last reply. -/
def hold (p : Partners m) (profile : Profile) (rounds : Int) (s : Scope) : m (Option String) :=
  match opening profile s with
  | [] => throw (noPrompt profile)
  | messages => converse p (tooManyRounds profile rounds) (rounds + 1).toNat messages

/-- A reply that asks for no tools ends the conversation. -/
theorem converse_of_answered [LawfulMonad m] (p : Partners m) (exceeded : Failure) (n : Nat)
    (messages : List Message) (reply : ChatReply) (h : reply.hasToolCalls = false)
    (ha : p.ask { messages, tools := p.tools } = pure reply) :
    converse p exceeded (n + 1) messages = pure reply.text := by
  simp [converse, ha, h]

end Conversation
end Rendezvous
