import Rendezvous.Chat.Completion
import Rendezvous.Proofs.Json.Writing

/-!
# Tool calls go back and forth unchanged

The service offers tool calls whose arguments are JSON texts (`Offers`, `Carries`).  A chat has them as dictionaries, in the
same order; when they are sent back as part of a conversation, the texts are other ones, but of the same dictionaries
(`Sends`).  A call whose text is not JSON for an object spoils the whole reply.  `tool_calls_round_trip` is all of it.
-/

namespace Rendezvous

set_option autoImplicit false

namespace Completion

/-! ## Calls that the service offers -/

/-- A tool call as the service offers it. -/
structure Offers (call : Value) (id name : String) (arguments : Option String) : Prop where
  id : call.field? "id" = some (.text id)
  name : call.field? "name" = some (.text name)
  arguments : (call.field? "arguments").getD .null = .ofText? arguments

/-- The entries that the arguments of an offered call stand for. -/
inductive Carries : Option String → Entries Value → Prop
  | missing : Carries none []
  | empty : Carries (some "") []
  | json {s : String} {entries : Entries Value} (denotes : Json.Denotes s (.dict entries)) : Carries (some s) entries

/-- An offered call is meant as this one. -/
def Means (call : Value) (r : ToolRequest) : Prop := ∃ arguments, Offers call r.id r.name arguments ∧ Carries arguments r.arguments

/-- A text is not JSON for an object. -/
def NoObject (s : String) : Prop := ∀ entries, Json.read? s ≠ some (.dict entries)

theorem ne_empty_of_denotes {s : String} {v : Value} (denotes : Json.Denotes s v) : s ≠ "" := by
  obtain ⟨before, cs, after, -, spelled, -, chars⟩ := denotes
  obtain ⟨c, more, rfl, -⟩ := spelled.head
  rintro rfl
  have none : before ++ (c :: more ++ after) = [] := chars.symm
  simp at none

/-- JSON for something else is not JSON for an object. -/
theorem noObject_of_denotes {s : String} {v : Value} (denotes : Json.Denotes s v) (other : ∀ entries, v ≠ .dict entries) :
    NoObject s := by
  intro entries reads
  rw [Json.read?_of_denotes denotes] at reads
  exact other entries (Option.some.inj reads)

/-- Nor is a text without a brace in front. -/
theorem noObject_of_brace {s : String} (other : ∀ rest, Json.skipSpace s.toList ≠ '\x7b' :: rest) : NoObject s := by
  intro entries reads
  obtain ⟨rest, brace⟩ := Json.brace_of_read? reads
  exact other rest brace

theorem Carries.settled {arguments : Option String} {entries : Entries Value} (carries : Carries arguments entries) :
    Json.Settled (.dict entries) := by
  cases carries with
  | missing | empty => exact .dict List.nodup_nil (List.forall_mem_nil _)
  | json denotes =>
    obtain ⟨before, cs, after, -, spelled, -⟩ := denotes
    exact spelled.settled

/-! ## What a chat makes of them -/

/-- The arguments of an offered call, as data. -/
def argumentsOf : Value → Result Value
  | .text s =>
    match Json.read? (Text.orElse (some s) "\x7b\x7d") with
    | some v => .ok v
    | none => .error (.of .badJson)
  | _ => .ok (.dict [])

theorem toolRequest_eq (call : Value) : toolRequest call =
    (argumentsOf ((call.field? "arguments").getD .null)).bind fun arguments =>
      (ToolRequest.check (.dict [("id", (call.field? "id").getD .null), ("name", (call.field? "name").getD .null),
        ("arguments", arguments)])).toResult := by
  unfold toolRequest
  dsimp only
  generalize (call.field? "arguments").getD .null = arguments
  cases arguments with
  | text s =>
    dsimp only [argumentsOf]
    cases Json.read? (Text.orElse (some s) "\x7b\x7d") with
    | none | some v => rfl
  | null | bool | int | float | list | dict => rfl

theorem argumentsOf_of_carries {arguments : Option String} {entries : Entries Value} (carries : Carries arguments entries) :
    argumentsOf (.ofText? arguments) = .ok (.dict entries) := by
  cases carries with
  | missing => rfl
  | empty =>
    have none : Json.Denotes "\x7b\x7d" (.dict []) :=
      ⟨[], _, [], Json.blank_nil, .emptyDict Json.blank_nil, Json.blank_nil, rfl⟩
    have reads : Json.read? (Text.orElse (some "") "\x7b\x7d") = _ := Json.read?_of_denotes none
    rw [Value.ofText?, argumentsOf, reads]
  | @json s entries denotes =>
    have reads : Json.read? (Text.orElse (some s) "\x7b\x7d") = some (.dict entries) := by
      rw [Text.orElse, Text.given?_some (ne_empty_of_denotes denotes)]
      exact Json.read?_of_denotes denotes
    rw [Value.ofText?, argumentsOf, reads]

theorem toolRequest_of_means {call : Value} {r : ToolRequest} (means : Means call r) : toolRequest call = .ok r := by
  obtain ⟨arguments, ⟨id, name, text⟩, carries⟩ := means
  have whole : ToolRequest.check (.dict [("id", .text r.id), ("name", .text r.name), ("arguments", .dict r.arguments)]) =
      .ok r := ToolRequest.check_toValue r
  rw [toolRequest_eq, id, name, text, argumentsOf_of_carries carries]
  exact congrArg Checked.toResult whole

/-- Arguments that are no object are refused. -/
theorem check_of_ne_dict {v : Value} (other : ∀ entries, v ≠ .dict entries) (id name : Value) :
    ∃ f, (ToolRequest.check (.dict [("id", id), ("name", name), ("arguments", v)])).toResult = .error f := by
  let entries : Entries Value := [("id", id), ("name", name), ("arguments", v)]
  have refused : Check.defaulted [] Check.dict "arguments" entries =
      .error [{ kind := .notDict, path := [.name "arguments"] }] := by
    cases v with
    | dict members => exact absurd rfl (other members)
    | null | bool | int | float | text | list => rfl
  have whole : ToolRequest.check (.dict entries) = (ToolRequest.mk <$> Check.required Check.text "id" entries
      <*> Check.required Check.text "name" entries) <*> Check.defaulted [] Check.dict "arguments" entries := rfl
  show ∃ f, (ToolRequest.check (.dict entries)).toResult = .error f
  rw [whole, refused]
  generalize ToolRequest.mk <$> Check.required Check.text "id" entries <*> Check.required Check.text "name" entries = front
  cases front with
  | ok | error => exact ⟨_, rfl⟩

/-- A call with other arguments is no call. -/
theorem toolRequest_of_noObject {call : Value} {s : String} (text : call.field? "arguments" = some (.text s))
    (some : s ≠ "") (none : NoObject s) : ∃ f, toolRequest call = .error f := by
  rw [toolRequest_eq, text, Option.getD_some, argumentsOf, Text.orElse, Text.given?_some some, Option.getD_some]
  cases reads : Json.read? s with
  | none => exact ⟨_, rfl⟩
  | some v => exact check_of_ne_dict (fun entries same => none entries (by rw [reads, same])) _ _

theorem toolRequests_of_means {calls : List Value} {requests : List ToolRequest}
    (means : List.Forall₂ Means calls requests) : toolRequests (.list calls) = .ok requests := by
  show calls.mapM toolRequest = _
  induction means with
  | nil => rfl
  | cons first rest ih =>
    rw [List.mapM_cons, toolRequest_of_means first, ih]
    rfl

/-- One such call is enough. -/
theorem toolRequests_of_error {calls : List Value} {call : Value} (mem : call ∈ calls)
    (fails : ∃ f, toolRequest call = .error f) : ∃ f, toolRequests (.list calls) = .error f := by
  show ∃ f, calls.mapM toolRequest = .error f
  induction calls with
  | nil => cases mem
  | cons c calls ih =>
    rw [List.mapM_cons]
    cases first : toolRequest c with
    | error f => exact ⟨f, rfl⟩
    | ok r =>
      rcases List.mem_cons.mp mem with rfl | mem
      · obtain ⟨f, failed⟩ := fails
        rw [failed] at first
        cases first
      · obtain ⟨f, failed⟩ := ih mem
        exact ⟨f, by rw [failed]; rfl⟩

/-- A choice as the service offers it. -/
structure Chosen (choice : Value) (content finish : Option String) (calls : List Value) : Prop where
  content : (choice.field? "content").getD .null = .ofText? content
  finish : (choice.field? "finish_reason").getD .null = .ofText? finish
  calls : (choice.field? "tool_calls").getD .null = .list calls

theorem reply_of_means {choice : Value} {content finish : Option String} {calls : List Value}
    {requests : List ToolRequest} (chosen : Chosen choice content finish calls)
    (means : List.Forall₂ Means calls requests) :
    reply choice = .ok { text := content, toolCalls := requests, finishReason := finish } := by
  have read : ChatReply.check (.dict [("text", .ofText? content), ("finish_reason", .ofText? finish)]) =
      .ok { text := content, finishReason := finish } := by
    simp [ChatReply.check, Check.defaulted, Entries.get?]
  unfold reply
  rw [chosen.calls, toolRequests_of_means means, chosen.content, chosen.finish, read]
  rfl

theorem reply_of_error {choice : Value} {calls : List Value} (chosen : (choice.field? "tool_calls").getD .null = .list calls)
    (fails : ∃ f, toolRequests (.list calls) = .error f) : ∃ f, reply choice = .error f := by
  obtain ⟨f, failed⟩ := fails
  refine ⟨f, ?_⟩
  unfold reply
  rw [chosen, failed]
  rfl

/-! ## Calls that are sent -/

/-- A tool call as it is sent to the service: the text of its arguments is JSON for them, and is read as such. -/
structure Sends (call : Value) (r : ToolRequest) : Prop where
  id : call.field? "id" = some (.text r.id)
  called : ∃ function arguments, call.field? "function" = some function ∧
    function.field? "name" = some (.text r.name) ∧ function.field? "arguments" = some (.text arguments) ∧
    Json.Denotes arguments (.dict r.arguments) ∧ Json.read? arguments = some (.dict r.arguments)

theorem sends_toolCall {r : ToolRequest} (settled : Json.Settled (.dict r.arguments)) : Sends (toolCall r) r where
  id := rfl
  called := ⟨_, _, rfl, rfl, rfl, settled.denotes_write, settled.read?_write⟩

/-- What has been offered can be sent. -/
theorem sends_of_means {calls : List Value} {requests : List ToolRequest} (means : List.Forall₂ Means calls requests) :
    List.Forall₂ Sends (requests.map toolCall) requests := by
  induction means with
  | nil => exact .nil
  | cons first rest ih =>
    obtain ⟨arguments, -, carries⟩ := first
    exact .cons (sends_toolCall carries.settled) ih

theorem calls_message (m : Message) :
    ((message m).field? "tool_calls").getD (.list []) = .list (m.toolCalls.map toolCall) := by
  unfold message
  cases calls : m.toolCalls with
  | nil => cases id : Text.given? m.toolCallId <;> rfl
  | cons c rest => rfl

theorem messages_parameters (model : CompletionModel) (r : ChatRequest) :
    Entries.get? "messages" (parameters model r) = some (.list (r.messages.map message)) := rfl

end Completion

namespace CompletionSession

open Completion

variable {s t : CompletionSession} {r : ChatRequest}

theorem kept_of_connect (connects : s.connect = .ok t) : t.model = s.model ∧ t.calls = s.calls := by
  unfold connect at connects
  split at connects
  · cases connects
    exact ⟨rfl, rfl⟩
  · cases built : s.model.client with
    | error f =>
      rw [built] at connects
      cases connects
    | ok c =>
      rw [built] at connects
      cases connects
      exact ⟨rfl, rfl⟩

/-- The first choice is what a chat comes to. -/
theorem chat_of_choice (connects : s.connect = .ok t) {service : Entries Value → Result (List Value)} {choice : Value}
    {others : List Value} (serves : service (parameters s.model r) = .ok (choice :: others)) :
    (s.chat service r).1 = reply choice := by
  unfold chat
  rw [connects]
  show (service (parameters t.model r)).bind firstReply = _
  rw [(kept_of_connect connects).1, serves]
  rfl

/-- What is sent are the parameters of the request. -/
theorem eq_of_calls_chat {service : Entries Value → Result (List Value)} {sent : Entries Value}
    (calls : (s.chat service r).2.calls = s.calls ++ [sent]) : sent = parameters s.model r := by
  unfold chat at calls
  cases connects : s.connect with
  | error f =>
    rw [connects] at calls
    simp at calls
  | ok t =>
    obtain ⟨model, before⟩ := kept_of_connect connects
    rw [connects] at calls
    dsimp only at calls
    rw [before, model] at calls
    exact (List.cons.inj (List.append_cancel_left calls)).1.symm

/-- The calls of the first choice come out of a chat with their ids, their names and their arguments, in order; in a message
of a later request they are sent as what they are.  One whose arguments are not JSON for an object has the chat fail. -/
theorem tool_calls_round_trip (connects : s.connect = .ok t) {service : Entries Value → Result (List Value)}
    {choice : Value} {others calls : List Value} (serves : service (parameters s.model r) = .ok (choice :: others)) :
    (∀ content finish requests, Chosen choice content finish calls → List.Forall₂ Means calls requests →
      (s.chat service r).1 = .ok { text := content, toolCalls := requests, finishReason := finish } ∧
        ∀ (s' : CompletionSession) (service' : Entries Value → Result (List Value)) (r' : ChatRequest) (k : Nat)
          (m : Message) (sent : Entries Value), r'.messages[k]? = some m → m.toolCalls = requests →
          (s'.chat service' r').2.calls = s'.calls ++ [sent] →
          ∃ messages message calls', Entries.get? "messages" sent = some (.list messages) ∧
            messages[k]? = some message ∧ (message.field? "tool_calls").getD (.list []) = .list calls' ∧
            List.Forall₂ Sends calls' requests) ∧
    ((choice.field? "tool_calls").getD .null = .list calls → ∀ call ∈ calls, ∀ text,
      call.field? "arguments" = some (.text text) → text ≠ "" → NoObject text →
        ∃ f, (s.chat service r).1 = .error f) := by
  rw [chat_of_choice connects serves]
  refine ⟨fun content finish requests chosen means => ⟨reply_of_means chosen means, ?_⟩, ?_⟩
  · intro s' service' r' k m sent here same goes
    obtain rfl := eq_of_calls_chat goes
    refine ⟨_, message m, _, messages_parameters s'.model r', ?_, calls_message m, ?_⟩
    · rw [List.getElem?_map, here]
      rfl
    · rw [same]
      exact sends_of_means means
  · intro chosen call mem text here some none
    exact reply_of_error chosen (toolRequests_of_error mem (toolRequest_of_noObject here some none))

/-! ## A pair of calls -/

namespace Pair

/-- One call has a key twice, with a pair of units; the other one has no arguments. -/
def calls : List Value := [
  .dict [("id", .text "1"), ("name", .text "f"),
    ("arguments", .text "\x7b\"k\": 0, \"k\": \"\\uD83D\\ude00\"\x7d")],
  .dict [("id", .text "2"), ("name", .text "g")]]

def requests : List ToolRequest :=
  [{ id := "1", name := "f", arguments := [("k", .text "😀")] }, { id := "2", name := "g" }]

def choice (calls : List Value) : Value := .dict [("tool_calls", .list calls), ("finish_reason", .text "tool_calls")]

theorem denotes_arguments :
    Json.Denotes "\x7b\"k\": 0, \"k\": \"\\uD83D\\ude00\"\x7d" (.dict [("k", .text "😀")]) := by
  have letter : Json.SpelledChars ['k'] (['k'] ++ []) := .cons (.plain (by decide) (by decide) (by decide)) .nil
  have key : Json.SpelledText "k" ['"', 'k', '"'] := @Json.SpelledText.mk "k" _ letter
  have zero : Json.Spelled (.int (0 : Nat)) ['0'] :=
    .int (.plain ⟨List.forall_mem_singleton.mpr rfl, List.cons_ne_nil _ _, fun _ => rfl, rfl⟩)
  have high : Json.SpelledUnit 0xd83d ['D', '8', '3', 'D'] :=
    ⟨13, 8, 3, 13, _, _, _, _, rfl, rfl, ⟨by decide, .inr (by decide)⟩, ⟨by decide, .inl (by decide)⟩,
      ⟨by decide, .inl (by decide)⟩, ⟨by decide, .inr (by decide)⟩⟩
  have low : Json.SpelledUnit 0xde00 ['d', 'e', '0', '0'] :=
    ⟨13, 14, 0, 0, _, _, _, _, rfl, rfl, ⟨by decide, .inl (by decide)⟩, ⟨by decide, .inl (by decide)⟩,
      ⟨by decide, .inl (by decide)⟩, ⟨by decide, .inl (by decide)⟩⟩
  have units : Json.SpelledChars ['😀'] _ := .cons (.pair 0x3d 0x200 (by decide) (by decide) (by decide) high low) .nil
  have face : Json.SpelledText "😀" _ := @Json.SpelledText.mk "😀" _ units
  have members : Json.SpelledMembers [("k", .int (0 : Nat)), ("k", .text "😀")] _ :=
    .cons (.mk Json.blank_nil key Json.blank_nil Json.blank_space zero) Json.blank_nil
      (.last (.mk Json.blank_space key Json.blank_nil Json.blank_space (.text face)) Json.blank_nil)
  exact ⟨[], _, [], Json.blank_nil, .dict members, Json.blank_nil, rfl⟩

theorem means_calls : List.Forall₂ Means calls requests :=
  .cons ⟨_, ⟨rfl, rfl, rfl⟩, .json denotes_arguments⟩ (.cons ⟨none, ⟨rfl, rfl, rfl⟩, .missing⟩ .nil)

/-- A session that is handed its client. -/
def session : CompletionSession := { model := { key := none, model := "m" }, connected := true }

def service (calls : List Value) : Entries Value → Result (List Value) := fun _ => .ok [choice calls]

def first : ChatRequest := { messages := [.user "go"] }

/-- The calls are part of the conversation. -/
def later : ChatRequest := { messages := [.user "go", { role := .assistant, toolCalls := requests }] }

/-- A call with a number for its arguments. -/
def spoilt : List Value := [.dict [("id", .text "3"), ("name", .text "h"), ("arguments", .text " 1.5")]]

/-- The text that is sent is another one than came, and a number is refused. -/
theorem tool_calls_round_trip_pair :
    (session.chat (service calls) first).1 = .ok { toolCalls := requests, finishReason := some "tool_calls" } ∧
      (∃ sent messages message calls', (session.chat (service []) later).2.calls = [sent] ∧
        Entries.get? "messages" sent = some (.list messages) ∧ messages[1]? = some message ∧
        (message.field? "tool_calls").getD (.list []) = .list calls' ∧ List.Forall₂ Sends calls' requests) ∧
      Json.write (.dict [("k", .text "😀")]) = "\x7b\"k\": \"\\ud83d\\ude00\"\x7d" ∧
      ∃ f, (session.chat (service spoilt) first).1 = .error f := by
  have connects : session.connect = .ok session := rfl
  have offered (calls : List Value) : service calls (parameters session.model first) = .ok [choice calls] := rfl
  have chosen (calls : List Value) : Chosen (choice calls) none (some "tool_calls") calls := ⟨rfl, rfl, rfl⟩
  have number : NoObject " 1.5" := by
    refine noObject_of_brace fun rest brace => ?_
    have skips : Json.skipSpace " 1.5".toList = ['1', '.', '5'] := by decide
    rw [skips] at brace
    cases brace
  obtain ⟨comes, goes⟩ :=
    (tool_calls_round_trip connects (offered calls)).1 none (some "tool_calls") requests (chosen calls) means_calls
  obtain ⟨messages, message, calls', sent⟩ := goes session (service []) later 1 _ _ rfl rfl rfl
  exact ⟨comes, ⟨_, messages, message, calls', rfl, sent⟩, rfl,
    (tool_calls_round_trip connects (offered spoilt)).2 rfl _ List.mem_cons_self " 1.5" rfl (by decide) number⟩

end Pair

end CompletionSession
end Rendezvous
