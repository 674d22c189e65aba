import Mathlib.Data.List.Chain
import Rendezvous.Proofs.Conversation.Record

/-!
# The rounds of a conversation

Each request of an agent is the one before it, then the reply as a message of the assistant, then an answer for each of its
calls (`Told.continues`).  So every message of a tool answers a call of the assistant, and none is left without an answer
(`unanswered?`, `Told.paired`).  With so many rounds of calls permitted, the model is asked once more at most, and the calls
of that last reply are not made.  `hold_corresponds` is the whole protocol, for any model and any tools.
-/

namespace Rendezvous

set_option autoImplicit false

variable {κ α β ω ρ : Type}

namespace Conversation

/-! ## Calls and answers -/

/-- Take notice of a message while some calls wait for their answers: answers come in the order of the calls, and before
anything else is said. -/
def follow (waiting : List String) (m : Message) : Option (List String) :=
  match m.role with
  | .tool =>
    match waiting, m.toolCallId with
    | id :: rest, some answers => if answers = id then some rest else none
    | _, _ => none
  | _ => if waiting.isEmpty then some (m.toolCalls.map (·.id)) else none

/-- The calls that wait for their answers after some messages; nothing, if a message comes out of turn. -/
def unanswered? (messages : List Message) : Option (List String) := messages.foldlM follow []

/-- The calls have been made in order and have come to something, and these are the answers. -/
def Served (text : ρ → String) (calls : List ToolRequest) (entries : List (Entry ρ)) (answers : List Message) : Prop :=
  ∃ results : List ρ, results.length = calls.length ∧
    entries = List.zipWith (fun c v => .called c (.ok v)) calls results ∧
    answers = List.zipWith (answered text) calls results

/-- A request takes up where another has left off: after a reply and the answers to its calls. -/
def Resumes (text : ρ → String) (q q' : ChatRequest) : Prop :=
  ∃ (reply : ChatReply) (entries : List (Entry ρ)) (answers : List Message),
    Served text reply.toolCalls entries answers ∧ q'.messages = q.messages ++ asking reply :: answers

theorem follow_answered (text : ρ → String) {calls : List ToolRequest} {results : List ρ}
    (all : results.length = calls.length) :
    (List.zipWith (answered text) calls results).foldlM follow (calls.map (·.id)) = some [] := by
  induction calls generalizing results with
  | nil => rfl
  | cons c rest ih =>
    cases results with
    | nil => cases all
    | cons v results =>
      have first : follow ((c :: rest).map (·.id)) (answered text c v) = some (rest.map (·.id)) := if_pos rfl
      rw [List.zipWith_cons_cons, List.foldlM_cons, first]
      exact ih (Nat.succ.inj all)

namespace Resumes

variable {text : ρ → String} {q q' : ChatRequest}

/-- Nothing that has been said is taken back. -/
theorem keeps (resumes : Resumes text q q') : q.messages <+: q'.messages := by
  obtain ⟨reply, entries, answers, -, same⟩ := resumes
  exact same ▸ List.prefix_append q.messages (asking reply :: answers)

/-- A reply and the answers to its calls leave no call without an answer. -/
theorem settled (resumes : Resumes text q q') (settled : unanswered? q.messages = some []) :
    unanswered? q'.messages = some [] := by
  obtain ⟨reply, entries, answers, ⟨results, all, -, rfl⟩, same⟩ := resumes
  have asks : follow [] (asking reply) = some (reply.toolCalls.map (·.id)) := rfl
  unfold unanswered? at settled ⊢
  rw [same, List.foldlM_append, settled, Option.bind_eq_bind, Option.bind_some, List.foldlM_cons, asks]
  exact follow_answered text all

end Resumes

/-- What a conversation begins with leaves no call without an answer. -/
theorem unanswered?_opening (profile : Profile) (s : Scope) : unanswered? (opening profile s) = some [] := by
  unfold opening
  cases rendered? s profile.systemMessage <;> cases rendered? s profile.userMessage <;> rfl

/-! ## Notes -/

def requests (notes : List (Entry ρ)) : List ChatRequest :=
  notes.filterMap fun
    | .asked q _ => some q
    | .called .. => none

/-- What the model has replied. -/
def replies (notes : List (Entry ρ)) : List ChatReply :=
  notes.filterMap fun
    | .asked _ (.ok a) => some a
    | _ => none

/-- The calls that have been made. -/
def calls (notes : List (Entry ρ)) : List ToolRequest :=
  notes.filterMap fun
    | .called c _ => some c
    | .asked .. => none

/-- No call has failed. -/
def Unbroken (notes : List (Entry ρ)) : Prop := ∀ c f, .called c (.error f) ∉ notes

section Notes

variable {front rest front' rest' : List (Entry ρ)} {q q' : ChatRequest} {r r' : Result ChatReply}

theorem requests_asked (q : ChatRequest) (r : Result ChatReply) (later : List (Entry ρ)) :
    requests (.asked q r :: later) = q :: requests later := rfl

theorem replies_asked (q : ChatRequest) (a : ChatReply) (later : List (Entry ρ)) :
    replies (.asked q (.ok a) :: later) = a :: replies later := rfl

theorem calls_asked (q : ChatRequest) (r : Result ChatReply) (later : List (Entry ρ)) :
    calls (.asked q r :: later) = calls later := rfl

theorem requests_append (front rest : List (Entry ρ)) : requests (front ++ rest) = requests front ++ requests rest :=
  List.filterMap_append

theorem replies_append (front rest : List (Entry ρ)) : replies (front ++ rest) = replies front ++ replies rest :=
  List.filterMap_append

theorem calls_append (front rest : List (Entry ρ)) : calls (front ++ rest) = calls front ++ calls rest :=
  List.filterMap_append

/-- The first request comes at one place. -/
theorem eq_of_first_request (none : requests front = []) (none' : requests front' = [])
    (same : front ++ .asked q r :: rest = front' ++ .asked q' r' :: rest') :
    front = front' ∧ q = q' ∧ r = r' ∧ rest = rest' := by
  induction front generalizing front' with
  | nil =>
    cases front' with
    | nil =>
      obtain ⟨head, tail⟩ := List.cons.inj same
      obtain ⟨rfl, rfl⟩ := Entry.asked.inj head
      exact ⟨rfl, rfl, rfl, tail⟩
    | cons e front' =>
      obtain ⟨rfl, -⟩ := List.cons.inj same
      cases none'
  | cons e front ih =>
    cases e with
    | asked p s => cases none
    | called c v =>
      cases front' with
      | nil => cases (List.cons.inj same).1
      | cons e' front' =>
        obtain ⟨rfl, tail⟩ := List.cons.inj same
        have none' : requests front' = [] := none'
        obtain ⟨rfl, others⟩ := ih none none' tail
        exact ⟨rfl, others⟩

/-- What comes before a request is what there is without requests, and more. -/
theorem exists_of_request {before after : List (Entry ρ)} (none : requests front = [])
    (same : front ++ rest = before ++ .asked q r :: after) :
    ∃ middle, before = front ++ middle ∧ rest = middle ++ .asked q r :: after := by
  induction front generalizing before with
  | nil => exact ⟨before, rfl, same⟩
  | cons e front ih =>
    cases e with
    | asked p s => cases none
    | called c v =>
      cases before with
      | nil => cases (List.cons.inj same).1
      | cons e' before =>
        obtain ⟨rfl, tail⟩ := List.cons.inj same
        obtain ⟨middle, rfl, split⟩ := ih none tail
        exact ⟨middle, rfl, split⟩

/-- A reply without calls comes later than one that has some. -/
theorem later_of_plain {reply a : ChatReply} {later : List ChatReply} {k : Nat} (here : (reply :: later)[k]? = some a)
    (some : reply.hasToolCalls = true) (none : a.hasToolCalls = false) : ∃ j, k = j + 1 ∧ later[j]? = .some a := by
  cases k with
  | zero =>
    cases here
    rw [some] at none
    cases none
  | succ j => exact ⟨j, rfl, here⟩

theorem two_le_requests (before between after : List (Entry ρ)) :
    2 ≤ (requests (before ++ .asked q r :: (between ++ .asked q' r' :: after))).length := by
  rw [requests_append, requests_asked, requests_append, requests_asked]
  simp only [List.length_append, List.length_cons]
  omega

end Notes

/-! ## Rounds of calls -/

namespace Used

variable {text : ρ → String} {made : List ToolRequest} {entries : List (Entry ρ)} {r : Result (List Message)}

theorem requests_eq (used : Used text made entries r) : requests entries = [] := by
  induction used with
  | nil | fails c rest f => rfl
  | cons c v _ ih => exact ih

theorem replies_eq (used : Used text made entries r) : replies entries = [] := by
  induction used with
  | nil | fails c rest f => rfl
  | cons c v _ ih => exact ih

theorem asked_notMem {q : ChatRequest} {s : Result ChatReply} (used : Used text made entries r) :
    .asked q s ∉ entries := by
  induction used with
  | nil => exact List.not_mem_nil
  | fails c rest f => exact fun mem => nomatch List.mem_singleton.mp mem
  | cons c v _ ih => exact fun mem => (List.mem_cons.mp mem).elim (fun same => nomatch same) ih

/-- When nothing has failed, all calls have been made. -/
theorem served {answers : List Message} (used : Used text made entries (.ok answers)) :
    Served text made entries answers := by
  generalize comes : (Except.ok answers : Result (List Message)) = r at used
  induction used generalizing answers with
  | nil =>
    cases comes
    exact ⟨[], rfl, rfl, rfl⟩
  | fails c rest f => cases comes
  | @cons c v rest entries r used ih =>
    cases r with
    | error f => cases comes
    | ok later =>
      obtain ⟨results, all, rfl, rfl⟩ := ih rfl
      cases comes
      exact ⟨v :: results, congrArg Nat.succ all, rfl, rfl⟩

theorem failure_mem {f : Failure} (used : Used text made entries (.error f)) : ∃ c, .called c (.error f) ∈ entries := by
  generalize comes : (Except.error f : Result (List Message)) = r at used
  induction used with
  | nil => cases comes
  | fails c rest g =>
    cases comes
    exact ⟨c, List.mem_cons_self⟩
  | @cons c v rest entries r used ih =>
    cases r with
    | ok later => cases comes
    | error g =>
      obtain ⟨c', mem⟩ := ih comes
      exact ⟨c', List.mem_cons_of_mem _ mem⟩

end Used

theorem Served.calls_eq {text : ρ → String} {made : List ToolRequest} {entries : List (Entry ρ)}
    {answers : List Message} (served : Served text made entries answers) : calls entries = made := by
  obtain ⟨results, all, rfl, -⟩ := served
  induction made generalizing results with
  | nil => rfl
  | cons c rest ih =>
    cases results with
    | nil => cases all
    | cons v results => exact congrArg (c :: ·) (ih results (Nat.succ.inj all))

namespace Told

variable {tools : List ToolSpec} {text : ρ → String} {exceeded : Failure} {n : Nat} {messages : List Message}
  {notes : List (Entry ρ)} {r : Result (Option String)}

/-- The first thing is to ask the model. -/
theorem begins (told : Told tools text exceeded (n + 1) messages notes r) :
    ∃ reply later, notes = .asked { messages, tools } reply :: later := by
  cases told with
  | silent | plain | last | breaks | goesOn => exact ⟨_, _, rfl⟩

/-- The model is not asked more often than it may be. -/
theorem length_le (told : Told tools text exceeded n messages notes r) : (requests notes).length ≤ n := by
  induction told with
  | never => exact Nat.le_refl 0
  | silent | plain => exact Nat.succ_le_succ (Nat.zero_le _)
  | last => exact Nat.le_refl 1
  | breaks n messages reply some used =>
    rw [requests_asked, used.requests_eq]
    exact Nat.le_add_left 1 (n + 1)
  | goesOn n messages reply some used rest ih =>
    rw [requests_asked, requests_append, used.requests_eq]
    exact Nat.succ_le_succ ih

/-- The next request is the one before it, the reply, and the answers to its calls. -/
theorem continues (told : Told tools text exceeded n messages notes r) {before between after : List (Entry ρ)}
    {q q' : ChatRequest} {reply reply' : Result ChatReply}
    (split : notes = before ++ .asked q reply :: (between ++ .asked q' reply' :: after)) (next : requests between = []) :
    ∃ a answers, reply = .ok a ∧ a.hasToolCalls = true ∧ Served text a.toolCalls between answers ∧
      q' = { messages := q.messages ++ asking a :: answers, tools := q.tools } := by
  have two : 2 ≤ (requests notes).length := split ▸ two_le_requests before between after
  induction told generalizing before with
  | never => cases two
  | silent | plain | last => exact absurd two (Nat.lt_irrefl 1)
  | @breaks n messages reply f entries some used =>
    rw [requests_asked, used.requests_eq] at two
    exact absurd two (Nat.lt_irrefl 1)
  | goesOn n messages a some used rest ih =>
    cases before with
    | nil =>
      obtain ⟨same, tail⟩ := List.cons.inj split
      obtain ⟨rfl, rfl⟩ := Entry.asked.inj same
      obtain ⟨r₁, later, rfl⟩ := rest.begins
      obtain ⟨rfl, rfl, -⟩ := eq_of_first_request used.requests_eq next tail
      exact ⟨a, _, rfl, some, used.served, rfl⟩
    | cons e before =>
      obtain ⟨middle, -, tail⟩ := exists_of_request used.requests_eq (List.cons.inj split).2
      exact ih tail (tail ▸ two_le_requests middle between after)

/-- Each request takes up where the one before it has left off. -/
theorem chain (told : Told tools text exceeded n messages notes r) : (requests notes).IsChain (Resumes text) := by
  induction told with
  | never => exact .nil
  | silent | plain | last => exact .singleton _
  | breaks n messages reply some used =>
    rw [requests_asked, used.requests_eq]
    exact .singleton _
  | goesOn n messages reply some used rest ih =>
    rw [requests_asked, requests_append, used.requests_eq]
    obtain ⟨next, later, rfl⟩ := rest.begins
    exact .cons_cons ⟨reply, _, _, used.served, rfl⟩ ih

/-- Later requests leave what has been sent as it is, and add to it. -/
theorem kept (told : Told tools text exceeded n messages notes r) :
    (requests notes).Pairwise fun q q' => q.messages <+: q'.messages := by
  let Kept (q q' : ChatRequest) : Prop := q.messages <+: q'.messages
  have onward : Trans Kept Kept Kept := ⟨List.IsPrefix.trans⟩
  exact List.isChain_iff_pairwise.mp (told.chain.imp fun _ _ => Resumes.keeps)

/-- In every request each answer of a tool is that to a call, and no call is without an answer. -/
theorem paired (told : Told tools text exceeded n messages notes r) (settled : unanswered? messages = some []) :
    ∀ q ∈ requests notes, unanswered? q.messages = some [] := by
  refine told.chain.induction _ _ (fun q q' resumes => resumes.settled) fun some => ?_
  cases n with
  | zero =>
    cases told
    exact absurd rfl some
  | succ n =>
    obtain ⟨reply, later, rfl⟩ := told.begins
    exact settled

/-- The calls of all replies are made, except of a reply to the last permitted request. -/
theorem calls_eq (told : Told tools text exceeded n messages notes r) (whole : Unbroken notes) :
    calls notes = ((replies notes).take (n - 1)).flatMap (·.toolCalls) := by
  induction told with
  | never | last => rfl
  | silent n => cases n <;> rfl
  | plain n messages reply none =>
    have empty : reply.toolCalls = [] := List.isEmpty_iff.mp (by simpa [ChatReply.hasToolCalls] using none)
    cases n with
    | zero => rfl
    | succ n =>
      rw [replies_asked, Nat.add_sub_cancel, List.take_succ_cons, List.flatMap_cons, empty, List.nil_append]
      show [] = List.flatMap _ (List.take n [])
      rw [List.take_nil]
      rfl
  | breaks n messages reply some used =>
    obtain ⟨c, mem⟩ := used.failure_mem
    exact absurd (List.mem_cons_of_mem _ mem) (whole c _)
  | @goesOn n messages reply answers entries later r some used rest ih =>
    have others := ih fun c f mem => whole c f (List.mem_cons_of_mem _ (List.mem_append_right _ mem))
    rw [calls_asked, calls_append, used.served.calls_eq, others, replies_asked, replies_append, used.replies_eq]
    rfl

/-- A reply without tool calls is the last, and its text is what the conversation comes to. -/
theorem ends_plain (told : Told tools text exceeded n messages notes r) {k : Nat} {a : ChatReply}
    (here : (replies notes)[k]? = some a) (none : a.hasToolCalls = false) :
    r = .ok a.text ∧ (requests notes).length = k + 1 := by
  induction told generalizing k with
  | never | silent => cases here
  | plain n messages reply =>
    cases k with
    | zero =>
      cases here
      exact ⟨rfl, rfl⟩
    | succ k => cases here
  | last messages reply some =>
    obtain ⟨k, -, ⟨⟩⟩ := later_of_plain here some none
  | breaks n messages reply some used =>
    rw [replies_asked, used.replies_eq] at here
    obtain ⟨k, -, ⟨⟩⟩ := later_of_plain here some none
  | goesOn n messages reply some used rest ih =>
    rw [replies_asked, replies_append, used.replies_eq] at here
    obtain ⟨k, rfl, here⟩ := later_of_plain here some none
    obtain ⟨comes, length⟩ := ih here
    rw [requests_asked, requests_append, used.requests_eq]
    exact ⟨comes, congrArg Nat.succ length⟩

/-- While all replies have tool calls, and nothing fails, the model is asked as often as it may be, and then there is a
complaint. -/
theorem exceeds (told : Told tools text exceeded n messages notes r) (whole : Unbroken notes)
    (heard : ∀ q f, .asked q (.error f) ∉ notes) (insists : ∀ a ∈ replies notes, a.hasToolCalls = true) :
    r = .error exceeded ∧ (requests notes).length = n := by
  induction told with
  | never | last => exact ⟨rfl, rfl⟩
  | silent n messages f => exact absurd List.mem_cons_self (heard _ f)
  | plain n messages reply none =>
    rw [insists reply List.mem_cons_self] at none
    cases none
  | breaks n messages reply some used =>
    obtain ⟨c, mem⟩ := used.failure_mem
    exact absurd (List.mem_cons_of_mem _ mem) (whole c _)
  | @goesOn n messages reply answers entries later r some used rest ih =>
    have tail {e : Entry ρ} (mem : e ∈ later) : e ∈ Entry.asked { messages, tools } (.ok reply) :: (entries ++ later) :=
      List.mem_cons_of_mem _ (List.mem_append_right _ mem)
    rw [replies_asked, replies_append, used.replies_eq] at insists
    obtain ⟨comes, length⟩ := ih (fun c f mem => whole c f (tail mem)) (fun q f mem => heard q f (tail mem))
      (fun a mem => insists a (List.mem_cons_of_mem _ mem))
    rw [requests_asked, requests_append, used.requests_eq]
    exact ⟨comes, congrArg Nat.succ length⟩

/-- When the model fails, so does the conversation. -/
theorem ends_silent (told : Told tools text exceeded n messages notes r) {q : ChatRequest} {f : Failure}
    (mem : .asked q (.error f) ∈ notes) : r = .error f := by
  induction told with
  | never => cases mem
  | silent n messages g =>
    obtain ⟨-, ⟨⟩⟩ := Entry.asked.inj (List.mem_singleton.mp mem)
    rfl
  | plain | last => cases (Entry.asked.inj (List.mem_singleton.mp mem)).2
  | breaks n messages reply some used =>
    rcases List.mem_cons.mp mem with same | mem
    · cases (Entry.asked.inj same).2
    · exact absurd mem used.asked_notMem
  | goesOn n messages reply some used rest ih =>
    rcases List.mem_cons.mp mem with same | mem
    · cases (Entry.asked.inj same).2
    · exact ih ((List.mem_append.mp mem).resolve_left used.asked_notMem)

end Told
end Conversation
end Rendezvous
