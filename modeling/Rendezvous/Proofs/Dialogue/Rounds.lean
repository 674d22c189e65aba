import Rendezvous.Proofs.Dialogue.Traces

/-!
# The rounds of a loop

What a workflow asks for does not show the iterations in which it asks for nothing.  The story of a course
(`Drive.story`) tells both: the iterations that begin, and what is asked and answered.  It is the story of the running
workflow (`Drive.run_story`).

The story of a loop is made of rounds (`Drive.rounds`).  With an agent to run, or with the question kept for the end of
a pass, every round asks whether the loop is to end before the next one begins.  With neither, the rounds are empty: the
loop goes through all the iterations that it may have and asks for nothing (`Oracle.consults_iff`).
-/

namespace Rendezvous

set_option autoImplicit false

/-- Something that happens in the course of an orchestration. -/
inductive Happening where
  /-- An iteration begins. -/
  | begins (n : Nat)
  | asked (a : Reply)

namespace Happening

def begun? : Happening → Option Nat
  | begins n => some n
  | asked _ => none

def reply? : Happening → Option Reply
  | begins _ => none
  | asked a => some a

theorem filterMap_reply?_map_asked (replies : List Reply) : (replies.map asked).filterMap reply? = replies := by
  rw [List.filterMap_map]
  exact List.filterMap_some

theorem filterMap_begun?_map_asked (replies : List Reply) : (replies.map asked).filterMap begun? = [] := by
  rw [List.filterMap_map]
  exact List.filterMap_eq_nil_iff.mpr fun _ _ => rfl

theorem filterMap_begun?_map_begins (ns : List Nat) : (ns.map begins).filterMap begun? = ns := by
  rw [List.filterMap_map]
  exact List.filterMap_some

theorem filterMap_reply?_map_begins (ns : List Nat) : (ns.map begins).filterMap reply? = [] := by
  rw [List.filterMap_map]
  exact List.filterMap_eq_nil_iff.mpr fun _ _ => rfl

/-- What has been asked before an iteration begins comes before it. -/
theorem eq_of_asked_append {front : List Reply} {rest before after : List Happening} {n : Nat}
    (split : front.map asked ++ rest = before ++ begins n :: after) :
    ∃ middle, before = front.map asked ++ middle ∧ rest = middle ++ begins n :: after := by
  induction front generalizing before with
  | nil => exact ⟨before, rfl, split⟩
  | cons a front ih =>
    cases before with
    | nil => cases (List.cons.inj split).1
    | cons first before =>
      obtain ⟨rfl, later⟩ := List.cons.inj split
      obtain ⟨middle, rfl, after⟩ := ih later
      exact ⟨middle, rfl, after⟩

/-- An iteration that begins in a round or after it is the round itself, or comes after what it asks for. -/
theorem eq_of_begins_append {front : List Reply} {rest before after : List Happening} {first n : Nat}
    (split : begins first :: (front.map asked ++ rest) = before ++ begins n :: after) :
    (n = first ∧ after = front.map asked ++ rest) ∨ ∃ middle, rest = middle ++ begins n :: after := by
  cases before with
  | nil =>
    obtain ⟨same, rfl⟩ := List.cons.inj split
    exact .inl ⟨(begins.inj same).symm, rfl⟩
  | cons head before =>
    obtain ⟨middle, -, rest⟩ := eq_of_asked_append (List.cons.inj split).2
    exact .inr ⟨middle, rest⟩

end Happening

open Happening

/-! ## The story of a course -/

namespace Drive

/-- What happens in a course over an oracle. -/
def story (oracle : Oracle) : Drive → List Reply → List Happening
  | finish, _ => []
  | iteration n next, past => begins n :: (next ()).story oracle past
  | skip _ next, past => next.story oracle past
  | step order next, past =>
    let r := oracle.step past order
    asked (.step order r) :: match r with
      | .ok _ => next.story oracle (past ++ [.step order r])
      | .error _ => []
  | steps orders next, past =>
    let replies := (oracle.gather past orders).map Reply.ofStep
    replies.map asked ++ match replies.findSome? Reply.failure? with
      | none => next.story oracle (past ++ replies)
      | some _ => []
  | checkExit order next, past =>
    let r := oracle.checkExit past order
    asked (.checkExit order r) :: match r with
      | .ok holds => (next holds).story oracle (past ++ [.checkExit order r])
      | .error _ => []
  | checkCondition order next, past =>
    let r := oracle.checkCondition past order
    asked (.checkCondition order r) :: match r with
      | .ok holds => (next holds).story oracle (past ++ [.checkCondition order r])
      | .error _ => []
termination_by structural d => d

/-- The iteration that a story has come to. -/
def lastBegun (story : List Happening) (before : Nat) : Nat := ((story.filterMap begun?).getLast?).getD before

theorem lastBegun_asked (replies : List Reply) (story : List Happening) (before : Nat) :
    lastBegun (replies.map asked ++ story) before = lastBegun story before := by
  rw [lastBegun, List.filterMap_append, filterMap_begun?_map_asked, List.nil_append, lastBegun]

theorem lastBegun_begins (n : Nat) (story : List Happening) (before : Nat) :
    lastBegun (begins n :: story) before = lastBegun story n := by
  rw [lastBegun, lastBegun, show (begins n :: story).filterMap begun? = n :: story.filterMap begun? from rfl,
    List.getLast?_cons]
  rfl

/-- The story is that of the running workflow: it tells what has been asked for, and the iteration that the workflow has
come to. -/
theorem run_story (oracle : Oracle) (d : Drive) (p : Progress) (past : List Reply) : ∃ p' f,
    (d.run oracle.activities p).run past = ((p', f), past ++ (d.story oracle past).filterMap reply?) ∧
      p'.iteration = lastBegun (d.story oracle past) p.iteration := by
  induction d generalizing p past with
  | finish => exact ⟨p, none, by rw [story, List.filterMap_nil, List.append_nil]; rfl, rfl⟩
  | iteration n next ih =>
    obtain ⟨p', f, runs, last⟩ := ih () { p with iteration := n } past
    exact ⟨p', f, runs, last.trans (lastBegun_begins n _ _).symm⟩
  | skip i next ih => exact ih { p with skipped := p.skipped ++ [i] } past
  | step o next ih =>
    cases answers : oracle.step past o with
    | error f =>
      have told : (step o next).story oracle past = [asked (.step o (.error f))] := by rw [story, answers]
      rw [told]
      exact ⟨p, some f, Oracle.bind_run (Oracle.reply_of_eq answers) _, rfl⟩
    | ok r =>
      have told : (step o next).story oracle past =
          asked (.step o (.ok r)) :: next.story oracle (past ++ [.step o (.ok r)]) := by rw [story, answers]
      obtain ⟨p', f, runs, last⟩ := ih (p.report r) (past ++ [.step o (.ok r)])
      rw [told]
      exact ⟨p', f, Oracle.reply_bind answers runs, last⟩
  | steps os next ih =>
    obtain ⟨q, all, same⟩ : ∃ q, p.reportAll ((oracle.gather past os).map Prod.snd) =
        (q, ((oracle.gather past os).map Reply.ofStep).findSome? Reply.failure?) ∧ q.iteration = p.iteration :=
      ⟨_, p.reportAll_eq _, rfl⟩
    cases fails : ((oracle.gather past os).map Reply.ofStep).findSome? Reply.failure? with
    | some f =>
      refine ⟨q, some f, (Oracle.bind_run (Oracle.steps_of_eq rfl) _).trans ?_, ?_⟩
      · simp only [all, fails, story, List.append_nil, filterMap_reply?_map_asked]
        rfl
      · simp only [story, fails, lastBegun_asked]
        exact same
    | none =>
      obtain ⟨p', f, runs, last⟩ := ih q (past ++ (oracle.gather past os).map Reply.ofStep)
      refine ⟨p', f, (Oracle.bind_run (Oracle.steps_of_eq rfl) _).trans ?_, ?_⟩
      · simp only [all, fails, story, List.filterMap_append, filterMap_reply?_map_asked, ← List.append_assoc]
        exact runs
      · simp only [story, fails, lastBegun_asked]
        rw [last, same]
  | checkExit o next ih =>
    cases answers : oracle.checkExit past o with
    | error f =>
      have told : (checkExit o next).story oracle past = [asked (.checkExit o (.error f))] := by rw [story, answers]
      rw [told, Drive.run]
      exact ⟨p, some f, Oracle.bind_run (Oracle.reply_of_eq answers) _, rfl⟩
    | ok holds =>
      have told : (checkExit o next).story oracle past =
          asked (.checkExit o (.ok holds)) :: (next holds).story oracle (past ++ [.checkExit o (.ok holds)]) := by
        rw [story, answers]
      obtain ⟨p', f, runs, last⟩ := ih holds p (past ++ [.checkExit o (.ok holds)])
      rw [told, Drive.run]
      exact ⟨p', f, Oracle.reply_bind answers runs, last⟩
  | checkCondition o next ih =>
    cases answers : oracle.checkCondition past o with
    | error f =>
      have told : (checkCondition o next).story oracle past = [asked (.checkCondition o (.error f))] := by
        rw [story, answers]
      rw [told, Drive.run]
      exact ⟨p, some f, Oracle.bind_run (Oracle.reply_of_eq answers) _, rfl⟩
    | ok holds =>
      have told : (checkCondition o next).story oracle past = asked (.checkCondition o (.ok holds)) ::
          (next holds).story oracle (past ++ [.checkCondition o (.ok holds)]) := by rw [story, answers]
      obtain ⟨p', f, runs, last⟩ := ih holds p (past ++ [.checkCondition o (.ok holds)])
      rw [told, Drive.run]
      exact ⟨p', f, Oracle.reply_bind answers runs, last⟩

end Drive

theorem lastBegun_of_begun {story : List Happening} {k : Nat} (begun : story.filterMap begun? = List.range' 1 k) :
    Drive.lastBegun story 0 = k := by
  rw [Drive.lastBegun, begun, List.getLast?_range']
  split
  · rename_i none
    exact none.symm
  · show 1 + k - 1 = k
    omega

/-- The failure that a running workflow stops at is the first of the answers. -/
theorem Drive.failure_of_run {oracle : Oracle} {d : Drive} {p p' : Progress} {replies : List Reply} {f : Option Failure}
    (runs : (d.run oracle.activities p).run [] = ((p', f), replies)) : replies.findSome? Reply.failure? = f := by
  obtain ⟨replies', q, g, runs', walks⟩ := @run_walks (fun _ _ => True) oracle (fun _ _ => trivial) d p []
  rw [List.nil_append, runs] at runs'
  cases runs'
  exact walks.failure_eq

/-! ## The rounds of a loop -/

/-- The loop has been told to go on, whenever it has asked. -/
def Oracle.GoesOn (oracle : Oracle) (replies : List Reply) : Prop :=
  ∀ o r, .checkExit o r ∈ replies → r = .ok false ∧ ∃ past, oracle.checkExit past o = .ok false

/-- The rest of a pass: an answer ends the loop, or all has been asked and the loop goes on. -/
inductive Passing (oracle : Oracle) (requests : List OrchestrationRequest) (next : Drive) (past : List Reply) :
    List Happening → Prop
  | ends (replies : List Reply) (prefixed : replies.map Reply.request <+: requests) (some : replies ≠ []) :
      Passing oracle requests next past (replies.map asked)
  | leads (replies : List Reply) (all : replies.map Reply.request = requests) (told : oracle.GoesOn replies) :
      Passing oracle requests next past (replies.map asked ++ next.story oracle (past ++ replies))

/-- Rounds, counted from a number on, of which there may be so many. -/
inductive Rounds (oracle : Oracle) (requests : Nat → List OrchestrationRequest) :
    (count first : Nat) → List Happening → Prop
  | none (first : Nat) : Rounds oracle requests 0 first []
  | last {count first : Nat} {replies : List Reply} (prefixed : replies.map Reply.request <+: requests first)
      (some : replies ≠ []) : Rounds oracle requests (count + 1) first (begins first :: replies.map asked)
  | more {count first : Nat} {replies : List Reply} {story : List Happening}
      (all : replies.map Reply.request = requests first) (told : oracle.GoesOn replies)
      (later : Rounds oracle requests count (first + 1) story) :
      Rounds oracle requests (count + 1) first (begins first :: (replies.map asked ++ story))

variable {oracle : Oracle} {requests : List OrchestrationRequest} {next : Drive} {past : List Reply}
  {story : List Happening}

theorem Oracle.GoesOn.nil : oracle.GoesOn [] := nofun

theorem Oracle.GoesOn.append {front back : List Reply} (first : oracle.GoesOn front) (second : oracle.GoesOn back) :
    oracle.GoesOn (front ++ back) :=
  fun o r mem => (List.mem_append.mp mem).elim (first o r) (second o r)

/-- Whoever goes on has been told so each time that he has asked. -/
theorem Oracle.GoesOn.told {replies : List Reply} {o : ExitOrder} (goesOn : oracle.GoesOn replies)
    (asks : .checkExit o ∈ replies.map Reply.request) :
    .checkExit o (.ok false) ∈ replies ∧ ∃ past, oracle.checkExit past o = .ok false := by
  obtain ⟨a, mem, request⟩ := List.mem_map.mp asks
  cases a with
  | checkExit o' r =>
    obtain rfl := OrchestrationRequest.checkExit.inj request
    obtain ⟨rfl, told⟩ := goesOn _ _ mem
    exact ⟨mem, told⟩
  | step | checkCondition | complete => cases request

/-- What follows a part of a pass belongs to the pass as well. -/
theorem Passing.andThen {middle : Drive} {more : List OrchestrationRequest}
    (first : Passing oracle requests middle past story)
    (second : ∀ past, Passing oracle more next past (middle.story oracle past)) :
    Passing oracle (requests ++ more) next past story := by
  cases first with
  | ends front prefixed some => exact .ends front (prefixed.trans (List.prefix_append _ _)) some
  | leads front all told =>
    generalize later : middle.story oracle (past ++ front) = rest
    have passing : Passing oracle more next (past ++ front) rest := later ▸ second _
    cases passing with
    | ends back prefixed some =>
      rw [← List.map_append]
      refine .ends _ ?_ (List.append_ne_nil_of_right_ne_nil front some)
      rw [List.map_append, all]
      exact (List.prefix_append_right_inj _).mpr prefixed
    | leads back all' told' =>
      rw [← List.append_assoc, ← List.map_append, List.append_assoc]
      refine .leads _ ?_ (told.append told')
      rw [List.map_append, all, all']

namespace Drive

variable {id : String}

/-- After a question whether the loop is to end, it ends or goes on. -/
theorem passing_unlessExit (n : Nat) (next : Unit → Drive) (past : List Reply) :
    Passing oracle [.checkExit { plannerId := id, iteration := n }] (next ()) past
      ((unlessExit id n next).story oracle past) := by
  let o : ExitOrder := { plannerId := id, iteration := n }
  have single (r : Result Bool) : [Reply.checkExit o r].map Reply.request <+: [.checkExit o] := List.prefix_rfl
  rw [unlessExit, Drive.story]
  rcases answers : oracle.checkExit past o with f | holds
  · exact .ends _ (single (.error f)) (List.cons_ne_nil _ _)
  · cases holds with
    | true => exact .ends _ (single (.ok true)) (List.cons_ne_nil _ _)
    | false =>
      refine .leads [.checkExit o (.ok false)] rfl fun o' r mem => ?_
      obtain ⟨rfl, rfl⟩ := Reply.checkExit.inj (List.mem_singleton.mp mem)
      exact ⟨rfl, past, answers⟩

theorem passing_step (o : StepOrder) (next : Drive) (past : List Reply) :
    Passing oracle [.step o] next past ((step o next).story oracle past) := by
  rw [Drive.story]
  rcases answers : oracle.step past o with f | r
  · exact .ends [.step o (.error f)] List.prefix_rfl (List.cons_ne_nil _ _)
  · exact .leads [.step o (.ok r)] rfl fun o' r' mem => nomatch List.mem_singleton.mp mem

/-- A pass asks for the steps of its agents, and whether the loop is to end. -/
theorem passing_pass (atEnd : Bool) (n : Nat) (next : Unit → Drive) (indices : List Nat) (past : List Reply) :
    Passing oracle (passRequests id atEnd indices n) (next ()) past
      ((pass id atEnd n next indices).story oracle past) := by
  induction indices generalizing past with
  | nil =>
    cases atEnd with
    | true => exact passing_unlessExit n next past
    | false =>
      have through : Passing oracle [] (next ()) past ((next ()).story oracle (past ++ [])) := .leads [] rfl .nil
      rw [List.append_nil] at through
      exact through
  | cons i rest ih =>
    rw [passRequests_cons]
    cases atEnd with
    | true => exact (passing_step _ _ past).andThen ih
    | false =>
      have asks (past : List Reply) : Passing oracle ([.checkExit { plannerId := id, iteration := n }] ++
          passRequests id false rest n) (next ()) past
          ((unlessExit id n fun _ => pass id false n next rest).story oracle past) :=
        (passing_unlessExit n _ past).andThen ih
      exact (passing_step _ _ past).andThen asks

/-- A loop is made of rounds. -/
theorem rounds (atEnd : Bool) (indices : List Nat) (count first : Nat) (past : List Reply) :
    Rounds oracle (passRequests id atEnd indices) count first
      ((loop id atEnd indices count first).story oracle past) := by
  induction count generalizing first past with
  | zero => exact .none first
  | succ count ih =>
    rw [loop, Drive.story]
    generalize whole :
      (pass id atEnd first (fun _ => loop id atEnd indices count (first + 1)) indices).story oracle past = story
    have passing : Passing oracle _ _ past story := whole ▸ passing_pass atEnd first _ indices past
    cases passing with
    | ends _ prefixed some => exact .last prefixed some
    | leads _ all told => exact .more all told (ih _ _)

end Drive

/-! ## Asking in every round -/

/-- Before another iteration begins, the loop has been told in the one before it to go on. -/
def Consults (id : String) (story : List Happening) : Prop :=
  ∀ before between after n m, story = before ++ begins n :: (between ++ begins m :: after) →
    asked (.checkExit { plannerId := id, iteration := n } (.ok false)) ∈ between

/-- Whoever begins an iteration asks for something in it. -/
def Busy (story : List Happening) : Prop :=
  ∀ before after n, story = before ++ begins n :: after → ∃ a rest, after = asked a :: rest

theorem Busy.nil : Busy [] := fun before _ _ split =>
  absurd split.symm (List.append_ne_nil_of_right_ne_nil before (List.cons_ne_nil _ _))

theorem Consults.nil (id : String) : Consults id [] := fun before _ _ _ _ split =>
  absurd split.symm (List.append_ne_nil_of_right_ne_nil before (List.cons_ne_nil _ _))

theorem Busy.cons {replies : List Reply} (some : replies ≠ []) (busy : Busy story) (first : Nat) :
    Busy (begins first :: (replies.map asked ++ story)) := by
  intro before after n split
  rcases eq_of_begins_append split with ⟨-, rfl⟩ | ⟨middle, rest⟩
  · obtain ⟨a, others, rfl⟩ := List.exists_cons_of_ne_nil some
    exact ⟨a, _, rfl⟩
  · exact busy middle after n rest

theorem Consults.cons {id : String} {replies : List Reply} {first : Nat}
    (asks : story ≠ [] → .checkExit { plannerId := id, iteration := first } (.ok false) ∈ replies)
    (consults : Consults id story) : Consults id (begins first :: (replies.map asked ++ story)) := by
  intro before between after n m split
  rcases eq_of_begins_append split with ⟨rfl, own⟩ | ⟨middle, rest⟩
  · obtain ⟨middle, rfl, rfl⟩ := eq_of_asked_append own.symm
    have goesOn := asks (List.append_ne_nil_of_right_ne_nil middle (List.cons_ne_nil _ _))
    exact List.mem_append_left _ (List.mem_map_of_mem goesOn)
  · exact consults middle between after n m rest

namespace Rounds

variable {requests : Nat → List OrchestrationRequest} {count first : Nat}

/-- Iterations are counted, and a loop begins with the first one. -/
theorem begun (rounds : Rounds oracle requests count first story) : ∃ k, k ≤ count ∧ (0 < count → 0 < k) ∧
    story.filterMap begun? = List.range' first k := by
  induction rounds with
  | none first => exact ⟨0, Nat.le_refl 0, id, rfl⟩
  | @last count first replies prefixed some =>
    refine ⟨1, Nat.succ_pos count, fun _ => Nat.one_pos, ?_⟩
    rw [List.filterMap_cons, filterMap_begun?_map_asked]
    rfl
  | @more count first replies story all told later ih =>
    obtain ⟨k, within, -, begun⟩ := ih
    refine ⟨k + 1, Nat.succ_le_succ within, fun _ => Nat.succ_pos k, ?_⟩
    rw [List.filterMap_cons, List.filterMap_append, filterMap_begun?_map_asked, begun, List.range'_succ]
    rfl

/-- With something to ask for in every round, something is asked for. -/
theorem busy (something : ∀ n, requests n ≠ []) (rounds : Rounds oracle requests count first story) :
    Busy story := by
  induction rounds with
  | none first => exact .nil
  | @last count first replies prefixed some =>
    rw [← List.append_nil (replies.map asked)]
    exact .cons some .nil first
  | @more count first replies story all told later ih =>
    refine .cons (fun none => something first ?_) ih first
    rw [← all, none, List.map_nil]

/-- With the question whether the loop is to end in every round, it is asked before the next round begins. -/
theorem consults {id : String} (asks : ∀ n, .checkExit { plannerId := id, iteration := n } ∈ requests n)
    (rounds : Rounds oracle requests count first story) : Consults id story := by
  induction rounds with
  | none first => exact .nil id
  | @last count first replies prefixed some =>
    rw [← List.append_nil (replies.map asked)]
    exact .cons (absurd rfl) (.nil id)
  | @more count first replies story all told later ih =>
    exact .cons (fun _ => (told.told (all ▸ asks first)).1) ih

/-- A single round has no other one before it. -/
theorem consults_of_single (id : String) (rounds : Rounds oracle requests 1 first story) : Consults id story := by
  cases rounds with
  | @last _ _ replies prefixed some =>
    rw [← List.append_nil (replies.map asked)]
    exact .cons (absurd rfl) (.nil id)
  | more all told later =>
    cases later with
    | none => exact .cons (absurd rfl) (.nil id)

/-- With nothing to ask for, a loop goes through all its iterations. -/
theorem empty (nothing : ∀ n, requests n = []) (rounds : Rounds oracle requests count first story) :
    story = (List.range' first count).map begins := by
  induction rounds with
  | none first => rfl
  | last prefixed some =>
    rw [nothing, List.prefix_nil, List.map_eq_nil_iff] at prefixed
    exact absurd prefixed some
  | more all told later ih =>
    rw [nothing, List.map_eq_nil_iff] at all
    rw [all, ih, List.range'_succ]
    rfl

/-- A loop that is told to end in its first round has no other one. -/
theorem once {id : String} (asks : .checkExit { plannerId := id, iteration := first } ∈ requests first)
    (told : ∀ past, oracle.checkExit past { plannerId := id, iteration := first } = .ok true)
    (rounds : Rounds oracle requests (count + 1) first story) : story.filterMap begun? = [first] := by
  cases rounds with
  | last prefixed some =>
    rw [List.filterMap_cons, filterMap_begun?_map_asked]
    rfl
  | more all goesOn later =>
    obtain ⟨past, goes⟩ := (goesOn.told (all ▸ asks)).2
    rw [told] at goes
    cases goes

end Rounds

/-! ## Whole loops -/

/-- Whether there is something to ask for in every round. -/
def OrchestrationStart.Asks (s : OrchestrationStart) : Prop := 0 < s.agentCount ∨ s.testExitAtLoopEnd = true

theorem OrchestrationStart.Asks.mem_passRequests {s : OrchestrationStart} (asks : s.Asks) (n : Nat) :
    .checkExit { plannerId := s.plannerId, iteration := n } ∈
      passRequests s.plannerId s.testExitAtLoopEnd (List.range s.agentCount) n := by
  cases atEnd : s.testExitAtLoopEnd with
  | true => exact List.mem_append_right _ List.mem_cons_self
  | false =>
    have some : 0 < s.agentCount := asks.resolve_right (by rw [atEnd]; exact Bool.false_ne_true)
    refine List.mem_append_left _ (List.mem_flatMap.mpr ⟨0, List.mem_range.mpr some, ?_⟩)
    exact List.mem_cons_of_mem _ List.mem_cons_self

theorem OrchestrationStart.passRequests_eq_nil {s : OrchestrationStart} (idle : ¬ s.Asks) (n : Nat) :
    passRequests s.plannerId s.testExitAtLoopEnd (List.range s.agentCount) n = [] := by
  obtain ⟨none, atEnd⟩ := not_or.mp idle
  rw [Nat.eq_zero_of_not_pos none, Bool.eq_false_iff.mpr atEnd]
  rfl

/-- What is to be said of a loop, of its story, of what it has asked for, and of what it has ended with. -/
structure Told (oracle : Oracle) (s : OrchestrationStart) (story : List Happening) (replies : List Reply)
    (ended : OrchestrationEnd) : Prop where
  /-- The story tells all that has been asked for before the loop is released. -/
  asked : ∃ released, replies = story.filterMap reply? ++ [.complete s.plannerId released]
  /-- The iterations are those from the first one to the one that the status shows. -/
  begun : ∃ k, 0 < k ∧ k ≤ s.maxIterations ∧ story.filterMap begun? = List.range' 1 k ∧
    ended.status.currentIteration = k
  /-- The loop asks whether it is to end before it goes on, unless it has nothing to ask for. -/
  consults : Consults s.plannerId story ↔ s.Asks ∨ s.maxIterations = 1
  busy : Busy story ↔ s.Asks
  /-- A loop that is told to end as soon as it asks ends in its first iteration. -/
  once : s.Asks → (∀ past, oracle.checkExit past { plannerId := s.plannerId, iteration := 1 } = .ok true) →
    ended.status.currentIteration = 1
  /-- A loop that has nothing to ask for goes through all the iterations that it may have. -/
  spins : ¬ s.Asks → story = (List.range' 1 s.maxIterations).map begins ∧
    ended.status.state = .completed ∧ ended.status.currentIteration = s.maxIterations

/-- A loop consults its exit condition in every iteration if and only if it has an agent to run, or keeps the question
for the end of a pass. -/
theorem Oracle.consults_iff (oracle : Oracle) {s : OrchestrationStart} (loop : s.topology = .loop)
    (limit : 1 ≤ s.maxIterations) :
    Told oracle s ((Drive.of s).story oracle []) ((orchestrate oracle.activities s).run []).2
      ((orchestrate oracle.activities s).run []).1 := by
  have rounds : Rounds oracle (passRequests s.plannerId s.testExitAtLoopEnd (List.range s.agentCount))
      s.maxIterations 1 ((Drive.of s).story oracle []) := by
    rw [Drive.of, loop]
    exact Drive.rounds s.testExitAtLoopEnd _ s.maxIterations 1 []
  obtain ⟨p, f, runs, last⟩ := Drive.run_story oracle (Drive.of s) {} []
  rw [List.nil_append] at runs
  obtain ⟨log, status, -⟩ := oracle.orchestrate_run s runs
  have failure := Drive.failure_of_run runs
  obtain ⟨k, within, some, begun⟩ := rounds.begun
  have iteration : ((orchestrate oracle.activities s).run []).1.status.currentIteration = k := by
    rw [status]
    exact congrArg Int.ofNat (last.trans (lastBegun_of_begun begun))
  refine ⟨⟨_, log⟩, ⟨k, some limit, within, begun, iteration⟩, ⟨fun consults => ?_, fun asks => ?_⟩,
    ⟨fun busy => ?_, fun asks => ?_⟩, fun asks told => ?_, fun idle => ?_⟩
  · by_contra idle
    obtain ⟨idle, several⟩ := not_or.mp idle
    obtain ⟨more, limit⟩ : ∃ more, s.maxIterations = more + 2 := ⟨s.maxIterations - 2, by omega⟩
    have empty := rounds.empty (OrchestrationStart.passRequests_eq_nil idle)
    rw [limit, List.range'_succ, List.range'_succ] at empty
    exact List.not_mem_nil (consults [] [] _ 1 2 empty)
  · rcases asks with asks | single
    · exact rounds.consults asks.mem_passRequests
    · exact (single ▸ rounds).consults_of_single s.plannerId
  · by_contra idle
    obtain ⟨more, limit⟩ : ∃ more, s.maxIterations = more + 1 := ⟨s.maxIterations - 1, by omega⟩
    have empty := rounds.empty (OrchestrationStart.passRequests_eq_nil idle)
    rw [limit, List.range'_succ] at empty
    obtain ⟨a, rest, asked⟩ := busy [] _ 1 empty
    cases more <;> cases asked
  · exact rounds.busy fun n none => List.not_mem_nil (none ▸ asks.mem_passRequests n)
  · obtain ⟨more, limit⟩ : ∃ more, s.maxIterations = more + 1 := ⟨s.maxIterations - 1, by omega⟩
    have once := (limit ▸ rounds).once (asks.mem_passRequests 1) told
    rw [begun] at once
    rw [iteration, show k = 1 by simpa using congrArg List.length once]
    rfl
  · have empty := rounds.empty (OrchestrationStart.passRequests_eq_nil idle)
    rw [empty, filterMap_reply?_map_begins] at failure
    rw [empty, filterMap_begun?_map_begins] at begun
    refine ⟨empty, ?_, ?_⟩
    · rw [status, ← failure]
      rfl
    · rw [iteration, show k = s.maxIterations by simpa using (congrArg List.length begun).symm]

namespace Laps

/-- Steps succeed, and a loop is told to end from an iteration on. -/
def leaving (n : Nat) : Oracle where
  step _ o := .ok { agentIndex := o.agentIndex, agentName := "runner", runId := o.runId }
  gather _ _ := []
  checkExit _ o := .ok (decide (n ≤ o.iteration))
  checkCondition _ _ := .ok true
  complete _ _ := .ok ()

/-- A loop around so many runners. -/
def around (runners : Nat) : OrchestrationStart where
  plannerId := "track"
  topology := .loop
  agentCount := runners
  maxIterations := 3

/-- A loop around one runner is told to end after its second lap, and has been told before to go on. -/
theorem consults_around_one : (around 1).topology = .loop ∧ 1 ≤ (around 1).maxIterations ∧
    Told (leaving 2) (around 1) ((Drive.of (around 1)).story (leaving 2) [])
      ((orchestrate (leaving 2).activities (around 1)).run []).2
      ((orchestrate (leaving 2).activities (around 1)).run []).1 ∧
    ((Drive.of (around 1)).story (leaving 2) []).filterMap begun? = [1, 2] :=
  ⟨rfl, by decide, (leaving 2).consults_iff rfl (by decide), by decide +kernel⟩

/-- A loop around nobody goes three times around although it is to end at once, and asks for nothing. -/
theorem not_forall_consulted : ¬ ∀ (oracle : Oracle) (s : OrchestrationStart), s.topology = .loop →
    1 ≤ s.maxIterations → Consults s.plannerId ((Drive.of s).story oracle []) ∧
      Busy ((Drive.of s).story oracle []) ∧
      ((∀ past o, oracle.checkExit past o = .ok true) →
        ((orchestrate oracle.activities s).run []).1.status.currentIteration = 1) := by
  intro all
  have once := (all (leaving 0) (around 0) rfl (by decide)).2.2 fun past o => rfl
  exact absurd once (by decide)

end Laps
end Rendezvous
