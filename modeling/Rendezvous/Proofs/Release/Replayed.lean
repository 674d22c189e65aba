import Rendezvous.Orchestration.Script
import Rendezvous.Proofs.Release.Played

/-!
# Walks are orchestrations over oracles

What a walk has been replied up to the end of its drive is what the course of the orchestration is walked with
(`Walk.Reachable.tracks`), and an oracle can reply the same again (`Drive.Walks.replayed`).  So a walk that has ended is an
orchestration over an oracle, but for steps that have reported late (`Walk.Reachable.replayed`).
-/

namespace Rendezvous

set_option autoImplicit false

/-- Of a single step, one thing comes. -/
theorem Together.singleton {o : StepOrder} {outcomes : List (StepOrder × Result StepReport)}
    (together : Together [o] outcomes) : ∃ r, outcomes = [(o, r)] := by
  obtain ⟨rest, among, all⟩ := together
  have length := among.length_eq
  rw [List.length_append, List.length_map, List.length_singleton] at length
  cases outcomes with
  | nil =>
    rw [all rfl] at length
    cases length
  | cons outcome later =>
    rw [List.length_cons] at length
    obtain rfl : later = [] := List.length_eq_zero_iff.mp (by omega)
    obtain rfl : rest = [] := List.length_eq_zero_iff.mp (by omega)
    obtain ⟨o', r⟩ := outcome
    obtain rfl : o' = o := List.singleton_perm_singleton.mp among
    exact ⟨r, rfl⟩

/-- Where nothing has failed, something has come of every step. -/
theorem Together.length_eq {os : List StepOrder} {outcomes : List (StepOrder × Result StepReport)}
    (together : Together os outcomes) (fine : (outcomes.map Reply.ofStep).findSome? Reply.failure? = none) :
    outcomes.length = os.length := by
  obtain ⟨rest, among, all⟩ := together
  have length := among.length_eq
  rwa [all fine, List.append_nil, List.length_map] at length

theorem Together.length_le {os : List StepOrder} {outcomes : List (StepOrder × Result StepReport)}
    (together : Together os outcomes) : outcomes.length ≤ os.length := by
  obtain ⟨rest, among, -⟩ := together
  have length := among.length_eq
  rw [List.length_append, List.length_map] at length
  omega

/-! ## Replies that are replied again -/

/-- The steps among some replies, and what has come of them. -/
def outcomesOf (replies : List Reply) : List (StepOrder × Result StepReport) :=
  replies.filterMap fun
    | .step o r => some (o, r)
    | _ => none

theorem outcomesOf_ofStep (outcomes : List (StepOrder × Result StepReport)) (rest : List Reply) :
    outcomesOf (outcomes.map Reply.ofStep ++ rest) = outcomes ++ outcomesOf rest := by
  induction outcomes with
  | nil => rfl
  | cons outcome later ih => exact congrArg (outcome :: ·) ih

open Classical in
/-- The oracle that replies what has been replied, as far as that goes. -/
noncomputable def Oracle.replay (replies : List Reply) : Oracle where
  step past o := match replies[past.length]? with
    | some (.step _ r) => r
    | _ => .ok (Script.report o)
  gather past os :=
    if Together os ((outcomesOf (replies.drop past.length)).take os.length) then
      (outcomesOf (replies.drop past.length)).take os.length
    else os.map fun o => (o, .ok (Script.report o))
  checkExit past _ := match replies[past.length]? with
    | some (.checkExit _ r) => r
    | _ => .ok true
  checkCondition past _ := match replies[past.length]? with
    | some (.checkCondition _ r) => r
    | _ => .ok true
  complete _ _ := .ok ()

theorem Oracle.replay_serves (replies : List Reply) : (Oracle.replay replies).Serves where
  gathers past os := by
    unfold Oracle.replay
    dsimp only
    split
    · assumption
    · refine ⟨[], ?_, fun _ => rfl⟩
      rw [List.append_nil, List.map_map]
      exact .of_eq (List.map_id _)
  releases _ _ := rfl

/-- What has come of steps side by side comes of them again. -/
theorem Oracle.gather_replay {os : List StepOrder} {outcomes : List (StepOrder × Result StepReport)}
    (together : Together os outcomes) (past rest : List Reply)
    (whole : (outcomes.map Reply.ofStep).findSome? Reply.failure? = none ∨ rest = []) :
    (Oracle.replay (past ++ (outcomes.map Reply.ofStep ++ rest))).gather past os = outcomes := by
  have again : (outcomesOf ((past ++ (outcomes.map Reply.ofStep ++ rest)).drop past.length)).take os.length =
      outcomes := by
    rw [List.drop_left, outcomesOf_ofStep]
    rcases whole with fine | rfl
    · exact List.take_left' (together.length_eq fine)
    · exact (List.append_nil outcomes).symm ▸ List.take_of_length_le together.length_le
  unfold Oracle.replay
  dsimp only
  rw [again, if_pos together]

section Again

variable (past rest : List Reply)

theorem Oracle.step_replay (o : StepOrder) (r : Result StepReport) :
    (Oracle.replay (past ++ .step o r :: rest)).step past o = r := by
  simp [Oracle.replay]

theorem Oracle.checkExit_replay (o : ExitOrder) (r : Result Bool) :
    (Oracle.replay (past ++ .checkExit o r :: rest)).checkExit past o = r := by
  simp [Oracle.replay]

theorem Oracle.checkCondition_replay (o : ConditionOrder) (r : Result Bool) :
    (Oracle.replay (past ++ .checkCondition o r :: rest)).checkCondition past o = r := by
  simp [Oracle.replay]

end Again

/-- The rest of a course goes on from one reply more. -/
theorem Drive.run_onward {d : Drive} {p p' : Progress} {replies past : List Reply} {f : Option Failure} (a : Reply)
    (runs : (d.run (Oracle.replay (past ++ [a] ++ replies)).activities p).run (past ++ [a]) =
      ((p', f), past ++ [a] ++ replies)) :
    (d.run (Oracle.replay (past ++ a :: replies)).activities p).run (past ++ [a]) =
      ((p', f), past ++ [a] ++ replies) := by
  rwa [List.append_assoc past [a] replies] at runs ⊢

/-- A drive that is walked is run over the oracle that replies the same again. -/
theorem Drive.Walks.replayed {d : Drive} {p p' : Progress} {replies : List Reply} {f : Option Failure}
    (walks : Walks Together d p replies p' f) (past : List Reply) :
    (d.run (Oracle.replay (past ++ replies)).activities p).run past = ((p', f), past ++ replies) := by
  induction walks generalizing past with
  | finish p =>
    rw [List.append_nil]
    rfl
  | iteration _ ih | skip _ ih => exact ih past
  | step r _ ih => exact Oracle.reply_bind (Oracle.step_replay past _ _ _) (run_onward _ (ih _))
  | stepFails f => exact Oracle.bind_run (Oracle.reply_of_eq (Oracle.step_replay past [] _ _)) _
  | checkExit holds _ ih =>
    rw [Drive.run]
    exact Oracle.reply_bind (Oracle.checkExit_replay past _ _ _) (run_onward _ (ih _))
  | checkExitFails f =>
    rw [Drive.run]
    exact Oracle.bind_run (Oracle.reply_of_eq (Oracle.checkExit_replay past [] _ _)) _
  | checkCondition holds _ ih =>
    rw [Drive.run]
    exact Oracle.reply_bind (Oracle.checkCondition_replay past _ _ _) (run_onward _ (ih _))
  | checkConditionFails f =>
    rw [Drive.run]
    exact Oracle.bind_run (Oracle.reply_of_eq (Oracle.checkCondition_replay past [] _ _)) _
  | steps outcomes together all _ ih =>
    obtain ⟨-, fine⟩ := Prod.mk.inj ((Progress.reportAll_eq _ outcomes).symm.trans all)
    have runs := ih (past ++ outcomes.map Reply.ofStep)
    rw [List.append_assoc] at runs
    refine (Oracle.bind_run (Oracle.steps_of_eq (Oracle.gather_replay together past _ (.inl fine))) _).trans ?_
    rw [all]
    exact runs
  | stepsFail f outcomes together all =>
    have gathers := Oracle.gather_replay together past [] (.inr rfl)
    rw [List.append_nil] at gathers
    refine (Oracle.bind_run (Oracle.steps_of_eq gathers) _).trans ?_
    rw [all]
    rfl

namespace Walk

variable {s : OrchestrationStart} {w w' : Walk} {past : List Reply} {p : Progress} {os : List StepOrder}
  {next : Drive}

theorem credit_nil (p : Progress) : credit p [] = p := congrArg (fun steps => { p with steps }) (List.append_nil _)

theorem credit_append (p : Progress) (a b : List Reply) : credit p (a ++ b) = credit (credit p a) b := by
  simp only [credit, List.filterMap_append, List.append_assoc]

/-! ## The course of a walk -/

/-- After some replies, what remains of the course is a drive, and it goes on with a progress. -/
def Leads (s : OrchestrationStart) (past : List Reply) (d : Drive) (p : Progress) : Prop :=
  ∀ rest p' f, Drive.Walks Together d p rest p' f → Drive.Walks Together (Drive.of s) {} (past ++ rest) p' f

/-- After some replies, the course goes on with whatever comes of some steps side by side. -/
structure Gathers (s : OrchestrationStart) (past : List Reply) (p : Progress) (os : List StepOrder) (next : Drive) :
    Prop where
  leads : ∀ outcomes, Together os outcomes → (outcomes.map Reply.ofStep).findSome? Reply.failure? = none →
    Leads s (past ++ outcomes.map Reply.ofStep) next (credit p (outcomes.map Reply.ofStep))
  ends : ∀ outcomes f, Together os outcomes → (outcomes.map Reply.ofStep).findSome? Reply.failure? = some f →
    Drive.Walks Together (Drive.of s) {} (past ++ outcomes.map Reply.ofStep) (credit p (outcomes.map Reply.ofStep))
      (some f)

theorem Leads.steps (leads : Leads s past (.steps os next) p) : Gathers s past p os next where
  leads outcomes together fine rest p' f walks := by
    rw [List.append_assoc]
    exact leads _ _ _ (.steps outcomes together (by rw [Progress.reportAll_eq, fine]; rfl) walks)
  ends outcomes f together fails :=
    leads _ _ _ (.stepsFail f outcomes together (by rw [Progress.reportAll_eq, fails]; rfl))

theorem Leads.step {o : StepOrder} (leads : Leads s past (.step o next) p) : Gathers s past p [o] next where
  leads outcomes together fine rest p' f walks := by
    obtain ⟨r, rfl⟩ := together.singleton
    cases r with
    | ok r =>
      rw [List.append_assoc]
      exact leads _ _ _ (.step r walks)
    | error g => cases fine
  ends outcomes f together fails := by
    obtain ⟨r, rfl⟩ := together.singleton
    cases r with
    | ok r => cases fails
    | error g =>
      obtain rfl : g = f := Option.some.inj fails
      rw [List.map_singleton, Reply.ofStep, credit_of_error]
      exact leads _ _ _ (.stepFails g)

/-- A gathering has come to some outcomes, and the others are under way or still to be asked for. -/
def Gathered (s : OrchestrationStart) (w : Walk) (unasked : List StepOrder) (failure : Option Failure)
    (next : Drive) : Prop :=
  ∃ past p os, ∃ outcomes : List (StepOrder × Result StepReport),
    Gathers s past p os next ∧ (outcomes.map Prod.fst ++ (w.underway ++ unasked)).Perm os ∧
    (outcomes.map Reply.ofStep).findSome? Reply.failure? = failure ∧
    w.replies = past ++ outcomes.map Reply.ofStep ∧ w.progress = credit p (outcomes.map Reply.ofStep)

/-- The course has been walked to its end, and what has been replied since does not matter for that. -/
def Decided (s : OrchestrationStart) (w : Walk) (v : Result OrchestrationResult) : Prop :=
  ∃ replies late p f, Drive.Walks Together (Drive.of s) {} replies p f ∧ v = f.elim (.ok (p.result s)) .error ∧
    w.replies = replies ++ late ∧ w.progress = credit p late

/-- What a walk has been replied is what the course has been walked with so far. -/
def Tracks (s : OrchestrationStart) (w : Walk) : Place → Prop
  | .going d => Leads s w.replies d w.progress
  | .gathering unasked failure next => Gathered s w unasked failure next
  | .asking q next => (∀ b, Leads s (w.replies ++ [q.reply (.ok b)]) (next b) w.progress) ∧
      ∀ f, Drive.Walks Together (Drive.of s) {} (w.replies ++ [q.reply (.error f)]) w.progress (some f)
  | .decided v | .releasing v | .ended v => Decided s w v

/-- Some steps are to run side by side, and nothing has come of them yet. -/
theorem Gathers.gathered (gathers : Gathers s w.replies w.progress os next) (idle : w.underway = []) :
    Gathered s (w.goTo (.gathering os none next) []) os none next := by
  refine ⟨w.replies, w.progress, os, [], gathers, ?_, rfl, ?_, (credit_nil w.progress).symm⟩
  · show (w.underway ++ os).Perm os
    rw [idle]
    exact .refl os
  · exact (w.replies_goTo_asked _ rfl).trans (List.append_nil _).symm

/-- Something has come of one more step. -/
theorem Gathered.close {unasked : List StepOrder} {failure : Option Failure} {i : Nat} {o : StepOrder}
    (gathered : Gathered s w unasked failure next) (there : w.underway[i]? = some o) (r : Result StepReport)
    (underway : w'.underway = w.underway.eraseIdx i) (replies : w'.replies = w.replies ++ [.step o r])
    (progress : w'.progress = credit w.progress [.step o r]) :
    Gathered s w' unasked (failure.or (Act.failure? r)) next := by
  obtain ⟨past, p, os, outcomes, gathers, among, failed, all, credited⟩ := gathered
  have one : [(o, r)].map Reply.ofStep = [.step o r] := rfl
  refine ⟨past, p, os, outcomes ++ [(o, r)], gathers, ?_, ?_, ?_, ?_⟩
  · obtain ⟨inside, rfl⟩ := List.getElem?_eq_some_iff.mp there
    have split := (List.getElem_cons_eraseIdx_perm inside).append_right unasked
    rw [underway, List.map_append, List.append_assoc]
    exact (split.append_left _).trans among
  · rw [List.map_append, List.findSome?_append, failed]
    cases r <;> rfl
  · rw [replies, all, List.map_append, one, List.append_assoc]
  · rw [progress, credited, List.map_append, credit_append, one]

/-- What is replied after the end of the drive does not matter for it. -/
theorem Decided.later {v : Result OrchestrationResult} (decided : Decided s w v) {a : List Reply}
    (replies : w'.replies = w.replies ++ a) (progress : w'.progress = credit w.progress a) : Decided s w' v := by
  obtain ⟨before, late, p, f, walks, result, all, credited⟩ := decided
  refine ⟨before, late ++ a, p, f, walks, result, ?_, ?_⟩
  · rw [replies, all, List.append_assoc]
  · rw [progress, credited, credit_append]

/-- The course has just been walked to its end. -/
theorem Decided.now {replies : List Reply} {p : Progress} {f : Option Failure} {v : Result OrchestrationResult}
    (walks : Drive.Walks Together (Drive.of s) {} replies p f) (result : v = f.elim (.ok (p.result s)) .error)
    (same : w'.replies = replies) (progress : w'.progress = p) : Decided s w' v :=
  ⟨replies, [], p, f, walks, result, same.trans (List.append_nil _).symm, progress.trans (credit_nil p).symm⟩

/-- A question is asked, and the course goes on with its answer or comes to its end. -/
theorem Tracks.asking {q : Ensemble.Question} {next : Bool → Drive}
    (on : ∀ b, Leads s (w.replies ++ [q.reply (.ok b)]) (next b) w.progress)
    (ends : ∀ f, Drive.Walks Together (Drive.of s) {} (w.replies ++ [q.reply (.error f)]) w.progress (some f))
    (entries : List Entry) (silent : repliesOf entries = []) :
    Tracks s (w.goTo (.asking q next) entries) (.asking q next) := by
  have same := w.replies_goTo_asked (.asking q next) silent
  refine ⟨fun b => ?_, fun f => ?_⟩
  · rw [same]
    exact on b
  · rw [same]
    exact ends f

/-- A step is replied in a gathering, or after the end of the drive. -/
theorem Tracks.close {i : Nat} {o : StepOrder} (tracks : Tracks s w w.place) (busy : w.place.quiet ≠ true)
    (there : w.underway[i]? = some o) (r : Result StepReport) (fine : w.place.outcome? = none → Act.failure? r = none)
    (underway : w'.underway = w.underway.eraseIdx i) (replies : w'.replies = w.replies ++ [.step o r])
    (progress : w'.progress = credit w.progress [.step o r]) : Tracks s w' w.place := by
  cases at_ : w.place with
  | going d | asking q next =>
    rw [at_] at busy
    exact absurd rfl busy
  | gathering unasked failure next =>
    rw [at_] at tracks fine
    have gathered := Gathered.close tracks there r underway replies progress
    rw [fine rfl, Option.or_none] at gathered
    exact gathered
  | decided v | releasing v | ended v =>
    rw [at_] at tracks
    exact Decided.later tracks replies progress

theorem Step.tracks (step : Step s w w') (balanced : Balanced s w) (tracks : Tracks s w w.place) :
    Tracks s w' w'.place := by
  have idle := balanced.idle
  cases step with
  | iteration n next at_ =>
    rw [at_] at tracks
    exact fun rest p' f walks => tracks rest p' f (.iteration walks)
  | skip i next at_ =>
    rw [at_] at tracks
    exact fun rest p' f walks => tracks rest p' f (.skip walks)
  | order o next at_ =>
    rw [at_] at tracks idle
    exact (Leads.step tracks).gathered (idle rfl)
  | orderAll os next at_ =>
    rw [at_] at tracks idle
    exact (Leads.steps tracks).gathered (idle rfl)
  | ask o rest failure next at_ =>
    rw [at_] at tracks
    obtain ⟨past, p, os, outcomes, gathers, among, failed, all, credited⟩ := tracks
    refine ⟨past, p, os, outcomes, gathers, ?_, failed, ?_, credited⟩
    · show (outcomes.map Prod.fst ++ ((w.underway ++ [o]) ++ rest)).Perm os
      rwa [List.append_assoc]
    · exact (w.replies_goTo_asked (.gathering rest failure next) rfl).trans all
  | succeed i o r there goes =>
    exact tracks.close (balanced.not_quiet there) there (.ok r) (fun _ => rfl) rfl (w.replies_close i o _) rfl
  | failLate i o f there late goes =>
    have ended : w.place.outcome? ≠ none := Option.isSome_iff_ne_none.mp late
    exact tracks.close (balanced.not_quiet there) there (.error f) (fun none => absurd none ended) rfl
      (w.replies_close i o _) (credit_of_error w.progress o f).symm
  | fail i o f unasked failure next there at_ =>
    rw [at_] at tracks
    exact Gathered.close tracks there (.error f) rfl (w.replies_close i o _) (credit_of_error w.progress o f).symm
  | join next at_ all =>
    rw [at_] at tracks
    obtain ⟨past, p, os, outcomes, gathers, among, failed, whole, credited⟩ := tracks
    rw [all] at among
    have leads := gathers.leads outcomes ⟨[], among, fun _ => rfl⟩ failed
    show Leads s (w.goTo (.going next) []).replies next w.progress
    rwa [w.replies_goTo_asked _ rfl, whole, credited]
  | giveUp f next at_ =>
    rw [at_] at tracks
    obtain ⟨past, p, os, outcomes, gathers, among, failed, whole, credited⟩ := tracks
    rw [List.append_nil] at among
    have together : Together os outcomes := ⟨w.underway, among, fun fine => by rw [fine] at failed; cases failed⟩
    exact .now (gathers.ends outcomes f together failed) rfl ((w.replies_goTo_asked _ rfl).trans whole) credited
  | askExit o next at_ =>
    rw [at_] at tracks
    exact Tracks.asking (fun b rest p' f walks => by rw [List.append_assoc]; exact tracks _ _ _ (.checkExit b walks))
      (fun f => tracks _ _ _ (.checkExitFails f)) _ rfl
  | askCondition o next at_ =>
    rw [at_] at tracks
    exact Tracks.asking (fun b rest p' f walks => by rw [List.append_assoc]; exact tracks _ _ _ (.checkCondition b walks))
      (fun f => tracks _ _ _ (.checkConditionFails f)) _ rfl
  | branch q next b at_ =>
    rw [at_] at tracks
    show Leads s (w.goTo (.going (next b)) [.replied (q.reply (.ok b))]).replies (next b) w.progress
    rw [replies_goTo]
    exact tracks.1 b
  | refuse q next f at_ =>
    rw [at_] at tracks
    exact .now (tracks.2 f) rfl (w.replies_goTo _ _) rfl
  | finish at_ =>
    rw [at_] at tracks
    refine .now (tracks [] _ none (.finish w.progress)) rfl ?_ rfl
    exact (w.replies_goTo_asked _ rfl).trans (List.append_nil _).symm
  | release v at_ | released v at_ =>
    rw [at_] at tracks
    exact Decided.later tracks (w.replies_goTo _ _) (credit_nil _).symm

theorem Reachable.tracks (reach : Reachable s w) : Tracks s w w.place := by
  induction reach with
  | opening => exact fun rest p' f walks => walks
  | step reach step ih => exact step.tracks reach.balanced ih

/-- A walk that has ended is an orchestration over an oracle, but for what has been replied after the end of its drive. -/
theorem Reachable.replayed (reach : Reachable s w) (end_ : w.place.isEnded = true) :
    ∃ oracle : Oracle, oracle.Serves ∧ oracle.Plays s w := by
  obtain ⟨v, ended⟩ := Place.eq_ended end_
  have tracks := reach.tracks
  rw [ended] at tracks
  obtain ⟨replies, late, p, f, walks, rfl, all, credited⟩ := tracks
  have runs : ((Drive.of s).run (Oracle.replay ([] ++ replies)).activities {}).run [] = ((p, f), replies) :=
    walks.replayed []
  obtain ⟨last, status, result⟩ := (Oracle.replay ([] ++ replies)).orchestrate_run s runs
  have steps : p.steps = replies.filterMap Reply.report? := walks.steps_eq
  refine ⟨_, Oracle.replay_serves ([] ++ replies), ?_, ⟨replies, late, all, last⟩, ?_⟩
  · rw [result]
    exact ended
  · rw [status, all, List.filterMap_append, ← steps, Walk.status, ended, credited]
    cases f <;> rfl

end Walk
end Rendezvous
