import Rendezvous.Contract.Chat
import Rendezvous.Value.Shown

/-!
# What a routed call brings back

A tool answers with a value, a model with a reply.  The text of an outcome is what the transcript of a
run keeps of it.
-/

namespace Rendezvous

/-- What a routed call brings back. -/
inductive Outcome where
  | value (v : Value)
  | reply (r : ChatReply)
  deriving Inhabited

namespace Outcome

/-- The text that is kept of an outcome: nothing of null, and of a reply its text. -/
def text? : Outcome → Option String
  | value .null => none
  | value v => some v.shown
  | reply r => r.text

/-- An outcome as data. -/
def toValue : Outcome → Value
  | value v => v
  | reply r => r.toValue

end Outcome
end Rendezvous
