import Rendezvous.Check

/-!
# Profiles

What an agent is called, where its result goes, and the templates of its prompts.
-/

namespace Rendezvous

/-- The configuration of an agent. -/
structure Profile where
  name : String
  description : String := ""
  /-- The key of the shared state that the result is written to. -/
  outputKey : Option String := none
  userMessage : Option String := none
  systemMessage : Option String := none
  metadata : Entries Value := []
  deriving Inhabited

namespace Profile

/-- Read a profile from data. -/
def check : Value → Checked Profile := Check.object fun e =>
  Profile.mk <$> Check.required Check.text "name" e
    <*> Check.defaulted "" Check.text "description" e
    <*> Check.defaulted none (Check.optional Check.text) "output_key" e
    <*> Check.defaulted none (Check.optional Check.text) "user_message" e
    <*> Check.defaulted none (Check.optional Check.text) "system_message" e
    <*> Check.defaulted [] Check.dict "metadata" e

/-- All fields of a profile. -/
def toValue (p : Profile) : Value := .dict [
  ("name", .text p.name), ("description", .text p.description),
  ("output_key", .ofText? p.outputKey), ("user_message", .ofText? p.userMessage),
  ("system_message", .ofText? p.systemMessage), ("metadata", .dict p.metadata)]

/-- How an agent of the given kind introduces itself. -/
def introduction (kind : String) (p : Profile) : String := kind ++ "(name='" ++ p.name ++ "')"

/-- What is written reads back. -/
@[simp] theorem check_toValue (x : Profile) : check x.toValue = .ok x := by
  simp [check, toValue, Check.required, Check.defaulted, Entries.get?]

end Profile
end Rendezvous
