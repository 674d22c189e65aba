import Rendezvous.Agent.Composite
import Rendezvous.Tool.Countries

/-!
# A demonstration: research about countries

A writer that looks facts up and summarises them, at the only step of a sequence.
-/

namespace Rendezvous.Research

/-- The profile of the writer. -/
def writer : Profile where
  name := "research location agent"
  description := "Researches and summarises facts about a country"
  outputKey := some "summary"
  userMessage := some <| "You are a research assistant.\n"
    ++ "Write a concise 2-sentence summary about the country \x7b\x7bcountry\x7d\x7d\n"
    ++ "using the available tools to fetch accurate data.\n" ++ "Return only the summary.\n"

/-- The sequence around the writer. -/
def pipeline : Composite where
  profile := {
    name := "research pipeline", outputKey := some "summary"
    description := "Researches a country and writes a short summary" }
  plan := { id := "", topology := .sequence }

end Rendezvous.Research
