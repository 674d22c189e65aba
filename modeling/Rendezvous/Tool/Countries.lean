import Rendezvous.Tool.Toolset

/-!
# Look-ups about countries

Two tools with canned answers, so that a demonstration needs no service.  Capitals do not matter in the
name of a country; of the letters that the known names are written with, only those without accents
have a small form that could match.
-/

namespace Rendezvous.Countries

/-- A table of answers, and how to say that there is none for a country. -/
structure LookUp where
  answers : List (String × String)
  unknown : String → String

/-- Answers about the number of inhabitants. -/
def population : LookUp where
  answers := [
    ("france", "France has approximately 68 million inhabitants (2024)."),
    ("germany", "Germany has approximately 84 million inhabitants (2024)."),
    ("japan", "Japan has approximately 124 million inhabitants (2024).")]
  unknown country := country ++ " population data is not available in this demo."

/-- Answers about the capital. -/
def capital : LookUp where
  answers := [
    ("france", "The capital of France is Paris."),
    ("germany", "The capital of Germany is Berlin."),
    ("japan", "The capital of Japan is Tokyo.")]
  unknown country := "Capital city for " ++ country ++ " is not available in this demo."

/-- The answer about a country. -/
def LookUp.answer (t : LookUp) (country : String) : String :=
  (t.answers.lookup (country.map Char.toLower)).getD (t.unknown country)

/-- The table behind a tool. -/
def lookUp? : String → Option LookUp
  | "get_capital" => some capital
  | "get_population" => some population
  | _ => none

/-- What a tool answers: texts name countries, and nothing else has capitals to take away. -/
def perform (tool : String) (b : Bound) : Result Value :=
  match lookUp? tool, b.get "country" with
  | some table, .text country => .ok (.text (table.answer country))
  | some _, v =>
    .error (.of (.noAttribute ("'" ++ v.kindName ++ "' object has no attribute 'lower'")))
  | none, _ => .error (Toolset.noAttribute "ResearchTools" tool)

/-- The tools, in alphabetical order. -/
def toolset : Toolset where
  kind := "ResearchTools"
  tools := [
    { name := "get_capital"
      described := some "Returns the official capital city of a given country"
      signature := [{ name := "country", type := .text }] },
    { name := "get_population"
      described := some "Looks up real-time population data for a given country"
      signature := [{ name := "country", type := .text }] }]
  perform _ := perform

end Rendezvous.Countries
