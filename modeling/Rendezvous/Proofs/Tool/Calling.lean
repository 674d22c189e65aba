import Mathlib.Data.List.Nodup
import Rendezvous.Tool.Specification

/-!
# Calls as the specification has them

The schema of a tool's arguments has the properties and the required names that the signature says, in its order
(`properties_argumentEntries`, `required_argumentEntries`).  Arguments that the schema admits are never unexpected, and never come
twice, so all that may go wrong is that some are missing (`bind_of_known`); and what is missing has no default and is no property,
as a model has not been told of it (`lacking_of_admits`).  `callable_iff` says when every call works that a model may make.
-/

namespace Rendezvous

set_option autoImplicit false

/-! ## What a schema says -/

namespace Schema

/-- The names of the properties, in their order. -/
def properties (schema : Entries Value) : List String :=
  match Entries.get? "properties" schema with
  | some (.dict ps) => Entries.keys ps
  | _ => []

/-- The text that a value is. -/
def text? : Value → Option String
  | .text s => some s
  | _ => none

/-- The names of the properties that have to be given. -/
def required (schema : Entries Value) : List String :=
  match Entries.get? "required" schema with
  | some (.list names) => names.filterMap text?
  | _ => []

/-- Arguments as a model may give them: properties only, each at most once, and all that are required. -/
structure Admits (schema object : Entries Value) : Prop where
  once : (Entries.keys object).Nodup
  known : ∀ name ∈ Entries.keys object, name ∈ properties schema
  complete : ∀ name ∈ required schema, name ∈ Entries.keys object

end Schema

/-! ## Named arguments of a call -/

namespace Signature

variable {callee : String} {s : Signature} {object : Entries Value}

/-- Named arguments for known parameters are placed one after the other. -/
theorem foldlM_place (front : Entries Value)
    (known : ∀ name ∈ Entries.keys object, ∃ p ∈ s, p.takesOne = true ∧ p.name = name)
    (once : (Entries.keys (front ++ object)).Nodup) :
    object.foldlM (place callee s) { values := front } = .ok { values := front ++ object } := by
  induction object generalizing front with
  | nil =>
    rw [List.append_nil]
    rfl
  | cons e object ih =>
    obtain ⟨name, value⟩ := e
    obtain ⟨first, others⟩ := List.forall_mem_cons.mp known
    have absent : name ∉ Entries.keys front := by
      rw [Entries.keys, List.map_append, List.nodup_append] at once
      exact fun mem => once.2.2 _ mem _ List.mem_cons_self rfl
    have taken : (s.any fun p => p.takesOne && p.name == name) = true := by
      obtain ⟨p, mem, takes, named⟩ := first
      exact List.any_eq_true.mpr ⟨p, mem, by simp [takes, named]⟩
    have new : Entries.has name front = false := by
      rw [Bool.eq_false_iff, Ne, Entries.has_iff_mem_keys]
      exact absent
    have step : place callee s { values := front } (name, value) = .ok { values := front ++ [(name, value)] } := by
      simp only [place, taken, new, if_true, Bool.false_eq_true, if_false, Entries.put_of_absent absent]
    rw [List.append_cons] at once ⊢
    rw [List.foldlM_cons, step]
    exact ih _ others once

/-- A call by known names only goes wrong if arguments are missing. -/
theorem bind_of_known (known : ∀ name ∈ Entries.keys object, ∃ p ∈ s, p.takesOne = true ∧ p.name = name)
    (once : (Entries.keys object).Nodup) :
    s.bind callee [] object =
      match lacking .positional s { values := object }, lacking .named s { values := object } with
      | [], [] => .ok (completed s { values := object })
      | [], names => .error (missing callee "keyword-only" names)
      | names, _ => .error (missing callee "positional" names) := by
  have placed : object.foldlM (place callee s) {} = .ok { values := object } := foldlM_place [] known once
  have start : ({ values := ((s.ofKind .positional).map (·.name)).zip [], rest := ([] : List Value).drop (s.ofKind .positional).length }
      : Bound) = {} := by simp
  unfold bind
  dsimp only
  rw [start, placed]
  dsimp only [Bind.bind, Except.bind]
  rw [if_neg (by simp)]
  cases lacking .positional s { values := object } with
  | nil => cases lacking .named s { values := object } <;> rfl
  | cons name names => rfl

theorem get?_filterMap (value : Parameter → Option Value) {ps : List Parameter} (distinct : (ps.map (·.name)).Nodup)
    {p : Parameter} (mem : p ∈ ps) :
    Entries.get? p.name (ps.filterMap fun q => (value q).map fun v => (q.name, v)) = value p := by
  induction ps with
  | nil => cases mem
  | cons q ps ih =>
    obtain ⟨absent, distinct⟩ := List.nodup_cons.mp distinct
    rw [List.filterMap_cons]
    rcases List.mem_cons.mp mem with rfl | mem
    · cases given : value p with
      | some v => simp [Entries.get?]
      | none =>
        refine (Entries.get?_eq_none_iff _ _).mpr fun later => ?_
        obtain ⟨e, later, named⟩ := List.mem_map.mp later
        obtain ⟨q, mem, same⟩ := List.mem_filterMap.mp later
        obtain ⟨v, -, rfl⟩ := Option.map_eq_some_iff.mp same
        exact absent (List.mem_map.mpr ⟨q, mem, named⟩)
    · have other : q.name ≠ p.name := fun same => absent (List.mem_map.mpr ⟨p, mem, same.symm⟩)
      cases value q with
      | none => exact ih distinct mem
      | some v =>
        show Entries.get? p.name ((q.name, v) :: _) = _
        rw [Entries.get?, if_neg other]
        exact ih distinct mem

/-- Every parameter that takes one argument has its own, or else its default. -/
theorem get?_completed (distinct : (s.map (·.name)).Nodup) {p : Parameter} (mem : p ∈ s) (takes : p.takesOne = true)
    (b : Bound) : Entries.get? p.name (completed s b).values = (Entries.get? p.name b.values).or p.default := by
  have single : ((s.filter Parameter.takesOne).map (·.name)).Nodup := distinct.sublist (List.filter_sublist.map _)
  exact get?_filterMap (fun q => (Entries.get? q.name b.values).or q.default) single (List.mem_filter.mpr ⟨mem, takes⟩)

end Signature

/-! ## Specifications -/

namespace Tool

variable {t : Tool}

theorem takesOne_iff {p : Parameter} : p.takesOne = true ↔ p.kind = .positional ∨ p.kind = .named := by
  simp [Parameter.takesOne]

theorem takesOne_of_isProperty {p : Parameter} (property : p.isProperty = true) : p.takesOne = true := by
  simp only [Parameter.isProperty, Bool.and_eq_true] at property
  exact property.1.1

/-- The names that no property can have. -/
def unusableNames : List String := configurationName :: reservedNames

/-- The schema of the arguments, where there is one. -/
def argumentEntries (t : Tool) : Entries Value :=
  [("properties", .dict (t.properties.map fun p => (p.name, .dict p.schema)))]
    ++ (if (t.properties.filter Parameter.isRequired).isEmpty then []
      else [("required", .ofTexts ((t.properties.filter Parameter.isRequired).map (·.name)))])
    ++ [("title", .text (t.name ++ "_args")), ("type", .text "object")]

/-- There is a schema, unless a property has a name that none can have. -/
theorem argumentSchema_eq_ok_iff {schema : Entries Value} :
    t.argumentSchema = .ok schema ↔ (∀ p ∈ t.properties, p.name ∉ unusableNames) ∧ t.argumentEntries = schema := by
  have usable : (∀ p ∈ t.properties, p.name ∉ unusableNames) ↔
      t.properties.any (·.name == configurationName) = false ∧
        t.properties.find? (fun p => reservedNames.contains p.name) = none := by
    simp [unusableNames, forall_and]
  rw [usable]
  unfold argumentSchema
  cases t.properties.any (·.name == configurationName) with
  | true =>
    constructor
    · intro made
      cases made
    · rintro ⟨⟨configures, -⟩, -⟩
      cases configures
  | false =>
    cases t.properties.find? (fun p => reservedNames.contains p.name) with
    | some p =>
      constructor
      · intro made
        cases made
      · rintro ⟨⟨-, reserved⟩, -⟩
        cases reserved
    | none => exact ⟨fun made => ⟨⟨rfl, rfl⟩, Except.ok.inj made⟩, fun made => congrArg Except.ok made.2⟩

theorem properties_argumentEntries (t : Tool) : Schema.properties t.argumentEntries = t.properties.map (·.name) := by
  show Entries.keys (t.properties.map fun p => (p.name, Value.dict p.schema)) = _
  rw [Entries.keys, List.map_map]
  rfl

theorem required_argumentEntries (t : Tool) :
    Schema.required t.argumentEntries = (t.properties.filter (·.default.isNone)).map (·.name) := by
  have same : t.properties.filter Parameter.isRequired = t.properties.filter (·.default.isNone) := by
    apply List.filter_congr
    intro p mem
    rw [Parameter.isRequired, takesOne_of_isProperty (List.mem_filter.mp mem).2, Bool.true_and]
  unfold argumentEntries Schema.required
  rw [same]
  cases t.properties.filter (·.default.isNone) with
  | nil => rfl
  | cons p ps =>
    show (((p :: ps).map (·.name)).map Value.text).filterMap Schema.text? = _
    rw [List.filterMap_map]
    exact List.filterMap_some

/-- The names of the parameters of one kind that have to be given, although no property tells of them. -/
def hidden (kind : ParameterKind) (t : Tool) : List String :=
  ((t.signature.ofKind kind).filter fun p => p.default.isNone && !p.isProperty).map (·.name)

theorem mem_hidden {kind : ParameterKind} {name : String} :
    name ∈ t.hidden kind ↔ ∃ p ∈ t.signature, p.default = none ∧ p.isProperty = false ∧ p.kind = kind ∧ p.name = name := by
  simp [hidden, Signature.ofKind, and_assoc]

/-- Nothing is hidden if every parameter that has to be given is a property. -/
theorem hidden_eq_nil_iff : (t.hidden .positional = [] ∧ t.hidden .named = []) ↔
    ∀ p ∈ t.signature, p.isRequired = true → p.isProperty = true := by
  simp only [List.eq_nil_iff_forall_not_mem, mem_hidden]
  constructor
  · rintro ⟨positional, named⟩ p mem required
    rw [Parameter.isRequired, Bool.and_eq_true, Option.isNone_iff_eq_none] at required
    rw [← Bool.not_eq_false]
    intro other
    rcases takesOne_iff.mp required.1 with kind | kind
    · exact positional p.name ⟨p, mem, required.2, other, kind, rfl⟩
    · exact named p.name ⟨p, mem, required.2, other, kind, rfl⟩
  · intro all
    have shown {kind : ParameterKind} (single : kind = .positional ∨ kind = .named) (name : String) :
        ¬ ∃ p ∈ t.signature, p.default = none ∧ p.isProperty = false ∧ p.kind = kind ∧ p.name = name := by
      rintro ⟨p, mem, default, other, rfl, -⟩
      have required : p.isRequired = true := by
        rw [Parameter.isRequired, takesOne_iff.mpr single, default]
        rfl
      rw [all p mem required] at other
      cases other
    exact ⟨shown (.inl rfl), shown (.inr rfl)⟩

section

variable (distinct : (t.signature.map (·.name)).Nodup) {object : Entries Value}
  (admits : Schema.Admits t.argumentEntries object)

include distinct admits

/-- Of arguments that the schema admits, those are missing that no property tells of. -/
theorem lacking_of_admits (kind : ParameterKind) :
    t.signature.lacking kind { values := object } = t.hidden kind := by
  unfold Signature.lacking hidden
  refine congrArg _ (List.filter_congr fun p mem => ?_)
  have mem : p ∈ t.signature := List.mem_of_mem_filter mem
  cases given : p.default with
  | some v => rfl
  | none =>
    have property : Entries.has p.name object = p.isProperty := by
      rw [Bool.eq_iff_iff, Entries.has_iff_mem_keys]
      constructor
      · intro known
        have told := admits.known p.name known
        rw [properties_argumentEntries] at told
        obtain ⟨q, told, same⟩ := List.mem_map.mp told
        obtain ⟨mem', property⟩ := List.mem_filter.mp told
        rwa [← List.inj_on_of_nodup_map distinct mem' mem same]
      · intro property
        apply admits.complete
        rw [required_argumentEntries]
        exact List.mem_map.mpr ⟨p, List.mem_filter.mpr ⟨List.mem_filter.mpr ⟨mem, property⟩, by rw [given]; rfl⟩, rfl⟩
    rw [property]

/-- A call by arguments that the schema admits goes wrong only if something is hidden. -/
theorem bind_of_admits (callee : String) :
    t.signature.bind callee [] object =
      match t.hidden .positional, t.hidden .named with
      | [], [] => .ok (t.signature.completed { values := object })
      | [], names => .error (Signature.missing callee "keyword-only" names)
      | names, _ => .error (Signature.missing callee "positional" names) := by
  have known : ∀ name ∈ Entries.keys object, ∃ p ∈ t.signature, p.takesOne = true ∧ p.name = name := by
    intro name mem
    have told := admits.known name mem
    rw [properties_argumentEntries] at told
    obtain ⟨p, told, named⟩ := List.mem_map.mp told
    obtain ⟨mem, property⟩ := List.mem_filter.mp told
    exact ⟨p, mem, takesOne_of_isProperty property, named⟩
  rw [Signature.bind_of_known known admits.once, lacking_of_admits distinct admits,
    lacking_of_admits distinct admits]

end

theorem specification_eq_ok_iff {spec : ToolSpec} : t.specification = .ok spec ↔
    t.argumentSchema = .ok spec.parameters ∧ spec.name = t.name ∧ spec.description = t.description := by
  unfold specification
  cases t.argumentSchema with
  | error e => exact ⟨nofun, nofun⟩
  | ok schema =>
    obtain ⟨name, description, parameters⟩ := spec
    constructor
    · intro made
      cases made
      exact ⟨rfl, rfl, rfl⟩
    · rintro ⟨⟨⟩, rfl, rfl⟩
      rfl

/-- A tool has a specification if no property has a name that none can have.  The properties are the parameters that take one
argument and have a public name, in the order of the signature, and those without a default are required.  Every call by
arguments that the schema admits works if and only if each parameter without a default is a property.  If it works, each
parameter has the value given for it, or else its default; if not, the complaint is that those are missing which the
specification does not tell of. -/
theorem callable_iff (t : Tool) (distinct : (t.signature.map (·.name)).Nodup) :
    ((∀ p ∈ t.properties, p.name ∉ unusableNames) → ∃ spec, t.specification = .ok spec) ∧
    ∀ spec, t.specification = .ok spec →
      Schema.properties spec.parameters = (t.signature.filter Parameter.isProperty).map (·.name) ∧
      Schema.required spec.parameters =
        ((t.signature.filter Parameter.isProperty).filter (·.default.isNone)).map (·.name) ∧
      ∀ callee object, Schema.Admits spec.parameters object →
        ((∃ b, t.signature.bind callee [] object = .ok b) ↔
          ∀ p ∈ t.signature, p.isRequired = true → p.isProperty = true) ∧
        (∀ b, t.signature.bind callee [] object = .ok b → ∀ p ∈ t.signature, p.takesOne = true →
          Entries.get? p.name b.values = (Entries.get? p.name object).or p.default) ∧
        (∀ failure, t.signature.bind callee [] object = .error failure →
          failure = Signature.missing callee "positional" (t.hidden .positional) ∨
          failure = Signature.missing callee "keyword-only" (t.hidden .named)) := by
  constructor
  · intro usable
    have schema := argumentSchema_eq_ok_iff.mpr ⟨usable, rfl⟩
    exact ⟨⟨t.name, t.description, t.argumentEntries⟩, specification_eq_ok_iff.mpr ⟨schema, rfl, rfl⟩⟩
  · intro spec made
    have entries := (argumentSchema_eq_ok_iff.mp (specification_eq_ok_iff.mp made).1).2
    rw [← entries]
    refine ⟨properties_argumentEntries t, required_argumentEntries t, ?_⟩
    intro callee object admits
    rw [bind_of_admits distinct admits, ← hidden_eq_nil_iff]
    cases t.hidden .positional with
    | cons name names => exact ⟨⟨nofun, nofun⟩, nofun, fun failure failed => .inl (Except.error.inj failed).symm⟩
    | nil =>
      cases t.hidden .named with
      | cons name names => exact ⟨⟨nofun, nofun⟩, nofun, fun failure failed => .inr (Except.error.inj failed).symm⟩
      | nil =>
        refine ⟨⟨fun _ => ⟨rfl, rfl⟩, fun _ => ⟨_, rfl⟩⟩, ?_, nofun⟩
        intro b bound p mem takes
        obtain rfl := Except.ok.inj bound
        exact Signature.get?_completed distinct mem takes _

/-- A tool with parameters of every kind. -/
def convert : Tool where
  name := "convert"
  signature := [{ name := "amount", type := .integer }, { name := "currency", type := .text, default := some (.text "EUR") },
    { name := "others", kind := .restPositional }, { name := "exact", kind := .named, type := .boolean },
    { name := "options", kind := .restNamed }]

theorem callable_iff_convert :
    (convert.signature.map (·.name)).Nodup ∧
    ∃ spec, convert.specification = .ok spec ∧
      Schema.Admits spec.parameters [("exact", .bool true), ("amount", .int 5)] ∧
      ∃ b, convert.signature.bind "convert" [] [("exact", .bool true), ("amount", .int 5)] = .ok b ∧
        Entries.get? "currency" b.values = some (.text "EUR") := by
  have distinct : (convert.signature.map (·.name)).Nodup := by decide
  obtain ⟨exists_spec, all⟩ := callable_iff convert distinct
  obtain ⟨spec, made⟩ := exists_spec (by decide +kernel)
  obtain ⟨properties, required, calls⟩ := all spec made
  have admits : Schema.Admits spec.parameters [("exact", .bool true), ("amount", .int 5)] := {
    once := by decide
    known := by rw [properties]; decide +kernel
    complete := by rw [required]; decide +kernel }
  obtain ⟨works, given, -⟩ := calls "convert" _ admits
  obtain ⟨b, bound⟩ := works.mpr (by decide +kernel)
  refine ⟨distinct, spec, made, admits, b, bound, ?_⟩
  exact given b bound { name := "currency", type := .text, default := some (.text "EUR") } (by simp [convert]) rfl

/-- A tool with a private parameter that has to be given. -/
def forecast : Tool where
  name := "forecast"
  signature := [{ name := "city", type := .text }, { name := "_units", type := .text }]

/-- Not every call works that a specification allows: a private parameter is no property, so no call gives it. -/
theorem not_forall_callable : ¬ ∀ (t : Tool) (spec : ToolSpec) (callee : String) (object : Entries Value),
    (t.signature.map (·.name)).Nodup → t.specification = .ok spec → Schema.Admits spec.parameters object →
      ∃ b, t.signature.bind callee [] object = .ok b := by
  intro all
  have distinct : (forecast.signature.map (·.name)).Nodup := by decide
  have schema : forecast.argumentSchema = .ok forecast.argumentEntries :=
    argumentSchema_eq_ok_iff.mpr ⟨by decide +kernel, rfl⟩
  have admits : Schema.Admits forecast.argumentEntries [("city", .text "Paris")] := {
    once := by decide
    known := by rw [properties_argumentEntries]; decide +kernel
    complete := by rw [required_argumentEntries]; decide +kernel }
  have made : forecast.specification = .ok ⟨"forecast", forecast.description, forecast.argumentEntries⟩ :=
    specification_eq_ok_iff.mpr ⟨schema, rfl, rfl⟩
  obtain ⟨b, bound⟩ := all forecast _ "forecast" _ distinct made admits
  have hides : forecast.hidden .positional = ["_units"] := by decide +kernel
  rw [bind_of_admits distinct admits, hides] at bound
  cases bound

end Tool
end Rendezvous
