/-!
# Entries — values kept by name, in the order in which the names first came

One container serves the whole library: the dictionary of a `Value`, the shared state of an
invocation, the pending calls of a run and the registries of live runs and planners.  Its order is
part of what callers see (a registry lists its ids, a state is shown as text), so a write keeps a
known name in its place and appends an unknown one.

`get?_put_self`, `get?_put_of_ne` and `keys_put` say what a write does to look-ups and to the
order, `get?_erase_self`, `get?_erase_of_ne` and `keys_erase` say the same of a removal.  Nothing brings
a name twice (`nodup_keys_ofPairs`, `nodup_keys_put`, `nodup_keys_erase`).  A name that is not there is
put at the end (`put_of_absent`), and only then a removal changes nothing (`erase_eq_self_iff`).
-/

namespace Rendezvous

/-- Values by name, in the order in which the names first came. -/
abbrev Entries (α : Type) := List (String × α)

namespace Entries

variable {α : Type}

/-- The value under `key`, if there is one. -/
def get? (key : String) : Entries α → Option α
  | [] => none
  | (k, v) :: rest => if k = key then some v else get? key rest

/-- Write `value` under `key`: in place if the name is known, at the end otherwise. -/
def put (key : String) (value : α) : Entries α → Entries α
  | [] => [(key, value)]
  | (k, v) :: rest => if k = key then (k, value) :: rest else (k, v) :: put key value rest

/-- Remove what is under `key`. -/
def erase (key : String) : Entries α → Entries α
  | [] => []
  | (k, v) :: rest => if k = key then erase key rest else (k, v) :: erase key rest

/-- Whether something is under `key`. -/
def has (key : String) (entries : Entries α) : Bool := (get? key entries).isSome

/-- The names, in order. -/
def keys (entries : Entries α) : List String := entries.map Prod.fst

/-- Write every pair in turn. -/
def update (entries : Entries α) (pairs : List (String × α)) : Entries α :=
  pairs.foldl (fun es p => put p.1 p.2 es) entries

/-- The entries of a list of pairs in which a name may come more than once: the last value wins, at
the place of the first. -/
def ofPairs (pairs : List (String × α)) : Entries α := update [] pairs

/-! ## What a write does -/

@[simp] theorem keys_nil : keys ([] : Entries α) = [] := rfl

@[simp] theorem keys_cons (e : String × α) (es : Entries α) : keys (e :: es) = e.1 :: keys es := rfl

@[simp] theorem get?_put_self (key : String) (value : α) (es : Entries α) :
    get? key (put key value es) = some value := by
  induction es with
  | nil => simp [put, get?]
  | cons e es ih =>
    obtain ⟨k, v⟩ := e
    by_cases h : k = key <;> simp [put, get?, h, ih]

theorem get?_put_of_ne {key other : String} (h : other ≠ key) (value : α) (es : Entries α) :
    get? other (put key value es) = get? other es := by
  induction es with
  | nil => simp [put, get?, Ne.symm h]
  | cons e es ih =>
    obtain ⟨k, v⟩ := e
    by_cases hk : k = key
    · subst hk; simp [put, get?, Ne.symm h]
    · rw [put, if_neg hk, get?, get?, ih]

/-- A known name keeps its place; an unknown one goes to the end. -/
theorem keys_put (key : String) (value : α) (es : Entries α) :
    keys (put key value es) = if key ∈ keys es then keys es else keys es ++ [key] := by
  induction es with
  | nil => simp [put, keys]
  | cons e es ih =>
    obtain ⟨k, v⟩ := e
    by_cases h : k = key
    · simp [put, h]
    · rw [put, if_neg h, keys_cons, ih]
      by_cases hm : key ∈ keys es <;> simp [hm, Ne.symm h]

/-- A write never brings a name twice. -/
theorem nodup_keys_put {es : Entries α} (h : (keys es).Nodup) (key : String) (value : α) :
    (keys (put key value es)).Nodup := by
  rw [keys_put]
  by_cases hm : key ∈ keys es
  · rwa [if_pos hm]
  · rw [if_neg hm, List.nodup_append]
    refine ⟨h, by simp, ?_⟩
    intro k hk other ho heq
    rw [List.mem_singleton.1 ho] at heq
    exact hm (heq ▸ hk)

theorem nodup_keys_update {es : Entries α} (h : (keys es).Nodup) (pairs : List (String × α)) :
    (keys (update es pairs)).Nodup := by
  induction pairs generalizing es with
  | nil => exact h
  | cons p pairs ih => exact ih (nodup_keys_put h p.1 p.2)

/-- Entries that are made from pairs have every name once. -/
theorem nodup_keys_ofPairs (pairs : List (String × α)) : (keys (ofPairs pairs)).Nodup :=
  nodup_keys_update (show (keys ([] : Entries α)).Nodup from List.nodup_nil) pairs

/-! ## What a removal does -/

@[simp] theorem get?_erase_self (key : String) (es : Entries α) : get? key (erase key es) = none := by
  induction es with
  | nil => rfl
  | cons e es ih =>
    obtain ⟨k, v⟩ := e
    by_cases h : k = key <;> simp [erase, get?, h, ih]

theorem get?_erase_of_ne {key other : String} (h : other ≠ key) (es : Entries α) :
    get? other (erase key es) = get? other es := by
  induction es with
  | nil => rfl
  | cons e es ih =>
    obtain ⟨k, v⟩ := e
    by_cases hk : k = key
    · subst hk; simp [erase, get?, ih, Ne.symm h]
    · rw [erase, if_neg hk, get?, get?, ih]

theorem keys_erase (key : String) (es : Entries α) :
    keys (erase key es) = (keys es).filter (· ≠ key) := by
  induction es with
  | nil => rfl
  | cons e es ih =>
    obtain ⟨k, v⟩ := e
    by_cases h : k = key <;> simp [erase, h, ih]

/-- A removal keeps whatever has another name. -/
theorem erase_eq_filter (key : String) (es : Entries α) : erase key es = es.filter fun e => e.1 ≠ key := by
  induction es with
  | nil => rfl
  | cons e es ih =>
    obtain ⟨k, v⟩ := e
    by_cases h : k = key <;> simp [erase, h, ih]

theorem mem_erase {key : String} {e : String × α} {es : Entries α} :
    e ∈ erase key es ↔ e ∈ es ∧ e.1 ≠ key := by
  simp [erase_eq_filter]

theorem erase_append (key : String) (es later : Entries α) :
    erase key (es ++ later) = erase key es ++ erase key later := by
  simp [erase_eq_filter]

theorem erase_map {β : Type} (f : α → β) (key : String) (es : Entries α) :
    erase key (es.map fun e => (e.1, f e.2)) = (erase key es).map fun e => (e.1, f e.2) := by
  rw [erase_eq_filter, erase_eq_filter, List.filter_map]
  rfl

/-- Whatever is written is gone with the name. -/
theorem erase_put (key : String) (value : α) (es : Entries α) : erase key (put key value es) = erase key es := by
  induction es with
  | nil => simp [put, erase]
  | cons e es ih =>
    obtain ⟨k, v⟩ := e
    by_cases h : k = key <;> simp [put, erase, h, ih]

theorem nodup_keys_erase {es : Entries α} (h : (keys es).Nodup) (key : String) :
    (keys (erase key es)).Nodup := by
  rw [keys_erase]
  exact h.filter _

/-! ## Presence -/

theorem has_iff_mem_keys (key : String) (es : Entries α) : has key es = true ↔ key ∈ keys es := by
  induction es with
  | nil => simp [has, get?]
  | cons e es ih =>
    obtain ⟨k, v⟩ := e
    by_cases h : k = key
    · simp [has, get?, h]
    · simpa [has, get?, h, Ne.symm h] using ih

theorem get?_eq_none_iff (key : String) (es : Entries α) : get? key es = none ↔ key ∉ keys es := by
  rw [← has_iff_mem_keys, has]
  cases get? key es <;> simp

theorem get?_map {β : Type} (f : α → β) (key : String) (es : Entries α) :
    get? key (es.map fun e => (e.1, f e.2)) = (get? key es).map f := by
  induction es with
  | nil => rfl
  | cons e es ih =>
    obtain ⟨k, v⟩ := e
    by_cases h : k = key <;> simp [get?, h, ih]

theorem mem_of_get? {key : String} {value : α} {es : Entries α} (h : get? key es = some value) :
    (key, value) ∈ es := by
  induction es with
  | nil => cases h
  | cons e es ih =>
    obtain ⟨k, v⟩ := e
    by_cases hk : k = key
    · rw [get?, if_pos hk] at h
      cases h
      exact hk ▸ List.mem_cons_self
    · rw [get?, if_neg hk] at h
      exact List.mem_cons_of_mem _ (ih h)

theorem mem_of_mem_put {key : String} {value : α} {e : String × α} {es : Entries α} (h : e ∈ put key value es) :
    e ∈ es ∨ e = (key, value) := by
  induction es with
  | nil => exact .inr (List.mem_singleton.mp h)
  | cons first es ih =>
    obtain ⟨k, v⟩ := first
    by_cases hk : k = key
    · rw [put, if_pos hk, List.mem_cons, hk] at h
      exact h.elim .inr fun old => .inl (List.mem_cons_of_mem _ old)
    · rw [put, if_neg hk, List.mem_cons] at h
      obtain rfl | later := h
      · exact .inl List.mem_cons_self
      · exact (ih later).imp_left (List.mem_cons_of_mem _)

/-! ## Names that are not there -/

theorem put_of_absent {key : String} {es : Entries α} (absent : key ∉ keys es) (value : α) :
    put key value es = es ++ [(key, value)] := by
  induction es with
  | nil => rfl
  | cons e rest ih =>
    obtain ⟨k, v⟩ := e
    rw [keys_cons, List.mem_cons, not_or] at absent
    rw [put, if_neg (Ne.symm absent.1), ih absent.2, List.cons_append]

theorem erase_eq_self_iff {key : String} {es : Entries α} : erase key es = es ↔ key ∉ keys es := by
  rw [erase_eq_filter, List.filter_eq_self]
  simp only [keys, List.mem_map, not_exists, not_and, decide_eq_true_eq]

theorem erase_append_of_absent {key : String} {es : Entries α} (absent : key ∉ keys es) (value : α) :
    erase key (es ++ [(key, value)]) = es := by
  rw [erase_append, erase_eq_self_iff.mpr absent]
  simp [erase]

end Entries
end Rendezvous
