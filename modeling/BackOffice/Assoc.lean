/-!
# Keyed lists

A small map kept as a list of keys with their values, in the order in which the keys came and no key
twice: `Assoc.get?`, `Assoc.put` (a key that is there keeps its place) and `Assoc.erase`. Each
operation has one equation that says what a later look-up finds, and `Assoc.get?_eq_some_iff` says
that look-ups find exactly the entries.
-/

namespace BackOffice

/-- A map as the list of its entries. -/
structure Assoc (κ α : Type) where
  /-- The keys with their values, in the order in which the keys came. -/
  entries : List (κ × α)
  distinct : (entries.map Prod.fst).Nodup
deriving DecidableEq

namespace Assoc

variable {κ α : Type}

def empty : Assoc κ α := ⟨[], List.nodup_nil⟩

/-- The keys in the order in which they came. -/
def keys (m : Assoc κ α) : List κ := m.entries.map Prod.fst

def size (m : Assoc κ α) : Nat := m.entries.length

@[ext] theorem ext {m n : Assoc κ α} (same : m.entries = n.entries) : m = n := by
  cases m
  cases n
  cases same
  rfl

/-- Adds a key that has no value yet, behind all others. -/
def append (m : Assoc κ α) (k : κ) (a : α) (new : k ∉ m.keys) : Assoc κ α where
  entries := m.entries ++ [(k, a)]
  distinct := by
    simp only [List.map_append, List.map_cons, List.map_nil]
    refine List.nodup_append.2 ⟨m.distinct, by simp, ?_⟩
    intro k' there k'' here same
    rw [List.mem_singleton.1 here] at same
    exact new (same ▸ there)

@[simp] theorem entries_append (m : Assoc κ α) (k : κ) (a : α) (new : k ∉ m.keys) :
    (m.append k a new).entries = m.entries ++ [(k, a)] := rfl

theorem mem_keys {m : Assoc κ α} {k : κ} : k ∈ m.keys ↔ ∃ a, (k, a) ∈ m.entries := by
  simp [keys]

variable [DecidableEq κ]

def get? (m : Assoc κ α) (k : κ) : Option α := m.entries.lookup k

/-- Changes the value of a key in place, if it has one. -/
def replace (m : Assoc κ α) (k : κ) (a : α) : Assoc κ α where
  entries := m.entries.map fun e => if e.1 = k then (k, a) else e
  distinct := by
    have keys : (m.entries.map fun e => if e.1 = k then (k, a) else e).map Prod.fst =
        m.entries.map Prod.fst := by
      rw [List.map_map]
      apply List.map_congr_left
      intro e _
      by_cases same : e.1 = k <;> simp [same]
    rw [keys]
    exact m.distinct

/-- Sets the value of a key, in place if the key is there and at the end otherwise. -/
def put (m : Assoc κ α) (k : κ) (a : α) : Assoc κ α :=
  if new : k ∉ m.keys then m.append k a new else m.replace k a

/-- Sets the value of a key that has none yet. -/
def putNew (m : Assoc κ α) (k : κ) (a : α) : Assoc κ α :=
  if new : k ∉ m.keys then m.append k a new else m

def erase (m : Assoc κ α) (k : κ) : Assoc κ α where
  entries := m.entries.filter fun e => e.1 ≠ k
  distinct := m.distinct.sublist (List.filter_sublist.map _)

@[simp] theorem entries_erase (m : Assoc κ α) (k : κ) :
    (m.erase k).entries = m.entries.filter fun e => e.1 ≠ k := rfl

@[simp] theorem get?_empty (k : κ) : (empty : Assoc κ α).get? k = none := rfl

theorem get?_eq_none_iff {m : Assoc κ α} {k : κ} : m.get? k = none ↔ k ∉ m.keys := by
  rw [get?, List.lookup_eq_none_iff, mem_keys]
  constructor
  · rintro none ⟨a, there⟩
    simpa using none _ there
  · intro absent e there
    simp only [bne_iff_ne, ne_eq]
    rintro rfl
    exact absent ⟨e.2, there⟩

theorem get?_isSome {m : Assoc κ α} {k : κ} : (m.get? k).isSome ↔ k ∈ m.keys := by
  rw [← Decidable.not_iff_not, ← get?_eq_none_iff, Option.not_isSome_iff_eq_none]

/-- A look-up finds exactly the entries. -/
theorem get?_eq_some_iff {m : Assoc κ α} {k : κ} {a : α} :
    m.get? k = some a ↔ (k, a) ∈ m.entries := by
  obtain ⟨l, distinct⟩ := m
  simp only [get?]
  induction l with
  | nil => simp
  | cons e l ih =>
    obtain ⟨first, rest⟩ := List.nodup_cons.1 distinct
    rw [List.lookup_cons]
    by_cases same : k = e.1
    · simp only [same, BEq.rfl, Option.some.injEq, List.mem_cons]
      constructor
      · rintro rfl
        exact .inl rfl
      · rintro (here | later)
        · rw [← here]
        · exact (first (List.mem_map.2 ⟨_, later, rfl⟩)).elim
    · have other : (k, a) ≠ e := fun here => same (congrArg Prod.fst here)
      simp only [beq_eq_false_iff_ne.2 same, ih rest, List.mem_cons, other, false_or]

theorem get?_append (m : Assoc κ α) {k : κ} (a : α) (new : k ∉ m.keys) (k' : κ) :
    (m.append k a new).get? k' = if k' = k then some a else m.get? k' := by
  apply Option.ext
  intro b
  rw [get?_eq_some_iff, append, List.mem_append, List.mem_singleton]
  by_cases same : k' = k
  · have absent : (k, b) ∉ m.entries := fun there => new (mem_keys.2 ⟨b, there⟩)
    simp [same, absent, eq_comm]
  · simp [get?_eq_some_iff, same]

theorem get?_replace (m : Assoc κ α) {k : κ} (a : α) (there : k ∈ m.keys) (k' : κ) :
    (m.replace k a).get? k' = if k' = k then some a else m.get? k' := by
  obtain ⟨old, there⟩ := mem_keys.1 there
  apply Option.ext
  intro b
  rw [get?_eq_some_iff, replace, List.mem_map]
  by_cases same : k' = k
  · simp only [same, ↓reduceIte, Option.some.injEq]
    constructor
    · rintro ⟨e, _, image⟩
      by_cases here : e.1 = k
      · simpa [here] using image
      · rw [if_neg here] at image
        exact (here (congrArg Prod.fst image)).elim
    · rintro rfl
      exact ⟨(k, old), there, by simp⟩
  · rw [if_neg same, get?_eq_some_iff]
    constructor
    · rintro ⟨e, found, image⟩
      by_cases here : e.1 = k
      · rw [if_pos here] at image
        exact (same (congrArg Prod.fst image).symm).elim
      · rw [if_neg here] at image
        exact image ▸ found
    · intro found
      exact ⟨(k', b), found, by simp [same]⟩

theorem get?_put (m : Assoc κ α) (k : κ) (a : α) (k' : κ) :
    (m.put k a).get? k' = if k' = k then some a else m.get? k' := by
  unfold put
  split
  next new => exact get?_append m a new k'
  next there => exact get?_replace m a (Decidable.not_not.1 there) k'

@[simp] theorem get?_put_self (m : Assoc κ α) (k : κ) (a : α) : (m.put k a).get? k = some a := by
  rw [get?_put, if_pos rfl]

theorem get?_putNew (m : Assoc κ α) (k : κ) (a : α) (k' : κ) :
    (m.putNew k a).get? k' = (m.get? k').or (if k' = k then some a else none) := by
  unfold putNew
  split
  next new =>
    rw [get?_append]
    by_cases same : k' = k
    · simp [same, get?_eq_none_iff.2 new]
    · simp [same]
  next there =>
    have found := get?_isSome.2 (Decidable.not_not.1 there)
    by_cases same : k' = k
    · rw [same, Option.or_of_isSome found]
    · simp [same]

theorem get?_erase (m : Assoc κ α) (k k' : κ) :
    (m.erase k).get? k' = if k' = k then none else m.get? k' := by
  apply Option.ext
  intro a
  by_cases same : k' = k
  · simp [get?_eq_some_iff, erase, same]
  · simp [get?_eq_some_iff, erase, same]

theorem put_eq_append {m : Assoc κ α} {k : κ} (a : α) (absent : m.get? k = none) :
    m.put k a = m.append k a (get?_eq_none_iff.1 absent) := by
  rw [put, dif_pos (get?_eq_none_iff.1 absent)]

theorem putNew_eq_append {m : Assoc κ α} {k : κ} (a : α) (absent : m.get? k = none) :
    m.putNew k a = m.append k a (get?_eq_none_iff.1 absent) := by
  rw [putNew, dif_pos (get?_eq_none_iff.1 absent)]

end Assoc

end BackOffice
