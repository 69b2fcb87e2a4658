import BackOffice.Address.Book
import Mathlib.Data.List.Nodup

/-!
# The index of an address book

An address book is looked up by identifier and by value, and the two must not part. An *indexed*
book (`AddressBook.Indexed`) finds a value exactly when an address has it, and then names an
address that has it. The book of stored records is indexed, however often a value repeats among
them, and it stays so whatever is inserted and removed (`AddressBook.Indexed.after`). So a value
is lost only with the last address that has it (`AddressBook.Indexed.find?_removeAll_eq_none_iff`).
-/

namespace BackOffice

namespace AddressBook

/-- A look-up by value finds exactly the values of the book, each at an address that has it. -/
structure Indexed (b : AddressBook) : Prop where
  get?_of_find? : ∀ {d id}, b.find? d = some id → b.get? id = some d
  find?_isSome : ∀ {d id}, b.get? id = some d → (b.find? d).isSome

theorem indexed_empty : empty.Indexed where
  get?_of_find? := nofun
  find?_isSome := nofun

/-- An indexed book misses exactly the values that no address has. -/
theorem Indexed.find?_eq_none_iff {b : AddressBook} (indexed : b.Indexed) (d : AddressData) :
    b.find? d = none ↔ ∀ id, b.get? id ≠ some d := by
  constructor
  · intro missing id there
    have found := indexed.find?_isSome there
    simp [missing] at found
  · intro absent
    by_contra found
    obtain ⟨id, found⟩ := Option.ne_none_iff_exists'.1 found
    exact absent id (indexed.get?_of_find? found)

section Record

theorem get?_record (b : AddressBook) (a : Address) (id : AddressId) :
    (b.record a).get? id = if id = a.id then some a.data else b.get? id :=
  b.entries.get?_put a.id a.data id

theorem find?_record (b : AddressBook) (a : Address) (d : AddressData) :
    (b.record a).find? d = (b.find? d).or (if d = a.data then some a.id else none) :=
  b.index.get?_putNew a.data a.id d

/-- A record with a new identifier keeps a book indexed, whether its value is new or not. -/
theorem Indexed.record {b : AddressBook} (indexed : b.Indexed) {a : Address}
    (new : b.get? a.id = none) : (b.record a).Indexed where
  get?_of_find? := by
    intro d id found
    rw [find?_record] at found
    rw [get?_record]
    cases before : b.find? d with
    | some other =>
      rw [before, Option.some_or] at found
      cases found
      have there := indexed.get?_of_find? before
      have other : id ≠ a.id := by
        rintro rfl
        simp [new] at there
      rw [if_neg other, there]
    | none =>
      rw [before, Option.none_or] at found
      split at found
      next same =>
        cases found
        rw [if_pos rfl, same]
      next => cases found
  find?_isSome := by
    intro d id there
    rw [get?_record] at there
    rw [find?_record, Option.isSome_or, Bool.or_eq_true]
    split at there
    next =>
      cases there
      exact .inr (by simp)
    next => exact .inl (indexed.find?_isSome there)

/-- Records are found behind what the book has already, the first of each value. -/
theorem find?_foldl_record (records : List Address) (b : AddressBook) (d : AddressData) :
    (records.foldl record b).find? d =
      (b.find? d).or ((records.find? fun a => a.data = d).map (·.id)) := by
  induction records generalizing b with
  | nil => simp
  | cons a records ih =>
    rw [List.foldl_cons, ih, find?_record, Option.or_assoc, List.find?_cons]
    by_cases same : a.data = d
    · simp [same]
    · simp [same, Ne.symm same]

theorem Indexed.foldl_record {records : List Address} {b : AddressBook} (indexed : b.Indexed)
    (distinct : (records.map (·.id)).Nodup) (new : ∀ a ∈ records, b.get? a.id = none) :
    (records.foldl AddressBook.record b).Indexed := by
  induction records generalizing b with
  | nil => exact indexed
  | cons a records ih =>
    obtain ⟨first, distinct⟩ := List.nodup_cons.1 distinct
    apply ih (indexed.record (new a List.mem_cons_self)) distinct
    intro other later
    have different : other.id ≠ a.id := fun same =>
      first (List.mem_map.2 ⟨other, later, same⟩)
    rw [get?_record, if_neg different]
    exact new other (List.mem_cons_of_mem _ later)

/-- The book of records with distinct identifiers is indexed, also where values repeat. -/
theorem indexed_ofAddresses {records : List Address} (distinct : (records.map (·.id)).Nodup) :
    (ofAddresses records).Indexed :=
  indexed_empty.foldl_record distinct fun _ _ => rfl

/-- The book of records finds the first record of each value. -/
theorem find?_ofAddresses (records : List Address) (d : AddressData) :
    (ofAddresses records).find? d = (records.find? fun a => a.data = d).map (·.id) := by
  rw [ofAddresses, find?_foldl_record]
  rfl

/-- A record adds its identifier to those of the book. -/
theorem contains_foldl_record (records : List Address) (b : AddressBook) (id : AddressId) :
    (records.foldl record b).contains id = (b.contains id || records.any fun a => a.id = id) := by
  induction records generalizing b with
  | nil => simp
  | cons a records ih =>
    rw [List.foldl_cons, ih, List.any_cons, ← Bool.or_assoc]
    by_cases same : a.id = id
    · simp [contains, get?_record, same]
    · simp [contains, get?_record, same, Ne.symm same]

theorem contains_ofAddresses (records : List Address) (id : AddressId) :
    (ofAddresses records).contains id = records.any fun a => a.id = id :=
  contains_foldl_record records empty id

/-- Records with distinct identifiers and values are the entries of their book, in order. -/
theorem entries_foldl_record {records : List Address} (b : AddressBook)
    (distinct : (records.map (·.id)).Nodup) (values : (records.map (·.data)).Nodup)
    (new : ∀ a ∈ records, b.get? a.id = none ∧ b.find? a.data = none) :
    (records.foldl record b).entries.entries =
        b.entries.entries ++ records.map (fun a => (a.id, a.data)) ∧
      (records.foldl record b).index.entries =
        b.index.entries ++ records.map fun a => (a.data, a.id) := by
  induction records generalizing b with
  | nil => simp
  | cons a records ih =>
    obtain ⟨first, distinct⟩ := List.nodup_cons.1 distinct
    obtain ⟨firstValue, values⟩ := List.nodup_cons.1 values
    obtain ⟨newId, newValue⟩ := new a List.mem_cons_self
    have later : ∀ other ∈ records,
        (b.record a).get? other.id = none ∧ (b.record a).find? other.data = none := by
      intro other there
      obtain ⟨otherId, otherValue⟩ := new other (List.mem_cons_of_mem _ there)
      have id : other.id ≠ a.id := fun same => first (List.mem_map.2 ⟨other, there, same⟩)
      have value : other.data ≠ a.data := fun same =>
        firstValue (List.mem_map.2 ⟨other, there, same⟩)
      rw [get?_record, find?_record, if_neg id, if_neg value, otherId, otherValue]
      exact ⟨rfl, rfl⟩
    obtain ⟨entries, index⟩ := ih (b.record a) distinct values later
    rw [List.foldl_cons, entries, index, record, Assoc.put_eq_append _ newId,
      Assoc.putNew_eq_append _ newValue]
    simp

theorem entries_ofAddresses {records : List Address} (distinct : (records.map (·.id)).Nodup)
    (values : (records.map (·.data)).Nodup) :
    (ofAddresses records).entries.entries = records.map (fun a => (a.id, a.data)) ∧
      (ofAddresses records).index.entries = records.map fun a => (a.data, a.id) :=
  entries_foldl_record empty distinct values fun _ _ => ⟨rfl, rfl⟩

end Record

section GetOrInsert

theorem getOrInsert_of_find? {b : AddressBook} {d : AddressData} {id : AddressId}
    (found : b.find? d = some id) (fresh : AddressId) : b.getOrInsert fresh d = (b, id, false) := by
  simp only [getOrInsert, found]

/-- A value that is not found is recorded under the fresh identifier. -/
theorem getOrInsert_of_missing {b : AddressBook} {d : AddressData} (missing : b.find? d = none)
    (fresh : AddressId) : b.getOrInsert fresh d = (b.record ⟨fresh, d⟩, fresh, true) := by
  have absent : b.index.get? d = none := missing
  simp only [getOrInsert, missing, record, Assoc.put_eq_append _ absent,
    Assoc.putNew_eq_append _ absent]

/-- An insertion adds an address exactly if the value is missing. -/
theorem getOrInsert_created (b : AddressBook) (fresh : AddressId) (d : AddressData) :
    (b.getOrInsert fresh d).2.2 = true ↔ b.find? d = none := by
  cases found : b.find? d with
  | some id => simp [getOrInsert_of_find? found]
  | none => simp [getOrInsert_of_missing found]

theorem getOrInsert_of_not_created {b : AddressBook} {fresh : AddressId} {d : AddressData}
    (kept : (b.getOrInsert fresh d).2.2 = false) : (b.getOrInsert fresh d).1 = b := by
  cases found : b.find? d with
  | some id => rw [getOrInsert_of_find? found]
  | none => simp [getOrInsert_of_missing found] at kept

/-- An insertion adds the fresh address if it adds one, and touches nothing else. -/
theorem get?_getOrInsert (b : AddressBook) (fresh : AddressId) (d : AddressData)
    (id : AddressId) :
    (b.getOrInsert fresh d).1.get? id =
      if b.find? d = none ∧ id = fresh then some d else b.get? id := by
  cases found : b.find? d with
  | some other => simp [getOrInsert_of_find? found]
  | none => simp [getOrInsert_of_missing found, get?_record]

/-- The address that an insertion returns has the value. -/
theorem Indexed.get?_getOrInsert_self {b : AddressBook} (indexed : b.Indexed) (fresh : AddressId)
    (d : AddressData) :
    (b.getOrInsert fresh d).1.get? (b.getOrInsert fresh d).2.1 = some d := by
  cases found : b.find? d with
  | some id => simpa [getOrInsert_of_find? found] using indexed.get?_of_find? found
  | none => simp [getOrInsert_of_missing found, get?_record]

theorem Indexed.getOrInsert {b : AddressBook} (indexed : b.Indexed) {fresh : AddressId}
    {d : AddressData} (new : b.find? d = none → b.get? fresh = none) :
    (b.getOrInsert fresh d).1.Indexed := by
  cases found : b.find? d with
  | some id =>
    rw [getOrInsert_of_find? found]
    exact indexed
  | none =>
    rw [getOrInsert_of_missing found]
    exact indexed.record (new found)

end GetOrInsert

section Remove

theorem smaller_eq_some {d : AddressData} {best : Option AddressId}
    {e : AddressId × AddressData} {id : AddressId} (found : smaller d best e = some id) :
    best = some id ∨ e = (id, d) := by
  unfold smaller at found
  split at found
  next => exact .inl found
  next value =>
    have value : e.2 = d := Decidable.not_not.1 value
    cases best with
    | none => exact .inr (Prod.ext (Option.some.inj found) value)
    | some other =>
      dsimp only at found
      split at found
      next => exact .inr (Prod.ext (Option.some.inj found) value)
      next => exact .inl found

theorem smaller_isSome {d : AddressData} {best : Option AddressId} {e : AddressId × AddressData}
    (some : best.isSome ∨ e.2 = d) : (smaller d best e).isSome := by
  unfold smaller
  split
  next other => exact some.resolve_right other
  next => cases best with
    | none => rfl
    | some id => dsimp only; split <;> rfl

/-- The scan for the smallest identifier ends with what it began with, or at an entry. -/
theorem foldl_smaller_eq_some {d : AddressData} {l : List (AddressId × AddressData)}
    {best : Option AddressId} {id : AddressId} (found : l.foldl (smaller d) best = some id) :
    best = some id ∨ (id, d) ∈ l := by
  induction l generalizing best with
  | nil => exact .inl found
  | cons e l ih =>
    rcases ih found with here | later
    · rcases smaller_eq_some here with before | rfl
      · exact .inl before
      · exact .inr List.mem_cons_self
    · exact .inr (List.mem_cons_of_mem _ later)

theorem foldl_smaller_isSome {d : AddressData} {l : List (AddressId × AddressData)}
    {best : Option AddressId} (some : best.isSome ∨ ∃ id, (id, d) ∈ l) :
    (l.foldl (smaller d) best).isSome := by
  induction l generalizing best with
  | nil => exact some.resolve_right (by simp)
  | cons e l ih =>
    rw [List.foldl_cons]
    rcases some with before | ⟨id, there⟩
    · exact ih (.inl (smaller_isSome (.inl before)))
    · rcases List.mem_cons.1 there with rfl | later
      · exact ih (.inl (smaller_isSome (.inr rfl)))
      · exact ih (.inr ⟨id, later⟩)

theorem get?_of_smallest? {m : Assoc AddressId AddressData} {d : AddressData} {id : AddressId}
    (found : smallest? m d = some id) : m.get? id = some d := by
  rcases foldl_smaller_eq_some found with begin | there
  · cases begin
  · exact Assoc.get?_eq_some_iff.2 there

theorem smallest?_isSome {m : Assoc AddressId AddressData} {d : AddressData} (id : AddressId)
    (there : m.get? id = some d) : (smallest? m d).isSome :=
  foldl_smaller_isSome (.inr ⟨id, Assoc.get?_eq_some_iff.1 there⟩)

/-- Only the look-up of the removed value changes, and only if it named the removed address. -/
theorem get?_reindex (index : Assoc AddressData AddressId) (rest : Assoc AddressId AddressData)
    (id : AddressId) (d d' : AddressData) :
    (reindex index rest id d).get? d' =
      if d' = d ∧ index.get? d = some id then smallest? rest d else index.get? d' := by
  unfold reindex
  by_cases named : index.get? d = some id
  · rw [if_pos named]
    by_cases same : d' = d
    · cases left : smallest? rest d <;> simp [Assoc.get?_erase, same, named]
    · cases left : smallest? rest d <;> simp [Assoc.get?_erase, Assoc.get?_put, same]
  · simp [named]

/-- Removal returns the value that the address had. -/
theorem remove_snd (b : AddressBook) (id : AddressId) : (b.remove id).2 = b.get? id := by
  unfold remove
  cases b.get? id <;> rfl

theorem remove_of_absent {b : AddressBook} {id : AddressId} (absent : b.get? id = none) :
    (b.remove id).1 = b := by
  simp only [remove, absent]

/-- Removal takes exactly one address away. -/
theorem get?_remove (b : AddressBook) (id k : AddressId) :
    (b.remove id).1.get? k = if k = id then none else b.get? k := by
  cases there : b.get? id with
  | none =>
    rw [remove_of_absent there]
    split
    next same => rw [same, there]
    next => rfl
  | some d =>
    simp only [remove, there]
    exact b.entries.get?_erase id k

theorem find?_remove_of_present {b : AddressBook} {id : AddressId} {d : AddressData}
    (there : b.get? id = some d) (d' : AddressData) :
    (b.remove id).1.find? d' =
      if d' = d ∧ b.find? d = some id then smallest? (b.entries.erase id) d else b.find? d' := by
  simp only [remove, there]
  exact get?_reindex b.index (b.entries.erase id) id d d'

/-- Removal keeps a book indexed: an index that named the address names another one with the
value, if there is one left. -/
theorem Indexed.remove {b : AddressBook} (indexed : b.Indexed) (id : AddressId) :
    (b.remove id).1.Indexed := by
  cases there : b.get? id with
  | none =>
    rw [remove_of_absent there]
    exact indexed
  | some d =>
    constructor
    · intro d' k found
      rw [find?_remove_of_present there] at found
      rw [get?_remove]
      split at found
      next here =>
        have left := get?_of_smallest? found
        rw [Assoc.get?_erase] at left
        rw [here.1]
        exact left
      next elsewhere =>
        have kept := indexed.get?_of_find? found
        have other : k ≠ id := by
          rintro rfl
          have same : d' = d := Option.some.inj (kept.symm.trans there)
          exact elsewhere ⟨same, same ▸ found⟩
        rw [if_neg other, kept]
    · intro d' k kept
      rw [get?_remove] at kept
      rw [find?_remove_of_present there]
      split at kept
      next => cases kept
      next other =>
        split
        next here =>
          apply smallest?_isSome k
          rw [Assoc.get?_erase, if_neg other, ← here.1]
          exact kept
        next => exact indexed.find?_isSome kept

/-- From the book of records with distinct identifiers and values, removal takes one record. -/
theorem remove_ofAddresses {records : List Address} (distinct : (records.map (·.id)).Nodup)
    (values : (records.map (·.data)).Nodup) (id : AddressId) :
    ((ofAddresses records).remove id).1 = ofAddresses (records.filter fun a => a.id ≠ id) := by
  have kept : (records.filter fun a => a.id ≠ id).Sublist records := List.filter_sublist
  obtain ⟨entries, index⟩ := entries_ofAddresses distinct values
  obtain ⟨entriesLeft, indexLeft⟩ :=
    entries_ofAddresses (distinct.sublist (kept.map _)) (values.sublist (kept.map _))
  cases there : (ofAddresses records).get? id with
  | none =>
    rw [remove_of_absent there]
    have all : (records.filter fun a => a.id ≠ id) = records := by
      rw [List.filter_eq_self]
      intro a member
      rw [decide_eq_true_eq]
      rintro rfl
      have absent := contains_ofAddresses records a.id
      rw [contains, there, Option.isSome_none, eq_comm, List.any_eq_false] at absent
      simpa using absent a member
    rw [all]
  | some d =>
    have member : ⟨id, d⟩ ∈ records := by
      have found := Assoc.get?_eq_some_iff.1 there
      rw [entries] at found
      obtain ⟨a, member, pair⟩ := List.mem_map.1 found
      cases pair
      exact member
    -- With distinct values the removed address is the indexed one, and no other has its value.
    have sole : ∀ a ∈ records, a.data = d ↔ a.id = id := by
      intro a there
      constructor
      · intro same
        rw [List.inj_on_of_nodup_map values there member same]
      · intro same
        rw [List.inj_on_of_nodup_map distinct there member same]
    have named : (ofAddresses records).index.get? d = some id := by
      rw [Assoc.get?_eq_some_iff, index]
      exact List.mem_map.2 ⟨⟨id, d⟩, member, rfl⟩
    have alone : smallest? ((ofAddresses records).entries.erase id) d = none := by
      by_contra some
      obtain ⟨other, found⟩ := Option.ne_none_iff_exists'.1 some
      have left := get?_of_smallest? found
      rw [Assoc.get?_eq_some_iff, Assoc.entries_erase, entries, List.mem_filter] at left
      obtain ⟨⟨a, held, pair⟩, different⟩ := And.imp_left List.mem_map.1 left
      cases pair
      simp [(sole a held).1 rfl] at different
    simp only [remove, there, reindex, named, alone, ↓reduceIte]
    apply AddressBook.ext
    · apply Assoc.ext
      rw [entriesLeft, Assoc.entries_erase, entries, List.filter_map]
      rfl
    · apply Assoc.ext
      rw [indexLeft, Assoc.entries_erase, index, List.filter_map]
      congr 1
      apply List.filter_congr
      intro a there
      simp [sole a there]

end Remove

end AddressBook

/-- What can be done to an address book. -/
inductive BookOp where
  /-- Adds an address of this value, under the fresh identifier, if there is none. -/
  | getOrInsert (fresh : AddressId) (data : AddressData)
  | remove (id : AddressId)
deriving DecidableEq

namespace AddressBook

/-- The book after one operation. -/
def apply (b : AddressBook) : BookOp → AddressBook
  | .getOrInsert fresh d => (b.getOrInsert fresh d).1
  | .remove id => (b.remove id).1

/-- The book after a sequence of operations. -/
def after (b : AddressBook) (ops : List BookOp) : AddressBook := ops.foldl apply b

/-- The book after the removal of each of these addresses, in this order. -/
def removeAll (b : AddressBook) (ids : List AddressId) : AddressBook :=
  b.after (ids.map .remove)

/-- An identifier that the operation mints is not yet in the book. -/
def MintsNew (b : AddressBook) : BookOp → Prop
  | .getOrInsert fresh d => b.find? d = none → b.get? fresh = none
  | .remove _ => True

instance (b : AddressBook) : (op : BookOp) → Decidable (b.MintsNew op)
  | .getOrInsert _ _ => inferInstanceAs (Decidable (_ → _))
  | .remove _ => inferInstanceAs (Decidable True)

/-- Every identifier minted in a sequence of operations is new to the book as it is by then. -/
def MintsAllNew (b : AddressBook) : List BookOp → Prop
  | [] => True
  | op :: ops => b.MintsNew op ∧ (b.apply op).MintsAllNew ops

instance (b : AddressBook) : (ops : List BookOp) → Decidable (b.MintsAllNew ops)
  | [] => inferInstanceAs (Decidable True)
  | op :: ops =>
    have := instDecidableMintsAllNew (b.apply op) ops
    inferInstanceAs (Decidable (_ ∧ _))

theorem Indexed.apply {b : AddressBook} (indexed : b.Indexed) {op : BookOp}
    (new : b.MintsNew op) : (b.apply op).Indexed := by
  cases op with
  | getOrInsert fresh d => exact indexed.getOrInsert new
  | remove id => exact indexed.remove id

/-- A book stays indexed through every sequence of operations. -/
theorem Indexed.after {b : AddressBook} (indexed : b.Indexed) {ops : List BookOp}
    (new : b.MintsAllNew ops) : (b.after ops).Indexed := by
  induction ops generalizing b with
  | nil => exact indexed
  | cons op ops ih => exact ih (indexed.apply new.1) new.2

theorem mintsAllNew_remove (b : AddressBook) (ids : List AddressId) :
    b.MintsAllNew (ids.map .remove) := by
  induction ids generalizing b with
  | nil => trivial
  | cons id ids ih => exact ⟨trivial, ih _⟩

theorem get?_removeAll (b : AddressBook) (ids : List AddressId) (k : AddressId) :
    (b.removeAll ids).get? k = if k ∈ ids then none else b.get? k := by
  unfold removeAll
  induction ids generalizing b with
  | nil => rfl
  | cons id ids ih =>
    simp only [after, List.map_cons, List.foldl_cons] at ih ⊢
    rw [ih, AddressBook.apply, get?_remove]
    by_cases same : k = id <;> simp [same]

/-- A value is lost only with the last address that has it, in whatever order they are removed. -/
theorem Indexed.find?_removeAll_eq_none_iff {b : AddressBook} (indexed : b.Indexed)
    (ids : List AddressId) (d : AddressData) :
    (b.removeAll ids).find? d = none ↔ ∀ id, b.get? id = some d → id ∈ ids := by
  have left : (b.removeAll ids).Indexed := indexed.after (b.mintsAllNew_remove ids)
  rw [left.find?_eq_none_iff]
  constructor
  · intro none id there
    by_contra kept
    exact none id (by rw [get?_removeAll, if_neg kept, there])
  · intro all id there
    rw [get?_removeAll] at there
    split at there
    next => cases there
    next kept => exact kept (all id there)

/-- **A book of stored records never loses or misplaces a value.** Whatever is done to it, a
look-up by value finds an address that has the value, and misses only values that no address has.
An insertion adds an address exactly if its value is missing, a removal takes exactly the address
it names, and a value stays findable until the last address that has it is removed. Right after
loading, the first record of each value is the one that is found. -/
theorem values_found_after (records : List Address) (distinct : (records.map (·.id)).Nodup)
    (ops : List BookOp) (new : (ofAddresses records).MintsAllNew ops) :
    let b := (ofAddresses records).after ops
    (∀ d id, b.find? d = some id → b.get? id = some d) ∧
    (∀ d, b.find? d = none ↔ ∀ id, b.get? id ≠ some d) ∧
    (∀ d, (ofAddresses records).find? d = (records.find? fun a => a.data = d).map (·.id)) ∧
    (∀ fresh d, let inserted := b.getOrInsert fresh d
      (inserted.2.2 = true ↔ ∀ k, b.get? k ≠ some d) ∧
      (inserted.2.2 = true → inserted.2.1 = fresh) ∧ (inserted.2.2 = false → inserted.1 = b) ∧
      inserted.1.get? inserted.2.1 = some d ∧
      ∀ k, inserted.1.get? k = if inserted.2.2 = true ∧ k = fresh then some d else b.get? k) ∧
    (∀ id, (b.remove id).2 = b.get? id ∧ (b.get? id = none → (b.remove id).1 = b) ∧
      ∀ k, (b.remove id).1.get? k = if k = id then none else b.get? k) ∧
    (∀ ids d, (b.removeAll ids).find? d = none ↔ ∀ id, b.get? id = some d → id ∈ ids) := by
  intro b
  have indexed : b.Indexed := (indexed_ofAddresses distinct).after new
  refine ⟨fun d id => indexed.get?_of_find?, indexed.find?_eq_none_iff,
    find?_ofAddresses records, ?_, ?_, indexed.find?_removeAll_eq_none_iff⟩
  · intro fresh d
    have created := b.getOrInsert_created fresh d
    refine ⟨created.trans (indexed.find?_eq_none_iff d), ?_, getOrInsert_of_not_created,
      indexed.get?_getOrInsert_self fresh d, ?_⟩
    · intro added
      rw [getOrInsert_of_missing (created.1 added)]
    · intro k
      rw [get?_getOrInsert]
      simp only [created]
  · intro id
    exact ⟨b.remove_snd id, remove_of_absent, b.get?_remove id⟩

/-- Two records of one value: the indexed one goes first, the value is reused, then lost with the
other, then added again, so that three of the operations meet a repeated value. -/
theorem values_found_after_repeats :
    let home : AddressData := { city := "Oslo" }
    let records : List Address :=
      [⟨⟨3, by decide⟩, home⟩, ⟨⟨2, by decide⟩, {}⟩, ⟨⟨1, by decide⟩, home⟩]
    let ops : List BookOp := [.remove ⟨3, by decide⟩, .getOrInsert ⟨2, by decide⟩ home,
      .remove ⟨1, by decide⟩, .getOrInsert ⟨3, by decide⟩ home]
    let b := (ofAddresses records).after ops
    (records.map (·.id)).Nodup ∧ (ofAddresses records).MintsAllNew ops ∧
    (∀ d id, b.find? d = some id → b.get? id = some d) ∧
    ∀ ids, (b.removeAll ids).find? home = none ↔ ∀ id, b.get? id = some home → id ∈ ids := by
  intro home records ops b
  have distinct : (records.map (·.id)).Nodup := by decide
  have new : (ofAddresses records).MintsAllNew ops := by decide
  obtain ⟨found, -, -, -, -, kept⟩ := values_found_after records distinct ops new
  exact ⟨distinct, new, found, fun ids => kept ids home⟩

end AddressBook

end BackOffice
