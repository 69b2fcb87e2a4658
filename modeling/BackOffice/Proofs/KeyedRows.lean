import BackOffice.Assoc
import BackOffice.Store.Key
import Mathlib.Data.List.Nodup

/-!
# Rows with keys

The row of a key is the first one that has it. For each way in which a table is changed there is one
equation that says which row a key has afterwards. Where all keys come from a sequence
(`Assoc.Numbered`), the next key is new.
-/

namespace BackOffice

namespace Keyed

variable {ρ κ : Type} [DecidableEq κ] (key : ρ → κ) {rows : List ρ} {k : κ} {r : ρ}

theorem key_of_find? (found : rows.find? (fun r => key r = k) = some r) : key r = k := by
  simpa using List.find?_some found

theorem find?_eq_none_iff : rows.find? (fun r => key r = k) = none ↔ k ∉ rows.map key := by
  simp [List.find?_eq_none]

/-- In a table with distinct keys every row is that of its key. -/
theorem find?_of_mem (distinct : (rows.map key).Nodup) (member : r ∈ rows) :
    rows.find? (fun r' => key r' = key r) = some r := by
  have found : (rows.find? fun r' => key r' = key r).isSome := by
    rw [List.find?_isSome]
    exact ⟨r, member, by simp⟩
  obtain ⟨other, found⟩ := Option.isSome_iff_exists.1 found
  rw [found, List.inj_on_of_nodup_map distinct (List.mem_of_find?_eq_some found) member
    (key_of_find? key found)]

/-- Among all values, one is found by its key. -/
theorem find?_eq_some_iff (distinct : (rows.map key).Nodup) (all : ∀ r, r ∈ rows) :
    rows.find? (fun r' => key r' = k) = some r ↔ key r = k := by
  refine ⟨key_of_find? key, ?_⟩
  rintro rfl
  exact find?_of_mem key distinct (all r)

theorem find?_append (new : rows.find? (fun r' => key r' = key r) = none) (k : κ) :
    (rows ++ [r]).find? (fun r' => key r' = k) =
      if k = key r then some r else rows.find? fun r' => key r' = k := by
  rw [List.find?_append]
  by_cases same : k = key r
  · rw [if_pos same, same, new]
    simp
  · simp [same, Ne.symm same]

theorem find?_modify (rows : List ρ) (k : κ) {f : ρ → ρ} (same : ∀ r, key r = k → key (f r) = k)
    (k' : κ) :
    (rows.map fun r => if key r = k then f r else r).find? (fun r => key r = k') =
      if k' = k then (rows.find? fun r => key r = k).map f else rows.find? fun r => key r = k' := by
  induction rows with
  | nil => simp
  | cons r rows ih =>
    rw [List.map_cons, List.find?_cons, ih, List.find?_cons, List.find?_cons]
    by_cases here : key r = k
    · by_cases asked : k' = k
      · simp [here, same r here, asked]
      · simp [here, same r here, asked, Ne.symm asked]
    · by_cases asked : k' = k
      · simp [here, asked]
      · simp [here, asked]

theorem map_modify (rows : List ρ) {k : κ} {f : ρ → ρ} (same : ∀ r, key r = k → key (f r) = k) :
    (rows.map fun r => if key r = k then f r else r).map key = rows.map key := by
  rw [List.map_map]
  apply List.map_congr_left
  intro r _
  by_cases here : key r = k <;> simp [here, same r]

/-- Changing the row of a key that no row has changes nothing. -/
theorem modify_of_absent (absent : k ∉ rows.map key) (f : ρ → ρ) :
    (rows.map fun r => if key r = k then f r else r) = rows := by
  conv_rhs => rw [← List.map_id rows]
  apply List.map_congr_left
  intro r member
  have other : key r ≠ k := fun same => absent (List.mem_map.2 ⟨r, member, same⟩)
  simp [other]

theorem find?_filter_ne (rows : List ρ) (k k' : κ) :
    (rows.filter fun r => key r ≠ k).find? (fun r => key r = k') =
      if k' = k then none else rows.find? fun r => key r = k' := by
  by_cases asked : k' = k
  · rw [if_pos asked, List.find?_eq_none]
    intro r member
    simpa [asked] using (List.mem_filter.1 member).2
  · rw [if_neg asked, List.find?_filter]
    congr 1
    funext r
    by_cases here : key r = k'
    · simp [here, asked]
    · simp [here]

end Keyed

namespace Assoc

variable {entity : Entity} {α β γ κ : Type} {m : Assoc (Id entity) α} {given : Nat}

/-- All keys are among the first `given` of their sequence. -/
def Numbered (m : Assoc (Id entity) α) (given : Nat) : Prop :=
  ∀ id a, m.get? id = some a → ∃ n < given, id = Sequence.next n

theorem numbered_empty (given : Nat) : (empty : Assoc (Id entity) α).Numbered given := by
  intro id a there
  cases there

theorem Numbered.next_new (numbered : m.Numbered given) (left : given < Sequence.last) :
    m.get? (Sequence.next given) = none := by
  by_contra there
  obtain ⟨a, there⟩ := Option.ne_none_iff_exists'.1 there
  obtain ⟨n, earlier, same⟩ := numbered _ a there
  exact Nat.ne_of_gt earlier (Sequence.next_inj left (Nat.lt_trans earlier left) same)

theorem Numbered.succ (numbered : m.Numbered given) : m.Numbered (given + 1) := by
  intro id a there
  obtain ⟨n, earlier, same⟩ := numbered id a there
  exact ⟨n, Nat.lt_succ_of_lt earlier, same⟩

theorem Numbered.put (numbered : m.Numbered given) {id : Id entity} {old : α}
    (there : m.get? id = some old) (new : α) : (m.put id new).Numbered given := by
  intro id' a there'
  rw [get?_put] at there'
  split at there'
  next same => rw [same]; exact numbered id old there
  next => exact numbered id' a there'

theorem Numbered.put_next (numbered : m.Numbered given) (new : α) :
    (m.put (Sequence.next given) new).Numbered (given + 1) := by
  intro id a there
  rw [get?_put] at there
  split at there
  next same => exact ⟨given, Nat.lt_succ_self given, same⟩
  next => exact numbered.succ id a there

theorem Numbered.erase (numbered : m.Numbered given) (id : Id entity) :
    (m.erase id).Numbered given := by
  intro id' a there
  rw [get?_erase] at there
  split at there
  next => cases there
  next => exact numbered id' a there

variable [DecidableEq κ] {R : α → β → Prop} {found found' : κ → Option α} {n : Assoc κ β} {k : κ}

/-- Related look-ups stay related when both sides set a key to related values. -/
theorem rel_put (related : ∀ k, Option.Rel R (found k) (n.get? k)) {a : α} {b : β} (same : R a b)
    (set : ∀ k', found' k' = if k' = k then some a else found k') (k' : κ) :
    Option.Rel R (found' k') ((n.put k b).get? k') := by
  rw [set, get?_put]
  split
  · exact .some same
  · exact related k'

theorem rel_erase (related : ∀ k, Option.Rel R (found k) (n.get? k))
    (unset : ∀ k', found' k' = if k' = k then none else found k') (k' : κ) :
    Option.Rel R (found' k') ((n.erase k).get? k') := by
  rw [unset, get?_erase]
  split
  · exact .none
  · exact related k'

end Assoc

end BackOffice
