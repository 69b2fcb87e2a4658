/-!
# Sorted sets

A finite set kept as its strictly increasing list of members, so that equal sets are equal values
and a listing is always in order. `SortedSet.ofList` forgets order and repetitions; `SortedSet.add`
and `SortedSet.remove` change a set by a list and say which members came or went.
-/

namespace BackOffice

/-- Puts a member into a strictly increasing list, unless it is there. -/
def insertSorted {α : Type} [LT α] [DecidableLT α] (a : α) : List α → List α
  | [] => [a]
  | b :: l => if a < b then a :: b :: l else if b < a then b :: insertSorted a l else b :: l

section

variable {α : Type} [LT α] [DecidableLT α]

theorem mem_of_mem_insertSorted {a x : α} {l : List α} (h : x ∈ insertSorted a l) :
    x = a ∨ x ∈ l := by
  induction l with
  | nil => simpa [insertSorted] using h
  | cons b l ih =>
    unfold insertSorted at h
    split at h
    · simpa using h
    · split at h
      · rcases List.mem_cons.1 h with rfl | h
        · simp
        · rcases ih h with rfl | h <;> simp [*]
      · exact .inr h

theorem insertSorted_increasing [Trans (α := α) (· < ·) (· < ·) (· < ·)] (a : α) {l : List α}
    (h : l.Pairwise (· < ·)) : (insertSorted a l).Pairwise (· < ·) := by
  induction l with
  | nil => simp [insertSorted]
  | cons b l ih =>
    have ⟨hb, hl⟩ := List.pairwise_cons.1 h
    unfold insertSorted
    split
    next hab =>
      refine List.pairwise_cons.2 ⟨fun x hx => ?_, h⟩
      rcases List.mem_cons.1 hx with rfl | hx
      · exact hab
      · exact Trans.trans hab (hb x hx)
    next =>
      split
      next hba =>
        refine List.pairwise_cons.2 ⟨fun x hx => ?_, ih hl⟩
        rcases mem_of_mem_insertSorted hx with rfl | hx
        · exact hba
        · exact hb x hx
      next => exact h

end

/-- The members of a list, in order and without repetitions. -/
def sortDistinct {α : Type} [LT α] [DecidableLT α] (l : List α) : List α :=
  l.foldr insertSorted []

theorem sortDistinct_increasing {α : Type} [LT α] [DecidableLT α]
    [Trans (α := α) (· < ·) (· < ·) (· < ·)] (l : List α) :
    (sortDistinct l).Pairwise (· < ·) := by
  induction l with
  | nil => exact List.Pairwise.nil
  | cons a l ih => exact insertSorted_increasing a ih

/-- A finite set, as the increasing list of its members. -/
structure SortedSet (α : Type) [LT α] where
  /-- The members in order. -/
  items : List α
  increasing : items.Pairwise (· < ·)
deriving DecidableEq

namespace SortedSet

variable {α : Type} [LT α]

def empty : SortedSet α := ⟨[], List.Pairwise.nil⟩

instance : Inhabited (SortedSet α) := ⟨empty⟩

instance : Membership α (SortedSet α) := ⟨fun s a => a ∈ s.items⟩

instance [DecidableEq α] (a : α) (s : SortedSet α) : Decidable (a ∈ s) :=
  inferInstanceAs (Decidable (a ∈ s.items))

def size (s : SortedSet α) : Nat := s.items.length

def isEmpty (s : SortedSet α) : Bool := s.items.isEmpty

variable [DecidableLT α] [Trans (α := α) (· < ·) (· < ·) (· < ·)]

def ofList (l : List α) : SortedSet α := ⟨sortDistinct l, sortDistinct_increasing l⟩

variable [DecidableEq α]

/-- The set with the members of a list added, and those of them that are new, in order. -/
def add (s : SortedSet α) (l : List α) : SortedSet α × List α :=
  (ofList (s.items ++ l), sortDistinct (l.filter (· ∉ s)))

/-- The set with the members of a list taken away, and those of them that were there, in order. -/
def remove (s : SortedSet α) (l : List α) : SortedSet α × List α :=
  (⟨s.items.filter (· ∉ l), s.increasing.filter _⟩, sortDistinct (l.filter (· ∈ s)))

end SortedSet

end BackOffice
