import BackOffice.Discount.Scope
import Mathlib.Data.List.Sort

/-!
# Scopes as sets

A sorted set is determined by its members (`SortedSet.ext_mem`), so what a change does to a scope
is said by membership: which entities are in scope afterwards (`CatalogueScope.mem_apply`) and
which are listed in the delta (`CatalogueScope.mem_delta`). The delta does to a scope what the
lists do.
-/

namespace BackOffice

section Sorting

variable {α : Type} [LT α] [DecidableLT α] [Std.Trichotomous (α := α) (· < ·)]

theorem mem_insertSorted {a x : α} {l : List α} : x ∈ insertSorted a l ↔ x = a ∨ x ∈ l := by
  induction l with
  | nil => simp [insertSorted]
  | cons b l ih =>
    unfold insertSorted
    split
    next => simp
    next above =>
      split
      next => simp [ih, or_left_comm]
      next below =>
        have same : a = b := Std.Trichotomous.trichotomous a b above below
        simp [same]

theorem mem_sortDistinct {x : α} {l : List α} : x ∈ sortDistinct l ↔ x ∈ l := by
  induction l with
  | nil => rfl
  | cons a l ih =>
    change x ∈ insertSorted a (sortDistinct l) ↔ _
    rw [mem_insertSorted, ih, List.mem_cons]

end Sorting

namespace SortedSet

variable {α : Type} [LT α] {s t : SortedSet α} {l : List α} {x : α}

/-- Sets with the same members are equal. -/
theorem ext_mem [Std.Asymm (α := α) (· < ·)] (same : ∀ x, x ∈ s ↔ x ∈ t) : s = t := by
  have items : s.items = t.items := s.increasing.eq_of_mem_iff t.increasing same
  cases s
  cases t
  cases items
  rfl

variable [DecidableLT α] [Trans (α := α) (· < ·) (· < ·) (· < ·)]
  [Std.Trichotomous (α := α) (· < ·)]

theorem mem_ofList : x ∈ ofList l ↔ x ∈ l :=
  mem_sortDistinct

variable [DecidableEq α]

theorem mem_add : x ∈ (s.add l).1 ↔ x ∈ s ∨ x ∈ l := by
  rw [add, mem_ofList, List.mem_append]
  rfl

theorem mem_added : x ∈ (s.add l).2 ↔ x ∈ l ∧ x ∉ s := by
  rw [add, mem_sortDistinct, List.mem_filter, decide_eq_true_eq]

omit [Trans (α := α) (· < ·) (· < ·) (· < ·)] [Std.Trichotomous (α := α) (· < ·)] in
theorem mem_remove : x ∈ (s.remove l).1 ↔ x ∈ s ∧ x ∉ l := by
  change x ∈ s.items.filter (· ∉ l) ↔ _
  rw [List.mem_filter, decide_eq_true_eq]
  rfl

omit [Trans (α := α) (· < ·) (· < ·) (· < ·)] in
theorem mem_removed : x ∈ (s.remove l).2 ↔ x ∈ l ∧ x ∈ s := by
  rw [remove, mem_sortDistinct, List.mem_filter, decide_eq_true_eq]

end SortedSet

/-- Whether an entity is in scope after a change, if it was `before` and is `listed` in the
change. -/
def ScopeOp.Leaves (before listed : Prop) : ScopeOp → Prop
  | .add => before ∨ listed
  | .remove => before ∧ ¬listed

theorem ScopeOp.leaves_of_not_listed {before listed : Prop} (op : ScopeOp) (other : ¬listed) :
    op.Leaves before listed ↔ before := by
  cases op with
  | add => exact or_iff_left other
  | remove => exact and_iff_left other

namespace CatalogueScope

variable {s t : CatalogueScope} {op : ScopeOp} {l : CatalogueLists} {kind : CatalogueKind}
  {x : CatalogueId}

/-- Scopes with the same entities are equal. -/
theorem ext_mem (same : ∀ kind x, x ∈ s.get kind ↔ x ∈ t.get kind) : s = t :=
  PerKind.ext_get fun kind => SortedSet.ext_mem (same kind)

theorem mem_ofLists : x ∈ (ofLists l).get kind ↔ x ∈ l.get kind := by
  rw [ofLists, PerKind.map, PerKind.get_ofFn, SortedSet.mem_ofList]

theorem mem_empty : ¬x ∈ empty.get kind := by
  cases kind <;> exact List.not_mem_nil

theorem get_apply_fst (s : CatalogueScope) (op : ScopeOp) (l : CatalogueLists)
    (kind : CatalogueKind) :
    (s.apply op l).1.get kind =
      match op with
      | .add => ((s.get kind).add (l.get kind)).1
      | .remove => ((s.get kind).remove (l.get kind)).1 := by
  cases op <;> cases kind <;> rfl

theorem get_apply_snd (s : CatalogueScope) (op : ScopeOp) (l : CatalogueLists)
    (kind : CatalogueKind) :
    (s.apply op l).2.get kind =
      match op with
      | .add => ((s.get kind).add (l.get kind)).2
      | .remove => ((s.get kind).remove (l.get kind)).2 := by
  cases op <;> cases kind <;> rfl

/-- After a change exactly those entities are in scope that it leaves there. -/
theorem mem_apply :
    x ∈ (s.apply op l).1.get kind ↔ op.Leaves (x ∈ s.get kind) (x ∈ l.get kind) := by
  rw [get_apply_fst]
  cases op with
  | add => exact SortedSet.mem_add
  | remove => exact SortedSet.mem_remove

/-- The delta lists the entities whose place a change really alters. -/
theorem mem_delta :
    x ∈ (s.apply op l).2.get kind ↔
      x ∈ l.get kind ∧ (x ∈ s.get kind ↔ op = .remove) := by
  rw [get_apply_snd]
  cases op with
  | add => simpa using SortedSet.mem_added
  | remove => simpa using SortedSet.mem_removed

theorem mem_add : x ∈ (s.add l).1.get kind ↔ x ∈ s.get kind ∨ x ∈ l.get kind :=
  (mem_apply : x ∈ (s.apply .add l).1.get kind ↔ _)

theorem mem_remove : x ∈ (s.remove l).1.get kind ↔ x ∈ s.get kind ∧ x ∉ l.get kind :=
  (mem_apply : x ∈ (s.apply .remove l).1.get kind ↔ _)

theorem mem_added : x ∈ (s.add l).2.get kind ↔ x ∈ l.get kind ∧ x ∉ s.get kind := by
  refine (mem_delta : x ∈ (s.apply .add l).2.get kind ↔ _).trans (and_congr_right fun _ => ?_)
  simp only [reduceCtorEq, iff_false]

theorem mem_removed : x ∈ (s.remove l).2.get kind ↔ x ∈ l.get kind ∧ x ∈ s.get kind := by
  refine (mem_delta : x ∈ (s.apply .remove l).2.get kind ↔ _).trans (and_congr_right fun _ => ?_)
  simp only [iff_true]

/-- The delta of a change leaves the same entities in scope as the change. -/
theorem leaves_delta (s : CatalogueScope) (op : ScopeOp) (l : CatalogueLists) :
    op.Leaves (x ∈ s.get kind) (x ∈ (s.apply op l).2.get kind) ↔
      x ∈ (s.apply op l).1.get kind := by
  rw [mem_apply, mem_delta]
  cases op with
  | add =>
    simp only [ScopeOp.Leaves, reduceCtorEq, iff_false]
    tauto
  | remove =>
    simp only [ScopeOp.Leaves, iff_true]
    tauto

theorem empty_add (l : CatalogueLists) : (empty.add l).1 = ofLists l := by
  apply ext_mem
  intro kind x
  rw [mem_ofLists, mem_add, or_iff_right mem_empty]

/-- What is added to the empty scope is listed whole in the delta. -/
theorem ofLists_added (l : CatalogueLists) : ofLists (empty.add l).2 = (empty.add l).1 := by
  apply ext_mem
  intro kind x
  rw [mem_ofLists]
  exact (or_iff_right mem_empty).symm.trans (leaves_delta empty .add l)

end CatalogueScope

end BackOffice
