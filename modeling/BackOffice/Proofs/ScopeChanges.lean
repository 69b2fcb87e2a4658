import BackOffice.Proofs.ScopeSets

/-!
# Deltas of scope changes

A change of scope reports in its delta exactly the entities whose place it alters
(`CatalogueScope.mem_delta_iff`), in order, so the delta tells how much larger or smaller the scope
has become and undoes the change (`CatalogueScope.apply_undo`). Scope and delta are what one gets by
moving the listed entities one at a time (`ScopeOp.moveEach`), where what is listed again has moved
already. Over changes in a row the last one that lists an entity decides where it ends up, and the
deltas tell how often it came and went on the way.
-/

namespace BackOffice

namespace ScopeOp

/-- The direction that takes a change back. -/
def undo : ScopeOp → ScopeOp
  | .add => .remove
  | .remove => .add

/-- A change with two lists is one change with both. -/
theorem leaves_leaves {before first second : Prop} (op : ScopeOp) :
    op.Leaves (op.Leaves before first) second ↔ op.Leaves before (first ∨ second) := by
  cases op with
  | add => exact or_assoc
  | remove => exact and_assoc.trans (and_congr_right fun _ => not_or.symm)

/-- What is listed ends up in scope exactly if the change adds. -/
theorem leaves_of_listed {before listed : Prop} (op : ScopeOp) (here : listed) :
    op.Leaves before listed ↔ op = .add := by
  cases op with
  | add => exact iff_of_true (.inr here) rfl
  | remove => exact iff_of_false (fun left => left.2 here) nofun

theorem eq_remove_iff {op : ScopeOp} : op = .remove ↔ op ≠ .add := by
  cases op <;> decide

/-- Puts an entity into a set or takes it out, unless it is already where it is to go. -/
def move? (op : ScopeOp) (s : SortedSet CatalogueId) (x : CatalogueId) :
    Option (SortedSet CatalogueId) :=
  match op with
  | .add =>
    if x ∈ s then none
    else some ⟨insertSorted x s.items, insertSorted_increasing x s.increasing⟩
  | .remove =>
    if x ∈ s then some ⟨s.items.filter (· ≠ x), s.increasing.filter _⟩
    else none

/-- Moves the entities of a list one at a time, and lists those that have moved, in the order in
which it came to them. -/
def moveEach (op : ScopeOp) :
    SortedSet CatalogueId → List CatalogueId → SortedSet CatalogueId × List CatalogueId
  | s, [] => (s, [])
  | s, x :: l =>
    match op.move? s x with
    | none => op.moveEach s l
    | some t =>
      let (u, moved) := op.moveEach t l
      (u, x :: moved)

variable {op : ScopeOp} {s t : SortedSet CatalogueId} {l : List CatalogueId} {x y : CatalogueId}

theorem move?_eq_none_iff : op.move? s x = none ↔ (x ∈ s ↔ op = .add) := by
  cases op with
  | add => simp [move?]
  | remove => simp [move?]

theorem mem_of_move? (moved : op.move? s x = some t) :
    y ∈ t ↔ op.Leaves (y ∈ s) (y = x) := by
  cases op with
  | add =>
    rw [move?] at moved
    split at moved
    next => cases moved
    next =>
      cases moved
      exact mem_insertSorted.trans or_comm
  | remove =>
    rw [move?] at moved
    split at moved
    next =>
      cases moved
      exact List.mem_filter.trans (and_congr_right fun _ => decide_eq_true_iff)
    next => cases moved

theorem mem_moveEach : y ∈ (op.moveEach s l).1 ↔ op.Leaves (y ∈ s) (y ∈ l) := by
  induction l generalizing s with
  | nil => exact (op.leaves_of_not_listed List.not_mem_nil).symm
  | cons x l ih =>
    rw [moveEach, List.mem_cons]
    split
    next stays =>
      -- An entity that does not move is where the change leaves it.
      rw [ih, ← op.leaves_leaves]
      by_cases same : y = x
      · rw [op.leaves_of_listed same, same, move?_eq_none_iff.1 stays]
      · rw [op.leaves_of_not_listed same]
    next t moved => rw [ih, mem_of_move? moved, op.leaves_leaves]

theorem mem_moved : y ∈ (op.moveEach s l).2 ↔ y ∈ l ∧ (y ∈ s ↔ op = .remove) := by
  induction l generalizing s with
  | nil => simp [moveEach]
  | cons x l ih =>
    rw [moveEach, List.mem_cons]
    split
    next stays =>
      rw [ih]
      refine and_congr_left fun misplaced => (or_iff_right ?_).symm
      rintro rfl
      have placed := move?_eq_none_iff.1 stays
      rw [misplaced, eq_remove_iff] at placed
      exact not_iff_self placed
    next t moved =>
      have misplaced : x ∈ s ↔ op = .remove := by
        have placed := mt move?_eq_none_iff.2 (by rw [moved]; exact nofun)
        rw [eq_remove_iff]
        tauto
      by_cases same : y = x
      · simp only [same, List.mem_cons, true_or, true_and, misplaced]
      · rw [List.mem_cons, ih, mem_of_move? moved, op.leaves_of_not_listed same]
        simp only [same, false_or]

/-- An entity moves once: listed again it is already where it is to go. -/
theorem moved_nodup : (op.moveEach s l).2.Nodup := by
  induction l generalizing s with
  | nil => exact List.nodup_nil
  | cons x l ih =>
    rw [moveEach]
    split
    next => exact ih
    next t moved =>
      refine List.nodup_cons.2 ⟨fun again => ?_, ih⟩
      have placed := (mem_moved.1 again).2
      rw [mem_of_move? moved, op.leaves_of_listed rfl, eq_remove_iff] at placed
      exact iff_not_self placed

end ScopeOp

namespace CatalogueLists

theorem isEmpty_iff {l : CatalogueLists} : l.isEmpty = true ↔ ∀ kind x, x ∉ l.get kind := by
  simp only [← List.eq_nil_iff_forall_not_mem]
  constructor
  · intro none kind
    rw [isEmpty, PerKind.toList, List.all_map, List.all_eq_true] at none
    exact List.isEmpty_iff.1 (none kind (by cases kind <;> decide))
  · intro none
    simp [isEmpty, PerKind.toList, CatalogueKind.all, none]

theorem size_eq (l : CatalogueLists) :
    l.size = (l.get .product).length + (l.get .collection).length + (l.get .category).length := by
  simp [size, PerKind.toList, CatalogueKind.all, Nat.add_assoc]

end CatalogueLists

namespace CatalogueScope

variable {s : CatalogueScope} {op : ScopeOp} {l : CatalogueLists} {kind : CatalogueKind}
  {x : CatalogueId}

section Delta

theorem delta_increasing (s : CatalogueScope) (op : ScopeOp) (l : CatalogueLists)
    (kind : CatalogueKind) : ((s.apply op l).2.get kind).Pairwise (· < ·) := by
  rw [get_apply_snd]
  cases op with
  | add => exact sortDistinct_increasing _
  | remove => exact sortDistinct_increasing _

/-- The delta lists exactly the entities that the change moves. -/
theorem mem_delta_iff :
    x ∈ (s.apply op l).2.get kind ↔ ¬(x ∈ (s.apply op l).1.get kind ↔ x ∈ s.get kind) := by
  rw [mem_delta, mem_apply]
  by_cases listed : x ∈ l.get kind
  · rw [op.leaves_of_listed listed, ScopeOp.eq_remove_iff]
    tauto
  · rw [op.leaves_of_not_listed listed]
    tauto

theorem delta_isEmpty_iff : (s.apply op l).2.isEmpty = true ↔ (s.apply op l).1 = s := by
  simp only [CatalogueLists.isEmpty_iff, mem_delta_iff, not_not]
  constructor
  · exact ext_mem
  · intro same kind x
    rw [same]

/-- Only which entities are listed counts. -/
theorem apply_congr {l' : CatalogueLists} (same : ∀ kind x, x ∈ l'.get kind ↔ x ∈ l.get kind) :
    s.apply op l' = s.apply op l := by
  apply Prod.ext
  · apply ext_mem
    intro kind x
    rw [mem_apply, mem_apply, same]
  · apply PerKind.ext_get
    intro kind
    refine (s.delta_increasing op l' kind).eq_of_mem_iff (s.delta_increasing op l kind) ?_
    intro x
    rw [mem_delta, mem_delta, same]

/-- The delta takes the change back, and is reported again. -/
theorem apply_undo (s : CatalogueScope) (op : ScopeOp) (l : CatalogueLists) :
    (s.apply op l).1.apply op.undo (s.apply op l).2 = (s, (s.apply op l).2) := by
  have back : ((s.apply op l).1.apply op.undo (s.apply op l).2).1 = s := by
    apply ext_mem
    intro kind x
    rw [mem_apply, mem_delta, mem_apply]
    cases op with
    | add =>
      simp only [ScopeOp.undo, ScopeOp.Leaves, reduceCtorEq, iff_false]
      tauto
    | remove =>
      simp only [ScopeOp.undo, ScopeOp.Leaves, iff_true]
      tauto
  refine Prod.ext back (PerKind.ext_get fun kind => ?_)
  refine (delta_increasing _ _ _ kind).eq_of_mem_iff (s.delta_increasing op l kind) ?_
  intro x
  -- The way back moves what the way there moved.
  rw [mem_delta_iff, mem_delta_iff, back, iff_comm (a := x ∈ s.get kind)]

/-- What is in scope after an addition is what was in scope and what the delta lists. -/
theorem perm_add (s : CatalogueScope) (l : CatalogueLists) (kind : CatalogueKind) :
    ((s.apply .add l).1.get kind).items.Perm
      ((s.get kind).items ++ (s.apply .add l).2.get kind) := by
  have new : ((s.get kind).items ++ (s.apply .add l).2.get kind).Nodup := by
    refine List.nodup_append'.2 ⟨(s.get kind).increasing.nodup,
      (s.delta_increasing .add l kind).nodup, fun x old added => ?_⟩
    exact nomatch (mem_delta.1 added).2.1 old
  rw [List.perm_ext_iff_of_nodup ((s.apply .add l).1.get kind).increasing.nodup new]
  intro x
  rw [List.mem_append]
  exact (leaves_delta s .add l).symm

/-- The scope grows by as many entities as the delta lists. -/
theorem size_add (s : CatalogueScope) (l : CatalogueLists) :
    (s.apply .add l).1.toLists.size = s.toLists.size + (s.apply .add l).2.size := by
  have each : ∀ kind, ((s.apply .add l).1.toLists.get kind).length =
      (s.toLists.get kind).length + ((s.apply .add l).2.get kind).length := by
    intro kind
    rw [toLists, toLists, PerKind.map, PerKind.map, PerKind.get_ofFn, PerKind.get_ofFn,
      (s.perm_add l kind).length_eq, List.length_append]
  simp only [CatalogueLists.size_eq, each]
  omega

/-- The scope shrinks by as many entities as the delta lists. -/
theorem size_remove (s : CatalogueScope) (l : CatalogueLists) :
    (s.apply .remove l).1.toLists.size + (s.apply .remove l).2.size = s.toLists.size := by
  have back := (s.apply .remove l).1.size_add (s.apply .remove l).2
  rw [show (s.apply .remove l).1.apply .add (s.apply .remove l).2 = _ from
    s.apply_undo .remove l] at back
  exact back.symm

/-- A change is made one entity at a time. -/
theorem get_apply_eq_moveEach (s : CatalogueScope) (op : ScopeOp) (l : CatalogueLists)
    (kind : CatalogueKind) :
    (s.apply op l).1.get kind = (op.moveEach (s.get kind) (l.get kind)).1 ∧
      ((s.apply op l).2.get kind).Perm (op.moveEach (s.get kind) (l.get kind)).2 := by
  constructor
  · apply SortedSet.ext_mem
    intro x
    rw [mem_apply, ScopeOp.mem_moveEach]
  · rw [List.perm_ext_iff_of_nodup (s.delta_increasing op l kind).nodup ScopeOp.moved_nodup]
    intro x
    rw [mem_delta, ScopeOp.mem_moved]

end Delta

/-- The scope after changes one after another, and the delta of each with its direction. -/
def applyAll (s : CatalogueScope) :
    List (ScopeOp × CatalogueLists) → CatalogueScope × List (ScopeOp × CatalogueLists)
  | [] => (s, [])
  | (op, l) :: changes =>
    let (next, delta) := s.apply op l
    let (last, deltas) := next.applyAll changes
    (last, (op, delta) :: deltas)

/-- The direction of the last change that lists an entity, if any does. -/
def lastListing? (changes : List (ScopeOp × CatalogueLists)) (kind : CatalogueKind)
    (x : CatalogueId) : Option ScopeOp :=
  (changes.reverse.find? fun change => x ∈ change.2.get kind).map Prod.fst

/-- How many of the deltas of one direction list an entity. -/
def timesListed (op : ScopeOp) (deltas : List (ScopeOp × CatalogueLists)) (kind : CatalogueKind)
    (x : CatalogueId) : Nat :=
  deltas.countP fun delta => delta.1 = op ∧ x ∈ delta.2.get kind

/-- One if an entity is in scope, and zero if not. -/
def presence (s : CatalogueScope) (kind : CatalogueKind) (x : CatalogueId) : Nat :=
  if x ∈ s.get kind then 1 else 0

section Runs

variable {changes : List (ScopeOp × CatalogueLists)}

theorem applyAll_cons : s.applyAll ((op, l) :: changes) =
    (((s.apply op l).1.applyAll changes).1,
      (op, (s.apply op l).2) :: ((s.apply op l).1.applyAll changes).2) := rfl

theorem lastListing?_cons : lastListing? ((op, l) :: changes) kind x =
    (lastListing? changes kind x).or (if x ∈ l.get kind then some op else none) := by
  rw [lastListing?, List.reverse_cons, List.find?_append, Option.map_or]
  by_cases listed : x ∈ l.get kind
  · simp [lastListing?, listed]
  · simp [lastListing?, listed]

/-- The last change that lists an entity decides whether it is in scope in the end. -/
theorem mem_applyAll : x ∈ (s.applyAll changes).1.get kind ↔
    lastListing? changes kind x = some .add ∨
      lastListing? changes kind x = none ∧ x ∈ s.get kind := by
  induction changes generalizing s with
  | nil => simp [applyAll, lastListing?]
  | cons change changes ih =>
    obtain ⟨op, l⟩ := change
    rw [applyAll_cons, ih, mem_apply, lastListing?_cons]
    cases lastListing? changes kind x with
    | some later => simp
    | none =>
      by_cases listed : x ∈ l.get kind
      · simp [listed, op.leaves_of_listed]
      · simp [listed, op.leaves_of_not_listed]

theorem timesListed_cons (op' : ScopeOp) (delta : CatalogueLists) :
    timesListed op' ((op, delta) :: changes) kind x =
      timesListed op' changes kind x + if op = op' ∧ x ∈ delta.get kind then 1 else 0 := by
  simp only [timesListed, List.countP_cons, decide_eq_true_eq]

/-- A change alters whether an entity is in scope by what its delta says. -/
theorem listed_apply (s : CatalogueScope) (op : ScopeOp) (l : CatalogueLists)
    (kind : CatalogueKind) (x : CatalogueId) :
    s.presence kind x + (if op = .add ∧ x ∈ (s.apply op l).2.get kind then 1 else 0) =
      (s.apply op l).1.presence kind x +
        if op = .remove ∧ x ∈ (s.apply op l).2.get kind then 1 else 0 := by
  by_cases moved : x ∈ (s.apply op l).2.get kind
  · have before := (mem_delta.1 moved).2
    have after := mem_delta_iff.1 moved
    cases op with
    | add =>
      have out : x ∉ s.get kind := by simpa using before
      simp only [out, iff_false, not_not] at after
      simp [presence, moved, out, after]
    | remove =>
      have within : x ∈ s.get kind := by simpa using before
      simp only [within, iff_true] at after
      simp [presence, moved, within, after]
  · have same := not_not.1 (mt mem_delta_iff.2 moved)
    simp [presence, moved, same]

/-- Coming and going balance. -/
theorem timesListed_applyAll (s : CatalogueScope) (changes : List (ScopeOp × CatalogueLists))
    (kind : CatalogueKind) (x : CatalogueId) :
    s.presence kind x + timesListed .add (s.applyAll changes).2 kind x =
      (s.applyAll changes).1.presence kind x +
        timesListed .remove (s.applyAll changes).2 kind x := by
  induction changes generalizing s with
  | nil => rfl
  | cons change changes ih =>
    obtain ⟨op, l⟩ := change
    have first := s.listed_apply op l kind x
    have rest := ih (s.apply op l).1
    simp only [applyAll_cons, timesListed_cons]
    omega

end Runs

/-- **Changes of scope are exact, reported exactly, and can be taken back.** For every scope and
whatever lists, in each kind on its own: an addition leads to the union and its delta lists in order
what is new, a removal leads to the difference and its delta lists in order what was there. Both are
what moving the listed entities one at a time leads to. The delta is as long as the scope has grown
or shrunk, and empty exactly if the scope is the same. Order and repetitions in the lists do not
matter. The delta of a change, applied the other way, restores the scope and is reported again. Over
changes in a row an entity is in scope in the end exactly if the last change that lists it adds it,
or none lists it and it was there; and how often it was added, less how often it was removed, is
what became of it. -/
theorem scope_changes_are_exact (s : CatalogueScope) :
    (∀ l : CatalogueLists,
      (∀ kind x, x ∈ (s.add l).1.get kind ↔ x ∈ s.get kind ∨ x ∈ l.get kind) ∧
      (∀ kind x, x ∈ (s.add l).2.get kind ↔ x ∈ l.get kind ∧ x ∉ s.get kind) ∧
      (∀ kind x, x ∈ (s.remove l).1.get kind ↔ x ∈ s.get kind ∧ x ∉ l.get kind) ∧
      (∀ kind x, x ∈ (s.remove l).2.get kind ↔ x ∈ l.get kind ∧ x ∈ s.get kind) ∧
      (s.add l).1.toLists.size = s.toLists.size + (s.add l).2.size ∧
      (s.remove l).1.toLists.size + (s.remove l).2.size = s.toLists.size ∧
      (s.add l).1.remove (s.add l).2 = (s, (s.add l).2) ∧
      (s.remove l).1.add (s.remove l).2 = (s, (s.remove l).2) ∧
      ∀ op,
        (∀ kind, ((s.apply op l).2.get kind).Pairwise (· < ·)) ∧
        ((s.apply op l).2.isEmpty = true ↔ (s.apply op l).1 = s) ∧
        (∀ l', (∀ kind x, x ∈ l'.get kind ↔ x ∈ l.get kind) → s.apply op l' = s.apply op l) ∧
        ∀ kind, (s.apply op l).1.get kind = (op.moveEach (s.get kind) (l.get kind)).1 ∧
          ((s.apply op l).2.get kind).Perm (op.moveEach (s.get kind) (l.get kind)).2) ∧
    ∀ changes kind x,
      let last := (s.applyAll changes).1
      let deltas := (s.applyAll changes).2
      (x ∈ last.get kind ↔ lastListing? changes kind x = some .add ∨
        lastListing? changes kind x = none ∧ x ∈ s.get kind) ∧
      (timesListed .add deltas kind x : Int) - timesListed .remove deltas kind x =
        last.presence kind x - s.presence kind x := by
  constructor
  · intro l
    refine ⟨fun kind x => mem_add, fun kind x => mem_added, fun kind x => mem_remove,
      fun kind x => mem_removed, s.size_add l, s.size_remove l, s.apply_undo .add l,
      s.apply_undo .remove l, fun op => ?_⟩
    exact ⟨s.delta_increasing op l, delta_isEmpty_iff, fun l' => apply_congr,
      s.get_apply_eq_moveEach op l⟩
  · intro changes kind x last deltas
    refine ⟨mem_applyAll, ?_⟩
    have balance : s.presence kind x + timesListed .add deltas kind x =
        last.presence kind x + timesListed .remove deltas kind x :=
      s.timesListed_applyAll changes kind x
    omega

/-- Of the products that are added one is new and listed twice. It is then removed together with
one that was there from the start, and stays out; a collection of the same number stays in. -/
theorem scope_changes_are_exact_for_two :
    let s : CatalogueScope := .ofLists ⟨[2, 1], [], []⟩
    let l : CatalogueLists := ⟨[3, 2, 3], [3], []⟩
    let l' : CatalogueLists := ⟨[2, 3], [3, 3], []⟩
    let changes : List (ScopeOp × CatalogueLists) := [(.add, l), (.remove, ⟨[1, 3], [], [3]⟩)]
    (∀ kind x, x ∈ l'.get kind ↔ x ∈ l.get kind) ∧ s.apply .add l' = s.apply .add l ∧
      (s.add l).2 = ⟨[3], [3], []⟩ ∧ (s.add l).1.remove (s.add l).2 = (s, (s.add l).2) ∧
      3 ∉ (s.applyAll changes).1.get .product ∧ 3 ∈ (s.applyAll changes).1.get .collection := by
  intro s l l' changes
  obtain ⟨change, run⟩ := scope_changes_are_exact s
  obtain ⟨-, -, -, -, -, -, undone, -, others⟩ := change l
  obtain ⟨-, -, reordered, -⟩ := others .add
  have same : ∀ kind x, x ∈ l'.get kind ↔ x ∈ l.get kind := by
    intro kind x
    cases kind with
    | product =>
      change x ∈ [2, 3] ↔ x ∈ [3, 2, 3]
      simp only [List.mem_cons, List.not_mem_nil, or_false]
      tauto
    | collection =>
      change x ∈ [3, 3] ↔ x ∈ [3]
      simp only [List.mem_cons, List.not_mem_nil, or_false, or_self]
    | category => exact Iff.rfl
  refine ⟨same, reordered l' same, by decide, undone, ?_, ?_⟩
  · rw [(run changes .product 3).1]
    decide
  · rw [(run changes .collection 3).1]
    decide

end CatalogueScope

end BackOffice
