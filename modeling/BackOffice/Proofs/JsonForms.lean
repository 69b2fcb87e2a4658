import BackOffice.Json.Basic
import Mathlib.Data.List.Forall2
import Mathlib.Data.List.Nodup

/-!
# JSON values that say more

A value still says what another says after the members of its objects have been put in another
order and members with new names have come in, at whatever depth (`Json.Extends`). What a decoder
makes of a value it should make of all that extend it (`Json.ReadsAs`); for a record that holds
because each of its members is looked up by name (`Json.Extends.record?`), and for a member because
it holds for the member's value.
-/

namespace BackOffice

namespace Json

/-- The second value says what the first says. Its objects may have their members in another order,
and members besides, whose names are not among those of the first. -/
inductive Extends : Json → Json → Prop
  | same (j : Json) : Extends j j
  | arr {items items' : List Json} (each : List.Forall₂ Extends items items') :
    Extends (.arr items) (.arr items')
  | obj {members members' : List (String × Json)}
    (once : ∀ name ∈ members.map Prod.fst, (members'.map Prod.fst).count name = 1)
    (each : ∀ name value value', (name, value) ∈ members → (name, value') ∈ members' →
      Extends value value') :
    Extends (.obj members) (.obj members')

/-- Members put in another order, together with members of other names, say the same. -/
theorem Extends.of_perm {members members' extra : List (String × Json)}
    (distinct : (members.map Prod.fst).Nodup)
    (unknown : ∀ m ∈ extra, m.1 ∉ members.map Prod.fst) (perm : members'.Perm (members ++ extra)) :
    Extends (.obj members) (.obj members') := by
  refine .obj ?_ ?_
  · intro name known
    have none : (extra.map Prod.fst).count name = 0 := by
      refine List.count_eq_zero.2 fun listed => ?_
      obtain ⟨m, member, rfl⟩ := List.mem_map.1 listed
      exact unknown m member known
    rw [(perm.map Prod.fst).count_eq, List.map_append, List.count_append, none,
      List.count_eq_one_of_mem distinct known]
  · intro name value value' here there
    rcases List.mem_append.1 (perm.mem_iff.1 there) with there | there
    · have same := List.inj_on_of_nodup_map distinct here there rfl
      rw [(Prod.mk.inj same).2]
      exact .same value'
    · exact (unknown _ there (List.mem_map.2 ⟨_, here, rfl⟩)).elim

/-- A value that is neither an array nor an object says all there is to say. -/
def IsAtom : Json → Prop
  | .arr _ | .obj _ => False
  | _ => True

theorem Extends.eq_of_isAtom {j j' : Json} (extends' : j.Extends j') (atom : j.IsAtom) :
    j' = j := by
  cases extends' with
  | same => rfl
  | arr _ => exact atom.elim
  | obj _ _ => exact atom.elim

namespace Record

/-- The record has a member of this name that says what `j` says. -/
def Has (r : Record) (name : String) (j : Json) : Prop :=
  ∃ j', r name = some j' ∧ j.Extends j'

/-- The record has these members. -/
def Holds (r : Record) (members : List (String × Json)) : Prop :=
  ∀ m ∈ members, r.Has m.1 m.2

end Record

/-- Looked up by name, the members of an object are found in each that extends it. -/
theorem Extends.exists_members {members : List (String × Json)} {j : Json}
    (extends' : (Json.obj members).Extends j) (distinct : (members.map Prod.fst).Nodup) :
    ∃ members', j = .obj members' ∧ Record.Holds (fun name => members'.lookup name) members := by
  -- Any member of the name will do, since all that there are say what the first object says.
  suffices ∃ members', j = .obj members' ∧ ∀ name value, (name, value) ∈ members →
      name ∈ members'.map Prod.fst ∧ ∀ value', (name, value') ∈ members' → value.Extends value' by
    obtain ⟨members', same, found⟩ := this
    refine ⟨members', same, fun (name, value) member => ?_⟩
    obtain ⟨named, each⟩ := found name value member
    obtain ⟨m, there, rfl⟩ := List.mem_map.1 named
    have some : (members'.lookup m.1).isSome = true :=
      List.lookup_isSome_iff.2 ⟨m, there, beq_self_eq_true _⟩
    obtain ⟨value', looked⟩ := Option.isSome_iff_exists.1 some
    obtain ⟨_, _, split, -⟩ := List.lookup_eq_some_iff.1 looked
    exact ⟨value', looked, each value' (split ▸ by simp)⟩
  cases extends' with
  | same =>
    refine ⟨members, rfl, fun name value member => ⟨List.mem_map.2 ⟨_, member, rfl⟩, ?_⟩⟩
    intro value' member'
    rw [(Prod.mk.inj (List.inj_on_of_nodup_map distinct member member' rfl)).2]
    exact .same value'
  | obj once each =>
    refine ⟨_, rfl, fun name value member => ⟨?_, fun value' => each name value value' member⟩⟩
    have one := once name (List.mem_map.2 ⟨_, member, rfl⟩)
    exact List.count_pos_iff.1 (one ▸ Nat.one_pos)

/-- A record of distinct members is found in each object that extends it. -/
theorem Extends.record? {members : List (String × Json)} {j : Json}
    (extends' : (Json.obj members).Extends j) (distinct : (members.map Prod.fst).Nodup)
    (names : List String) (partly : Bool) :
    ∃ r, j.record? names partly = some r ∧ r.Holds members := by
  obtain ⟨members', rfl, holds⟩ := extends'.exists_members distinct
  exact ⟨_, rfl, holds⟩

/-- Whatever else is said besides, the decoder makes `a` of the value. -/
def ReadsAs {α : Type} (decode : Json → Option α) (j : Json) (a : α) : Prop :=
  ∀ j', j.Extends j' → decode j' = some a

section Decoders

variable {α β : Type} {decode : Json → Option α} {encode : β → Json} {j : Json} {a : α}
  {f : β → α}

theorem readsAs_of_isAtom (atom : j.IsAtom) (read : decode j = some a) : ReadsAs decode j a := by
  intro j' extends'
  rwa [extends'.eq_of_isAtom atom]

theorem ReadsAs.map (reads : ReadsAs decode j a) (g : α → β) :
    ReadsAs (fun j => (decode j).map g) j (g a) :=
  fun j' extends' => congrArg (Option.map g) (reads j' extends')

theorem readsAs_list (reads : ∀ b, ReadsAs decode (encode b) (f b)) (items : List β) :
    ReadsAs (list? decode) (list encode items) (items.map f) := by
  have each {items' : List Json} (extended : List.Forall₂ Extends (items.map encode) items') :
      items'.mapM decode = some (items.map f) := by
    induction items generalizing items' with
    | nil =>
      cases extended
      rfl
    | cons b items ih =>
      cases extended with
      | cons first rest =>
        rw [List.mapM_cons, reads b _ first, ih rest]
        rfl
  intro j' extends'
  cases extends' with
  | same => exact each (List.forall₂_same.2 fun j _ => .same j)
  | arr extended => exact each extended

namespace Record

variable {r : Record} {name : String}

theorem Has.required (has : r.Has name j) (reads : ReadsAs decode j a) :
    r.required name decode = some a := by
  obtain ⟨j', found, extends'⟩ := has
  rw [Record.required, found, Option.bind_some, reads j' extends']

theorem Has.withDefault (has : r.Has name j) (default : α) (reads : ReadsAs decode j a) :
    r.withDefault name default decode = some a := by
  obtain ⟨j', found, extends'⟩ := has
  rw [Record.withDefault, found]
  exact reads j' extends'

/-- What may be missing is written as `null`, which the decoder must not take for a value. -/
theorem Has.optional {b : Option β} (has : r.Has name (nullable encode b))
    (reads : ∀ b, ReadsAs decode (encode b) (f b)) (silent : decode .null = none) :
    r.optional name decode = some (b.map f) := by
  obtain ⟨j', found, extends'⟩ := has
  rw [Record.optional, found]
  cases b with
  | none =>
    rw [extends'.eq_of_isAtom trivial]
    rfl
  | some b =>
    have read := reads b j' extends'
    cases j' with
    | null =>
      rw [silent] at read
      cases read
    | _ => exact congrArg (Option.map some) read

end Record

end Decoders

end Json

end BackOffice
