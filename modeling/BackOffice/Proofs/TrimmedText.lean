import BackOffice.Text.Blank
import Mathlib.Data.List.DropRight

/-!
# Trimmed texts

What is trimmed stays as it is when it is trimmed again, and so does what is in upper case. Upper
case makes no character blank or visible, so a text can be trimmed before or after it
(`trim_upper`). Two texts have the `SameSpelling` if they differ at most in the case of ASCII
letters and in the blanks around them.
-/

namespace BackOffice.Text

section Characters

theorem isUpper_iff_toNat {c : Char} : c.isUpper = true ↔ 65 ≤ c.toNat ∧ c.toNat ≤ 90 :=
  decide_eq_true_iff

theorem isLower_iff_toNat {c : Char} : c.isLower = true ↔ 97 ≤ c.toNat ∧ c.toNat ≤ 122 :=
  Bool.and_eq_true_iff.trans (and_congr decide_eq_true_iff decide_eq_true_iff)

theorem isAlpha_iff {c : Char} : c.isAlpha = true ↔ c.isUpper = true ∨ c.isLower = true :=
  Bool.or_eq_true_iff

theorem toNat_toUpper (c : Char) :
    c.toUpper.toNat = if 97 ≤ c.toNat ∧ c.toNat ≤ 122 then c.toNat - 32 else c.toNat := by
  have lower : ('a'.val ≤ c.val ∧ c.val ≤ 'z'.val) ↔ 97 ≤ c.toNat ∧ c.toNat ≤ 122 := Iff.rfl
  delta Char.toUpper
  simp only [lower]
  split
  next within =>
    change (c.val + ('A'.val - 'a'.val)).toNat = c.toNat - 32
    have offset : ('A'.val - 'a'.val).toNat = 4294967264 := rfl
    have value : c.val.toNat = c.toNat := rfl
    rw [UInt32.toNat_add, offset, value]
    omega
  next => rfl

theorem isBlank_toUpper (c : Char) : isBlank c.toUpper = isBlank c := by
  have value := toNat_toUpper c
  rw [Bool.eq_iff_iff]
  simp only [isBlank, Bool.or_eq_true, Bool.and_eq_true, decide_eq_true_eq, beq_iff_eq]
  split at value <;> omega

theorem toUpper_toUpper (c : Char) : c.toUpper.toUpper = c.toUpper := by
  apply Char.toNat_inj.1
  rw [toNat_toUpper c.toUpper, if_neg]
  rw [toNat_toUpper]
  split <;> omega

end Characters

section Trim

theorem toList_trim (s : String) : (trim s).toList = stripEnd (stripStart s.toList) :=
  String.toList_ofList

theorem toList_upper (s : String) : (upper s).toList = s.toList.map Char.toUpper :=
  String.toList_ofList

theorem stripStart_eq_self_iff {cs : List Char} :
    stripStart cs = cs ↔ ∀ c ∈ cs.head?, isBlank c = false := by
  cases cs with
  | nil => simp [stripStart]
  | cons c cs => simp [stripStart, List.dropWhile_eq_self_iff]

theorem stripEnd_eq_self_iff {cs : List Char} :
    stripEnd cs = cs ↔ ∀ c ∈ cs.getLast?, isBlank c = false := by
  rw [stripEnd, List.reverse_eq_iff, stripStart_eq_self_iff, List.head?_reverse]

/-- What is left after both ends have been stripped starts and ends with what is not blank. -/
theorem trim_trim (s : String) : trim (trim s) = trim s := by
  have front : stripStart (stripStart s.toList) = stripStart s.toList :=
    List.dropWhile_idempotent isBlank s.toList
  have back : stripEnd (stripEnd (stripStart s.toList)) = stripEnd (stripStart s.toList) :=
    List.rdropWhile_idempotent isBlank (stripStart s.toList)
  -- The end is stripped last; what that leaves is a prefix, so it starts as before.
  have begins : stripEnd (stripStart s.toList) <+: stripStart s.toList :=
    List.rdropWhile_prefix isBlank _
  have still : stripStart (stripEnd (stripStart s.toList)) = stripEnd (stripStart s.toList) := by
    rw [stripStart_eq_self_iff] at front ⊢
    obtain ⟨rest, split⟩ := begins
    intro c first
    refine front c ?_
    rw [← split, List.head?_append, Option.mem_def.1 first, Option.some_or]
    rfl
  apply String.toList_inj.1
  rw [toList_trim, toList_trim, still, back]

theorem trim_of_no_blank {s : String} (visible : ∀ c ∈ s.toList, isBlank c = false) :
    trim s = s := by
  have front : stripStart s.toList = s.toList :=
    stripStart_eq_self_iff.2 fun c first => visible c (List.mem_of_head? first)
  have back : stripEnd s.toList = s.toList :=
    stripEnd_eq_self_iff.2 fun c last => visible c (List.mem_of_getLast? last)
  apply String.toList_inj.1
  rw [toList_trim, front, back]

theorem stripStart_map_toUpper (cs : List Char) :
    stripStart (cs.map Char.toUpper) = (stripStart cs).map Char.toUpper := by
  have same : isBlank ∘ Char.toUpper = isBlank := funext isBlank_toUpper
  rw [stripStart, List.dropWhile_map, same]
  rfl

theorem trim_upper (s : String) : trim (upper s) = upper (trim s) := by
  apply String.toList_inj.1
  rw [toList_trim, toList_upper, toList_upper, toList_trim, stripStart_map_toUpper, stripEnd,
    ← List.map_reverse, stripStart_map_toUpper, ← List.map_reverse, stripEnd]

theorem upper_upper (s : String) : upper (upper s) = upper s := by
  apply String.toList_inj.1
  rw [toList_upper, toList_upper, List.map_map]
  exact List.map_congr_left fun c _ => toUpper_toUpper c

/-- A text has something to it exactly if something is left of it after trimming. -/
theorem nonBlank?_eq_some_iff {s t : String} : nonBlank? s = some t ↔ t = trim s ∧ t ≠ "" := by
  by_cases empty : trim s = ""
  · have none : nonBlank? s = none := by simp [nonBlank?, empty]
    rw [none, empty]
    exact ⟨nofun, fun ⟨same, given⟩ => (given same).elim⟩
  · have given : nonBlank? s = some (trim s) := by
      rw [nonBlank?, if_neg (by rwa [String.isEmpty_iff])]
    rw [given, Option.some.injEq]
    constructor
    · rintro rfl
      exact ⟨rfl, empty⟩
    · rintro ⟨rfl, -⟩
      rfl

end Trim

section Spelling

/-- The texts differ at most in the case of ASCII letters and in the blanks around them. -/
def SameSpelling (s t : String) : Prop := upper (trim s) = upper (trim t)

instance (s t : String) : Decidable (SameSpelling s t) :=
  inferInstanceAs (Decidable (_ = _))

/-- The text is the core with blanks around it. -/
def Pads (s : String) (core : List Char) : Prop :=
  ∃ front back, s.toList = front ++ core ++ back ∧ (∀ c ∈ front, isBlank c = true) ∧
    ∀ c ∈ back, isBlank c = true

variable {s t : String} {core core' : List Char}

theorem pads_trim (s : String) : Pads s (trim s).toList := by
  refine ⟨s.toList.takeWhile isBlank, (stripStart s.toList).rtakeWhile isBlank, ?_, ?_, ?_⟩
  · have back : stripEnd (stripStart s.toList) ++ (stripStart s.toList).rtakeWhile isBlank =
        stripStart s.toList := List.rdropWhile_append_rtakeWhile
    rw [toList_trim, List.append_assoc, back]
    exact List.takeWhile_append_dropWhile.symm
  · exact fun c there => List.mem_takeWhile_imp there
  · exact fun c there => List.mem_rtakeWhile_imp there

theorem stripEnd_append (cs : List Char) {back : List Char} (blank : ∀ c ∈ back, isBlank c = true) :
    stripEnd (cs ++ back) = stripEnd cs := by
  have reversed : ∀ c ∈ back.reverse, isBlank c = true := fun c there =>
    blank c (List.mem_reverse.1 there)
  rw [stripEnd, List.reverse_append, stripStart, List.dropWhile_append_of_pos reversed]
  rfl

/-- What is trimmed off a text is no more than what is trimmed off its core. -/
theorem Pads.trim_eq (pads : Pads s core) : trim s = trim (String.ofList core) := by
  obtain ⟨front, back, split, before, behind⟩ := pads
  have start : stripStart (front ++ (core ++ back)) = stripStart (core ++ back) :=
    List.dropWhile_append_of_pos before
  apply String.toList_inj.1
  rw [toList_trim, toList_trim, split, String.toList_ofList, List.append_assoc, start]
  have rest : stripStart (core ++ back) =
      if (stripStart core).isEmpty then stripStart back else stripStart core ++ back :=
    List.dropWhile_append
  rw [rest]
  split
  next none =>
    have blank : stripStart back = [] := List.dropWhile_eq_nil_iff.2 behind
    rw [blank, List.isEmpty_iff.1 none]
  next => exact stripEnd_append _ behind

/-- Texts have the same spelling exactly if they are cores that differ only in the case of ASCII
letters, with any blanks around them. -/
theorem sameSpelling_iff : SameSpelling s t ↔
    ∃ core core', Pads s core ∧ Pads t core' ∧ core.map Char.toUpper = core'.map Char.toUpper := by
  constructor
  · intro same
    refine ⟨(trim s).toList, (trim t).toList, pads_trim s, pads_trim t, ?_⟩
    rw [← toList_upper, ← toList_upper, show upper (trim s) = upper (trim t) from same]
  · rintro ⟨core, core', pads, pads', same⟩
    have upper_core : upper (String.ofList core) = upper (String.ofList core') := by
      apply String.toList_inj.1
      rw [toList_upper, toList_upper, String.toList_ofList, String.toList_ofList, same]
    rw [SameSpelling, pads.trim_eq, pads'.trim_eq, ← trim_upper, ← trim_upper, upper_core]

end Spelling

end BackOffice.Text
