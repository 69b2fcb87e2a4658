import BackOffice.Discount.Code
import BackOffice.Proofs.DiscountRules
import BackOffice.Proofs.TrimmedText
import Mathlib.Data.String.Basic

/-!
# How codes are spelled

Of the text that a person types for a voucher code only the spelling counts (`parse_congr`). What
is read off it, and every random code, is `Canonical`: it is read off its own text again, so it is
read off exactly the texts of its spelling (`Canonical.parse_eq_ok_iff`). Country codes are likewise
kept in one spelling.
-/

namespace BackOffice

open BackOffice.Text

theorem utf8Len_of_ascii {cs : List Char} (ascii : ∀ c ∈ cs, c.toNat ≤ 127) :
    String.utf8Len cs = cs.length := by
  induction cs with
  | nil => rfl
  | cons c cs ih =>
    obtain ⟨first, rest⟩ := List.forall_mem_cons.1 ascii
    have size : c.utf8Size = 1 := Char.utf8Size_eq_one_iff.2 first
    rw [String.utf8Len_cons, ih rest, size, List.length_cons]

/-- A text of ASCII characters has as many octets as characters. -/
theorem utf8ByteSize_of_ascii {s : String} (ascii : ∀ c ∈ s.toList, c.toNat ≤ 127) :
    s.utf8ByteSize = s.length := by
  rw [← String.length_toList, ← utf8Len_of_ascii ascii, ← String.utf8ByteSize_ofList,
    String.ofList_toList]

namespace VoucherCode

/-- The code is read off its own text. -/
def Canonical (c : VoucherCode) : Prop := parse c.text = .ok c

instance (c : VoucherCode) : Decidable c.Canonical :=
  inferInstanceAs (Decidable (_ = _))

section Characters

variable {c : Char}

theorem allows_iff :
    allows c = true ↔ c.isAlpha = true ∨ c.isDigit = true ∨ c = '-' ∨ c = '_' := by
  simp only [allows, Char.isAlphanum, Bool.or_eq_true, beq_iff_eq, or_assoc]

theorem allows_iff_toNat : allows c = true ↔
    48 ≤ c.toNat ∧ c.toNat ≤ 57 ∨ 65 ≤ c.toNat ∧ c.toNat ≤ 90 ∨
      97 ≤ c.toNat ∧ c.toNat ≤ 122 ∨ c.toNat = 45 ∨ c.toNat = 95 := by
  have hyphen : c = '-' ↔ c.toNat = 45 := Char.toNat_inj.symm
  have underscore : c = '_' ↔ c.toNat = 95 := Char.toNat_inj.symm
  have digit : c.isDigit = true ↔ 48 ≤ c.toNat ∧ c.toNat ≤ 57 := Char.isDigit_iff_toNat
  rw [allows_iff, isAlpha_iff, isUpper_iff_toNat, isLower_iff_toNat, digit, hyphen, underscore]
  omega

theorem allows_toUpper (c : Char) : allows c.toUpper = allows c := by
  rw [Bool.eq_iff_iff, allows_iff_toNat, allows_iff_toNat, toNat_toUpper]
  split <;> omega

theorem toNat_le_of_allows (allowed : allows c = true) : c.toNat ≤ 127 := by
  have number := allows_iff_toNat.1 allowed
  omega

end Characters

section Parse

variable {s t : String} {c : VoucherCode}

/-- How a code may be spelled, in upper or lower case: not too long, and of characters that a code
may have. -/
structure Wellformed (s : String) : Prop where
  some : 1 ≤ s.length
  short : s.length ≤ maxLength
  allowed : ∀ c ∈ s.toList, allows c = true

theorem wellformed_upper_iff : Wellformed (upper s) ↔ Wellformed s := by
  have length : (upper s).length = s.length := by
    rw [← String.length_toList, toList_upper, List.length_map, String.length_toList]
  have allowed : (∀ c ∈ (upper s).toList, allows c = true) ↔ ∀ c ∈ s.toList, allows c = true := by
    simp only [toList_upper, List.forall_mem_map, allows_toUpper]
  constructor
  · rintro ⟨some, short, chars⟩
    exact ⟨length ▸ some, length ▸ short, allowed.1 chars⟩
  · rintro ⟨some, short, chars⟩
    exact ⟨length.symm ▸ some, length.symm ▸ short, allowed.2 chars⟩

/-- The bounds on octets and on characters agree where all characters are allowed. -/
theorem wellformed_iff_size :
    Wellformed s ↔ s.isEmpty = false ∧ s.utf8ByteSize ≤ maxLength ∧ s.toList.all allows = true := by
  have some : 1 ≤ s.length ↔ s.isEmpty = false := by
    rw [Nat.one_le_iff_ne_zero, ← String.length_toList, ne_eq, List.length_eq_zero_iff,
      String.toList_eq_nil_iff, Bool.eq_false_iff, ne_eq, String.isEmpty_iff]
  have size (allowed : ∀ c ∈ s.toList, allows c = true) : s.utf8ByteSize = s.length :=
    utf8ByteSize_of_ascii fun c there => toNat_le_of_allows (allowed c there)
  rw [List.all_eq_true]
  constructor
  · intro wellformed
    exact ⟨some.1 wellformed.some, size wellformed.allowed ▸ wellformed.short, wellformed.allowed⟩
  · rintro ⟨given, short, allowed⟩
    exact ⟨some.2 given, size allowed ▸ short, allowed⟩

theorem parse_congr (same : SameSpelling s t) : parse s = parse t := by
  simp only [parse, show upper (trim s) = upper (trim t) from same]

/-- A code is read off exactly the texts that are well-formed between the blanks around them, and
it is what stands there in upper case. -/
theorem parse_eq_ok_iff :
    parse s = .ok c ↔ Wellformed (trim s) ∧ c.text = upper (trim s) := by
  rw [← wellformed_upper_iff, wellformed_iff_size]
  constructor
  · intro read
    simp only [parse] at read
    split at read
    next => cases read
    next given =>
      split at read
      next => cases read
      next short =>
        split at read
        next allowed =>
          rw [← Except.ok.inj read]
          exact ⟨⟨Bool.eq_false_iff.2 given, Nat.not_lt.1 short, allowed⟩, rfl⟩
        next => cases read
  · rintro ⟨⟨given, short, allowed⟩, text⟩
    have code : c = ⟨upper (trim s)⟩ := congrArg VoucherCode.mk text
    rw [code]
    simp only [parse, given, Nat.not_lt.2 short, allowed, Bool.false_eq_true, ↓reduceIte]

theorem text_of_parse (read : parse s = .ok c) : c.text = upper (trim s) :=
  (parse_eq_ok_iff.1 read).2

theorem sameSpelling_upper_trim (s : String) : SameSpelling (upper (trim s)) s := by
  rw [SameSpelling, trim_upper, trim_trim, upper_upper]

theorem canonical_of_parse (read : parse s = .ok c) : c.Canonical := by
  rw [Canonical, text_of_parse read, parse_congr (sameSpelling_upper_trim s), read]

theorem Canonical.upper_trim (canonical : c.Canonical) : upper (trim c.text) = c.text :=
  (text_of_parse canonical).symm

/-- A canonical code is read off exactly the texts of its spelling. -/
theorem Canonical.parse_eq_ok_iff (canonical : c.Canonical) :
    parse s = .ok c ↔ SameSpelling s c.text := by
  constructor
  · intro read
    rw [SameSpelling, canonical.upper_trim, text_of_parse read]
  · intro same
    rw [parse_congr same]
    exact canonical

end Parse

section Generate

variable (length : Nat) (picks : Picks)

theorem mem_alphabet {c : Char} (drawn : c ∈ alphabet) :
    c.toUpper = c ∧ isBlank c = false ∧ allows c = true := by
  have each : alphabet.all (fun c => decide (c.toUpper = c ∧ isBlank c = false ∧
      allows c = true)) = true := by decide
  exact of_decide_eq_true (List.all_eq_true.1 each c drawn)

theorem mem_alphabet_of_mem_generate {c : Char} (there : c ∈ (generate length picks).text.toList) :
    c ∈ alphabet := by
  rw [generate, String.toList_ofList] at there
  obtain ⟨i, -, rfl⟩ := List.mem_map.1 there
  exact List.get_mem ..

theorem length_generate : (generate length picks).text.length = min (max length 1) maxLength := by
  rw [generate, String.length_ofList, List.length_map, List.length_range]

/-- Characters of the alphabet, at least one and not too many, are a code as they stand. -/
theorem canonical_generate : (generate length picks).Canonical := by
  have drawn {c : Char} (there : c ∈ (generate length picks).text.toList) :=
    mem_alphabet (mem_alphabet_of_mem_generate length picks there)
  have trimmed : trim (generate length picks).text = (generate length picks).text :=
    trim_of_no_blank fun c there => (drawn there).2.1
  have uppercase : upper (generate length picks).text = (generate length picks).text := by
    have same : (generate length picks).text.toList.map Char.toUpper =
        (generate length picks).text.toList.map id :=
      List.map_congr_left fun c there => (drawn there).1
    apply String.toList_inj.1
    rw [toList_upper, same, List.map_id]
  rw [Canonical, parse_eq_ok_iff, trimmed, uppercase]
  refine ⟨⟨?_, ?_, fun c there => (drawn there).2.2⟩, rfl⟩
  · rw [length_generate, maxLength]
    omega
  · rw [length_generate]
    exact Nat.min_le_right _ _

end Generate

/-- Whatever code a voucher is to have, given or random, it is canonical. -/
theorem canonical_of_codeFor {i : VoucherInput} {codeLength : Nat} {picks : Picks}
    {c : VoucherCode} (chosen : i.codeFor codeLength picks = .ok c) : c.Canonical := by
  unfold VoucherInput.codeFor at chosen
  split at chosen
  next =>
    rw [← Except.ok.inj chosen]
    exact canonical_generate ..
  next => exact canonical_of_parse chosen

theorem canonical_of_codeOr {u : VoucherUpdate} {c d : VoucherCode} (canonical : c.Canonical)
    (chosen : u.codeOr c = .ok d) : d.Canonical := by
  unfold VoucherUpdate.codeOr at chosen
  split at chosen
  next =>
    rw [← Except.ok.inj chosen]
    exact canonical
  next => exact canonical_of_parse chosen

end VoucherCode

section Repetitions

variable {α : Type}

theorem eraseRepsBy_loop [BEq α] (a : α) (l front : List α) :
    List.eraseRepsBy.loop (· == ·) a l front = front.reverse ++ (a :: l).eraseReps := by
  induction l generalizing a front with
  | nil => exact List.reverse_cons
  | cons b l ih =>
    unfold List.eraseReps List.eraseRepsBy at ih ⊢
    simp only [List.eraseRepsBy.loop]
    cases a == b with
    | true => exact ih a front
    | false =>
      dsimp only
      rw [ih b (a :: front), ih b [a], List.reverse_cons, List.append_assoc]
      rfl

theorem eraseReps_cons_cons [BEq α] (a b : α) (l : List α) :
    (a :: b :: l).eraseReps = if a == b then (a :: l).eraseReps else a :: (b :: l).eraseReps := by
  change List.eraseRepsBy.loop (· == ·) a (b :: l) [] = _
  rw [List.eraseRepsBy.loop]
  cases a == b with
  | true => rfl
  | false => exact eraseRepsBy_loop b l [a]

theorem mem_eraseReps [DecidableEq α] {a : α} {l : List α} : a ∈ l.eraseReps ↔ a ∈ l := by
  cases l with
  | nil => rfl
  | cons b l =>
    induction l generalizing b with
    | nil => rfl
    | cons c l ih =>
      rw [eraseReps_cons_cons]
      split
      next same =>
        cases eq_of_beq same
        rw [ih, List.mem_cons, List.mem_cons, List.mem_cons]
        grind
      next => rw [List.mem_cons, ih c, ← List.mem_cons]

/-- A list in order has each member once when no member repeats the one in front of it. -/
theorem eraseReps_increasing [LinearOrder α] {l : List α} (sorted : l.Pairwise (· ≤ ·)) :
    l.eraseReps.Pairwise (· < ·) := by
  cases l with
  | nil => exact .nil
  | cons a l =>
    induction l generalizing a with
    | nil => exact List.pairwise_singleton _ _
    | cons b l ih =>
      obtain ⟨least, rest⟩ := List.pairwise_cons.1 sorted
      rw [eraseReps_cons_cons]
      split
      next same =>
        cases eq_of_beq same
        exact ih _ rest
      next other =>
        refine List.pairwise_cons.2 ⟨fun c there => ?_, ih b rest⟩
        have strictly : a < b := lt_of_le_of_ne (least b List.mem_cons_self) (by simpa using other)
        rcases List.mem_cons.1 (mem_eraseReps.1 there) with rfl | behind
        · exact strictly
        · exact strictly.trans_le (List.rel_of_pairwise_cons rest behind)

end Repetitions

namespace Discount

theorem insertInOrder_eq (s : String) (l : List String) :
    insertInOrder s l = l.orderedInsert (· ≤ ·) s := by
  induction l with
  | nil => rfl
  | cons t l ih => rw [insertInOrder, ih]; rfl

theorem inOrder_eq (l : List String) : inOrder l = l.insertionSort (· ≤ ·) := by
  induction l with
  | nil => rfl
  | cons s l ih =>
    rw [List.insertionSort_cons, ← ih, ← insertInOrder_eq]
    rfl

/-- The texts of a list in order and without repetitions depend on the members alone. -/
theorem inOrder_eraseReps_eq_iff {l codes : List String} :
    (inOrder l).eraseReps = codes ↔ codes.Pairwise (· < ·) ∧ ∀ x, x ∈ codes ↔ x ∈ l := by
  have increasing : (inOrder l).eraseReps.Pairwise (· < ·) := by
    rw [inOrder_eq]
    exact eraseReps_increasing (List.pairwise_insertionSort (· ≤ ·) l)
  have members (x : String) : x ∈ (inOrder l).eraseReps ↔ x ∈ l := by
    rw [mem_eraseReps, inOrder_eq, (List.perm_insertionSort _ l).mem_iff]
  constructor
  · rintro rfl
    exact ⟨increasing, members⟩
  · rintro ⟨increasing', members'⟩
    refine increasing.eq_of_mem_iff increasing' fun x => ?_
    rw [members, members']

theorem isUpper_toUpper {c : Char} (letter : c.toUpper.isAlpha = true) :
    c.toUpper.isUpper = true := by
  have value := toNat_toUpper c
  rw [isAlpha_iff, isUpper_iff_toNat, isLower_iff_toNat] at letter
  rw [isUpper_iff_toNat]
  split at value <;> omega

theorem utf8ByteSize_of_letters {s : String} (letters : ∀ c ∈ s.toList, c.isAlpha = true) :
    s.utf8ByteSize = s.length := by
  refine utf8ByteSize_of_ascii fun c there => ?_
  have letter := letters c there
  rw [isAlpha_iff, isUpper_iff_toNat, isLower_iff_toNat] at letter
  omega

/-- A country code is kept as two upper-case letters. -/
theorem letters_of_countryCode {s t : String} (read : countryCode s = .ok t) :
    t.length = 2 ∧ t.toList.all Char.isUpper = true := by
  simp only [countryCode] at read
  split at read
  next letters =>
    rw [← Except.ok.inj read]
    have alpha := List.all_eq_true.1 letters.2
    refine ⟨utf8ByteSize_of_letters alpha ▸ letters.1, ?_⟩
    rw [List.all_eq_true]
    intro c there
    have letter := alpha c there
    rw [toList_upper] at there
    obtain ⟨d, -, rfl⟩ := List.mem_map.1 there
    exact isUpper_toUpper letter
  next => cases read

theorem mem_mapM_ok {ε α β : Type} {f : α → Except ε β} {l : List α} {m : List β}
    (done : l.mapM f = .ok m) {y : β} (there : y ∈ m) : ∃ x, f x = .ok y := by
  induction l generalizing m with
  | nil =>
    cases done
    cases there
  | cons a l ih =>
    rw [List.mapM_cons] at done
    obtain ⟨first, made, done⟩ := bind_eq_ok done
    obtain ⟨rest, later, done⟩ := bind_eq_ok done
    cases done
    rcases List.mem_cons.1 there with rfl | there
    · exact ⟨a, made⟩
    · exact ih later there

/-- Country codes are kept in order, without repetitions, each as two upper-case letters. -/
theorem countryCodes_ok {texts codes : List String} (read : countryCodes texts = .ok codes) :
    codes.Pairwise (· < ·) ∧ ∀ c ∈ codes, c.length = 2 ∧ c.toList.all Char.isUpper = true := by
  cases each : texts.mapM countryCode with
  | error e =>
    simp only [countryCodes, each] at read
    cases read
  | ok l =>
    simp only [countryCodes, each] at read
    cases read
    obtain ⟨increasing, members⟩ := inOrder_eraseReps_eq_iff.1 (rfl : (inOrder l).eraseReps = _)
    refine ⟨increasing, fun c there => ?_⟩
    obtain ⟨s, made⟩ := mem_mapM_ok each ((members c).1 there)
    exact letters_of_countryCode made

end Discount

end BackOffice
