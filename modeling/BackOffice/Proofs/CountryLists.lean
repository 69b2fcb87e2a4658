import BackOffice.Proofs.CodeLanguage

/-!
# Lists of countries

A list of countries is read text by text, and each text is a country's code if two letters stand
between the blanks around it (`Discount.IsCountry`). A list with another text is refused for the
first one (`Discount.countryCodes_eq_error_iff`). What is read off a list is the set of its codes,
in order (`Discount.countryCodes_eq_ok_iff`), so only the spellings that occur in it count.
-/

namespace BackOffice

open BackOffice.Text

section Lists

variable {ε α β : Type} {f : α → Except ε β} {l : List α}

theorem mapM_eq_ok_iff {m : List β} :
    l.mapM f = .ok m ↔ List.Forall₂ (fun a b => f a = .ok b) l m := by
  constructor
  · intro done
    induction l generalizing m with
    | nil =>
      cases done
      exact .nil
    | cons a l ih =>
      rw [List.mapM_cons] at done
      obtain ⟨b, first, done⟩ := bind_eq_ok done
      obtain ⟨m, rest, done⟩ := bind_eq_ok done
      cases done
      exact .cons first (ih rest)
  · intro each
    induction each with
    | nil => rfl
    | cons first _ rest =>
      rw [List.mapM_cons, first, rest]
      rfl

/-- A list is refused for the first of its members that is refused. -/
theorem mapM_eq_error_iff {e : ε} :
    l.mapM f = .error e ↔ ∃ front a back, l = front ++ a :: back ∧
      (∀ b ∈ front, ∃ c, f b = .ok c) ∧ f a = .error e := by
  constructor
  · intro failed
    induction l with
    | nil => cases failed
    | cons a l ih =>
      rw [List.mapM_cons] at failed
      rcases bind_eq_error failed with first | ⟨c, passes, rest⟩
      · exact ⟨[], a, l, rfl, nofun, first⟩
      rcases bind_eq_error rest with later | ⟨_, -, done⟩
      · obtain ⟨front, a', back, rfl, good, bad⟩ := ih later
        exact ⟨a :: front, a', back, rfl, List.forall_mem_cons.2 ⟨⟨c, passes⟩, good⟩, bad⟩
      · cases done
  · rintro ⟨front, a, back, rfl, good, bad⟩
    induction front with
    | nil =>
      rw [List.nil_append, List.mapM_cons, bad]
      rfl
    | cons b front ih =>
      obtain ⟨⟨c, passes⟩, good⟩ := List.forall_mem_cons.1 good
      rw [List.cons_append, List.mapM_cons, passes, ih good]
      rfl

end Lists

namespace Discount

variable {s t : String} {texts codes : List String} {e : Invalid}

/-- A text names a country: it is two ASCII letters, with any blanks around them. -/
structure IsCountry (s : String) : Prop where
  two : (trim s).length = 2
  letters : ∀ c ∈ (trim s).toList, c.isAlpha = true

section Texts

theorem isAlpha_toUpper (c : Char) : c.toUpper.isAlpha = c.isAlpha := by
  have value := toNat_toUpper c
  rw [Bool.eq_iff_iff, isAlpha_iff, isAlpha_iff, isUpper_iff_toNat, isUpper_iff_toNat,
    isLower_iff_toNat, isLower_iff_toNat]
  split at value <;> omega

/-- Two letters are two octets. -/
theorem isCountry_iff_upper :
    IsCountry s ↔
      (upper (trim s)).utf8ByteSize = 2 ∧ (upper (trim s)).toList.all Char.isAlpha = true := by
  have size (letters : ∀ c ∈ (upper (trim s)).toList, c.isAlpha = true) :
      (upper (trim s)).utf8ByteSize = (trim s).length := by
    rw [utf8ByteSize_of_letters letters, ← String.length_toList, toList_upper, List.length_map,
      String.length_toList]
  have alpha : (∀ c ∈ (upper (trim s)).toList, c.isAlpha = true) ↔
      ∀ c ∈ (trim s).toList, c.isAlpha = true := by
    simp only [toList_upper, List.forall_mem_map, isAlpha_toUpper]
  rw [List.all_eq_true]
  constructor
  · rintro ⟨two, letters⟩
    have shown := alpha.2 letters
    exact ⟨(size shown).trans two, shown⟩
  · rintro ⟨octets, shown⟩
    exact ⟨(size shown).symm.trans octets, alpha.1 shown⟩

instance (s : String) : Decidable (IsCountry s) :=
  decidable_of_iff' _ isCountry_iff_upper

/-- Whether a text names a country depends on its spelling alone. -/
theorem isCountry_congr (same : SameSpelling s t) : IsCountry s ↔ IsCountry t := by
  rw [isCountry_iff_upper, isCountry_iff_upper, show upper (trim s) = upper (trim t) from same]

theorem countryCode_eq (s : String) :
    countryCode s = if IsCountry s then .ok (upper (trim s)) else .error (.unknownCountry s) := by
  simp only [countryCode, isCountry_iff_upper]

theorem countryCode_eq_ok_iff {code : String} :
    countryCode s = .ok code ↔ IsCountry s ∧ upper (trim s) = code := by
  rw [countryCode_eq]
  split
  next country => simp [country]
  next other => simp [other]

theorem countryCode_eq_error_iff :
    countryCode s = .error e ↔ ¬IsCountry s ∧ e = .unknownCountry s := by
  rw [countryCode_eq]
  split
  next country => simp [country]
  next other => simp [other, eq_comm]

end Texts

section Lists

/-- A list is refused for the first text that names no country. -/
theorem countryCodes_eq_error_iff :
    countryCodes texts = .error e ↔ ∃ front s back, texts = front ++ s :: back ∧
      (∀ t ∈ front, IsCountry t) ∧ ¬IsCountry s ∧ e = .unknownCountry s := by
  have reads : countryCodes texts = .error e ↔ texts.mapM countryCode = .error e := by
    unfold countryCodes
    cases texts.mapM countryCode with
    | error e' => rfl
    | ok codes => exact ⟨nofun, nofun⟩
  rw [reads, mapM_eq_error_iff]
  simp only [countryCode_eq_ok_iff, countryCode_eq_error_iff, exists_and_left, exists_eq', and_true]

/-- A list is read as the set of its texts' codes, in order, if every text names a country. -/
theorem countryCodes_eq_ok_iff :
    countryCodes texts = .ok codes ↔ (∀ s ∈ texts, IsCountry s) ∧ codes.Pairwise (· < ·) ∧
      ∀ code, code ∈ codes ↔ ∃ s ∈ texts, upper (trim s) = code := by
  have each {m : List String} : texts.mapM countryCode = .ok m ↔
      (∀ s ∈ texts, IsCountry s) ∧ texts.map (fun s => upper (trim s)) = m := by
    rw [mapM_eq_ok_iff]
    simp only [countryCode_eq_ok_iff]
    rw [List.forall₂_and_left, ← List.forall₂_map_left_iff, List.forall₂_eq_eq_eq]
  have reads : countryCodes texts = .ok codes ↔
      ∃ m, texts.mapM countryCode = .ok m ∧ (inOrder m).eraseReps = codes := by
    unfold countryCodes
    cases texts.mapM countryCode with
    | error e => exact ⟨nofun, nofun⟩
    | ok m => simp
  simp only [reads, each, and_assoc, exists_and_left, exists_eq_left',
    inOrder_eraseReps_eq_iff, List.mem_map]

/-- What has been read from a list is read from itself. -/
theorem countryCodes_again (read : countryCodes texts = .ok codes) :
    countryCodes codes = .ok codes := by
  obtain ⟨countries, increasing, members⟩ := countryCodes_eq_ok_iff.1 read
  have kept : ∀ code ∈ codes, IsCountry code ∧ upper (trim code) = code := by
    intro code there
    obtain ⟨s, given, rfl⟩ := (members code).1 there
    have same := VoucherCode.sameSpelling_upper_trim s
    exact ⟨(isCountry_congr same).2 (countries s given), same⟩
  refine countryCodes_eq_ok_iff.2
    ⟨fun code there => (kept code there).1, increasing, fun code => ?_⟩
  constructor
  · intro there
    exact ⟨code, there, (kept code there).2⟩
  · rintro ⟨code', there, rfl⟩
    rwa [(kept code' there).2]

/-- Lists of the same spellings are read alike. -/
theorem countryCodes_of_spellings {texts' : List String} (read : countryCodes texts = .ok codes)
    (spelled : ∀ s ∈ texts, ∃ t ∈ texts', SameSpelling s t)
    (spells : ∀ t ∈ texts', ∃ s ∈ texts, SameSpelling s t) : countryCodes texts' = .ok codes := by
  obtain ⟨countries, increasing, members⟩ := countryCodes_eq_ok_iff.1 read
  refine countryCodes_eq_ok_iff.2 ⟨fun t there => ?_, increasing, fun code => ?_⟩
  · obtain ⟨s, given, same⟩ := spells t there
    exact (isCountry_congr same).1 (countries s given)
  · rw [members]
    constructor
    · rintro ⟨s, given, rfl⟩
      obtain ⟨t, there, same⟩ := spelled s given
      exact ⟨t, there, same.symm⟩
    · rintro ⟨t, there, rfl⟩
      obtain ⟨s, given, same⟩ := spells t there
      exact ⟨s, given, same⟩

end Lists

/-- **Lists of countries are sets of codes.** A list is read exactly if each of its texts is two
ASCII letters between the blanks around it. What is read is in order and without repetitions, has
exactly the texts of the list without their blanks and in upper case, is read off itself, and is
the same for every list with the same spellings, in whatever order, however often, in any case and
with any blanks. A list that is not read is refused for its field and for the first of its texts
that is none, as it stands there and whatever comes behind it. -/
theorem country_lists_are_sets (texts : List String) :
    ((∃ codes, countryCodes texts = .ok codes) ↔ ∀ s ∈ texts, IsCountry s) ∧
    (∀ codes, countryCodes texts = .ok codes →
      codes.Pairwise (· < ·) ∧ (∀ code, code ∈ codes ↔ ∃ s ∈ texts, upper (trim s) = code) ∧
      countryCodes codes = .ok codes ∧
      ∀ texts', (∀ s ∈ texts, ∃ t ∈ texts', SameSpelling s t) →
        (∀ t ∈ texts', ∃ s ∈ texts, SameSpelling s t) → countryCodes texts' = .ok codes) ∧
    ∀ e, countryCodes texts = .error e ↔ ∃ front s back, texts = front ++ s :: back ∧
      (∀ t ∈ front, IsCountry t) ∧ ¬IsCountry s ∧ e = .unknownCountry s ∧
      e.field = "countries" ∧ e.reason = "invalid country code: " ++ s := by
  refine ⟨?_, fun codes read => ?_, fun e => ?_⟩
  · constructor
    · rintro ⟨codes, read⟩
      exact (countryCodes_eq_ok_iff.1 read).1
    · intro countries
      obtain ⟨increasing, members⟩ := inOrder_eraseReps_eq_iff.1
        (rfl : (inOrder (texts.map fun s => upper (trim s))).eraseReps = _)
      exact ⟨_, countryCodes_eq_ok_iff.2 ⟨countries, increasing, fun code => by
        rw [members, List.mem_map]⟩⟩
  · obtain ⟨-, increasing, members⟩ := countryCodes_eq_ok_iff.1 read
    exact ⟨increasing, members, countryCodes_again read, fun texts' =>
      countryCodes_of_spellings read⟩
  · rw [countryCodes_eq_error_iff]
    constructor
    · rintro ⟨front, s, back, split, good, bad, rfl⟩
      exact ⟨front, s, back, split, good, bad, rfl, rfl, rfl⟩
    · rintro ⟨front, s, back, split, good, bad, same, -, -⟩
      exact ⟨front, s, back, split, good, bad, same⟩

/-- Two lists with the spellings of two countries, and one whose second text is too short. -/
theorem country_lists_are_sets_of_two :
    let texts := [" fr", "De", "FR\u00a0", "dE"]
    let texts' := ["DE", "\tfr"]
    let wrong := ["de", " d\u00fc", "FR", ""]
    countryCodes texts = .ok ["DE", "FR"] ∧ countryCodes ["DE", "FR"] = .ok ["DE", "FR"] ∧
      countryCodes texts' = .ok ["DE", "FR"] ∧
      ∃ e, countryCodes wrong = .error e ∧ e.field = "countries" ∧
        e.reason = "invalid country code:  d\u00fc" := by
  intro texts texts' wrong
  obtain ⟨-, reads, -⟩ := country_lists_are_sets texts
  obtain ⟨-, -, refuses⟩ := country_lists_are_sets wrong
  have read : countryCodes texts = .ok ["DE", "FR"] := by decide +kernel
  have failed : countryCodes wrong = .error (.unknownCountry " d\u00fc") := by decide +kernel
  obtain ⟨-, -, again, spelled⟩ := reads _ read
  obtain ⟨-, s, -, -, -, -, quoted, field, reason⟩ := (refuses _).1 failed
  cases quoted
  exact ⟨read, again, spelled texts' (by decide +kernel) (by decide +kernel), _, failed, field,
    reason⟩

end Discount

end BackOffice
