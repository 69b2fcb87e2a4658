import BackOffice.Proofs.DiscountCreation

/-!
# Which texts are codes, and where codes come from

A text is a code exactly if it is well-formed between the blanks around it
(`VoucherCode.parse_eq_ok_iff`), so only its spelling counts; random codes are of that kind too. The
code is the first thing that is looked at when a voucher is created, and nothing else depends on it
(`VoucherInput.validate_eq_bind`): a voucher gets the code that its own text is, or a random one,
and whatever is refused besides is refused for another field.
-/

namespace BackOffice

open BackOffice.Text Discount

/-- A bind fails in its first part or in its second. -/
theorem bind_eq_error {ε α β : Type} {x : Except ε α} {f : α → Except ε β} {e : ε}
    (failed : x >>= f = .error e) : x = .error e ∨ ∃ a, x = .ok a ∧ f a = .error e := by
  cases x with
  | error e' => exact .inl (congrArg Except.error (Except.error.inj failed))
  | ok a => exact .inr ⟨a, rfl, failed⟩

/-- A list is refused for one of its members. -/
theorem exists_of_mapM_error {ε α β : Type} {f : α → Except ε β} {l : List α} {e : ε}
    (failed : l.mapM f = .error e) : ∃ a ∈ l, f a = .error e := by
  induction l with
  | nil => cases failed
  | cons a l ih =>
    rw [List.mapM_cons] at failed
    rcases bind_eq_error failed with first | ⟨b, -, rest⟩
    · exact ⟨a, List.mem_cons_self, first⟩
    · rcases bind_eq_error rest with later | ⟨bs, -, done⟩
      · obtain ⟨a', there, wrong⟩ := ih later
        exact ⟨a', List.mem_cons_of_mem a there, wrong⟩
      · cases done

namespace VoucherCode

/-- The alphabet of random codes has all capital letters and digits but those that are easily taken
for one another. -/
theorem mem_alphabet_iff {c : Char} :
    c ∈ alphabet ↔ (c.isUpper = true ∨ c.isDigit = true) ∧ c ∉ ['0', 'O', '1', 'I'] := by
  have each : ∀ n < 128, Char.ofNat n ∈ alphabet ↔
      ((Char.ofNat n).isUpper = true ∨ (Char.ofNat n).isDigit = true) ∧
        Char.ofNat n ∉ ['0', 'O', '1', 'I'] := by decide +kernel
  by_cases small : c.toNat < 128
  · have here := each c.toNat small
    rwa [Char.ofNat_toNat] at here
  · -- On both sides a code may have the character.
    have strange : allows c ≠ true := fun allowed =>
      small (Nat.lt_succ_of_le (toNat_le_of_allows allowed))
    refine iff_of_false (fun drawn => strange (mem_alphabet drawn).2.2) ?_
    rintro ⟨upper | digit, -⟩
    · exact strange (allows_iff.2 (.inl (isAlpha_iff.2 (.inl upper))))
    · exact strange (allows_iff.2 (.inr (.inl digit)))

/-- A text is read as a code exactly if it is well-formed between the blanks around it. -/
theorem exists_parse_iff {s : String} : (∃ c, parse s = .ok c) ↔ Wellformed (trim s) := by
  constructor
  · rintro ⟨c, read⟩
    exact (parse_eq_ok_iff.1 read).1
  · intro wellformed
    exact ⟨⟨upper (trim s)⟩, parse_eq_ok_iff.2 ⟨wellformed, rfl⟩⟩

theorem field_of_parse {s : String} {e : Invalid} (refused : parse s = .error e) :
    e.field = "code" := by
  simp only [parse] at refused
  split at refused
  next => rw [← Except.error.inj refused]; rfl
  next =>
    split at refused
    next => rw [← Except.error.inj refused]; rfl
    next =>
      split at refused
      next => cases refused
      next => rw [← Except.error.inj refused]; rfl

end VoucherCode

namespace Discount

section Fields

variable {e : Invalid}

theorem field_of_checkValue {field : String} {type : ValueType} {value : Decimal}
    (refused : checkValue field type value = .error e) : e.field = field := by
  unfold checkValue at refused
  split at refused
  next => rw [← Except.error.inj refused]; rfl
  next =>
    split at refused
    next => rw [← Except.error.inj refused]; rfl
    next => cases refused

theorem field_of_checkWindow {first : Date} {last : Option Date}
    (refused : checkWindow first last = .error e) : e.field = "end_date" := by
  unfold checkWindow at refused
  split at refused
  next => rw [← Except.error.inj refused]; rfl
  next => cases refused

theorem field_of_checkMinimum {amount : Option Decimal}
    (refused : checkMinimum amount = .error e) : e.field = "min_amount_spent" := by
  unfold checkMinimum at refused
  split at refused
  next => rw [← Except.error.inj refused]; rfl
  next => cases refused

theorem field_of_checkScope {type : VoucherType} {scope : CatalogueScope}
    (refused : checkScope type scope = .error e) :
    ∃ kind : CatalogueKind, e.field = kind.plural := by
  unfold checkScope at refused
  split at refused
  next kind _ =>
    split at refused
    next => exact ⟨kind, by rw [← Except.error.inj refused]; rfl⟩
    next => cases refused
  next => cases refused

theorem field_of_countryCode {text : String} (refused : countryCode text = .error e) :
    e.field = "countries" := by
  simp only [countryCode] at refused
  split at refused
  next => cases refused
  next => rw [← Except.error.inj refused]; rfl

theorem field_of_countryCodes {texts : List String}
    (refused : countryCodes texts = .error e) : e.field = "countries" := by
  cases each : texts.mapM countryCode with
  | ok l =>
    simp only [countryCodes, each] at refused
    cases refused
  | error e' =>
    simp only [countryCodes, each] at refused
    obtain ⟨text, -, wrong⟩ := exists_of_mapM_error each
    rw [← Except.error.inj refused, field_of_countryCode wrong]

end Fields

end Discount

namespace VoucherInput

/-- The code is read first, and nothing else depends on it. -/
theorem validate_eq_bind (i : VoucherInput) (today : Date) (codeLength : Nat)
    (picks : VoucherCode.Picks) :
    i.validate today codeLength picks = (do
      let code ← i.codeFor codeLength picks
      let n ← { i with code := none }.validate today codeLength picks
      return { n with code := code }) := by
  have read {α β : Type} (a : α) (f : α → Except Invalid β) : (Except.ok a >>= f) = f a := rfl
  have drawn : { i with code := none }.codeFor codeLength picks =
      .ok (.generate codeLength picks) := rfl
  cases chosen : i.codeFor codeLength picks with
  | error e =>
    rw [validate, chosen]
    rfl
  | ok code => simp only [validate, chosen, drawn, read, bind_assoc, pure_bind]

variable {i : VoucherInput} {today : Date} {codeLength : Nat} {picks : VoucherCode.Picks}

/-- An input that asks for no code, or for a blank one, gets a random code. -/
theorem codeFor_of_blank (blank : ∀ text, i.code = some text → trim text = "") :
    i.codeFor codeLength picks = .ok (.generate codeLength picks) := by
  have none : i.code.bind nonBlank? = none := by
    rw [Option.bind_eq_none_iff]
    intro text given
    rw [Option.eq_none_iff_forall_ne_some]
    intro t visible
    obtain ⟨rfl, some⟩ := nonBlank?_eq_some_iff.1 visible
    exact some (blank text given)
  simp only [codeFor, none]

/-- What has a code is not refused for the code. -/
theorem field_ne_code_of_validate {code : VoucherCode} {e : Invalid}
    (chosen : i.codeFor codeLength picks = .ok code)
    (refused : i.validate today codeLength picks = .error e) : e.field ≠ "code" := by
  rcases bind_eq_error refused with unread | ⟨_, -, refused⟩
  · rw [chosen] at unread
    cases unread
  rcases bind_eq_error refused with value | ⟨_, -, refused⟩
  · rw [field_of_checkValue value]
    decide
  rcases bind_eq_error refused with window | ⟨_, -, refused⟩
  · rw [field_of_checkWindow window]
    decide
  rcases bind_eq_error refused with minimum | ⟨_, -, refused⟩
  · rw [field_of_checkMinimum minimum]
    decide
  rcases bind_eq_error refused with countries | ⟨_, -, refused⟩
  · rw [field_of_countryCodes countries]
    decide
  rcases bind_eq_error refused with scope | ⟨_, -, done⟩
  · obtain ⟨kind, field⟩ := field_of_checkScope scope
    rw [field]
    cases kind <;> decide
  · cases done

end VoucherInput

namespace VoucherCode

/-- **Codes have one spelling, wherever they come from.** A text is read as a code exactly if,
between the blanks around it, it has one to 32 characters, all of them letters, digits, hyphens and
underscores; the code is what stands there in upper case, and is read off itself. Texts that differ
only in the case of letters and in the blanks around them are read as the same code or refused for
the same cause, which names the field `code`. A random code has the asked length, or the nearest
that a code may have, of characters that are not taken for each other, and is read off itself too. A
voucher that is created without a code, or with a blank one, gets a random code and is never refused
for it; with any other text for a code it gets the code that is read off it, or is refused for its
cause. Beside that the text has no effect. -/
theorem codes_have_one_spelling :
    (∀ s, ((∃ c, parse s = .ok c) ↔ 1 ≤ (trim s).length ∧ (trim s).length ≤ 32 ∧
        ∀ c ∈ (trim s).toList, c.isAlpha = true ∨ c.isDigit = true ∨ c = '-' ∨ c = '_') ∧
      (∀ c, parse s = .ok c → c.text = upper (trim s) ∧ parse c.text = .ok c) ∧
      (∀ e, parse s = .error e → e.field = "code") ∧
      ∀ t core core', Pads s core → Pads t core' →
        core.map Char.toUpper = core'.map Char.toUpper → parse t = parse s) ∧
    (∀ n picks, let code := generate n picks
      code.text.length = min (max n 1) 32 ∧ (∀ c ∈ code.text.toList, c ∈ alphabet) ∧
      parse code.text = .ok code) ∧
    (∀ c, c ∈ alphabet ↔
      (c.isUpper = true ∨ c.isDigit = true) ∧ c ∉ ['0', 'O', '1', 'I']) ∧
    ∀ (i : VoucherInput) today n picks,
      let codeless := { i with code := none }.validate today n picks
      (∀ v, codeless = .ok v → v.code = generate n picks) ∧
      (∀ e, codeless = .error e → e.field ≠ "code") ∧
      ((∀ text, i.code = some text → trim text = "") → i.validate today n picks = codeless) ∧
      ∀ text, i.code = some text → trim text ≠ "" →
        i.validate today n picks = (do
          let code ← parse text
          let v ← codeless
          return { v with code := code }) := by
  refine ⟨fun s => ⟨?_, ?_, fun e => field_of_parse, ?_⟩, ?_, fun c => mem_alphabet_iff, ?_⟩
  · simp only [exists_parse_iff, ← allows_iff]
    exact ⟨fun wellformed => ⟨wellformed.some, wellformed.short, wellformed.allowed⟩,
      fun ⟨given, short, allowed⟩ => ⟨given, short, allowed⟩⟩
  · intro c read
    exact ⟨text_of_parse read, canonical_of_parse read⟩
  · intro t core core' pads pads' same
    exact parse_congr (sameSpelling_iff.2 ⟨core', core, pads', pads, same.symm⟩)
  · intro n picks code
    exact ⟨length_generate n picks, fun c => mem_alphabet_of_mem_generate n picks,
      canonical_generate n picks⟩
  · intro i today n picks codeless
    have drawn : { i with code := none }.codeFor n picks = .ok (generate n picks) := rfl
    refine ⟨?_, fun e => VoucherInput.field_ne_code_of_validate drawn, ?_, ?_⟩
    · intro v accepted
      have gives := (VoucherInput.validate_eq_ok_iff ⟨1⟩).1 accepted
      exact (Except.ok.inj gives.1.code).symm
    · intro blank
      simp only [codeless, VoucherInput.validate, VoucherInput.codeFor_of_blank blank, drawn]
    · intro text given visible
      rw [VoucherInput.validate_eq_bind, VoucherInput.codeFor_of_given given visible]

/-- Two spellings of a code, a text that is none, and vouchers that ask for a blank code and for one
in small letters. -/
theorem codes_have_one_spelling_of_two :
    let today : Date := { year := 2026, month := 2, day := 1 }
    let picks : Picks := fun i => ⟨i % 32, Nat.mod_lt _ (by decide)⟩
    let blank : VoucherInput := { code := some "\u00a0" }
    let given : VoucherInput := { code := some "ten_off\n" }
    let codeless := ({} : VoucherInput).validate today 4 picks
    parse " Ten_Off\t" = .ok ⟨"TEN_OFF"⟩ ∧ parse "TEN_OFF" = .ok ⟨"TEN_OFF"⟩ ∧
      parse "\u2003tEN_oFF" = parse " Ten_Off\t" ∧
      (∃ e, parse "10 %" = .error e ∧ e.field = "code") ∧
      (∃ v, codeless = .ok v ∧ v.code = ⟨"ABCD"⟩) ∧ blank.validate today 4 picks = codeless ∧
      given.validate today 4 picks =
        codeless.map fun v => { v with code := ⟨"TEN_OFF"⟩ } := by
  intro today picks blank given codeless
  obtain ⟨texts, drawn, -, vouchers⟩ := codes_have_one_spelling
  obtain ⟨-, reads, -, spelled⟩ := texts " Ten_Off\t"
  obtain ⟨-, -, refused, -⟩ := texts "10 %"
  obtain ⟨random, -, unasked, -⟩ := vouchers blank today 4 picks
  obtain ⟨-, -, -, asked⟩ := vouchers given today 4 picks
  have read : parse " Ten_Off\t" = .ok ⟨"TEN_OFF"⟩ := by decide +kernel
  have other : Pads "\u2003tEN_oFF" "tEN_oFF".toList :=
    ⟨['\u2003'], [], by decide, List.forall_mem_singleton.2 rfl, nofun⟩
  have one : Pads " Ten_Off\t" "Ten_Off".toList :=
    ⟨[' '], ['\t'], by decide, List.forall_mem_singleton.2 rfl, List.forall_mem_singleton.2 rfl⟩
  have wrong : parse "10 %" = .error .codeCharacter := by decide +kernel
  obtain ⟨v, accepted⟩ : ∃ v, codeless = .ok v := ⟨_, rfl⟩
  have code : generate 4 picks = ⟨"ABCD"⟩ := by decide +kernel
  have spelling : parse "ten_off\n" = .ok ⟨"TEN_OFF"⟩ := by decide +kernel
  refine ⟨read, (reads _ read).2, spelled _ _ _ one other (by decide), ⟨_, wrong, refused _ wrong⟩,
    ⟨v, accepted, (random v accepted).trans code⟩, unasked ?_, ?_⟩
  · rintro text ⟨⟩
    decide +kernel
  · have result := asked "ten_off\n" rfl (by decide +kernel)
    rw [spelling] at result
    exact result

end VoucherCode

end BackOffice
