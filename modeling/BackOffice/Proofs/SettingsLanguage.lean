import BackOffice.Desk.Discounts
import BackOffice.Proofs.CodeLanguage
import BackOffice.Proofs.NumeralTexts
import BackOffice.Proofs.Outcome
import BackOffice.Settings

/-!
# Which environments are settings

The settings of the administration are read from three variables in turn, and the first that is
unfit is reported. A numeral is digits with an optional plus sign (`Text.IsNumeral`). The number of
connections is one below a limit, as it stands, and the length of codes one from six to 32, with any
blanks around it. Every such length is one that codes can have, so it is the length of the codes
that are drawn at the desk.
-/

namespace BackOffice

open BackOffice.Text

namespace Text

variable {s : String} {cs ds : List Char} {limit acc n : Nat}

/-- The text writes a number with decimal digits, and possibly a plus sign in front. -/
def IsNumeral (s : String) (n : Nat) : Prop :=
  ∃ ds, ds ≠ [] ∧ (∀ c ∈ ds, c.isDigit = true) ∧ (s.toList = ds ∨ s.toList = '+' :: ds) ∧
    Nat.ofDigitChars 10 ds 0 = n

/-- Behind a sign the digits are the rest of the text. -/
theorem isNumeral_iff_of_sign (sign : s.toList = '+' :: ds) :
    IsNumeral s n ↔
      ds ≠ [] ∧ (∀ c ∈ ds, c.isDigit = true) ∧ Nat.ofDigitChars 10 ds 0 = n := by
  constructor
  · rintro ⟨ds', given, digits, same | same, value⟩
    · have digit := digits '+' (by rw [← same, sign]; exact List.mem_cons_self)
      cases digit
    · obtain ⟨-, rfl⟩ := List.cons.inj (sign.symm.trans same)
      exact ⟨given, digits, value⟩
  · rintro ⟨given, digits, value⟩
    exact ⟨ds, given, digits, .inr sign, value⟩

/-- Without a sign the digits are the whole text. -/
theorem isNumeral_iff_of_no_sign (unsigned : ∀ ds, s.toList ≠ '+' :: ds) :
    IsNumeral s n ↔ s.toList ≠ [] ∧ (∀ c ∈ s.toList, c.isDigit = true) ∧
      Nat.ofDigitChars 10 s.toList 0 = n := by
  constructor
  · rintro ⟨ds, given, digits, rfl | sign, value⟩
    · exact ⟨given, digits, value⟩
    · exact (unsigned ds sign).elim
  · rintro ⟨given, digits, value⟩
    exact ⟨s.toList, given, digits, .inl rfl, value⟩

theorem readDigits_eq_ok_iff (small : acc < limit) :
    readDigits limit acc cs = .ok n ↔
      (∀ c ∈ cs, c.isDigit = true) ∧ Nat.ofDigitChars 10 cs acc = n ∧ n < limit := by
  induction cs generalizing acc with
  | nil =>
    rw [readDigits, Except.ok.injEq, Nat.ofDigitChars_nil]
    constructor
    · rintro rfl
      exact ⟨nofun, rfl, small⟩
    · exact fun read => read.2.1
  | cons c cs ih =>
    cases digit : c.isDigit with
    | false =>
      have none : digit? c = none := by
        rw [← Option.isNone_iff_eq_none, ← Option.not_isSome, isSome_digit?, digit]
        rfl
      rw [readDigits, none]
      refine iff_of_false nofun fun read => ?_
      rw [read.1 c List.mem_cons_self] at digit
      cases digit
    | true =>
      rw [readDigits, digit?_of_isDigit digit, List.forall_mem_cons, and_iff_right digit,
        Nat.ofDigitChars_cons, Nat.mul_comm 10]
      dsimp only
      split
      next fits => exact ih fits
      next large =>
        refine iff_of_false nofun fun read => large ?_
        calc
          acc * 10 + (c.toNat - '0'.toNat) ≤ n := read.2.1 ▸ Decimal.le_ofDigitChars cs _
          _ < limit := read.2.2

/-- A text is read as a number exactly if it writes it and the number is below the limit. -/
theorem readNatural_eq_ok_iff (some : 0 < limit) :
    readNatural limit s = .ok n ↔ IsNumeral s n ∧ n < limit := by
  unfold readNatural
  split
  next none =>
    have unsigned : ∀ ds, s.toList ≠ '+' :: ds := by simp [none]
    simp [isNumeral_iff_of_no_sign unsigned, none]
  next alone => simp [isNumeral_iff_of_sign alone]
  next ds more sign =>
    rw [readDigits_eq_ok_iff some, isNumeral_iff_of_sign sign, and_iff_right more, and_assoc]
  next given _ unsigned =>
    rw [readDigits_eq_ok_iff some, isNumeral_iff_of_no_sign unsigned, and_iff_right given,
      and_assoc]

end Text

/-- A variable has a text exactly if its bytes are those of the text. -/
theorem Environment.text?_eq_some_iff {env : Environment} {name s : String} :
    env.text? name = some s ↔ env name = some s.toUTF8 := by
  have decodes {bytes : ByteArray} : String.fromUTF8? bytes = some s ↔ bytes = s.toUTF8 := by
    unfold String.fromUTF8?
    split
    next valid =>
      rw [Option.some.injEq, ← String.toByteArray_inj]
      rfl
    next invalid =>
      refine iff_of_false nofun ?_
      rintro rfl
      exact invalid s.isValidUTF8
  rw [Environment.text?, Option.bind_eq_some_iff]
  simp only [decodes, exists_eq_right]

/-- Every complaint names the variable that is at fault. -/
theorem SettingsError.message_eq (e : SettingsError) :
    e.message = "Missing environment variable: " ++ e.variableName ∨ ∃ reason,
      e.message = "Invalid environment variable " ++ e.variableName ++ ": " ++ reason := by
  cases e with
  | missing name => exact .inl rfl
  | numeral name cause => exact .inr ⟨_, rfl⟩
  | length name least most n => exact .inr ⟨_, rfl⟩
  | truth name text => exact .inr ⟨_, rfl⟩

namespace Settings

variable {env : Environment} {name url : String} {n : Nat} {e : SettingsError}

section Languages

variable (env : Environment) (name : String)

/-- The address of a database is in its own variable, or else in the common one. -/
def Locates (url : String) : Prop :=
  env.text? name = some url ∨ env.text? name = none ∧ env.text? "DATABASE_URL" = some url

/-- The number of connections is left open, or a numeral below the limit. -/
def Connects (n : Nat) : Prop :=
  env.text? name = none ∧ n = 10 ∨
    ∃ s, env.text? name = some s ∧ IsNumeral s n ∧ n < UInt32.size

/-- The length of codes is left open, or a numeral from six to 32, with any blanks around it. -/
def Measures (n : Nat) : Prop :=
  env.text? name = none ∧ n = 12 ∨
    ∃ s, env.text? name = some s ∧ IsNumeral (trim s) n ∧ 6 ≤ n ∧ n ≤ 32

end Languages

theorem databaseUrl_eq_ok_iff : databaseUrl env name = .ok url ↔ Locates env name url := by
  unfold databaseUrl Locates
  split
  next located => rw [Except.ok.injEq, ← Option.some.injEq, ← located, Option.or_eq_some_iff]
  next none =>
    rw [Option.or_eq_none_iff] at none
    simp [none]

theorem databaseUrl_eq_error (failed : databaseUrl env name = .error e) : e = .missing name := by
  unfold databaseUrl at failed
  split at failed
  next => cases failed
  next => exact (Except.error.inj failed).symm

theorem connections_eq_ok_iff : connections env name = .ok n ↔ Connects env name n := by
  unfold connections Connects
  split
  next unset => simp [unset, eq_comm]
  next s set =>
    rw [mapError_eq_ok_iff, readNatural_eq_ok_iff (by decide)]
    simp [set]

theorem variableName_of_connections (failed : connections env name = .error e) :
    e.variableName = name := by
  unfold connections at failed
  split at failed
  next => cases failed
  next =>
    obtain ⟨cause, -, rfl⟩ := mapError_eq_error_iff.1 failed
    rfl

theorem Measures.within (measures : Measures env name n) : 6 ≤ n ∧ n ≤ 32 := by
  rcases measures with ⟨-, rfl⟩ | ⟨s, -, -, within⟩
  · decide
  · exact within

theorem codeLength_eq_ok_iff : codeLength env name = .ok n ↔ Measures env name n := by
  unfold codeLength Measures
  split
  next unset => simp [unset, eq_comm]
  next s set =>
    -- A length that is small enough is far below the limit of the numeral.
    have reads : readNatural UInt64.size (trim s) = .ok n ∧ leastCodeLength ≤ n ∧
        n ≤ mostCodeLength ↔ IsNumeral (trim s) n ∧ 6 ≤ n ∧ n ≤ 32 := by
      rw [readNatural_eq_ok_iff (by decide), and_assoc]
      refine and_congr_right fun _ => and_iff_right_of_imp fun within => ?_
      exact within.2.trans_lt (by decide)
    simp only [set, reduceCtorEq, false_and, false_or, Option.some.injEq, exists_eq_left', ← reads]
    constructor
    · intro done
      obtain ⟨n', read, done⟩ := bind_eq_ok done
      split at done
      next within =>
        cases done
        exact ⟨mapError_eq_ok_iff.1 read, within⟩
      next => cases done
    · rintro ⟨read, within⟩
      rw [read]
      exact if_pos within

theorem variableName_of_codeLength (failed : codeLength env name = .error e) :
    e.variableName = name := by
  unfold codeLength at failed
  split at failed
  next => cases failed
  next =>
    rcases bind_eq_error failed with unread | ⟨n, -, outside⟩
    · obtain ⟨cause, -, rfl⟩ := mapError_eq_error_iff.1 unread
      rfl
    · split at outside
      next => cases outside
      next =>
        cases outside
        rfl

end Settings

/-- A voucher that is created has the code that its input gets. -/
theorem VoucherInput.code_of_validate {i : VoucherInput} {today : Date} {codeLength : Nat}
    {picks : VoucherCode.Picks} {n : NewVoucher} {code : VoucherCode}
    (accepted : i.validate today codeLength picks = .ok n)
    (chosen : i.codeFor codeLength picks = .ok code) : n.code = code :=
  Except.ok.inj (((validate_eq_ok_iff ⟨1⟩).1 accepted).1.code.symm.trans chosen)

/-- A store adds a voucher with the code that it is given. -/
theorem DiscountStore.createVoucher_yields (n : NewVoucher) :
    (createVoucher n).Yields fun v => v.code = n.code :=
  Work.yields_bind fun _ => Work.Yields.transaction <| Work.yields_bind fun _ =>
    Work.yields_bind fun _ => Work.yields_pure rfl

theorem DiscountDesk.accept_yields {α : Type} (outcome : Except Invalid α) :
    (accept outcome).Yields fun a => outcome = .ok a := by
  cases outcome with
  | error e => exact Work.yields_throw _
  | ok a => exact Work.yields_pure rfl

theorem DiscountDesk.createVoucher_yields (desk : DiscountDesk) {input : VoucherInput}
    {picks : VoucherCode.Picks} {code : VoucherCode}
    (chosen : input.codeFor desk.codeLength picks = .ok code) :
    (desk.createVoucher input picks).Yields fun v => v.code = code :=
  (accept_yields _).bind fun n accepted =>
    ((DiscountStore.createVoucher_yields n).mapError _).bind fun _ kept =>
      Work.yields_bind fun _ =>
        Work.yields_pure (kept.trans (VoucherInput.code_of_validate accepted chosen))

namespace AdminSettings

open Settings VoucherCode

variable {env : Environment} {s : AdminSettings} {e : SettingsError}

/-- Settings are what their three variables are read as. -/
theorem ofEnvironment_eq_ok_iff :
    ofEnvironment env = .ok s ↔ Locates env "ADMIN_DATABASE_URL" s.databaseUrl ∧
      Connects env "ADMIN_DB_MAX_CONNECTIONS" s.maxConnections ∧
      Measures env "ADMIN_VOUCHER_CODE_LENGTH" s.codeLength := by
  rw [← databaseUrl_eq_ok_iff, ← connections_eq_ok_iff, ← codeLength_eq_ok_iff]
  constructor
  · intro done
    obtain ⟨url, located, done⟩ := bind_eq_ok done
    obtain ⟨most, connected, done⟩ := bind_eq_ok done
    obtain ⟨length, measured, done⟩ := bind_eq_ok done
    cases done
    exact ⟨located, connected, measured⟩
  · rintro ⟨located, connected, measured⟩
    rw [ofEnvironment, located, connected, measured]
    rfl

theorem exists_ofEnvironment_iff :
    (∃ s, ofEnvironment env = .ok s) ↔ (∃ url, Locates env "ADMIN_DATABASE_URL" url) ∧
      (∃ n, Connects env "ADMIN_DB_MAX_CONNECTIONS" n) ∧
      ∃ n, Measures env "ADMIN_VOUCHER_CODE_LENGTH" n := by
  simp only [ofEnvironment_eq_ok_iff]
  constructor
  · rintro ⟨s, located, connected, measured⟩
    exact ⟨⟨_, located⟩, ⟨_, connected⟩, ⟨_, measured⟩⟩
  · rintro ⟨⟨databaseUrl, located⟩, ⟨maxConnections, connected⟩, ⟨codeLength, measured⟩⟩
    exact ⟨{ databaseUrl, maxConnections, codeLength }, located, connected, measured⟩

/-- The variable with this name is unfit, and those that are looked at before it are not. -/
inductive FirstUnfit (env : Environment) : String → Prop
  | databaseUrl (missing : ∀ url, ¬Locates env "ADMIN_DATABASE_URL" url) :
    FirstUnfit env "ADMIN_DATABASE_URL"
  | maxConnections (located : ∃ url, Locates env "ADMIN_DATABASE_URL" url)
      (unfit : ∀ n, ¬Connects env "ADMIN_DB_MAX_CONNECTIONS" n) :
    FirstUnfit env "ADMIN_DB_MAX_CONNECTIONS"
  | codeLength (located : ∃ url, Locates env "ADMIN_DATABASE_URL" url)
      (connected : ∃ n, Connects env "ADMIN_DB_MAX_CONNECTIONS" n)
      (unfit : ∀ n, ¬Measures env "ADMIN_VOUCHER_CODE_LENGTH" n) :
    FirstUnfit env "ADMIN_VOUCHER_CODE_LENGTH"

theorem firstUnfit_of_error (failed : ofEnvironment env = .error e) :
    FirstUnfit env e.variableName := by
  rcases bind_eq_error failed with missing | ⟨url, located, failed⟩
  · rw [databaseUrl_eq_error missing]
    exact .databaseUrl fun url => by simp [← databaseUrl_eq_ok_iff, missing]
  have located := databaseUrl_eq_ok_iff.1 located
  rcases bind_eq_error failed with unfit | ⟨most, connected, failed⟩
  · rw [variableName_of_connections unfit]
    exact .maxConnections ⟨url, located⟩ fun n => by simp [← connections_eq_ok_iff, unfit]
  have connected := connections_eq_ok_iff.1 connected
  rcases bind_eq_error failed with unfit | ⟨length, -, done⟩
  · rw [variableName_of_codeLength unfit]
    exact .codeLength ⟨url, located⟩ ⟨most, connected⟩ fun n => by
      simp [← codeLength_eq_ok_iff, unfit]
  · cases done

/-- Codes can have every length that settings can ask for. -/
theorem length_generate_of_settings (read : ofEnvironment env = .ok s) (picks : Picks) :
    (generate s.codeLength picks).text.length = s.codeLength := by
  obtain ⟨least, most⟩ := (ofEnvironment_eq_ok_iff.1 read).2.2.within
  rw [length_generate, max_eq_left (by omega)]
  exact min_eq_left most

/-- **Which environments are settings, and how long codes then are.** A variable has a text exactly
if its bytes are those of the text in UTF-8. The settings of the administration can be read exactly
if there is an address for the database, of its own or the common one, if the number of connections
is unset or a numeral below the limit as it stands, and if the length of codes is unset or, between
the blanks around it, a numeral from six to 32; the first of these that fails is named in the error.
Whatever is created under settings that were read, a voucher that asks for no code or for a blank
one gets a code of exactly the length of the settings, and one that is read off itself. -/
theorem settings_fix_code_length (env : Environment) :
    (∀ name s, env.text? name = some s ↔ env name = some s.toUTF8) ∧
    (∀ s, ofEnvironment env = .ok s ↔ Locates env "ADMIN_DATABASE_URL" s.databaseUrl ∧
      Connects env "ADMIN_DB_MAX_CONNECTIONS" s.maxConnections ∧
      Measures env "ADMIN_VOUCHER_CODE_LENGTH" s.codeLength) ∧
    ((∃ s, ofEnvironment env = .ok s) ↔ (∃ url, Locates env "ADMIN_DATABASE_URL" url) ∧
      (∃ n, Connects env "ADMIN_DB_MAX_CONNECTIONS" n) ∧
      ∃ n, Measures env "ADMIN_VOUCHER_CODE_LENGTH" n) ∧
    (∀ e, ofEnvironment env = .error e → FirstUnfit env e.variableName ∧
      (e.message = "Missing environment variable: " ++ e.variableName ∨ ∃ reason,
        e.message = "Invalid environment variable " ++ e.variableName ++ ": " ++ reason)) ∧
    ∀ s, ofEnvironment env = .ok s → ∀ i : VoucherInput,
      (∀ text, i.code = some text → trim text = "") → ∀ (today : Date) picks,
        (∀ n, i.validate today s.codeLength picks = .ok n →
          n.code.text.length = s.codeLength ∧ parse n.code.text = .ok n.code) ∧
        ∀ (w : Session DiscountStore) v,
          (DiscountDesk.createVoucher { codeLength := s.codeLength, today } i picks w).1 = .ok v →
          v.code.text.length = s.codeLength ∧ parse v.code.text = .ok v.code := by
  refine ⟨fun _ _ => Environment.text?_eq_some_iff, fun _ => ofEnvironment_eq_ok_iff,
    exists_ofEnvironment_iff, fun e failed => ⟨firstUnfit_of_error failed, e.message_eq⟩, ?_⟩
  intro s read i blank today picks
  have chosen : i.codeFor s.codeLength picks = .ok (generate s.codeLength picks) :=
    VoucherInput.codeFor_of_blank blank
  constructor
  · intro n accepted
    rw [VoucherInput.code_of_validate accepted chosen]
    exact ⟨length_generate_of_settings read picks, canonical_generate _ picks⟩
  · intro w v created
    have code := DiscountDesk.createVoucher_yields { codeLength := s.codeLength, today } chosen
    rw [code w v created]
    exact ⟨length_generate_of_settings read picks, canonical_generate _ picks⟩

/-- An environment with an empty address and a length of seven, written with zeros and blanks, in
which a voucher without a code gets one of seven characters; and one where a blank makes the number
of connections unfit. -/
theorem settings_fix_code_length_of_seven :
    let env : Environment := fun name =>
      if name = "DATABASE_URL" then some "".toUTF8
      else if name = "ADMIN_VOUCHER_CODE_LENGTH" then some "\u00a0+007\n".toUTF8
      else none
    let spaced : Environment := fun name =>
      if name = "ADMIN_DB_MAX_CONNECTIONS" then some " 5".toUTF8 else env name
    let s : AdminSettings := { databaseUrl := "", maxConnections := 10, codeLength := 7 }
    let today : Date := { year := 2026, month := 2, day := 1 }
    let picks : Picks := fun i => ⟨i % 32, Nat.mod_lt _ (by decide)⟩
    let blank : VoucherInput := { code := some "\u2003" }
    let w : Session DiscountStore := { store := { rows := some {} } }
    ofEnvironment env = .ok s ∧
      (∃ n, blank.validate today 7 picks = .ok n ∧ n.code.text.length = 7 ∧
        parse n.code.text = .ok n.code) ∧
      (∃ v, (DiscountDesk.createVoucher { codeLength := 7, today } blank picks w).1 = .ok v ∧
        v.code.text.length = 7 ∧ parse v.code.text = .ok v.code) ∧
      ∃ e, ofEnvironment spaced = .error e ∧ FirstUnfit spaced e.variableName := by
  intro env spaced s today picks blank w
  have read : ofEnvironment env = .ok s := by decide +kernel
  have unread : ofEnvironment spaced =
      .error (.numeral "ADMIN_DB_MAX_CONNECTIONS" .invalidDigit) := by decide +kernel
  obtain ⟨-, -, -, -, created⟩ := settings_fix_code_length env
  obtain ⟨-, -, -, refused, -⟩ := settings_fix_code_length spaced
  have nothing : ∀ text, blank.code = some text → trim text = "" := by
    rintro text ⟨⟩
    decide +kernel
  obtain ⟨validated, written⟩ := created s read blank nothing today picks
  obtain ⟨n, accepted⟩ : ∃ n, blank.validate today 7 picks = .ok n := ⟨_, rfl⟩
  obtain ⟨v, done⟩ : ∃ v,
      (DiscountDesk.createVoucher { codeLength := 7, today } blank picks w).1 = .ok v := ⟨_, rfl⟩
  exact ⟨read, ⟨n, accepted, validated n accepted⟩, ⟨v, done, written w v done⟩, _, unread,
    (refused _ unread).1⟩

end AdminSettings

end BackOffice
