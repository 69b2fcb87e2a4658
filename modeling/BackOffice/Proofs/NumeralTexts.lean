import BackOffice.Calendar
import BackOffice.Decimal.Text
import BackOffice.Ident
import BackOffice.Proofs.DecimalNumbers
import BackOffice.Proofs.TrimmedText
import Mathlib.Data.List.TakeWhile

/-!
# Numbers that are written and read back

A number's digits, decimal or hexadecimal, are read back as the number, whatever follows that is no
digit. So are the texts made of such digits: the identifier of an address, a day in whatever year,
and an amount, which keeps its scale and all of its digits and loses only the sign of a zero.
-/

namespace BackOffice

namespace Text

section Decimal

variable {c : Char} {ds : List Char}

theorem digit?_of_isDigit (digit : c.isDigit = true) : digit? c = some (c.toNat - '0'.toNat) := by
  have within := Char.isDigit_iff_toNat.1 digit
  have bounds : ('0' ≤ c && c ≤ '9') = true := by
    rw [Bool.and_eq_true, decide_eq_true_eq, decide_eq_true_eq]
    exact within
  rw [digit?, if_pos bounds]

theorem isSome_digit? (c : Char) : (digit? c).isSome = c.isDigit := by
  cases digit : c.isDigit with
  | true => rw [digit?_of_isDigit digit, Option.isSome_some]
  | false =>
    have outside : ¬('0' ≤ c && c ≤ '9') = true := by
      rw [Bool.and_eq_true, decide_eq_true_eq, decide_eq_true_eq]
      exact fun within => Bool.false_ne_true (digit.symm.trans (Char.isDigit_iff_toNat.2 within))
    rw [digit?, if_neg outside, Option.isSome_none]

theorem isBlank_of_isDigit (digit : c.isDigit = true) : isBlank c = false := by
  have within := Char.isDigit_iff_toNat.1 digit
  have zero : '0'.toNat = 48 := rfl
  have nine : '9'.toNat = 57 := rfl
  rw [Bool.eq_false_iff]
  simp only [isBlank, ne_eq, Bool.or_eq_true, Bool.and_eq_true, decide_eq_true_eq, beq_iff_eq]
  omega

theorem isDigit_of_mem_digits {width n : Nat} (member : c ∈ digits width n) :
    c.isDigit = true := by
  rcases List.mem_append.1 member with zero | digit
  · rw [List.eq_of_mem_replicate zero]
    decide
  · exact Nat.isDigit_of_mem_toDigits (by decide) (by decide) digit

theorem digits_ne_nil (width n : Nat) : digits width n ≠ [] :=
  List.append_ne_nil_of_right_ne_nil _ Nat.toDigits_ne_nil

theorem length_digits (width n : Nat) :
    (digits width n).length = max width (Nat.toDigits 10 n).length :=
  List.length_leftpad

/-- A number that has few digits takes up exactly the width. -/
theorem length_digits_of_lt {width n : Nat} (some : 0 < width) (few : n < 10 ^ width) :
    (digits width n).length = width := by
  rw [length_digits, max_eq_left ((Nat.length_toDigits_le_iff (by decide) some).2 few)]

theorem ofDigitChars_digits (width n : Nat) : Nat.ofDigitChars 10 (digits width n) 0 = n := by
  rw [digits, List.leftpad, Nat.ofDigitChars_append, Nat.ofDigitChars_replicate_zero, mul_zero,
    Nat.ofDigitChars_ten_toDigits]

/-- The number that digits write. -/
theorem natural?_eq (some : ds ≠ []) (all : ∀ c ∈ ds, c.isDigit = true) :
    natural? ds = .some (Nat.ofDigitChars 10 ds 0) := by
  have fold (acc : Nat) : ds.foldlM (fun acc c => (digit? c).map (acc * 10 + ·)) acc =
      .some (Nat.ofDigitChars 10 ds acc) := by
    clear some
    induction ds generalizing acc with
    | nil => rfl
    | cons c ds ih =>
      obtain ⟨first, others⟩ := List.forall_mem_cons.1 all
      rw [List.foldlM_cons, digit?_of_isDigit first, Nat.ofDigitChars_cons, Nat.mul_comm 10 acc]
      exact ih others _
  cases ds with
  | nil => exact (some rfl).elim
  | cons c ds => exact fold 0

end Decimal

section Hexadecimal

variable {n : Nat}

theorem hexValue?_hexDigit (small : n < 16) : hexValue? (hexDigit n) = some n := by
  have all : ∀ n < 16, hexValue? (hexDigit n) = some n := by decide
  exact all n small

theorem hexDigit_ne_hyphen (small : n < 16) : (hexDigit n != '-') = true := by
  have all : ∀ n < 16, (hexDigit n != '-') = true := by decide
  exact all n small

theorem length_hexDigits (width n : Nat) : (hexDigits width n).length = width := by
  induction width generalizing n with
  | zero => rfl
  | succ width ih => rw [hexDigits, List.length_append, ih, List.length_singleton]

theorem ne_hyphen_of_mem_hexDigits {width n : Nat} {c : Char} (member : c ∈ hexDigits width n) :
    (c != '-') = true := by
  induction width generalizing n with
  | zero => cases member
  | succ width ih =>
    rcases List.mem_append.1 member with front | last
    · exact ih front
    · rw [List.mem_singleton.1 last]
      exact hexDigit_ne_hyphen (Nat.mod_lt n (by decide))

/-- The number that hexadecimal digits write. -/
theorem hexNumber?_hexDigits {width : Nat} (few : n < 16 ^ width) :
    hexNumber? (hexDigits width n) = some n := by
  induction width generalizing n with
  | zero =>
    rw [Nat.lt_one_iff.1 few]
    rfl
  | succ width ih =>
    have front := ih (Nat.div_lt_of_lt_mul (by rwa [← Nat.pow_succ']))
    rw [hexNumber?] at front
    rw [hexNumber?, hexDigits, List.foldlM_append, front]
    simp only [Option.bind_eq_bind, Option.bind_some, List.foldlM_cons, List.foldlM_nil,
      hexValue?_hexDigit (Nat.mod_lt n (by decide : 0 < 16)), Option.map_some, Nat.div_add_mod']
    rfl

end Hexadecimal

end Text

open Text

namespace AddressId

theorem length_hyphenate {cs : List Char} (length : cs.length = 32) :
    (hyphenate cs).length = 36 := by
  simp [hyphenate, length]

/-- Hyphens put between the groups of digits can be left out again. -/
theorem filter_hyphenate {cs : List Char} (none : ∀ c ∈ cs, (c != '-') = true) :
    (hyphenate cs).filter (· != '-') = cs := by
  have group (start length : Nat) :
      ((cs.drop start).take length).filter (· != '-') = (cs.drop start).take length :=
    List.filter_eq_self.2 fun c member =>
      none c (List.mem_of_mem_drop (List.mem_of_mem_take member))
  have last : (cs.drop 20).filter (· != '-') = cs.drop 20 :=
    List.filter_eq_self.2 fun c member => none c (List.mem_of_mem_drop member)
  have joined (start length : Nat) :
      (cs.drop start).take length ++ cs.drop (start + length) = cs.drop start := by
    rw [← List.drop_drop, List.take_append_drop]
  have first := group 0 8
  rw [List.drop_zero] at first
  rw [hyphenate]
  simp only [List.filter_append, List.filter_cons, List.append_assoc, first, group, last,
    bne_self_eq_false, Bool.false_eq_true, ↓reduceIte]
  rw [joined 16 4, joined 12 4, joined 8 4, List.take_append_drop]

/-- The text of an identifier is read back as the identifier. -/
theorem ofText?_toText (id : AddressId) : ofText? id.toText = some id := by
  have length := length_hexDigits 32 id.val
  have digits : (hyphenate (hexDigits 32 id.val)).filter (· != '-') = hexDigits 32 id.val :=
    filter_hyphenate fun _ => ne_hyphen_of_mem_hexDigits
  have number : hexNumber? (hexDigits 32 id.val) = some id.val := hexNumber?_hexDigits id.val_lt
  have groups : readGroups (hyphenate (hexDigits 32 id.val)) = some id := by
    rw [readGroups]
    simp only [digits, length, and_self, ↓reduceIte, number, Option.bind_some, ofNat?, id.val_lt,
      ↓reduceDIte]
  rw [ofText?, toText, String.toList_ofList]
  simp only [length_hyphenate length, groups]

end AddressId

namespace Date

variable {ds rest : List Char}

/-- Digits are read up to the most that may be, or up to what is no digit. -/
theorem readNumber_append {most : Nat} (some : ds ≠ []) (all : ∀ c ∈ ds, c.isDigit = true)
    (room : ds.length ≤ most)
    (stops : ∀ c ∈ (rest.take (most - ds.length)).head?, c.isDigit = false) :
    readNumber most (ds ++ rest) = .some (Nat.ofDigitChars 10 ds 0, rest) := by
  have isDigit : (fun c => (digit? c).isSome) = Char.isDigit := funext isSome_digit?
  have stop : (rest.take (most - ds.length)).takeWhile Char.isDigit = [] := by
    cases front : rest.take (most - ds.length) with
    | nil => rfl
    | cons c cs =>
      rw [front] at stops
      exact List.takeWhile_cons_of_neg (Bool.eq_false_iff.1 (stops c rfl))
  have read : ((ds ++ rest).take most).takeWhile (fun c => (digit? c).isSome) = ds := by
    rw [isDigit, List.take_append, List.take_of_length_le room,
      List.takeWhile_append_of_pos fun c member => all c member, stop, List.append_nil]
  rw [readNumber]
  simp only [read, natural?_eq some all, Option.map_some, List.drop_left]

/-- A number of two digits is read, whatever follows. -/
theorem readNumber_digits {width n : Nat} (some : 0 < width) (few : n < 10 ^ width) :
    readNumber width (digits width n ++ rest) = .some (n, rest) := by
  have length := length_digits_of_lt some few
  rw [readNumber_append (digits_ne_nil width n) (fun _ => isDigit_of_mem_digits) length.le
    (by simp [length]), ofDigitChars_digits]

theorem readYear_of_isDigit {c : Char} (digit : c.isDigit = true) (cs : List Char) :
    readYear (c :: cs) = (readNumber 4 (c :: cs)).map fun (n, r) => ((n : Int), r) := by
  unfold readYear
  split
  next same => cases same; exact absurd digit (by decide)
  next same => cases same; exact absurd digit (by decide)
  next => rfl

/-- Behind a sign all digits of the year are read, up to the hyphen. -/
theorem readNumber_signed (n : Nat) (rest : List Char) :
    readNumber (digits 4 n ++ '-' :: rest).length (digits 4 n ++ '-' :: rest) =
      some (n, '-' :: rest) := by
  have room : (digits 4 n).length ≤ (digits 4 n ++ '-' :: rest).length := by
    rw [List.length_append]
    omega
  rw [readNumber_append (digits_ne_nil 4 n) (fun _ => isDigit_of_mem_digits) room ?_,
    ofDigitChars_digits]
  intro c first
  rw [List.head?_take] at first
  split at first
  · cases first
  · cases first
    decide

/-- The year of a day is read back, with its sign if it has one. -/
theorem readYear_append (year : Int) :
    readYear ((if 0 ≤ year ∧ year ≤ 9999 then [] else [if year < 0 then '-' else '+']) ++
      digits 4 year.natAbs ++ '-' :: rest) = some (year, '-' :: rest) := by
  split
  next plain =>
    obtain ⟨c, cs, split⟩ := List.exists_cons_of_ne_nil (digits_ne_nil 4 year.natAbs)
    have digit : c.isDigit = true := isDigit_of_mem_digits (split ▸ List.mem_cons_self)
    have read : readNumber 4 (digits 4 year.natAbs ++ '-' :: rest) =
        some (year.natAbs, '-' :: rest) := readNumber_digits (by decide) (by omega)
    have value : (year.natAbs : Int) = year := by omega
    rw [List.nil_append, split, List.cons_append, readYear_of_isDigit digit, ← List.cons_append,
      ← split, read]
    simp only [Option.map_some, value]
  next signed =>
    have read := readNumber_signed year.natAbs rest
    split
    next negative =>
      have value : -(year.natAbs : Int) = year := by omega
      change (readNumber (digits 4 year.natAbs ++ '-' :: rest).length
        (digits 4 year.natAbs ++ '-' :: rest)).map (fun (n, r) => (-(n : Int), r)) = _
      rw [read]
      simp only [Option.map_some, value]
    next positive =>
      have value : (year.natAbs : Int) = year := by omega
      change (readNumber (digits 4 year.natAbs ++ '-' :: rest).length
        (digits 4 year.natAbs ++ '-' :: rest)).map (fun (n, r) => ((n : Int), r)) = _
      rw [read]
      simp only [Option.map_some, value]

/-- Digits, with whatever behind them, do not start with a blank. -/
theorem stripStart_digits (width n : Nat) (rest : List Char) :
    stripStart (digits width n ++ rest) = digits width n ++ rest := by
  rw [stripStart_eq_self_iff]
  intro c first
  obtain ⟨d, ds, split⟩ := List.exists_cons_of_ne_nil (digits_ne_nil width n)
  rw [split] at first
  cases first
  exact isBlank_of_isDigit (isDigit_of_mem_digits (split ▸ List.mem_cons_self))

theorem stripStart_hyphen (rest : List Char) : stripStart ('-' :: rest) = '-' :: rest := by
  rw [stripStart_eq_self_iff]
  rintro c ⟨⟩
  decide

theorem stripStart_toChars (d : Date) : stripStart d.toChars = d.toChars := by
  unfold toChars
  split
  next => rw [List.nil_append, List.append_assoc, stripStart_digits]
  next =>
    rw [stripStart_eq_self_iff]
    rintro c ⟨⟩
    split <;> decide

/-- The text of a day is read back as the day, in whatever year. -/
theorem ofText?_toText (d : Date) : ofText? d.toText = some d := by
  obtain ⟨-, ⟨-, month⟩, -, day⟩ := d.holds
  have short : daysIn d.year d.month ≤ 31 := by
    unfold daysIn
    split <;> split <;> decide
  have month : d.month < 10 ^ 2 := by omega
  have day : d.day < 10 ^ 2 := by omega
  have exists' : of? d.year d.month d.day = some d := by rw [of?, dif_pos d.holds]
  have last : readNumber 2 (digits 2 d.day ++ []) = some (d.day, []) :=
    readNumber_digits (by decide) day
  rw [ofText?, toText, String.toList_ofList, ofChars?, stripStart_toChars, toChars,
    List.append_assoc _ ('-' :: digits 2 d.month), List.cons_append, readYear_append]
  rw [← List.append_nil (digits 2 d.day)]
  simp only [Option.bind_eq_bind, Option.bind_some, stripStart_hyphen, readHyphen,
    stripStart_digits, readNumber_digits (by decide : 0 < 2) month, last, exists']
  rfl

end Date

namespace Decimal

variable {negative point started : Bool} {magnitude scale : Nat} {ds rest : List Char}

/-- The decimal that is read from a decimal's text: a zero has no sign. -/
def reread (d : Decimal) : Decimal :=
  { d with negative := d.negative && d.magnitude != 0 }

/-- Only a zero's sign gets lost, so the number stays the same. -/
theorem same_reread (d : Decimal) : d.reread.Same d := by
  by_cases none : d.magnitude = 0
  · simp [Same, reread, mantissa, unitsPerOne, none]
  · simp [Same, reread, mantissa, unitsPerOne, none]

theorem le_ofDigitChars (ds : List Char) (n : Nat) : n ≤ Nat.ofDigitChars 10 ds n := by
  induction ds generalizing n with
  | nil => exact le_rfl
  | cons c ds ih =>
    rw [Nat.ofDigitChars_cons]
    exact le_trans (by omega) (ih _)

/-- Digits that leave room are read onto the magnitude, and behind the point onto the scale. -/
theorem readFrom_append (all : ∀ c ∈ ds, c.isDigit = true)
    (fits : Nat.ofDigitChars 10 ds magnitude < Nat.pow 2 96)
    (room : point = true → scale + ds.length ≤ 28) :
    readFrom negative point started magnitude scale (ds ++ rest) =
      readFrom negative point (started || !ds.isEmpty) (Nat.ofDigitChars 10 ds magnitude)
        (if point then scale + ds.length else scale) rest := by
  induction ds generalizing started magnitude scale with
  | nil => cases point <;> simp
  | cons c ds ih =>
    obtain ⟨first, others⟩ := List.forall_mem_cons.1 all
    rw [Nat.ofDigitChars_cons] at fits
    have small : ¬Nat.pow 2 96 ≤ magnitude * 10 + (c.toNat - '0'.toNat) := by
      have grows := le_ofDigitChars ds (10 * magnitude + (c.toNat - '0'.toNat))
      omega
    have open' : (point && decide (28 ≤ scale)) = false := by
      cases point with
      | false => rfl
      | true =>
        have := room rfl
        rw [List.length_cons] at this
        rw [Bool.true_and, decide_eq_false_iff_not]
        omega
    rw [List.cons_append, readFrom]
    simp only [digit?_of_isDigit first, open', Bool.false_eq_true, ↓reduceIte, small]
    rw [ih others (by rwa [Nat.mul_comm]) ?_, Nat.ofDigitChars_cons, Nat.mul_comm 10]
    · cases point <;> simp [Nat.add_comm, Nat.add_left_comm]
    · rintro rfl
      have := room rfl
      rw [List.length_cons] at this
      rw [if_pos rfl]
      omega

theorem readFrom_point :
    readFrom negative false started magnitude scale ('.' :: rest) =
      readFrom negative true started magnitude scale rest := by
  have none : digit? '.' = none := by decide
  rw [readFrom]
  simp only [none, beq_self_eq_true, Bool.not_false, Bool.and_self, ↓reduceIte]

theorem ofDigits?_eq (d : Decimal) : ofDigits? d.negative d.magnitude d.scale = some d.reread := by
  rw [ofDigits?, ofParts?, dif_pos ⟨d.magnitude_lt, d.scale_le⟩]
  rfl

theorem scale_lt_length_digits (n scale : Nat) : scale < (digits (scale + 1) n).length :=
  Nat.lt_of_lt_of_le (Nat.lt_succ_self _) (length_digits _ _ ▸ le_max_left _ _)

/-- There is a digit in front of the point. -/
theorem whole_ne_nil (n scale : Nat) :
    (digits (scale + 1) n).take ((digits (scale + 1) n).length - scale) ≠ [] := by
  have long := scale_lt_length_digits n scale
  rw [ne_eq, List.take_eq_nil_iff, not_or]
  exact ⟨by omega, digits_ne_nil _ _⟩

/-- Behind its sign, a decimal is read back from its whole digits and its fractional digits. -/
theorem readUnsigned_digits (d : Decimal) :
    let ds := digits (d.scale + 1) d.magnitude
    let cut := ds.length - d.scale
    readUnsigned d.negative (ds.take cut ++ (if d.scale = 0 then [] else '.' :: ds.drop cut)) =
      some d.reread := by
  intro ds cut
  have all : ∀ c ∈ ds, c.isDigit = true := fun _ => isDigit_of_mem_digits
  have value : Nat.ofDigitChars 10 (ds.drop cut) (Nat.ofDigitChars 10 (ds.take cut) 0) =
      d.magnitude := by
    rw [← Nat.ofDigitChars_append, List.take_append_drop, ofDigitChars_digits]
  have long : d.scale < ds.length := scale_lt_length_digits d.magnitude d.scale
  have whole : (ds.take cut).isEmpty = false :=
    List.isEmpty_eq_false_iff.2 (whole_ne_nil d.magnitude d.scale)
  have places : (ds.drop cut).length = d.scale := by
    rw [List.length_drop]
    omega
  have front : ∀ c ∈ ds.take cut, c.isDigit = true :=
    fun c member => all c (List.mem_of_mem_take member)
  have back : ∀ c ∈ ds.drop cut, c.isDigit = true :=
    fun c member => all c (List.mem_of_mem_drop member)
  have fits : Nat.ofDigitChars 10 (ds.take cut) 0 < Nat.pow 2 96 :=
    lt_of_le_of_lt (value ▸ le_ofDigitChars _ _) d.magnitude_lt
  rw [readUnsigned, readFrom_append front fits (by simp), whole, if_neg Bool.false_ne_true]
  split
  next unscaled =>
    have nothing : ds.drop cut = [] := List.length_eq_zero_iff.1 (places.trans unscaled)
    rw [nothing] at value
    rw [← ofDigits?_eq, unscaled, ← value]
    rfl
  next scaled =>
    have fits' : Nat.ofDigitChars 10 (ds.drop cut) (Nat.ofDigitChars 10 (ds.take cut) 0) <
        Nat.pow 2 96 := value ▸ d.magnitude_lt
    have room : 0 + (ds.drop cut).length ≤ 28 := by
      rw [places, Nat.zero_add]
      exact d.scale_le
    rw [readFrom_point, ← List.append_nil (ds.drop cut),
      readFrom_append back fits' fun _ => room, value, places, if_pos rfl, Nat.zero_add,
      ← ofDigits?_eq]
    rfl

theorem readPlain_of_isDigit {c : Char} (digit : c.isDigit = true) (cs : List Char) :
    readPlain (c :: cs) = readUnsigned false (c :: cs) := by
  unfold readPlain
  split
  next same => cases same; exact absurd digit (by decide)
  next same => cases same; exact absurd digit (by decide)
  next => rfl

/-- The text of a decimal is read back as the decimal, but for the sign of a zero. -/
theorem ofText?_toText (d : Decimal) : ofText? d.toText = some d.reread := by
  have read := readUnsigned_digits d
  have plain : readPlain d.toChars = some d.reread := by
    rw [toChars]
    cases negative : d.negative with
    | true =>
      rw [negative] at read
      exact read
    | false =>
      rw [negative] at read
      obtain ⟨c, cs, whole⟩ := List.exists_cons_of_ne_nil (whole_ne_nil d.magnitude d.scale)
      have member : c ∈ digits (d.scale + 1) d.magnitude :=
        List.mem_of_mem_take (whole ▸ List.mem_cons_self)
      rw [if_neg Bool.false_ne_true, List.nil_append, ← read, whole, List.cons_append,
        readPlain_of_isDigit (isDigit_of_mem_digits member)]
  rw [ofText?, toText, String.toList_ofList, plain]
  rfl

end Decimal

end BackOffice
