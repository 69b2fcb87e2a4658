import BackOffice.Proofs.AccountInvariant

/-!
# Masked texts

The words of a text are not empty and have no blank in them, and words joined by single spaces are
the words of what they are joined to (`chunks_joinWords`). A masked word is a word that is masked
already, so masking a text again changes nothing, and neither does trimming it. An address that has
been prepared for a store that masks is therefore prepared (`AddressData.prepared_prepared`): its
personal fields show of each word the first character and the length, its place is untouched. They
show no more than that and no less: texts are masked alike exactly if their words have the same
outlines (`AddressData.maskText_eq_iff`).
-/

namespace BackOffice

namespace Text

/-- Something to read, and no blank in it. -/
def IsWord (w : List Char) : Prop :=
  w ≠ [] ∧ ∀ c ∈ w, isBlank c = false

variable {c : Char} {w cs : List Char}

theorem isWord_singleton (visible : isBlank c = false) : IsWord [c] :=
  ⟨List.cons_ne_nil c [], by simpa using visible⟩

theorem IsWord.cons (word : IsWord w) (visible : isBlank c = false) : IsWord (c :: w) :=
  ⟨List.cons_ne_nil c w, List.forall_mem_cons.2 ⟨visible, word.2⟩⟩

theorem isWord_of_mem_chunks (member : w ∈ chunks cs) : IsWord w := by
  fun_induction chunks cs generalizing w with
  | case1 => cases member
  | case2 c cs blank ih => exact ih member
  | case3 c visible =>
    rw [List.mem_singleton.1 member]
    exact isWord_singleton (Bool.eq_false_iff.2 visible)
  | case4 c visible d cs blank ih =>
    rcases List.mem_cons.1 member with rfl | later
    · exact isWord_singleton (Bool.eq_false_iff.2 visible)
    · exact ih later
  | case5 c visible d cs visible' none ih =>
    rw [none] at member
    rw [List.mem_singleton.1 member]
    exact isWord_singleton (Bool.eq_false_iff.2 visible)
  | case6 c visible d cs visible' v vs rest ih =>
    rw [rest] at member ih
    rcases List.mem_cons.1 member with here | later
    · rw [here]
      exact (ih List.mem_cons_self).cons (Bool.eq_false_iff.2 visible)
    · exact ih (List.mem_cons_of_mem v later)

/-- A word ends at the first blank behind it, and the other words stand behind that. -/
theorem IsWord.chunks_append (word : IsWord w) (behind : ∀ c ∈ cs.head?, isBlank c = true) :
    chunks (w ++ cs) = w :: chunks cs := by
  obtain ⟨some, visible⟩ := word
  induction w with
  | nil => exact (some rfl).elim
  | cons c w ih =>
    obtain ⟨here, later⟩ := List.forall_mem_cons.1 visible
    cases w with
    | nil =>
      rw [List.cons_append, List.nil_append, chunks.eq_def]
      cases cs with
      | nil => simp only [here, Bool.false_eq_true, ↓reduceIte, chunks.eq_def []]
      | cons d cs => simp only [here, behind d rfl, Bool.false_eq_true, ↓reduceIte]
    | cons d w =>
      have rest := ih (List.cons_ne_nil d w) later
      have next : isBlank d = false := later d List.mem_cons_self
      rw [List.cons_append] at rest
      rw [List.cons_append, List.cons_append, chunks.eq_def]
      simp only [here, next, rest, Bool.false_eq_true, ↓reduceIte]

theorem IsWord.chunks_eq (word : IsWord w) : chunks w = [w] := by
  have alone : chunks (w ++ []) = w :: chunks [] := word.chunks_append nofun
  rwa [List.append_nil] at alone

theorem splitOnP_cons_of_visible (visible : ¬isBlank c = true) :
    ∃ v vs, cs.splitOnP isBlank = v :: vs ∧ (c :: cs).splitOnP isBlank = (c :: v) :: vs := by
  obtain ⟨v, vs, split⟩ := List.exists_cons_of_ne_nil (List.splitOnP_ne_nil isBlank cs)
  refine ⟨v, vs, split, ?_⟩
  rw [List.splitOnP_cons_eq_if_modifyHead, if_neg visible, split, List.modifyHead_cons]

/-- The words are the pieces that are not empty when a text is split at every blank. -/
theorem chunks_eq_splitOnP (cs : List Char) :
    chunks cs = (cs.splitOnP isBlank).filter fun w => !w.isEmpty := by
  fun_induction chunks cs with
  | case1 => rfl
  | case2 c cs blank ih =>
    rw [List.splitOnP_cons_eq_if_modifyHead, if_pos blank, ih]
    rfl
  | case3 c visible =>
    rw [List.splitOnP_cons_eq_if_modifyHead, if_neg visible]
    rfl
  | case4 c visible d cs blank ih =>
    rw [List.splitOnP_cons_eq_if_modifyHead, if_pos blank] at ih
    rw [List.splitOnP_cons_eq_if_modifyHead, if_neg visible,
      List.splitOnP_cons_eq_if_modifyHead, if_pos blank, ih]
    rfl
  | case5 c visible d cs visible' none ih =>
    obtain ⟨v, vs, -, split⟩ := splitOnP_cons_of_visible visible'
    rw [none, split] at ih
    cases ih
  | case6 c visible d cs visible' w ws rest ih =>
    obtain ⟨v, vs, -, split⟩ := splitOnP_cons_of_visible visible'
    obtain ⟨v', vs', split', longer⟩ := splitOnP_cons_of_visible visible
    obtain ⟨rfl, rfl⟩ := List.cons.inj (split'.symm.trans split)
    rw [rest, split] at ih
    obtain ⟨rfl, rfl⟩ := List.cons.inj ih
    rw [longer, rest]
    rfl

/-- A blank parts the words before it from those behind it. -/
theorem chunks_append_cons (blank : isBlank c = true) (cs ds : List Char) :
    chunks (cs ++ c :: ds) = chunks cs ++ chunks ds := by
  simp only [chunks_eq_splitOnP, List.splitOnP_append_cons cs ds blank, List.filter_append]

theorem chunks_stripStart (cs : List Char) : chunks (stripStart cs) = chunks cs := by
  induction cs with
  | nil => rfl
  | cons c cs ih =>
    by_cases blank : isBlank c = true
    · have rest : chunks (c :: cs) = chunks cs := chunks_append_cons blank [] cs
      rw [rest, stripStart, List.dropWhile_cons_of_pos blank]
      exact ih
    · rw [stripStart, List.dropWhile_cons_of_neg blank]

theorem chunks_stripEnd (cs : List Char) : chunks (stripEnd cs) = chunks cs := by
  induction cs using List.reverseRecOn with
  | nil => rfl
  | append_singleton cs c ih =>
    by_cases blank : isBlank c = true
    · have shorter : stripEnd (cs ++ [c]) = stripEnd cs :=
        List.rdropWhile_concat_pos isBlank cs c blank
      have before : chunks (cs ++ [c]) = chunks cs := by
        rw [chunks_append_cons blank, chunks.eq_def [], List.append_nil]
      rw [shorter, before, ih]
    · have whole : stripEnd (cs ++ [c]) = cs ++ [c] :=
        List.rdropWhile_concat_neg isBlank cs c blank
      rw [whole]

/-- Blanks around a text do not change its words. -/
theorem chunks_trim (s : String) : chunks (trim s).toList = chunks s.toList := by
  rw [toList_trim, chunks_stripEnd, chunks_stripStart]

end Text

open Text

namespace AddressData

/-- Joined by single spaces, words are the words of the text. -/
theorem chunks_joinWords {ws : List (List Char)} (words : ∀ w ∈ ws, IsWord w) :
    chunks (joinWords ws) = ws := by
  induction ws with
  | nil => rfl
  | cons w ws ih =>
    obtain ⟨first, others⟩ := List.forall_mem_cons.1 words
    cases ws with
    | nil => exact first.chunks_eq
    | cons v ws =>
      have space : isBlank ' ' = true := by decide
      have split : chunks (w ++ ' ' :: joinWords (v :: ws)) =
          w :: chunks (' ' :: joinWords (v :: ws)) := first.chunks_append (by simpa using space)
      change chunks (w ++ ' ' :: joinWords (v :: ws)) = _
      rw [split, chunks.eq_def]
      simp only [space, ↓reduceIte, ih others]

theorem isWord_maskWord {w : List Char} (word : IsWord w) : IsWord (maskWord w) := by
  cases w with
  | nil => exact word
  | cons c cs =>
    refine ⟨List.cons_ne_nil _ _, List.forall_mem_cons.2 ⟨word.2 c List.mem_cons_self, ?_⟩⟩
    intro d point
    obtain ⟨_, -, rfl⟩ := List.mem_map.1 point
    decide

theorem maskWord_maskWord (w : List Char) : maskWord (maskWord w) = maskWord w := by
  cases w with
  | nil => rfl
  | cons c cs =>
    rw [maskWord, maskWord, List.map_map]
    rfl

theorem head?_joinWords {ws : List (List Char)} (words : ∀ w ∈ ws, IsWord w) :
    ∀ c ∈ (joinWords ws).head?, isBlank c = false := by
  cases ws with
  | nil => exact nofun
  | cons w ws =>
    obtain ⟨some, visible⟩ := words w List.mem_cons_self
    obtain ⟨c, cs, rfl⟩ := List.exists_cons_of_ne_nil some
    have begins : (joinWords ((c :: cs) :: ws)).head? = .some c := by cases ws <;> rfl
    rw [begins]
    rintro _ ⟨⟩
    exact visible c List.mem_cons_self

theorem getLast?_joinWords {ws : List (List Char)} (words : ∀ w ∈ ws, IsWord w) :
    ∀ c ∈ (joinWords ws).getLast?, isBlank c = false := by
  induction ws with
  | nil => exact nofun
  | cons w ws ih =>
    obtain ⟨first, others⟩ := List.forall_mem_cons.1 words
    cases ws with
    | nil => exact fun c last => first.2 c (List.mem_of_getLast? last)
    | cons v ws =>
      have some : joinWords (v :: ws) ≠ [] := by
        have given := (others v List.mem_cons_self).1
        cases ws with
        | nil => exact given
        | cons _ _ => exact List.append_ne_nil_of_left_ne_nil given _
      have ends : (joinWords (w :: v :: ws)).getLast? = (joinWords (v :: ws)).getLast? := by
        change (w ++ ' ' :: joinWords (v :: ws)).getLast? = _
        rw [List.getLast?_append, List.getLast?_cons]
        obtain ⟨c, last⟩ := Option.isSome_iff_exists.1 (List.getLast?_isSome.2 some)
        rw [last]
        rfl
      rw [ends]
      exact ih others

section MaskText

theorem toList_maskText (s : String) :
    (maskText s).toList = joinWords ((chunks s.toList).map maskWord) :=
  String.toList_ofList

theorem isWord_of_mem_masked {cs w : List Char} (member : w ∈ (chunks cs).map maskWord) :
    IsWord w := by
  obtain ⟨v, chunk, rfl⟩ := List.mem_map.1 member
  exact isWord_maskWord (isWord_of_mem_chunks chunk)

/-- The words of a masked text are the masked words. -/
theorem chunks_maskText (s : String) :
    chunks (maskText s).toList = (chunks s.toList).map maskWord := by
  rw [toList_maskText, chunks_joinWords fun _ => isWord_of_mem_masked]

theorem maskText_maskText (s : String) : maskText (maskText s) = maskText s := by
  have masked : maskWord ∘ maskWord = maskWord := funext maskWord_maskWord
  apply String.toList_inj.1
  rw [toList_maskText, chunks_maskText, List.map_map, masked, toList_maskText]

theorem trim_maskText (s : String) : trim (maskText s) = maskText s := by
  have words : ∀ w ∈ (chunks s.toList).map maskWord, IsWord w := fun _ => isWord_of_mem_masked
  apply String.toList_inj.1
  rw [toList_trim, toList_maskText, stripStart_eq_self_iff.2 (head?_joinWords words),
    stripEnd_eq_self_iff.2 (getLast?_joinWords words)]

theorem maskText_trim (s : String) : maskText (trim s) = maskText s := by
  apply String.toList_inj.1
  rw [toList_maskText, chunks_trim, toList_maskText]

/-- Of each word the text shows the first character, which is not blank, and points for the
others, and between two words one space. -/
def ShowsInitials (s : String) : Prop :=
  ∃ words : List (Char × Nat), (∀ word ∈ words, isBlank word.1 = false) ∧
    s.toList = joinWords (words.map fun word => word.1 :: List.replicate word.2 '.')

theorem showsInitials_maskText (s : String) : ShowsInitials (maskText s) := by
  refine ⟨(chunks s.toList).map fun w => (w.headD ' ', w.tail.length), ?_, ?_⟩
  · intro word member
    obtain ⟨w, chunk, rfl⟩ := List.mem_map.1 member
    obtain ⟨some, visible⟩ := isWord_of_mem_chunks chunk
    obtain ⟨c, cs, rfl⟩ := List.exists_cons_of_ne_nil some
    exact visible c List.mem_cons_self
  · rw [toList_maskText, List.map_map]
    refine congrArg joinWords (List.map_congr_left fun w chunk => ?_)
    obtain ⟨c, cs, rfl⟩ := List.exists_cons_of_ne_nil (isWord_of_mem_chunks chunk).1
    rw [maskWord, List.map_const']
    rfl

end MaskText

/-- The fields that tell who lives at an address. -/
def personal (d : AddressData) : List String :=
  [d.firstName, d.lastName, d.company, d.street1, d.street2, d.phone]

/-- The fields that tell where an address is. -/
def place (d : AddressData) : List String :=
  [d.city, d.cityArea, d.postalCode, d.country, d.countryArea]

theorem personal_prepared (d : AddressData) :
    (d.prepared true).personal = d.normalized.personal.map maskText := rfl

theorem place_prepared (d : AddressData) (mask : Bool) :
    (d.prepared mask).place = d.normalized.place := by
  cases mask <;> simp only [prepared, masked, place, Bool.false_eq_true, ↓reduceIte]

theorem showsInitials_of_prepared {d : AddressData} {field : String}
    (personal : field ∈ (d.prepared true).personal) : ShowsInitials field := by
  rw [personal_prepared] at personal
  obtain ⟨s, -, rfl⟩ := List.mem_map.1 personal
  exact showsInitials_maskText s

section Outlines

/-- What is to be seen of a word once it is masked: its first character, and how many characters it
has. -/
def outline (w : List Char) : Option Char × Nat := (w.head?, w.length)

/-- The outlines of a text's words, which is what it has between blanks. -/
def outlines (s : String) : List (Option Char × Nat) :=
  ((s.toList.splitOnP isBlank).filter fun w => !w.isEmpty).map outline

/-- The masked word of an outline. -/
def ofOutline : Option Char × Nat → List Char
  | (none, _) => []
  | (some c, n) => c :: List.replicate (n - 1) '.'

theorem outline_maskWord (w : List Char) : outline (maskWord w) = outline w := by
  cases w with
  | nil => rfl
  | cons c cs =>
    rw [maskWord, outline, outline, List.length_cons, List.length_map]
    rfl

theorem ofOutline_outline (w : List Char) : ofOutline (outline w) = maskWord w := by
  cases w with
  | nil => rfl
  | cons c cs =>
    rw [maskWord, List.map_const']
    rfl

theorem outlines_eq (s : String) : outlines s = (chunks s.toList).map outline := by
  rw [outlines, ← chunks_eq_splitOnP]

/-- Texts are masked alike exactly if their words have the same outlines. -/
theorem maskText_eq_iff {s t : String} : maskText s = maskText t ↔ outlines s = outlines t := by
  have shown : outline ∘ maskWord = outline := funext outline_maskWord
  have drawn : ofOutline ∘ outline = maskWord := funext ofOutline_outline
  rw [outlines_eq, outlines_eq]
  constructor
  · intro same
    have words := congrArg (fun u : String => (chunks u.toList).map outline) same
    simpa only [chunks_maskText, List.map_map, shown] using words
  · intro same
    have masked := congrArg (fun l => joinWords (l.map ofOutline)) same
    apply String.toList_inj.1
    simpa only [toList_maskText, List.map_map, drawn] using masked

/-- **Of an address the mask shows the place and the outlines of words, and nothing else.** Two
addresses are masked alike exactly if they have the same place, and in each of the other fields the
words, as white space separates them, have one by one the same first characters and lengths. So
neither a hidden character nor how much white space there is, and of which kind, has any effect. -/
theorem masked_eq_iff_same_outlines (a b : AddressData) :
    a.masked = b.masked ↔
      (a.city = b.city ∧ a.cityArea = b.cityArea ∧ a.postalCode = b.postalCode ∧
        a.country = b.country ∧ a.countryArea = b.countryArea) ∧
      outlines a.firstName = outlines b.firstName ∧ outlines a.lastName = outlines b.lastName ∧
      outlines a.company = outlines b.company ∧ outlines a.street1 = outlines b.street1 ∧
      outlines a.street2 = outlines b.street2 ∧ outlines a.phone = outlines b.phone := by
  simp only [masked, AddressData.mk.injEq, maskText_eq_iff]
  constructor
  · rintro ⟨first, last, company, street1, street2, city, area, code, country, region, phone⟩
    exact ⟨⟨city, area, code, country, region⟩, first, last, company, street1, street2, phone⟩
  · rintro ⟨⟨city, area, code, country, region⟩, first, last, company, street1, street2, phone⟩
    exact ⟨first, last, company, street1, street2, city, area, code, country, region, phone⟩

end Outlines

section Prepared

theorem masked_masked (d : AddressData) : d.masked.masked = d.masked := by
  simp only [masked, maskText_maskText]

/-- It does not matter whether an address is normalized or masked first. -/
theorem normalized_masked (d : AddressData) : d.masked.normalized = d.normalized.masked := by
  simp only [masked, normalized, trim_maskText, maskText_trim]

/-- To prepare an address twice is to prepare it once, masked if either asks for it. -/
theorem prepared_or (d : AddressData) (a b : Bool) :
    (d.prepared a).prepared b = d.prepared (a || b) := by
  cases a <;> cases b <;>
    simp only [prepared, Bool.or_true, Bool.or_false, Bool.false_eq_true, ↓reduceIte,
      normalized_normalized, normalized_masked, masked_masked]

/-- A prepared address is normalized. -/
theorem normalized_prepared (d : AddressData) (mask : Bool) :
    (d.prepared mask).normalized = d.prepared mask := by
  have again := d.prepared_or mask false
  rwa [Bool.or_false] at again

/-- An address that has been prepared stays as it is when it is prepared again. -/
theorem prepared_prepared (d : AddressData) (mask : Bool) :
    (d.prepared mask).prepared mask = d.prepared mask := by
  rw [prepared_or, Bool.or_self]

end Prepared

end AddressData

end BackOffice
