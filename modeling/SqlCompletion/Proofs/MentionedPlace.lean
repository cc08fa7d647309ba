import Mathlib.Data.List.Basic
import Mathlib.Data.List.TakeWhile
import SqlCompletion.Sql.Diagnosis
import SqlCompletion.Sql.Grammar.Basic

/-!
# Places in a message

A place in a message is `Line:`, a number, a comma, `Column:` and a number, with white space between
them as one likes (`IsPlace`). The message of a rejection has one at its end, but before that it says
what was expected and quotes what was found, and these may hold a place as well.

* `placeAt?_eq_some_iff`: what is read as a place at the front of a text.
* `firstPlace?_append`: a character that no place has divides a message, as far as places go.
* `errorLocation_expectedMessage`: the place of a message is the first one that is mentioned in what
  was expected or found. Only where these mention none, it is the place at the end of the message.
-/

namespace SqlCompletion.Sql

open Text

/-! ## The form of a place -/

/-- White space, or nothing. -/
def IsGap (cs : List Char) : Prop := ∀ c ∈ cs, isBlank c = true

/-- Decimal digits, one at least. -/
structure IsNumber (cs : List Char) : Prop where
  ne_nil : cs ≠ []
  digits : ∀ c ∈ cs, isDecimalDigit c = true

/-- The characters of a place with the given digits. -/
inductive IsPlace (line column : List Char) : List Char → Prop where
  | mk (w₁ w₂ w₃ w₄ : List Char) (h₁ : IsGap w₁) (hline : IsNumber line) (h₂ : IsGap w₂)
      (h₃ : IsGap w₃) (h₄ : IsGap w₄) (hcolumn : IsNumber column) :
      IsPlace line column ("Line:".toList ++
        (w₁ ++ (line ++ (w₂ ++ ([','] ++ (w₃ ++ ("Column:".toList ++ (w₄ ++ column))))))))

/-- A place stands somewhere in the text. -/
def MentionsPlace (cs : List Char) : Prop :=
  ∃ line column place, IsPlace line column place ∧ place <:+: cs

/-! ## Blanks and digits -/

theorem isGap_nil : IsGap [] := List.forall_mem_nil _

theorem isGap_space : IsGap [' '] := List.forall_mem_singleton.mpr rfl

theorem isBlank_eq_false_of_isDecimalDigit {c : Char} (h : isDecimalDigit c = true) :
    isBlank c = false := by
  have hzero : ∀ z ∈ zeroDigits,
      0xa0 < z ∧ z + 9 < 0x1680 ∨ 0x1680 < z ∧ z + 9 < 0x2000 ∨ 0x3000 < z := by decide
  have hplace : 48 ≤ c.toNat ∧ c.toNat ≤ 57 ∨
      ∃ z ∈ zeroDigits, z ≤ c.toNat ∧ c.toNat ≤ z + 9 := by
    unfold isDecimalDigit at h
    split at h
    · exact .inl (by simpa [Char.isDigit, UInt32.le_iff_toNat_le] using h)
    · exact .inr (by simpa using h)
  have hblank : isBlank c ≠ true := by
    intro hb
    simp only [isBlank, Bool.or_eq_true, Bool.and_eq_true, decide_eq_true_eq, beq_iff_eq] at hb
    rcases hplace with hascii | ⟨z, hz, hrange⟩
    · omega
    · have := hzero z hz
      omega
  exact Bool.eq_false_iff.mpr hblank

theorem isDecimalDigit_eq_false_of_isBlank {c : Char} (h : isBlank c = true) :
    isDecimalDigit c = false := by
  refine Bool.eq_false_iff.mpr fun hdigit => ?_
  rw [isBlank_eq_false_of_isDecimalDigit hdigit] at h
  cases h

theorem IsNumber.toDigits (n : Nat) : IsNumber (Nat.toDigits 10 n) where
  ne_nil := Nat.toDigits_ne_nil
  digits := by
    intro c hc
    have hdigit := Nat.isDigit_of_mem_toDigits (by decide) (by decide) hc
    have hascii : c.toNat < 0x80 := by
      have hrange : 48 ≤ c.toNat ∧ c.toNat ≤ 57 := by
        simpa [Char.isDigit, UInt32.le_iff_toNat_le] using hdigit
      omega
    rw [isDecimalDigit_of_lt hascii, hdigit]

/-! ## Reading a place -/

section

variable {w cs rest ds line column : List Char}

theorem skipBlanks_append (hw : IsGap w) (hcs : ∀ c ∈ cs.head?, isBlank c = false) :
    skipBlanks (w ++ cs) = cs := by
  rw [skipBlanks, List.dropWhile_append_of_pos hw]
  cases cs with
  | nil => rfl
  | cons c cs => rw [List.dropWhile_cons_of_neg (by simpa using hcs)]

theorem exists_gap (cs : List Char) : ∃ w, IsGap w ∧ cs = w ++ skipBlanks cs :=
  ⟨cs.takeWhile isBlank, fun _ hc => List.mem_takeWhile_imp hc,
    (List.takeWhile_append_dropWhile ..).symm⟩

/-- What follows some text and the white space before it. -/
theorem dropPrefix?_skipBlanks {p : Char} (hp : isBlank p = false) (pre cs rest : List Char) :
    dropPrefix? (p :: pre) (skipBlanks cs) = some rest ↔
      ∃ w, IsGap w ∧ cs = w ++ (p :: pre ++ rest) := by
  rw [dropPrefix?_eq_some_iff]
  constructor
  · intro h
    obtain ⟨w, hw, hcs⟩ := exists_gap cs
    exact ⟨w, hw, by rw [← h, ← hcs]⟩
  · rintro ⟨w, hw, rfl⟩
    exact skipBlanks_append hw (by simpa using hp)

theorem takeDigits?_eq_some_iff :
    takeDigits? cs = some (ds, rest) ↔
      IsNumber ds ∧ cs = ds ++ rest ∧ ∀ c ∈ rest.head?, isDecimalDigit c = false := by
  have hsplit : cs.takeWhile isDecimalDigit ++ cs.dropWhile isDecimalDigit = cs :=
    List.takeWhile_append_dropWhile ..
  constructor
  · intro h
    unfold takeDigits? at h
    split at h
    · cases h
    · next hne =>
      cases h
      refine ⟨⟨hne, fun _ hc => List.mem_takeWhile_imp hc⟩, hsplit.symm, fun c hc => ?_⟩
      have hstop := List.head?_dropWhile_not isDecimalDigit cs
      rw [Option.mem_def.mp hc] at hstop
      simpa using hstop
  · rintro ⟨hds, rfl, hrest⟩
    have hnone : rest.takeWhile isDecimalDigit = [] ∧ rest.dropWhile isDecimalDigit = rest := by
      cases rest with
      | nil => exact ⟨rfl, rfl⟩
      | cons c rest =>
        have hc : isDecimalDigit c = false := hrest c rfl
        simp [hc]
    unfold takeDigits?
    rw [List.takeWhile_append_of_pos hds.digits, List.dropWhile_append_of_pos hds.digits, hnone.1,
      hnone.2, List.append_nil]
    obtain ⟨d, ds, rfl⟩ := List.exists_cons_of_ne_nil hds.ne_nil
    rfl

/-- A number and the white space before it. -/
theorem takeDigits?_skipBlanks :
    takeDigits? (skipBlanks cs) = some (ds, rest) ↔
      ∃ w, IsGap w ∧ IsNumber ds ∧ cs = w ++ (ds ++ rest) ∧
        ∀ c ∈ rest.head?, isDecimalDigit c = false := by
  rw [takeDigits?_eq_some_iff]
  constructor
  · rintro ⟨hds, h, hrest⟩
    obtain ⟨w, hw, hcs⟩ := exists_gap cs
    exact ⟨w, hw, hds, by rw [← h, ← hcs], hrest⟩
  · rintro ⟨w, hw, hds, rfl, hrest⟩
    refine ⟨hds, skipBlanks_append hw ?_, hrest⟩
    obtain ⟨d, ds, rfl⟩ := List.exists_cons_of_ne_nil hds.ne_nil
    simpa using isBlank_eq_false_of_isDecimalDigit (hds.digits d (List.mem_cons_self ..))

/-- **What is read as a place is one, and it has all the digits that there are.** -/
theorem placeAt?_eq_some_iff :
    placeAt? cs = some ((line, column), rest) ↔
      ∃ place, IsPlace line column place ∧ cs = place ++ rest ∧
        ∀ c ∈ rest.head?, isDecimalDigit c = false := by
  have hcomma := @dropPrefix?_skipBlanks ',' rfl []
  have hword := @dropPrefix?_skipBlanks 'C' rfl "olumn:".toList
  simp only [placeAt?, Option.bind_eq_bind, Option.bind_eq_some_iff, Option.pure_def,
    Option.some.injEq, Prod.mk.injEq, Prod.exists]
  constructor
  · rintro ⟨_, h₁, line', _, h₂, _, h₃, _, h₄, column', rest', h₅, ⟨rfl, rfl⟩, rfl⟩
    obtain rfl := dropPrefix?_eq_some_iff.mp h₁
    obtain ⟨w₁, hw₁, hline, rfl, -⟩ := takeDigits?_skipBlanks.mp h₂
    obtain ⟨w₂, hw₂, rfl⟩ := (hcomma _ _).mp h₃
    obtain ⟨w₃, hw₃, rfl⟩ := (hword _ _).mp h₄
    obtain ⟨w₄, hw₄, hcolumn, rfl, hrest⟩ := takeDigits?_skipBlanks.mp h₅
    exact ⟨_, .mk w₁ w₂ w₃ w₄ hw₁ hline hw₂ hw₃ hw₄ hcolumn, by simp, hrest⟩
  · rintro ⟨_, ⟨w₁, w₂, w₃, w₄, hw₁, hline, hw₂, hw₃, hw₄, hcolumn⟩, rfl, hrest⟩
    have hnext : ∀ c ∈ (w₂ ++ ([','] ++ (w₃ ++ ("Column:".toList ++
        (w₄ ++ (column ++ rest)))))).head?, isDecimalDigit c = false := by
      cases w₂ with
      | nil => simp [show isDecimalDigit ',' = false from rfl]
      | cons b w₂ => simpa using isDecimalDigit_eq_false_of_isBlank (hw₂ b (List.mem_cons_self ..))
    refine ⟨_, dropPrefix?_eq_some_iff.mpr (by simp only [List.append_assoc]), line, _,
      takeDigits?_skipBlanks.mpr ⟨w₁, hw₁, hline, rfl, hnext⟩, _,
      (hcomma _ _).mpr ⟨w₂, hw₂, rfl⟩, _, (hword _ _).mpr ⟨w₃, hw₃, rfl⟩, column, rest,
      takeDigits?_skipBlanks.mpr ⟨w₄, hw₄, hcolumn, rfl, hrest⟩, ⟨rfl, rfl⟩, rfl⟩

end

/-! ## The characters of a place -/

/-- No place has the character. -/
def OutsidePlaces (c : Char) : Prop :=
  isBlank c = false ∧ isDecimalDigit c = false ∧ c ∉ "Line:,Column:".toList

instance (c : Char) : Decidable (OutsidePlaces c) :=
  inferInstanceAs (Decidable (_ ∧ _ ∧ _))

section

variable {line column place : List Char}

theorem IsPlace.exists_cons (h : IsPlace line column place) :
    ∃ tail, place = 'L' :: tail ∧ ∀ c ∈ tail,
      isBlank c = true ∨ isDecimalDigit c = true ∨ c ∈ "ine:,Column:".toList := by
  obtain ⟨w₁, w₂, w₃, w₄, h₁, hline, h₂, h₃, h₄, hcolumn⟩ := h
  refine ⟨"ine:".toList ++ (w₁ ++ (line ++ (w₂ ++ ([','] ++ (w₃ ++ ("Column:".toList ++
    (w₄ ++ column))))))), rfl, fun c hc => ?_⟩
  have hwords (word : List Char) (hword : word ⊆ "ine:,Column:".toList) (hc : c ∈ word) :
      isBlank c = true ∨ isDecimalDigit c = true ∨ c ∈ "ine:,Column:".toList :=
    .inr (.inr (hword hc))
  simp only [List.mem_append] at hc
  rcases hc with hc | hc | hc | hc | hc | hc | hc | hc | hc
  · exact hwords _ (by decide) hc
  · exact .inl (h₁ c hc)
  · exact .inr (.inl (hline.digits c hc))
  · exact .inl (h₂ c hc)
  · exact hwords _ (by decide) hc
  · exact .inl (h₃ c hc)
  · exact hwords _ (by decide) hc
  · exact .inl (h₄ c hc)
  · exact .inr (.inl (hcolumn.digits c hc))

/-- A place has no `L` but the one that it starts with. -/
theorem IsPlace.exists_cons_not_mem (h : IsPlace line column place) :
    ∃ tail, place = 'L' :: tail ∧ 'L' ∉ tail := by
  obtain ⟨tail, hplace, htail⟩ := h.exists_cons
  refine ⟨tail, hplace, fun hm => ?_⟩
  have := htail _ hm
  revert this
  decide

theorem IsPlace.not_mem {c : Char} (h : IsPlace line column place) (hc : OutsidePlaces c) :
    c ∉ place := by
  obtain ⟨hblank, hdigit, hword⟩ := hc
  obtain ⟨tail, rfl, htail⟩ := h.exists_cons
  intro hm
  rcases List.mem_cons.mp hm with rfl | hm
  · exact hword (by decide)
  · rcases htail c hm with hb | hd | hw
    · exact Bool.false_ne_true (hblank ▸ hb)
    · exact Bool.false_ne_true (hdigit ▸ hd)
    · exact hword (List.mem_cons_of_mem 'L' hw)

/-- A place ends with a digit. -/
theorem IsPlace.isDecimalDigit_getLast (h : IsPlace line column place) :
    ∀ c ∈ place.getLast?, isDecimalDigit c = true := by
  obtain ⟨w₁, w₂, w₃, w₄, -, -, -, -, -, hcolumn⟩ := h
  obtain ⟨front, d, rfl⟩ : ∃ front d, column = front ++ [d] :=
    ⟨_, _, (List.dropLast_concat_getLast hcolumn.ne_nil).symm⟩
  intro c hc
  simp only [← List.append_assoc, List.getLast?_concat, Option.mem_some_iff] at hc
  exact hc ▸ hcolumn.digits d (by simp)

end

/-! ## The first place -/

section

variable {line column place cs as rest mid tail : List Char} {x : Char}

/-- A place does not reach over a character that no place has, nor does it end among characters
before it that are no digits. -/
theorem IsPlace.exists_eq_append (h : IsPlace line column place)
    (hmid : ∀ c ∈ mid, isDecimalDigit c = false) (hx : OutsidePlaces x)
    (heq : place ++ rest = cs ++ (mid ++ x :: tail)) :
    ∃ more, cs = place ++ more ∧ rest = more ++ (mid ++ x :: tail) := by
  rcases List.append_eq_append_iff.mp heq with hwithin | ⟨excess, hplace, hexcess⟩
  · exact hwithin
  · rcases excess.eq_nil_or_concat' with rfl | ⟨front, d, rfl⟩
    · exact ⟨[], by simpa using hplace.symm, by simpa using hexcess.symm⟩
    · have hdigit : isDecimalDigit d = true := by
        refine h.isDecimalDigit_getLast d ?_
        rw [hplace, ← List.append_assoc, List.getLast?_concat, Option.mem_some_iff]
      have hmem : d ∉ mid := fun hm => by
        rw [hmid d hm] at hdigit
        cases hdigit
      -- The last digit stands behind the characters that are none, so the place has `x`.
      rcases List.append_eq_append_iff.mp hexcess with ⟨more, hmore, htail⟩ | ⟨more, rfl, -⟩
      · cases more with
        | nil => exact absurd (by rw [← List.append_nil mid, ← hmore]; simp) hmem
        | cons y more =>
          obtain rfl := (List.cons.inj htail).1
          exact absurd (by rw [hplace, hmore]; simp) (h.not_mem hx)
      · exact absurd (by simp) hmem

theorem map_placeAt?_eq_some_iff :
    (placeAt? cs).map (·.1) = some (line, column) ↔
      ∃ place rest, IsPlace line column place ∧ cs = place ++ rest ∧
        ∀ c ∈ rest.head?, isDecimalDigit c = false := by
  simp only [Option.map_eq_some_iff, Prod.exists, Prod.mk.injEq]
  constructor
  · rintro ⟨_, _, rest, h, rfl, rfl⟩
    obtain ⟨place, hplace⟩ := placeAt?_eq_some_iff.mp h
    exact ⟨place, rest, hplace⟩
  · rintro ⟨place, rest, hplace⟩
    exact ⟨line, column, rest, placeAt?_eq_some_iff.mpr ⟨place, hplace⟩, rfl, rfl⟩

/-- A place is read in front of such a character as it is read alone. -/
theorem map_placeAt?_append (hmid : ∀ c ∈ mid, isDecimalDigit c = false) (hx : OutsidePlaces x)
    (cs tail : List Char) :
    (placeAt? (cs ++ (mid ++ x :: tail))).map (·.1) = (placeAt? cs).map (·.1) := by
  refine Option.ext fun ⟨line, column⟩ => ?_
  rw [map_placeAt?_eq_some_iff, map_placeAt?_eq_some_iff]
  constructor
  · rintro ⟨place, rest, hplace, heq, hrest⟩
    obtain ⟨more, hcs, rfl⟩ := hplace.exists_eq_append hmid hx heq.symm
    refine ⟨place, more, hplace, hcs, fun c hc => hrest c ?_⟩
    rw [List.head?_append, Option.mem_def.mp hc]
    rfl
  · rintro ⟨place, rest, hplace, rfl, hrest⟩
    refine ⟨place, rest ++ (mid ++ x :: tail), hplace, List.append_assoc .., ?_⟩
    intro c hc
    cases rest with
    | cons d rest => exact hrest c hc
    | nil =>
      cases mid with
      | nil => exact Option.some.inj hc ▸ hx.2.1
      | cons d mid => exact Option.some.inj hc ▸ hmid d (List.mem_cons_self ..)

theorem firstPlace?_cons (c : Char) (cs : List Char) :
    firstPlace? (c :: cs) = ((placeAt? (c :: cs)).map (·.1)).or (firstPlace? cs) := by
  rw [firstPlace?]
  cases placeAt? (c :: cs) <;> rfl

/-- **A character that no place has divides a text, as far as places go.** -/
theorem firstPlace?_append (hmid : ∀ c ∈ mid, isDecimalDigit c = false) (hx : OutsidePlaces x)
    (as tail : List Char) :
    firstPlace? (as ++ (mid ++ x :: tail)) = (firstPlace? as).or (firstPlace? tail) := by
  induction as with
  | nil =>
    have hnone : (placeAt? []).map (·.1) = none := rfl
    induction mid with
    | nil =>
      have hplace := map_placeAt?_append hmid hx [] tail
      simp only [List.nil_append] at hplace ⊢
      rw [firstPlace?_cons, hplace]
      rfl
    | cons c mid ih =>
      have hplace := map_placeAt?_append hmid hx [] tail
      simp only [List.nil_append, List.cons_append] at hplace ih ⊢
      rw [firstPlace?_cons, hplace, hnone, Option.none_or]
      exact ih fun d hd => hmid d (List.mem_cons_of_mem c hd)
  | cons c as ih =>
    have hplace := map_placeAt?_append hmid hx (c :: as) tail
    rw [List.cons_append] at hplace ⊢
    rw [firstPlace?_cons, firstPlace?_cons, hplace, ih, Option.or_assoc]

/-- A place starts with an `L`. -/
theorem firstPlace?_cons_of_ne {c : Char} (hc : c ≠ 'L') (cs : List Char) :
    firstPlace? (c :: cs) = firstPlace? cs := by
  have hnone : placeAt? (c :: cs) = none := by
    refine Option.eq_none_iff_forall_ne_some.mpr fun ⟨⟨line, column⟩, rest⟩ h => ?_
    obtain ⟨place, hplace, heq, -⟩ := placeAt?_eq_some_iff.mp h
    obtain ⟨tail, rfl, -⟩ := hplace.exists_cons
    exact hc (List.cons.inj heq).1
  rw [firstPlace?_cons, hnone, Option.map_none, Option.none_or]

/-- More digits at the end of a place belong to it. -/
theorem IsPlace.append {ds : List Char} (h : IsPlace line column place)
    (hds : ∀ c ∈ ds, isDecimalDigit c = true) : IsPlace line (column ++ ds) (place ++ ds) := by
  obtain ⟨w₁, w₂, w₃, w₄, h₁, hline, h₂, h₃, h₄, hcolumn⟩ := h
  have hmore : IsNumber (column ++ ds) :=
    ⟨List.append_ne_nil_of_left_ne_nil hcolumn.ne_nil ds,
      List.forall_mem_append.mpr ⟨hcolumn.digits, hds⟩⟩
  simpa only [List.append_assoc] using IsPlace.mk w₁ w₂ w₃ w₄ h₁ hline h₂ h₃ h₄ hmore

theorem isSome_map_placeAt?_iff :
    ((placeAt? cs).map (·.1)).isSome = true ↔
      ∃ line column place, IsPlace line column place ∧ place <+: cs := by
  rw [Option.isSome_iff_exists]
  constructor
  · rintro ⟨⟨line, column⟩, h⟩
    obtain ⟨place, rest, hplace, rfl, -⟩ := map_placeAt?_eq_some_iff.mp h
    exact ⟨line, column, place, hplace, List.prefix_append _ _⟩
  · rintro ⟨line, column, place, hplace, rest, rfl⟩
    have hdigits : ∀ c ∈ rest.takeWhile isDecimalDigit, isDecimalDigit c = true :=
      fun _ hc => List.mem_takeWhile_imp hc
    refine ⟨_, map_placeAt?_eq_some_iff.mpr ⟨_, rest.dropWhile isDecimalDigit,
      hplace.append hdigits, ?_, fun c hc => ?_⟩⟩
    · rw [List.append_assoc, List.takeWhile_append_dropWhile]
    · have hstop := List.head?_dropWhile_not isDecimalDigit rest
      rw [Option.mem_def.mp hc] at hstop
      simpa using hstop

/-- A place by itself is read as it is written. -/
theorem IsPlace.firstPlace?_eq (h : IsPlace line column place) :
    firstPlace? place = some (line, column) := by
  have hread := map_placeAt?_eq_some_iff.mpr ⟨place, [], h, (List.append_nil place).symm, by simp⟩
  obtain ⟨tail, rfl, -⟩ := h.exists_cons
  rw [firstPlace?_cons, hread, Option.some_or]

theorem mentionsPlace_iff : MentionsPlace cs ↔ (firstPlace? cs).isSome = true := by
  induction cs with
  | nil =>
    refine iff_of_false ?_ Bool.false_ne_true
    rintro ⟨line, column, place, hplace, hinfix⟩
    obtain ⟨tail, rfl, -⟩ := hplace.exists_cons
    cases List.eq_nil_of_infix_nil hinfix
  | cons c cs ih =>
    rw [firstPlace?_cons, Option.isSome_or, Bool.or_eq_true, ← ih, isSome_map_placeAt?_iff]
    constructor
    · rintro ⟨line, column, place, hplace, hinfix⟩
      rcases List.infix_cons_iff.mp hinfix with hprefix | hinfix
      · exact .inl ⟨line, column, place, hplace, hprefix⟩
      · exact .inr ⟨line, column, place, hplace, hinfix⟩
    · rintro (⟨line, column, place, hplace, hprefix⟩ | ⟨line, column, place, hplace, hinfix⟩)
      · exact ⟨line, column, place, hplace, hprefix.isInfix⟩
      · exact ⟨line, column, place, hplace, List.infix_cons hinfix⟩

instance (cs : List Char) : Decidable (MentionsPlace cs) :=
  decidable_of_iff _ mentionsPlace_iff.symm

end

/-! ## The place of a message -/

/-- The message that says what was expected, what was found instead and where, if it was not at the
end of the text. -/
def expectedMessage (what found : String) (place : Option Location) : String :=
  "Expected: " ++ what ++ ", found: " ++ found ++ optionalPlace place

/-- It is how a rejection is worded that names what was expected. -/
theorem message?_expected (what : String) (found : Option Lexeme) :
    (Rejection.expected what found).message? =
      some (expectedMessage what ((found.map (·.token.text)).getD "EOF")
        (found.map (·.range.start))) := by
  cases found with
  | none =>
    have hword : ", found: EOF" = ", found: " ++ "EOF" := rfl
    simp only [Rejection.message?, expectedMessage, optionalPlace, hword, Option.map_none,
      Option.getD_none, String.append_empty, String.append_assoc]
  | some t => rfl

/-- A place is written in the form in which it is read. -/
theorem exists_isPlace_placeText (l : Location) :
    ∃ place, IsPlace (Nat.toDigits 10 l.line) (Nat.toDigits 10 l.column) place ∧
      (placeText l).toList = " at ".toList ++ place := by
  refine ⟨_, .mk [' '] [] [' '] [' '] isGap_space (.toDigits _) isGap_nil isGap_space isGap_space
    (.toDigits _), ?_⟩
  simp [placeText, String.toList_append]

theorem toList_expectedMessage (what found : String) (place : Option Location) :
    (expectedMessage what found place).toList = "Expected: ".toList ++ (what.toList ++
      (", found: ".toList ++ (found.toList ++ (optionalPlace place).toList))) := by
  simp only [expectedMessage, String.toList_append, List.append_assoc]

/-- **The first place in a message** is the first one in what was expected, or else in what was
found; it is the place of the rejection only if there is none. -/
theorem firstPlace?_expectedMessage (what found : String) (l : Location) :
    firstPlace? (expectedMessage what found (some l)).toList =
      (firstPlace? what.toList).or ((firstPlace? found.toList).or
        (some (Nat.toDigits 10 l.line, Nat.toDigits 10 l.column))) := by
  have hhead (rest : List Char) : firstPlace? ("Expected: ".toList ++ rest) = firstPlace? rest := by
    simp [firstPlace?_cons_of_ne]
  have hfound (as rest : List Char) : firstPlace? (as ++ (", found: ".toList ++ rest)) =
      (firstPlace? as).or (firstPlace? rest) := by
    have hmid : ∀ c ∈ [',', ' '], isDecimalDigit c = false :=
      List.forall_mem_cons.mpr ⟨rfl, List.forall_mem_singleton.mpr rfl⟩
    have hdivide := firstPlace?_append (x := 'f') hmid (by decide) as ("ound: ".toList ++ rest)
    simpa [firstPlace?_cons_of_ne] using hdivide
  have hat (as rest : List Char) : firstPlace? (as ++ (" at ".toList ++ rest)) =
      (firstPlace? as).or (firstPlace? rest) := by
    have hmid : ∀ c ∈ [' '], isDecimalDigit c = false := List.forall_mem_singleton.mpr rfl
    have hdivide := firstPlace?_append (x := 'a') hmid (by decide) as ("t ".toList ++ rest)
    simpa [firstPlace?_cons_of_ne] using hdivide
  obtain ⟨place, hplace, hwritten⟩ := exists_isPlace_placeText l
  rw [toList_expectedMessage, hhead, hfound, optionalPlace, hwritten, hat, hplace.firstPlace?_eq]

theorem errorLocation_of_firstPlace? {text : List Char} {l : Location} {message : List Char}
    (hline : l.line < UInt64.size) (hcolumn : l.column < UInt64.size)
    (hplace : offset? text l.line l.column = some l.offset)
    (h : firstPlace? message = some (Nat.toDigits 10 l.line, Nat.toDigits 10 l.column)) :
    errorLocation text message = l := by
  simp [errorLocation, h, wordOfDigits?_toDigits hline, wordOfDigits?_toDigits hcolumn, hplace]

/-- What a message says of the place is decided by the first place that it mentions. -/
theorem errorLocation_congr {message message' : List Char}
    (h : firstPlace? message = firstPlace? message') (text : List Char) :
    errorLocation text message = errorLocation text message' := by
  rw [errorLocation, errorLocation, h]

/-- **The place of a message is the first one that is mentioned in what was expected or found**, and
that is the user's own text. Only where these mention none, it is the place at the end of the
message. -/
theorem errorLocation_expectedMessage (text : List Char) (what found : String)
    (line column : UInt64) (offset : Nat)
    (hplace : offset? text line.toNat column.toNat = some offset) :
    let message := expectedMessage what found (some ⟨offset, line.toNat, column.toNat⟩)
    (¬MentionsPlace what.toList → ¬MentionsPlace found.toList →
      errorLocation text message.toList = ⟨offset, line.toNat, column.toNat⟩) ∧
    (MentionsPlace what.toList →
      errorLocation text message.toList = errorLocation text what.toList) ∧
    (¬MentionsPlace what.toList → MentionsPlace found.toList →
      errorLocation text message.toList = errorLocation text found.toList) := by
  intro message
  have hfirst := firstPlace?_expectedMessage what found ⟨offset, line.toNat, column.toNat⟩
  simp only [mentionsPlace_iff, Bool.not_eq_true, Option.isSome_eq_false_iff,
    Option.isNone_iff_eq_none]
  refine ⟨fun hwhat hfound => ?_, fun hwhat => ?_, fun hwhat hfound => ?_⟩
  · rw [hwhat, hfound, Option.none_or, Option.none_or] at hfirst
    exact errorLocation_of_firstPlace? line.toNat_lt column.toNat_lt hplace hfirst
  · rw [Option.or_of_isSome hwhat] at hfirst
    exact errorLocation_congr hfirst text
  · rw [hwhat, Option.none_or, Option.or_of_isSome hfound] at hfirst
    exact errorLocation_congr hfirst text

/-- A quoted text that reads like a place is taken for the place of the message. -/
theorem errorLocation_expectedMessage_quoted :
    let text := "SELECT a b 'Line: 1, Column: 2'".toList
    offset? text 1 12 = some 11 ∧
      errorLocation text (expectedMessage "end of statement" "c" (some ⟨11, 1, 12⟩)).toList =
        ⟨11, 1, 12⟩ ∧
      errorLocation text (expectedMessage "end of statement" "'Line: 1, Column: 2'"
        (some ⟨11, 1, 12⟩)).toList = ⟨1, 1, 2⟩ := by
  intro text
  have hplace : offset? text 1 12 = some 11 := by decide
  have hquoted : errorLocation text "'Line: 1, Column: 2'".toList = ⟨1, 1, 2⟩ := by decide
  refine ⟨hplace, ?_, ?_⟩
  · exact (errorLocation_expectedMessage text "end of statement" "c" 1 12 11 hplace).1
      (by decide) (by decide)
  · rw [← hquoted]
    exact (errorLocation_expectedMessage text "end of statement" "'Line: 1, Column: 2'" 1 12 11
      hplace).2.2 (by decide) (by decide)

end SqlCompletion.Sql
