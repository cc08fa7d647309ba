import Mathlib.Data.List.Infix
import SqlCompletion.Sql.Diagnosis

/-!
# The quote that is still open

A text that cannot be divided into tokens may have left a quote open. Which quote that is follows
from a small grammar: a text is a sequence of complete parts (plain characters, quoted runs,
comments) with a remainder, and the remainder is nothing, an open quote or an open comment.

* `openQuoteFrom_chars`: a complete part is passed over.
* `exists_remainder`: every text is complete parts and a remainder.
* `openQuote?_iff_divides`: the open quote is the one of the remainder, the division is the only one,
  and one more quote closes it.
-/

namespace SqlCompletion.Sql

/-! ## Complete parts -/

/-- A character that opens a quoted run. -/
def IsQuote (c : Char) : Prop := c = '\'' ∨ c = '"' ∨ c = '`'

instance : DecidablePred IsQuote := fun c =>
  inferInstanceAs (Decidable (c = '\'' ∨ c = '"' ∨ c = '`'))

/-- What may stand after an opening quote `q`: characters other than `q`, and `q` twice. -/
inductive IsQuotedBody (q : Char) : List Char → Prop where
  | nil : IsQuotedBody q []
  | char {c : Char} {rest : List Char} (hc : c ≠ q) (h : IsQuotedBody q rest) :
      IsQuotedBody q (c :: rest)
  | doubled {rest : List Char} (h : IsQuotedBody q rest) : IsQuotedBody q (q :: q :: rest)

/-- A complete part of a text. -/
inductive Segment where
  | plain (c : Char)
  /-- A run between two quotes. -/
  | quoted (q : Char) (body : List Char)
  /-- A comment with the newline that ends it. -/
  | lineComment (body : List Char)
  | blockComment (body : List Char)

/-- A part as it is written. -/
def Segment.chars : Segment → List Char
  | .plain c => [c]
  | .quoted q body => q :: (body ++ [q])
  | .lineComment body => '-' :: '-' :: (body ++ ['\n'])
  | .blockComment body => '/' :: '*' :: (body ++ ['*', '/'])

/-- The part is complete in front of `tail`: a plain character opens neither a quoted run nor a
comment, the quote at the end of a run is not a doubled one, and a comment ends where it first
can. -/
def Segment.CompleteBefore (tail : List Char) : Segment → Prop
  | .plain c =>
    ¬IsQuote c ∧ ¬(c = '-' ∧ tail.head? = some '-') ∧ ¬(c = '/' ∧ tail.head? = some '*')
  | .quoted q body => IsQuote q ∧ IsQuotedBody q body ∧ tail.head? ≠ some q
  | .lineComment body => '\n' ∉ body
  | .blockComment body => ¬['*', '/'] <:+: body ++ ['*']

/-- The parts as they are written, one after the other. -/
def charsOf (parts : List Segment) : List Char :=
  parts.flatMap Segment.chars

/-- Each of the parts is complete in front of what follows it, the last one in front of `tail`. -/
def AllComplete (tail : List Char) : List Segment → Prop
  | [] => True
  | s :: parts => s.CompleteBefore (charsOf parts ++ tail) ∧ AllComplete tail parts

@[simp] theorem charsOf_nil : charsOf [] = [] := rfl

@[simp] theorem charsOf_cons (s : Segment) (parts : List Segment) :
    charsOf (s :: parts) = s.chars ++ charsOf parts := by
  simp [charsOf]

section

variable (tail : List Char)

@[simp] theorem Segment.plain_append (c : Char) : (Segment.plain c).chars ++ tail = c :: tail :=
  rfl

@[simp] theorem Segment.quoted_append (q : Char) (body : List Char) :
    (Segment.quoted q body).chars ++ tail = q :: (body ++ q :: tail) := by
  simp [Segment.chars]

@[simp] theorem Segment.lineComment_append (body : List Char) :
    (Segment.lineComment body).chars ++ tail = '-' :: '-' :: (body ++ '\n' :: tail) := by
  simp [Segment.chars]

@[simp] theorem Segment.blockComment_append (body : List Char) :
    (Segment.blockComment body).chars ++ tail = '/' :: '*' :: (body ++ '*' :: '/' :: tail) := by
  simp [Segment.chars]

end

/-- A text that leaves a quote open: complete parts, the quote, and what follows it. -/
structure OpenQuote where
  parts : List Segment
  quote : Char
  body : List Char

/-- The text is divided in this way. -/
structure OpenQuote.Divides (d : OpenQuote) (text : List Char) : Prop where
  chars_eq : charsOf d.parts ++ d.quote :: d.body = text
  allComplete : AllComplete (d.quote :: d.body) d.parts
  isQuote : IsQuote d.quote
  isQuotedBody : IsQuotedBody d.quote d.body

/-! ## Passing over complete parts -/

variable {q c : Char} {body body' text tail tail' : List Char}

theorem openQuoteFrom_code_quote (hq : IsQuote q) (rest : List Char) :
    openQuoteFrom .code (q :: rest) = openQuoteFrom (.quoted q) rest := by
  rcases hq with rfl | rfl | rfl <;> simp [openQuoteFrom]

theorem openQuoteFrom_quoted_cons (hc : c ≠ q) (rest : List Char) :
    openQuoteFrom (.quoted q) (c :: rest) = openQuoteFrom (.quoted q) rest := by
  cases rest <;> simp [openQuoteFrom, hc]

/-- A quoted run ends at a quote that is not doubled. -/
theorem openQuoteFrom_quoted_append (h : IsQuotedBody q body) (htail : tail.head? ≠ some q) :
    openQuoteFrom (.quoted q) (body ++ q :: tail) = openQuoteFrom .code tail := by
  induction h with
  | nil =>
    cases tail with
    | nil => simp [openQuoteFrom]
    | cons d more =>
      have hd : d ≠ q := by simpa using htail
      simp [openQuoteFrom, hd]
  | char hc _ ih => rw [List.cons_append, openQuoteFrom_quoted_cons hc, ih]
  | doubled _ ih => simpa [openQuoteFrom] using ih

/-- A quoted run that nothing closes is still open at the end. -/
theorem openQuoteFrom_quoted (h : IsQuotedBody q body) :
    openQuoteFrom (.quoted q) body = some q := by
  induction h with
  | nil => rfl
  | char hc _ ih => rw [openQuoteFrom_quoted_cons hc, ih]
  | doubled _ ih => simpa [openQuoteFrom] using ih

theorem openQuoteFrom_lineComment_append (h : '\n' ∉ body) :
    openQuoteFrom .lineComment (body ++ tail) = openQuoteFrom .lineComment tail := by
  induction body with
  | nil => rfl
  | cons c body ih =>
    rw [List.mem_cons, not_or] at h
    rw [List.cons_append, openQuoteFrom, if_neg (Ne.symm h.1), ih h.2]

/-- A star and a slash meet at the front of a text, or further on. -/
theorem starSlash_isInfix_cons_iff :
    ['*', '/'] <:+: c :: text ↔ (c = '*' ∧ text.head? = some '/') ∨ ['*', '/'] <:+: text := by
  rw [List.infix_cons_iff, List.cons_prefix_cons]
  cases text with
  | nil => simp
  | cons d text => simp [List.cons_prefix_cons, @eq_comm _ '*' c, @eq_comm _ '/' d]

/-- A block comment goes on as long as no star and slash meet, the first character of what follows
included. -/
theorem openQuoteFrom_blockComment_append (h : ¬['*', '/'] <:+: body ++ tail.head?.toList) :
    openQuoteFrom .blockComment (body ++ tail) = openQuoteFrom .blockComment tail := by
  induction body with
  | nil => rfl
  | cons c body ih =>
    rw [List.cons_append, starSlash_isInfix_cons_iff, not_or] at h
    obtain ⟨hclose, hbody⟩ := h
    rw [List.cons_append, openQuoteFrom, ih hbody]
    intro rest hc hrest
    refine hclose ⟨hc, ?_⟩
    cases body with
    | nil =>
      rw [List.nil_append] at hrest
      simp [hrest]
    | cons d body =>
      rw [List.cons_append] at hrest
      simp [(List.cons.inj hrest).1]

/-- **A complete part leaves the reading where it was.** -/
theorem openQuoteFrom_chars {s : Segment} (h : s.CompleteBefore tail) :
    openQuoteFrom .code (s.chars ++ tail) = openQuoteFrom .code tail := by
  cases s with
  | plain c =>
    obtain ⟨hquote, hdash, hslash⟩ := h
    rw [Segment.plain_append, openQuoteFrom, if_neg]
    · simpa [IsQuote, or_assoc] using hquote
    · rintro rest rfl rfl
      exact hdash ⟨rfl, rfl⟩
    · rintro rest rfl rfl
      exact hslash ⟨rfl, rfl⟩
  | quoted q body =>
    obtain ⟨hquote, hbody, htail⟩ := h
    rw [Segment.quoted_append, openQuoteFrom_code_quote hquote,
      openQuoteFrom_quoted_append hbody htail]
  | lineComment body =>
    -- the second dash is read again, as the first character of the comment
    have hbody : '\n' ∉ '-' :: body := by simpa [Segment.CompleteBefore] using h
    rw [Segment.lineComment_append, openQuoteFrom, ← List.cons_append,
      openQuoteFrom_lineComment_append hbody, openQuoteFrom, if_pos rfl]
  | blockComment body =>
    have hbody : ¬['*', '/'] <:+: body ++ ('*' :: '/' :: tail).head?.toList := h
    rw [Segment.blockComment_append, openQuoteFrom, openQuoteFrom_blockComment_append hbody,
      openQuoteFrom]

theorem openQuoteFrom_charsOf {parts : List Segment} (h : AllComplete tail parts) :
    openQuoteFrom .code (charsOf parts ++ tail) = openQuoteFrom .code tail := by
  induction parts with
  | nil => rfl
  | cons s parts ih =>
    rw [charsOf_cons, List.append_assoc, openQuoteFrom_chars h.1, ih h.2]

/-! ## The remainder -/

/-- What complete parts may leave of a text, with the quote that is open in it. -/
inductive IsRemainder : List Char → Option Char → Prop where
  | nil : IsRemainder [] none
  | quoted {q : Char} {body : List Char} (hq : IsQuote q) (h : IsQuotedBody q body) :
      IsRemainder (q :: body) (some q)
  | lineComment {body : List Char} (h : '\n' ∉ body) : IsRemainder ('-' :: '-' :: body) none
  | blockComment {body : List Char} (h : ¬['*', '/'] <:+: body) :
      IsRemainder ('/' :: '*' :: body) none

theorem IsRemainder.openQuoteFrom_eq {q? : Option Char} (h : IsRemainder text q?) :
    openQuoteFrom .code text = q? := by
  cases h with
  | nil => rfl
  | quoted hq h => rw [openQuoteFrom_code_quote hq, openQuoteFrom_quoted h]
  | @lineComment body h =>
    have hbody : '\n' ∉ '-' :: body := by simpa using h
    have hread : openQuoteFrom .lineComment ('-' :: body ++ []) = none :=
      openQuoteFrom_lineComment_append hbody
    rw [openQuoteFrom, ← hread, List.append_nil]
  | @blockComment body h =>
    have hread : openQuoteFrom .blockComment (body ++ []) = none :=
      openQuoteFrom_blockComment_append (by simpa using h)
    rw [openQuoteFrom, ← hread, List.append_nil]

/-- What follows an opening quote leaves it open or closes it. -/
theorem isQuotedBody_or_exists (q : Char) : ∀ text : List Char,
    IsQuotedBody q text ∨
      ∃ body tail, text = body ++ q :: tail ∧ IsQuotedBody q body ∧ tail.head? ≠ some q
  | [] => Or.inl .nil
  | c :: rest => by
    by_cases hc : c = q
    · subst hc
      cases rest with
      | nil => exact Or.inr ⟨[], [], rfl, .nil, by simp⟩
      | cons d more =>
        by_cases hd : d = c
        · subst hd
          rcases isQuotedBody_or_exists d more with h | ⟨body, tail, rfl, h, htail⟩
          · exact Or.inl (.doubled h)
          · exact Or.inr ⟨d :: d :: body, tail, rfl, .doubled h, htail⟩
        · exact Or.inr ⟨[], d :: more, rfl, .nil, by simpa using hd⟩
    · rcases isQuotedBody_or_exists q rest with h | ⟨body, tail, rfl, h, htail⟩
      · exact Or.inl (.char hc h)
      · exact Or.inr ⟨c :: body, tail, rfl, .char hc h, htail⟩

/-- What follows the opening of a block comment leaves it open or closes it. -/
theorem not_starSlash_isInfix_or_exists (text : List Char) :
    ¬['*', '/'] <:+: text ∨
      ∃ body tail, text = body ++ '*' :: '/' :: tail ∧ ¬['*', '/'] <:+: body ++ ['*'] := by
  induction text with
  | nil => exact Or.inl (by simp)
  | cons c text ih =>
    by_cases hclose : c = '*' ∧ text.head? = some '/'
    · obtain ⟨rfl, htext⟩ := hclose
      obtain ⟨tail, rfl⟩ := List.head?_eq_some_iff.mp htext
      exact Or.inr ⟨[], tail, rfl, by decide⟩
    · rcases ih with h | ⟨body, tail, rfl, h⟩
      · refine Or.inl fun hin => ?_
        exact (starSlash_isInfix_cons_iff.mp hin).elim hclose h
      · refine Or.inr ⟨c :: body, tail, rfl, fun hin => ?_⟩
        rw [List.cons_append, starSlash_isInfix_cons_iff] at hin
        refine hin.elim (fun hin => hclose ⟨hin.1, ?_⟩) h
        cases body with
        | nil => simp at hin
        | cons d body => simpa using hin.2

/-- A text begins with a complete part, unless it is a remainder. -/
theorem isRemainder_or_exists (text : List Char) :
    (∃ q?, IsRemainder text q?) ∨
      ∃ (s : Segment) (tail : List Char), text = s.chars ++ tail ∧ s.CompleteBefore tail := by
  cases text with
  | nil => exact Or.inl ⟨none, .nil⟩
  | cons c rest =>
    by_cases hquote : IsQuote c
    · rcases isQuotedBody_or_exists c rest with h | ⟨body, tail, rfl, h, htail⟩
      · exact Or.inl ⟨some c, .quoted hquote h⟩
      · exact Or.inr ⟨.quoted c body, tail, by simp, hquote, h, htail⟩
    by_cases hdash : c = '-' ∧ rest.head? = some '-'
    · obtain ⟨rfl, hrest⟩ := hdash
      obtain ⟨rest, rfl⟩ := List.head?_eq_some_iff.mp hrest
      by_cases hline : '\n' ∈ rest
      · obtain ⟨body, tail, rfl, h⟩ := List.eq_append_cons_of_mem hline
        exact Or.inr ⟨.lineComment body, tail, by simp, h⟩
      · exact Or.inl ⟨none, .lineComment hline⟩
    by_cases hslash : c = '/' ∧ rest.head? = some '*'
    · obtain ⟨rfl, hrest⟩ := hslash
      obtain ⟨rest, rfl⟩ := List.head?_eq_some_iff.mp hrest
      rcases not_starSlash_isInfix_or_exists rest with h | ⟨body, tail, rfl, h⟩
      · exact Or.inl ⟨none, .blockComment h⟩
      · exact Or.inr ⟨.blockComment body, tail, by simp, h⟩
    exact Or.inr ⟨.plain c, rest, rfl, hquote, hdash, hslash⟩

theorem Segment.length_chars_pos (s : Segment) : 0 < s.chars.length := by
  cases s <;> simp [Segment.chars]

/-- **Every text is complete parts and a remainder.** -/
theorem exists_remainder (text : List Char) :
    ∃ parts rest q?, text = charsOf parts ++ rest ∧ AllComplete rest parts ∧
      IsRemainder rest q? := by
  -- each part takes a character, so the induction is on the length of the text
  induction hn : text.length using Nat.strongRecOn generalizing text with
  | _ n ih =>
    rcases isRemainder_or_exists text with ⟨q?, h⟩ | ⟨s, tail, rfl, h⟩
    · exact ⟨[], text, q?, rfl, trivial, h⟩
    · have hlt : tail.length < n := by
        have hpos := s.length_chars_pos
        rw [List.length_append] at hn
        omega
      obtain ⟨parts, rest, q?, rfl, hparts, hrest⟩ := ih tail.length hlt tail rfl
      exact ⟨s :: parts, rest, q?, by simp, ⟨h, hparts⟩, hrest⟩

/-! ## One division -/

/-- Two divisions of one text agree if neither first part goes on where the other ends. -/
theorem eq_of_append_eq {as as' bs bs' : List Char} (h : as ++ bs = as' ++ bs')
    (hno : ∀ c more, as' = as ++ c :: more → bs = c :: (more ++ bs') → False)
    (hno' : ∀ c more, as = as' ++ c :: more → bs' = c :: (more ++ bs) → False) :
    as = as' ∧ bs = bs' := by
  rcases List.append_eq_append_iff.mp h with ⟨more, has, hbs⟩ | ⟨more, has, hbs⟩
  · cases more with
    | nil => exact ⟨by simpa using has.symm, hbs⟩
    | cons c more => exact (hno c more has hbs).elim
  · cases more with
    | nil => exact ⟨by simpa using has, hbs.symm⟩
    | cons c more => exact (hno' c more has hbs).elim

/-- A quote that is not doubled does not stand in what follows the opening quote. -/
theorem IsQuotedBody.not_append (h : IsQuotedBody q body) (htail : tail.head? ≠ some q) :
    ¬IsQuotedBody q (body ++ q :: tail) := by
  induction h with
  | nil =>
    intro h
    cases h with
    | char hc _ => exact hc rfl
    | doubled _ => exact htail rfl
  | char hc _ ih =>
    intro h
    rw [List.cons_append] at h
    generalize hrest : _ ++ q :: tail = rest at h ih
    cases h with
    | char _ h => exact ih h
    | doubled _ => exact hc rfl
  | doubled _ ih =>
    intro h
    rw [List.cons_append, List.cons_append] at h
    cases h with
    | char hc _ => exact hc rfl
    | doubled h => exact ih h

theorem IsQuotedBody.not_goes_on (h : IsQuotedBody q body) (h' : IsQuotedBody q body')
    (htail : tail.head? ≠ some q) :
    ∀ c more, body' = body ++ c :: more → q :: tail = c :: (more ++ q :: tail') → False := by
  rintro c more rfl heq
  obtain ⟨rfl, rfl⟩ := List.cons.inj heq
  refine h.not_append ?_ h'
  intro hmore
  exact htail (by simp [hmore])

theorem lineComment_not_goes_on (h : '\n' ∉ body') :
    ∀ c more, body' = body ++ c :: more → '\n' :: tail = c :: (more ++ '\n' :: tail') → False := by
  rintro c more rfl heq
  rw [← (List.cons.inj heq).1] at h
  simp at h

theorem blockComment_not_goes_on (h : ¬['*', '/'] <:+: body' ++ ['*']) :
    ∀ c more, body' = body ++ c :: more →
      '*' :: '/' :: tail = c :: (more ++ '*' :: '/' :: tail') → False := by
  rintro c more rfl heq
  obtain ⟨rfl, heq⟩ := List.cons.inj heq
  cases more with
  | nil => simp at heq
  | cons d more =>
    obtain ⟨rfl, -⟩ : '/' = d ∧ _ := by simpa using heq
    exact h ⟨body, more ++ ['*'], by simp⟩

section

variable {s s' : Segment} {rest : List Char}

/-! The first characters of a text say which kind of part it begins with. -/

theorem Segment.CompleteBefore.eq_quoted (h : s.CompleteBefore tail) (hq : IsQuote q)
    (heq : s.chars ++ tail = q :: rest) :
    ∃ body, s = .quoted q body ∧ rest = body ++ q :: tail := by
  cases s with
  | plain c =>
    obtain ⟨rfl, -⟩ := List.cons.inj heq
    exact absurd hq h.1
  | quoted c body =>
    rw [Segment.quoted_append] at heq
    obtain ⟨rfl, rfl⟩ := List.cons.inj heq
    exact ⟨body, rfl, rfl⟩
  | lineComment body =>
    obtain ⟨rfl, -⟩ := List.cons.inj heq
    exact absurd hq (by decide)
  | blockComment body =>
    obtain ⟨rfl, -⟩ := List.cons.inj heq
    exact absurd hq (by decide)

theorem Segment.CompleteBefore.eq_lineComment (h : s.CompleteBefore tail)
    (heq : s.chars ++ tail = '-' :: '-' :: rest) :
    ∃ body, s = .lineComment body ∧ rest = body ++ '\n' :: tail := by
  cases s with
  | plain c =>
    obtain ⟨rfl, rfl⟩ := List.cons.inj heq
    exact absurd ⟨rfl, rfl⟩ h.2.1
  | quoted c body =>
    obtain ⟨rfl, -⟩ := List.cons.inj heq
    exact absurd h.1 (by decide)
  | lineComment body =>
    exact ⟨body, rfl, by simpa using heq.symm⟩
  | blockComment body => cases (List.cons.inj heq).1

theorem Segment.CompleteBefore.eq_blockComment (h : s.CompleteBefore tail)
    (heq : s.chars ++ tail = '/' :: '*' :: rest) :
    ∃ body, s = .blockComment body ∧ rest = body ++ '*' :: '/' :: tail := by
  cases s with
  | plain c =>
    obtain ⟨rfl, rfl⟩ := List.cons.inj heq
    exact absurd ⟨rfl, rfl⟩ h.2.2
  | quoted c body =>
    obtain ⟨rfl, -⟩ := List.cons.inj heq
    exact absurd h.1 (by decide)
  | lineComment body => cases (List.cons.inj heq).1
  | blockComment body =>
    exact ⟨body, rfl, by simpa using heq.symm⟩

/-- **A text begins with one complete part at most.** -/
theorem Segment.CompleteBefore.unique (h : s.CompleteBefore tail) (h' : s'.CompleteBefore tail')
    (heq : s.chars ++ tail = s'.chars ++ tail') : s = s' ∧ tail = tail' := by
  cases s' with
  | plain c' =>
    cases s with
    | plain c => simpa [Segment.chars] using heq
    | quoted q body =>
      rw [Segment.quoted_append] at heq
      obtain ⟨_, hs, -⟩ := h'.eq_quoted h.1 heq.symm
      cases hs
    | lineComment body =>
      rw [Segment.lineComment_append] at heq
      obtain ⟨_, hs, -⟩ := h'.eq_lineComment heq.symm
      cases hs
    | blockComment body =>
      rw [Segment.blockComment_append] at heq
      obtain ⟨_, hs, -⟩ := h'.eq_blockComment heq.symm
      cases hs
  | quoted q body' =>
    rw [Segment.quoted_append] at heq
    obtain ⟨body, rfl, hrest⟩ := h.eq_quoted h'.1 heq
    obtain ⟨-, hbody, htail⟩ := h
    obtain ⟨-, hbody', htail'⟩ := h'
    obtain ⟨rfl, htails⟩ := eq_of_append_eq hrest (hbody'.not_goes_on hbody htail')
      (hbody.not_goes_on hbody' htail)
    exact ⟨rfl, (List.cons.inj htails).2.symm⟩
  | lineComment body' =>
    rw [Segment.lineComment_append] at heq
    obtain ⟨body, rfl, hrest⟩ := h.eq_lineComment heq
    obtain ⟨rfl, htails⟩ :=
      eq_of_append_eq hrest (lineComment_not_goes_on h) (lineComment_not_goes_on h')
    exact ⟨rfl, (List.cons.inj htails).2.symm⟩
  | blockComment body' =>
    rw [Segment.blockComment_append] at heq
    obtain ⟨body, rfl, hrest⟩ := h.eq_blockComment heq
    obtain ⟨rfl, htails⟩ :=
      eq_of_append_eq hrest (blockComment_not_goes_on h) (blockComment_not_goes_on h')
    exact ⟨rfl, (List.cons.inj (List.cons.inj htails).2).2.symm⟩

/-- A text that begins with a complete part does not begin with a quote that stays open. -/
theorem Segment.CompleteBefore.chars_append_ne (h : s.CompleteBefore tail) (hq : IsQuote q)
    (hbody : IsQuotedBody q body) : s.chars ++ tail ≠ q :: body := by
  intro heq
  obtain ⟨body', rfl, rfl⟩ := h.eq_quoted hq heq
  obtain ⟨-, hbody', htail⟩ := h
  exact hbody'.not_append htail hbody

end

theorem AllComplete.unique {parts parts' : List Segment} {q' : Char}
    (h : AllComplete (q :: body) parts) (h' : AllComplete (q' :: body') parts')
    (hq : IsQuote q) (hq' : IsQuote q') (hbody : IsQuotedBody q body)
    (hbody' : IsQuotedBody q' body')
    (heq : charsOf parts ++ q :: body = charsOf parts' ++ q' :: body') :
    parts = parts' ∧ q :: body = q' :: body' := by
  induction parts generalizing parts' with
  | nil =>
    cases parts' with
    | nil => exact ⟨rfl, heq⟩
    | cons s' parts' =>
      rw [charsOf_nil, List.nil_append, charsOf_cons, List.append_assoc] at heq
      exact absurd heq.symm (h'.1.chars_append_ne hq hbody)
  | cons s parts ih =>
    rw [charsOf_cons, List.append_assoc] at heq
    cases parts' with
    | nil =>
      rw [charsOf_nil, List.nil_append] at heq
      exact absurd heq (h.1.chars_append_ne hq' hbody')
    | cons s' parts' =>
      rw [charsOf_cons, List.append_assoc] at heq
      obtain ⟨rfl, hrest⟩ := h.1.unique h'.1 heq
      obtain ⟨rfl, hopen⟩ := ih h.2 h'.2 hrest
      exact ⟨rfl, hopen⟩

theorem OpenQuote.Divides.unique {d d' : OpenQuote} (h : d.Divides text) (h' : d'.Divides text) :
    d = d' := by
  obtain ⟨parts, q, body⟩ := d
  obtain ⟨parts', q', body'⟩ := d'
  obtain ⟨rfl, hopen⟩ := h.allComplete.unique h'.allComplete h.isQuote h'.isQuote h.isQuotedBody
    h'.isQuotedBody (h.chars_eq.trans h'.chars_eq.symm)
  obtain ⟨rfl, rfl⟩ := List.cons.inj hopen
  rfl

/-! ## The open quote -/

theorem OpenQuote.Divides.openQuote?_eq {d : OpenQuote} (h : d.Divides text) :
    openQuote? text = some d.quote := by
  rw [← h.chars_eq, openQuote?, openQuoteFrom_charsOf h.allComplete,
    openQuoteFrom_code_quote h.isQuote, openQuoteFrom_quoted h.isQuotedBody]

theorem exists_divides_of_openQuote? (h : openQuote? text = some q) :
    ∃ d : OpenQuote, d.Divides text ∧ d.quote = q := by
  obtain ⟨parts, rest, q?, rfl, hparts, hrest⟩ := exists_remainder text
  rw [openQuote?, openQuoteFrom_charsOf hparts, hrest.openQuoteFrom_eq] at h
  subst h
  cases hrest with
  | @quoted q body hq hbody => exact ⟨⟨parts, q, body⟩, ⟨rfl, hparts, hq, hbody⟩, rfl⟩

/-- Whether a part is complete depends on the first character behind it only. -/
theorem AllComplete.congr {parts : List Segment} (h : AllComplete tail parts)
    (hhead : tail.head? = tail'.head?) : AllComplete tail' parts := by
  induction parts with
  | nil => trivial
  | cons s parts ih =>
    have hnext : (charsOf parts ++ tail).head? = (charsOf parts ++ tail').head? := by
      rw [List.head?_append, List.head?_append, hhead]
    refine ⟨?_, ih h.2⟩
    cases s with
    | plain c => simpa only [Segment.CompleteBefore, hnext] using h.1
    | quoted q body => simpa only [Segment.CompleteBefore, hnext] using h.1
    | lineComment body => exact h.1
    | blockComment body => exact h.1

/-- One more quote closes the quote that is open. -/
theorem OpenQuote.Divides.openQuote?_append {d : OpenQuote} (h : d.Divides text) :
    openQuote? (text ++ [d.quote]) = none := by
  have hparts : AllComplete (d.quote :: (d.body ++ [d.quote])) d.parts := h.allComplete.congr rfl
  calc openQuote? (text ++ [d.quote])
      = openQuoteFrom .code (charsOf d.parts ++ d.quote :: (d.body ++ [d.quote])) := by
        rw [← h.chars_eq, openQuote?, List.append_assoc, List.cons_append]
    _ = openQuoteFrom (.quoted d.quote) (d.body ++ [d.quote]) := by
        rw [openQuoteFrom_charsOf hparts, openQuoteFrom_code_quote h.isQuote]
    _ = openQuoteFrom .code [] := openQuoteFrom_quoted_append h.isQuotedBody (by simp)
    _ = none := rfl

/-- **The quote that is open at the end of a text is the one behind its complete parts.** There is
one division of the text into complete parts, the open quote and what follows it, and it is the only
one; where there is none, no quote is open. The same quote once more closes it. -/
theorem openQuote?_iff_divides (text : List Char) :
    (∀ q, openQuote? text = some q ↔ ∃ d : OpenQuote, d.Divides text ∧ d.quote = q) ∧
      (∀ d d' : OpenQuote, d.Divides text → d'.Divides text → d = d') ∧
      ∀ q, openQuote? text = some q → openQuote? (text ++ [q]) = none := by
  refine ⟨fun q => ⟨exists_divides_of_openQuote?, ?_⟩, fun d d' h h' => h.unique h', ?_⟩
  · rintro ⟨d, h, rfl⟩
    exact h.openQuote?_eq
  · intro q hq
    obtain ⟨d, h, rfl⟩ := exists_divides_of_openQuote? hq
    exact h.openQuote?_append

/-- Quotes in comments open nothing, and a doubled quote closes nothing. -/
theorem openQuote?_iff_divides_behind_comments :
    openQuote? "-- don't\n/*\"*/'a''b'\"it\"\"s".toList = some '"' ∧
      openQuote? ("-- don't\n/*\"*/'a''b'\"it\"\"s".toList ++ ['"']) = none ∧
      ∀ d : OpenQuote, d.Divides "-- don't\n/*\"*/'a''b'\"it\"\"s".toList →
        d = ⟨[.lineComment " don't".toList, .blockComment ['"'], .quoted '\'' "a''b".toList],
          '"', "it\"\"s".toList⟩ := by
  obtain ⟨hiff, hunique, hclosed⟩ :=
    openQuote?_iff_divides "-- don't\n/*\"*/'a''b'\"it\"\"s".toList
  have hdivides : OpenQuote.Divides
      ⟨[.lineComment " don't".toList, .blockComment ['"'], .quoted '\'' "a''b".toList],
        '"', "it\"\"s".toList⟩ "-- don't\n/*\"*/'a''b'\"it\"\"s".toList := by
    have hline : '\n' ∉ " don't".toList := by decide
    have hblock : ¬['*', '/'] <:+: ['"'] ++ ['*'] := by decide
    refine ⟨by decide, ⟨hline, hblock, ⟨by decide, ?_, by decide⟩, trivial⟩, by decide, ?_⟩
    · exact .char (by decide) (.doubled (.char (by decide) .nil))
    · exact .char (by decide) (.char (by decide) (.doubled (.char (by decide) .nil)))
  have hopen := (hiff '"').mpr ⟨_, hdivides, rfl⟩
  exact ⟨hopen, hclosed '"' hopen, fun d hd => hunique d _ hd hdivides⟩

/-- The star that opens a block comment does not close it. -/
example : openQuote? "/*/'".toList = none := by decide

end SqlCompletion.Sql
