import SqlCompletion.Proofs.Lexing

/-!
# How tokens are spelled

What a token says about the characters that it takes, as far as a FROM clause depends on it: a word
is in quotes, and then it is no keyword, or it is made of those characters; a parenthesis is one
character. As for the length of a token, the proof goes through the scanner function by function;
`spells_scan` puts them together.

* `exists_stands_of_mem_lex`: every token of a text stands somewhere in it, spelled that way.
* `placed_lex`: the tokens of a text stand in it one after the other.

So a keyword is written with as many bytes as it has letters, at least: a letter that stands for
several capitals is as long as they are (`length_le_byteLength_of_ofWord?`).
-/

namespace SqlCompletion.Sql

/-- The characters may be those of the token: they make up a word that is not in quotes, and they
are the parenthesis that the token is. -/
@[simp] def Token.IsSpelled : Token → List Char → Prop
  | .word w, cs => (w.quote.isSome ∧ w.keyword = none) ∨ Token.word w = wordToken cs
  | .symbol s, cs => (s = .leftParen → cs = ['(']) ∧ (s = .rightParen → cs = [')'])
  | _, _ => True

/-- The characters that are taken from the front of `cs` are those of the token that is found. -/
def ScanResult.Spells (cs : List Char) (r : ScanResult) : Prop :=
  ∀ t n, r = .ok (t, n) → t.IsSpelled (cs.take n)

variable {cs : List Char}

@[simp] theorem spells_error {e : String × Nat} : ScanResult.Spells cs (.error e) := by
  intro _ _ h
  cases h

@[simp] theorem spells_ok_iff {t : Token} {n : Nat} :
    ScanResult.Spells cs (.ok (t, n)) ↔ t.IsSpelled (cs.take n) := by
  constructor
  · intro h
    exact h t n rfl
  · intro h _ _ he
    cases he
    exact h

/-- A word that is the beginning of the text is made of the characters that it takes. -/
theorem spells_wordToken {chars : List Char} (h : chars <+: cs) :
    ScanResult.Spells cs (.ok (wordToken chars, chars.length)) := by
  obtain ⟨rest, rfl⟩ := h
  rw [spells_ok_iff, List.take_left]
  exact .inr rfl

/-! ## Words and numbers -/

theorem spells_scanWord (d : Dialect) (start rest : List Char) :
    (scanWord d start rest).Spells (start ++ rest) :=
  spells_wordToken ((List.prefix_append_right_inj start).mpr (List.takeWhile_prefix _))

theorem spells_scanWordOrNumber (d : Dialect) (start rest : List Char) :
    (scanWordOrNumber d start rest).Spells (start ++ rest) := by
  simp only [scanWordOrNumber]
  split
  · simp
  · exact spells_wordToken ((List.prefix_append_right_inj start).mpr (List.takeWhile_prefix _))

@[simp] theorem spells_scanQuotedWord (q : Char) (rest : List Char) :
    (scanQuotedWord q rest).Spells cs := by
  unfold scanQuotedWord
  split <;> simp

@[simp] theorem spells_scanBracketedQuotes (rest : List Char) :
    (scanBracketedQuotes rest).Spells cs := by
  simp only [scanBracketedQuotes]
  split
  · exact spells_error
  · split <;> simp

theorem prefix_digitRun (d : Dialect) (isDigit : Char → Bool) (cs : List Char) :
    digitRun d isDigit cs <+: cs := by
  fun_induction digitRun d isDigit cs with
  | case1 => exact List.prefix_rfl
  | case2 c rest _ _ ih => exact (List.prefix_cons_inj c).mpr ih
  | case3 => exact List.nil_prefix

theorem prefix_exponentChars (cs : List Char) : exponentChars cs <+: cs := by
  have hcons (c : Char) {as bs : List Char} (h : as <+: bs) : c :: as <+: c :: bs :=
    (List.prefix_cons_inj c).mpr h
  simp only [exponentChars]
  split
  · split
    · split
      · split
        -- With a sign the digits stand after it.
        · split
          · exact List.nil_prefix
          · exact hcons _ (hcons _ (List.takeWhile_prefix _))
        · split
          · exact List.nil_prefix
          · exact hcons _ (List.takeWhile_prefix _)
      · exact List.nil_prefix
    · exact List.nil_prefix
  · exact List.nil_prefix

theorem spells_finishNumber (d : Dialect) (prev : Option Token) (chars rest : List Char) :
    (finishNumber d prev chars rest).Spells (chars ++ rest) := by
  simp only [finishNumber]
  split
  · rw [← List.length_append]
    exact spells_wordToken ((List.prefix_append_right_inj chars).mpr (List.takeWhile_prefix _))
  · split
    · exact spells_wordToken ((List.prefix_append_right_inj chars).mpr (prefix_exponentChars rest))
    · split <;> simp

theorem spells_scanNumber (d : Dialect) (prev : Option Token) (cs : List Char) :
    (scanNumber d prev cs).Spells cs := by
  obtain ⟨rest, hwhole⟩ := prefix_digitRun d Char.isDigit cs
  simp only [scanNumber]
  generalize digitRun d Char.isDigit cs = whole at hwhole ⊢
  subst hwhole
  rw [List.drop_left]
  split
  · split <;> simp
  · split
    · simp
    · split
      · next rest _ _ =>
        -- The fraction is the beginning of what follows the dot.
        obtain ⟨more, hfraction⟩ := prefix_digitRun d Char.isDigit rest
        generalize digitRun d Char.isDigit rest = fraction at hfraction ⊢
        subst hfraction
        split
        · simp
        · have h := spells_finishNumber d prev (whole ++ '.' :: fraction) more
          rw [List.drop_left]
          simpa using h
      · exact spells_finishNumber d prev whole rest

/-! ## Everything else -/

@[simp] theorem spells_scanString (d : Dialect) (escapes : Bool) (q : Char) (lead : String)
    (skip : Nat) (cs' : List Char) : (scanString d escapes q lead skip cs').Spells cs := by
  unfold scanString
  split <;> simp

@[simp] theorem spells_scanOneOrThree (d : Dialect) (escapes : Bool) (q : Char) (lead : String)
    (skip : Nat) (cs' : List Char) : (scanOneOrThree d escapes q lead skip cs').Spells cs := by
  simp only [scanOneOrThree]
  repeat' split
  all_goals simp

@[simp] theorem spells_scanPlainString (d : Dialect) (q : Char) (cs' : List Char) :
    (scanPlainString d q cs').Spells cs := by
  unfold scanPlainString
  split <;> simp

@[simp] theorem spells_scanDollar (d : Dialect) (cs' : List Char) :
    (scanDollar d cs').Spells cs := by
  simp only [scanDollar]
  repeat' split
  all_goals simp

@[simp] theorem spells_scanLineComment (d : Dialect) (start : Nat) (cs' : List Char) :
    (scanLineComment d start cs').Spells cs := by
  simp [scanLineComment]

@[simp] theorem spells_scanBlockComment (d : Dialect) (cs' : List Char) :
    (scanBlockComment d cs').Spells cs := by
  unfold scanBlockComment
  split <;> simp

section

variable {s : Symbol}

@[simp] theorem spells_plain (hopen : s ≠ .leftParen) (hclose : s ≠ .rightParen) :
    (plain s).Spells cs := by
  simp [plain, hopen, hclose]

@[simp] theorem spells_extensibleAs (hopen : s ≠ .leftParen) (hclose : s ≠ .rightParen)
    (d : Dialect) (n : Nat) (rest : List Char) : (extensibleAs d s n rest).Spells cs := by
  simp only [extensibleAs]
  split <;> simp [hopen, hclose]

@[simp] theorem spells_extensible (hopen : s ≠ .leftParen) (hclose : s ≠ .rightParen)
    (d : Dialect) (cs' : List Char) : (extensible d s cs').Spells cs :=
  spells_extensibleAs hopen hclose d _ _

@[simp] theorem spells_greedy (hopen : s ≠ .leftParen) (hclose : s ≠ .rightParen)
    (cs' : List Char) : (greedy s cs').Spells cs := by
  simp [greedy, hopen, hclose]

end

@[simp] theorem spells_unfinished (d : Dialect) (start : String) (cs' : List Char) :
    (unfinished d start cs').Spells cs := by
  simp only [unfinished]
  split <;> simp

@[simp] theorem spells_scanMinus (d : Dialect) (cs' : List Char) : (scanMinus d cs').Spells cs := by
  unfold scanMinus
  repeat' split
  all_goals simp

@[simp] theorem spells_scanSlash (d : Dialect) (cs' : List Char) : (scanSlash d cs').Spells cs := by
  unfold scanSlash
  repeat' split
  all_goals simp

@[simp] theorem spells_scanPipe (d : Dialect) (cs' : List Char) : (scanPipe d cs').Spells cs := by
  unfold scanPipe
  repeat' split
  all_goals simp

@[simp] theorem spells_scanBang (cs' : List Char) : (scanBang cs').Spells cs := by
  unfold scanBang
  split <;> simp

@[simp] theorem spells_scanLess (d : Dialect) (cs' : List Char) : (scanLess d cs').Spells cs := by
  unfold scanLess
  repeat' split
  all_goals simp

@[simp] theorem spells_scanGreater (d : Dialect) (cs' : List Char) :
    (scanGreater d cs').Spells cs := by
  unfold scanGreater
  repeat' split
  all_goals simp

@[simp] theorem spells_scanAmpersand (d : Dialect) (cs' : List Char) :
    (scanAmpersand d cs').Spells cs := by
  unfold scanAmpersand
  repeat' split
  all_goals simp

@[simp] theorem spells_scanTilde (d : Dialect) (cs' : List Char) : (scanTilde d cs').Spells cs := by
  unfold scanTilde
  repeat' split
  all_goals simp

@[simp] theorem spells_scanQuestion (d : Dialect) (cs' : List Char) :
    (scanQuestion d cs').Spells cs := by
  unfold scanQuestion
  repeat' split
  all_goals simp

@[simp] theorem spells_scanPercent (d : Dialect) (cs' : List Char) :
    (scanPercent d cs').Spells cs := by
  unfold scanPercent
  repeat' split
  all_goals simp

/-! ## Where `#` and `@` start words -/

@[simp] theorem spells_scanHash (d : Dialect) (cs : List Char) : (scanHash d cs).Spells cs := by
  unfold scanHash
  split
  · exact spells_scanLineComment d 1 cs
  · split
    case h_5 c rest _ _ _ _ =>
      split
      · simp
      · split
        · exact spells_scanWordOrNumber d ['#', c] rest
        · simp
    all_goals simp

@[simp] theorem spells_scanAt (d : Dialect) (cs : List Char) : (scanAt d cs).Spells cs := by
  unfold scanAt
  repeat' split
  all_goals first | exact spells_scanWordOrNumber d _ _ | simp

/-! ## Tokens -/

section

variable {d : Dialect} {c : Char} {rest : List Char} {r : ScanResult}

@[simp] theorem spells_leftParen (rest : List Char) : (plain .leftParen).Spells ('(' :: rest) := by
  simp [plain, Symbol.text, String.length]

@[simp] theorem spells_rightParen (rest : List Char) :
    (plain .rightParen).Spells (')' :: rest) := by
  simp [plain, Symbol.text, String.length]

theorem spells_scanSymbol? (h : scanSymbol? d cs = some r) : r.Spells cs := by
  unfold scanSymbol? at h
  split at h
  all_goals cases h
  all_goals simp

theorem spells_scanLetter? (h : scanLetter? d c rest = some r) : r.Spells (c :: rest) := by
  have hword := spells_scanWord d [c] rest
  rw [List.singleton_append] at hword
  simp only [scanLetter?] at h
  repeat' split at h
  all_goals cases h
  all_goals simp [hword]

theorem spells_scanBlank? (h : scanBlank? cs = some r) : r.Spells cs := by
  unfold scanBlank? at h
  split at h
  all_goals cases h
  all_goals simp

theorem spells_scanQuote? (h : scanQuote? d c rest = some r) : r.Spells cs := by
  unfold scanQuote? scanBrackets? at h
  repeat' split at h
  all_goals cases h
  all_goals simp

end

theorem spells_scanOther (d : Dialect) (c : Char) (rest : List Char) :
    (scanOther d c rest).Spells (c :: rest) := by
  unfold scanOther
  split
  · exact spells_scanWordOrNumber d [c] rest
  · repeat' split
    all_goals simp

/-- **Every token is spelled by the characters that it takes.** -/
theorem spells_scan (d : Dialect) (prev : Option Token) (c : Char) (rest : List Char) :
    (scan d prev c rest).Spells (c :: rest) := by
  unfold scan
  split
  · next h => exact spells_scanBlank? h
  · split
    · next h => exact spells_scanLetter? h
    · split
      · next h => exact spells_scanQuote? h
      · split
        · exact spells_scanNumber d prev (c :: rest)
        · split
          · next h => exact spells_scanSymbol? h
          · exact spells_scanOther d c rest

/-! ## The letters of a keyword -/

/-- A letter takes as many bytes as it has capitals, at least. -/
theorem length_upperChar_le (c : Char) : (upperChar c).length ≤ c.utf8Size := by
  unfold upperChar
  split
  case h_11 => exact c.utf8Size_pos
  all_goals decide

theorem length_upperWord_le (cs : List Char) : (upperWord cs).length ≤ Text.byteLength cs := by
  induction cs with
  | nil => exact Nat.le_refl _
  | cons c cs ih =>
    have hc := length_upperChar_le c
    rw [upperWord, List.flatMap_cons, List.length_append, Text.byteLength_cons]
    rw [upperWord] at ih
    omega

theorem toList_of_ofWord? {cs : List Char} {k : String} (h : Keyword.ofWord? cs = some k) :
    k.toList = upperWord cs := by
  simp only [Keyword.ofWord?] at h
  split at h
  · cases h
  · split at h
    · cases h
      rw [String.toList_ofList]
    · cases h

/-- **A keyword is written with as many bytes as it has letters, at least.** -/
theorem length_le_byteLength_of_ofWord? {cs : List Char} {k : String}
    (h : Keyword.ofWord? cs = some k) : k.toList.length ≤ Text.byteLength cs := by
  rw [toList_of_ofWord? h]
  exact length_upperWord_le cs

/-- A token that is a keyword is a word that is not in quotes, in letters of that keyword. -/
theorem Token.IsSpelled.eq_wordToken {t : Token} {cs : List Char} {k : String}
    (h : t.IsSpelled cs) (hk : t.keyword? = some k) :
    t = wordToken cs ∧ Keyword.ofWord? cs = some k := by
  cases t with
  | word w =>
    have hw : w.keyword = some k := hk
    rcases h with ⟨-, hnone⟩ | hword
    · rw [hnone] at hw
      cases hw
    · refine ⟨hword, ?_⟩
      cases hword
      exact hw
  | _ => cases hk

/-! ## The tokens of a text -/

/-- The token stands after the text `before` and takes the characters `chars`. -/
structure Lexeme.Stands (t : Lexeme) (before chars : List Char) : Prop where
  range_eq : t.range = ⟨endLocation before, endLocation (before ++ chars)⟩
  ne_nil : chars ≠ []
  isSpelled : t.token.IsSpelled chars

theorem Lexeme.Stands.eq_leftParen {t : Lexeme} {before chars : List Char}
    (h : t.Stands before chars) (ht : t.token = .symbol .leftParen) : chars = ['('] := by
  have hspelled := h.isSpelled
  rw [ht] at hspelled
  exact hspelled.1 rfl

theorem Lexeme.Stands.eq_rightParen {t : Lexeme} {before chars : List Char}
    (h : t.Stands before chars) (ht : t.token = .symbol .rightParen) : chars = [')'] := by
  have hspelled := h.isSpelled
  rw [ht] at hspelled
  exact hspelled.2 rfl

theorem exists_stands_of_mem_place {d : Dialect} {prev : Option Token} {cs : List Char}
    {ps : List Piece} (hps : Division d prev cs ps) (as : List Char) {t : Lexeme}
    (ht : t ∈ place (endLocation as) ps) :
    ∃ before chars, before ++ chars <+: as ++ cs ∧ t.Stands before chars := by
  induction hps generalizing as with
  | nil => cases ht
  | @cons prev c rest token n ps hscan _ ih =>
    rw [place, ← endLocation_append] at ht
    rcases List.mem_cons.mp ht with rfl | ht
    · have hn := advances_scan d prev c rest token n hscan
      refine ⟨as, (c :: rest).take n, ?_, rfl, ?_, spells_scan d prev c rest token n hscan⟩
      · exact (List.prefix_append_right_inj as).mpr (List.take_prefix n _)
      · obtain ⟨n, rfl⟩ := Nat.exists_eq_succ_of_ne_zero (Nat.ne_of_gt hn)
        exact List.cons_ne_nil c _
    · obtain ⟨before, chars, hp, hstands⟩ := ih (as ++ (c :: rest).take n) ht
      rw [List.append_assoc, List.take_append_drop] at hp
      exact ⟨before, chars, hp, hstands⟩

/-- **Every token of a text stands somewhere in it.** -/
theorem exists_stands_of_mem_lex {d : Dialect} {text : String} {tokens : List Lexeme}
    (h : lex d text = .ok tokens) {t : Lexeme} (ht : t ∈ tokens) :
    ∃ before chars, before ++ chars <+: text.toList ∧ t.Stands before chars := by
  obtain ⟨ps, hps, rfl⟩ := lex_eq_ok_iff.mp h
  exact exists_stands_of_mem_place hps [] ht

/-! ## Tokens one after the other -/

/-- The tokens stand in the text one after the other. -/
structure Placed (cs : List Char) (tokens : List Lexeme) : Prop where
  inText_start : ∀ t ∈ tokens, InText cs t.range.start
  inText_stop : ∀ t ∈ tokens, InText cs t.range.stop
  start_le_stop : ∀ t ∈ tokens, t.range.start.offset ≤ t.range.stop.offset
  pairwise : tokens.Pairwise fun t u => t.range.stop.offset ≤ u.range.start.offset

section

variable {cs : List Char} {tokens rest : List Lexeme}

theorem Placed.sublist (h : Placed cs tokens) (hs : rest.Sublist tokens) : Placed cs rest where
  inText_start t ht := h.inText_start t (hs.subset ht)
  inText_stop t ht := h.inText_stop t (hs.subset ht)
  start_le_stop t ht := h.start_le_stop t (hs.subset ht)
  pairwise := h.pairwise.sublist hs

theorem Placed.of_suffix (h : Placed cs tokens) (hs : rest <:+ tokens) : Placed cs rest :=
  h.sublist hs.sublist

/-- A token ends before the ones after it start. -/
theorem Placed.stop_le_start (h : Placed cs tokens) {t u : Lexeme} (hs : t :: rest <:+ tokens)
    (hu : u ∈ rest) : t.range.stop.offset ≤ u.range.start.offset :=
  List.rel_of_pairwise_cons (h.of_suffix hs).pairwise hu

end

/-- **The tokens of a text stand in it one after the other.** -/
theorem placed_lex {d : Dialect} {sql : String} {tokens : List Lexeme}
    (h : lex d sql = .ok tokens) : Placed sql.toList tokens where
  inText_start _ ht := (inText_of_mem_lex h ht).1
  inText_stop _ ht := (inText_of_mem_lex h ht).2
  start_le_stop t ht := by
    obtain ⟨before, chars, -, hstands⟩ := exists_stands_of_mem_lex h ht
    rw [hstands.range_eq]
    exact byteLength_le_of_prefix (List.prefix_append before chars)
  pairwise := pairwise_lex h

theorem placed_significant {d : Dialect} {sql : String} {tokens : List Lexeme}
    (h : lex d sql = .ok tokens) : Placed sql.toList (significant tokens) :=
  (placed_lex h).sublist List.filter_sublist

end SqlCompletion.Sql
