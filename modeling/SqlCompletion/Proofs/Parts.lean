import SqlCompletion.Proofs.ScanExtent
import SqlCompletion.Proofs.ScanShift
import SqlCompletion.Proofs.Spelling
import SqlCompletion.Sql.Parser

/-!
# Texts put together out of parts

A text that is put together out of parts need not have the tokens of the parts: a word goes on with
what stands behind it, and a comment takes it in. Here are the texts that have them.

* `scan_of_standsAnywhere`: tokens that are the same whatever stands before them.
* `exists_lex_of_append`: before such a token a text can be cut, and what is left has its tokens by
  itself.
* `KeepsTokens`: the tokens of a text are those of its parts, each further on.
* `fromClause_append_left`: the FROM clause of a text that stands behind one without `FROM`.
-/

namespace SqlCompletion.Sql

variable {d : Dialect}

/-! ## Tokens that stand anywhere -/

/-- The token is the same behind any other: it is white space, a keyword, or a symbol, but for the
dot, which may start a number. -/
def Token.standsAnywhere : Token → Bool
  | .blank _ => true
  | .word w => w.keyword.isSome
  | .symbol s => s ≠ .period
  | _ => false

theorem standsAnywhere_of_isKeyword {t : Token} {k : String}
    (h : FromClause.isKeyword t k = true) : t.standsAnywhere = true := by
  cases t with
  | word w =>
    have hk : w.keyword = some k := beq_iff_eq.mp h
    rw [Token.standsAnywhere, hk]
    rfl
  | _ => cases h

theorem standsAnywhere_of_endsCondition {t : Token} (h : FromClause.endsCondition t = true) :
    t.standsAnywhere = true := by
  unfold FromClause.endsCondition at h
  split at h
  · rfl
  · rfl
  · rfl
  · next w =>
    rcases Bool.or_eq_true_iff.mp h with hone | hone
    all_goals
      obtain ⟨k, -, hk⟩ := FromClause.Word.isOneOf_iff.mp hone
      exact standsAnywhere_of_isKeyword (k := k) (beq_iff_eq.mpr hk)
  · cases h

section

variable {c : Char} (h : isNumberPart c = true)

include h

theorem toUpper_of_isNumberPart : c.toUpper = c := by
  refine dif_neg ?_
  rintro ⟨hlow, -⟩
  simp only [isNumberPart, Char.isDigit, Bool.or_eq_true, Bool.and_eq_true, decide_eq_true_eq,
    beq_iff_eq] at h
  rcases h with ⟨-, hhigh⟩ | rfl
  · exact absurd (UInt32.le_trans hlow hhigh) (by decide)
  · exact absurd hlow (by decide)

theorem upperChar_of_isNumberPart : upperChar c = [c] := by
  unfold upperChar
  split
  case h_11 => rw [toUpper_of_isNumberPart h]
  all_goals cases h

theorem startingWith_of_isNumberPart : Keyword.startingWith c = [] := by
  unfold Keyword.startingWith
  split
  case h_27 => rfl
  all_goals cases h

/-- No keyword starts with a digit or a dot. -/
theorem ofWord?_of_isNumberPart (cs : List Char) : Keyword.ofWord? (c :: cs) = none := by
  have hupper : upperWord (c :: cs) = c :: upperWord cs := by
    rw [upperWord, List.flatMap_cons, upperChar_of_isNumberPart h]
    rfl
  simp only [Keyword.ofWord?, hupper, startingWith_of_isNumberPart h]
  rfl

end

theorem finishNumber_cases {prev : Option Token} {chars rest : List Char} {t : Token} {n : Nat}
    (h : finishNumber d prev chars rest = .ok (t, n)) :
    (∃ w, t = .word w) ∨ t.standsAnywhere = false := by
  simp only [finishNumber] at h
  repeat' split at h
  all_goals cases h
  all_goals simp [wordToken, Token.standsAnywhere]

/-- Where a number may start, there is a word or a token that depends on the one before it. -/
theorem scanNumber_cases {prev : Option Token} {cs : List Char} {t : Token} {n : Nat}
    (h : scanNumber d prev cs = .ok (t, n)) :
    (∃ w, t = .word w) ∨ t.standsAnywhere = false := by
  simp only [scanNumber] at h
  repeat' split at h
  all_goals first | exact finishNumber_cases h | cases h
  all_goals exact .inr rfl

/-- A word that starts like a number is no keyword. -/
theorem standsAnywhere_scanNumber {prev : Option Token} {c : Char} {rest : List Char} {t : Token}
    {n : Nat} (hc : isNumberPart c = true) (hscan : scan d prev c rest = .ok (t, n))
    (h : scanNumber d prev (c :: rest) = .ok (t, n)) : t.standsAnywhere = false := by
  rcases scanNumber_cases h with ⟨w, rfl⟩ | ht
  · have hn := advances_scan d prev c rest _ n hscan
    obtain ⟨n, rfl⟩ := Nat.exists_eq_succ_of_ne_zero (Nat.ne_of_gt hn)
    have hspelled := spells_scan d prev c rest _ _ hscan
    cases hk : w.keyword with
    | none => simp [Token.standsAnywhere, hk]
    | some k =>
      have hword := (hspelled.eq_wordToken hk).2
      rw [List.take_succ_cons, ofWord?_of_isNumberPart hc] at hword
      cases hword
  · exact ht

/-- **A token that stands anywhere is found whatever stands before it.** -/
theorem scan_of_standsAnywhere {prev prev' : Option Token} {c : Char} {rest : List Char} {t : Token}
    {n : Nat} (h : scan d prev c rest = .ok (t, n)) (ht : t.standsAnywhere = true) :
    scan d prev' c rest = .ok (t, n) := by
  have hscan := h
  unfold scan at h ⊢
  split at h
  · exact h
  · split at h
    · exact h
    · split at h
      · exact h
      · split at h
        · next hc =>
          rw [standsAnywhere_scanNumber hc hscan h] at ht
          cases ht
        · next hc =>
          rw [if_neg hc]
          exact h

/-! ## Tokens at a known character -/

section

variable (d : Dialect) (prev : Option Token) (cs : List Char)

theorem scan_blank : scan d prev ' ' cs = .ok (.blank " ", 1) := rfl

theorem scan_leftParen : scan d prev '(' cs = .ok (.symbol .leftParen, 1) := by
  cases d <;> rfl

theorem scan_rightParen : scan d prev ')' cs = .ok (.symbol .rightParen, 1) := by
  cases d <;> rfl

theorem scan_star : scan d prev '*' cs = .ok (.symbol .star, 1) := by
  cases d <;> rfl

theorem scan_select :
    scan d prev 'S' ("ELECT ".toList ++ cs) = .ok (wordToken "SELECT".toList, 6) := by
  cases d <;> rfl

end

/-! ## Cutting a text -/

theorem Division.of_standsAnywhere {prev prev' : Option Token} {cs : List Char} {p : Piece}
    {ps : List Piece} (h : Division d prev cs (p :: ps)) (hp : p.token.standsAnywhere = true) :
    Division d prev' cs (p :: ps) := by
  cases h with
  | cons hscan hrest => exact .cons (scan_of_standsAnywhere hscan hp) hrest

/-- Behind a symbol other than the dot every token is the same as at the beginning of a text. -/
theorem scan_symbol {s : Symbol} (hs : s ≠ .period) (c : Char) (rest : List Char) :
    scan d (some (.symbol s)) c rest = scan d none c rest := by
  have hdot : (some (Token.symbol s) == some (.symbol .period)) = false := by simpa using hs
  have hnumber (chars rest : List Char) :
      finishNumber d (some (.symbol s)) chars rest = finishNumber d none chars rest := by
    simp only [finishNumber, hdot]
    rfl
  simp only [scan, scanNumber, hnumber]
  rfl

theorem Division.of_symbol {s : Symbol} {cs : List Char} {ps : List Piece}
    (h : Division d (some (.symbol s)) cs ps) (hs : s ≠ .period) : Division d none cs ps := by
  cases h with
  | nil => exact .nil _
  | cons hscan hrest => exact .cons (scan_symbol hs _ _ ▸ hscan) hrest

theorem Division.of_none {s : Symbol} {cs : List Char} {ps : List Piece}
    (h : Division d none cs ps) (hs : s ≠ .period) : Division d (some (.symbol s)) cs ps := by
  cases h with
  | nil => exact .nil _
  | cons hscan hrest => exact .cons ((scan_symbol hs _ _).trans hscan) hrest

/-- **A text can be cut before a token that stands anywhere**: what is left has the tokens from there
on by itself. -/
theorem exists_lex_of_append {text : String} {as bs : List Lexeme} {t : Lexeme}
    (h : lex d text = .ok (as ++ t :: bs)) (ht : t.token.standsAnywhere = true) :
    ∃ (front back : String) (tokens : List Lexeme), text = front ++ back ∧
      t.range.start = endLocation front.toList ∧ lex d back = .ok tokens ∧
      t :: bs = tokens.map (Lexeme.shift (endLocation front.toList)) := by
  obtain ⟨ps, hps, hplace⟩ := lex_eq_ok_iff.mp h
  obtain ⟨qs, rs, rfl, -, hrest⟩ := exists_of_place_eq_append hplace.symm
  obtain ⟨prev, rest, htext, hdivision⟩ := hps.exists_of_append
  have hafter (cs : List Char) : Location.first.after cs = endLocation cs :=
    (endLocation_append [] cs).symm
  cases rs with
  | nil => cases hrest
  | cons p rs =>
    have hp : p.token = t.token ∧ t.range.start = endLocation (qs.flatMap Piece.chars) := by
      obtain ⟨rfl, -⟩ := List.cons.inj hrest
      exact ⟨rfl, hafter _⟩
    rw [← hp.1] at ht
    refine ⟨String.ofList (qs.flatMap Piece.chars), String.ofList rest, place .first (p :: rs),
      ?_, ?_, ?_, ?_⟩
    · rw [← String.ofList_append, ← htext, String.ofList_toList]
    · rw [String.toList_ofList, hp.2]
    · refine lex_eq_ok_iff.mpr ⟨p :: rs, ?_, rfl⟩
      rw [String.toList_ofList]
      exact hdivision.of_standsAnywhere ht
    · rw [String.toList_ofList, ← place_shift _ (by decide), ← hrest, hafter]
      rfl

/-- So it has where it is known where that token stands. -/
theorem exists_lex_of_start {front back : String} {as bs : List Lexeme} {t : Lexeme}
    (h : lex d (front ++ back) = .ok (as ++ t :: bs)) (ht : t.token.standsAnywhere = true)
    (hstart : t.range.start = endLocation front.toList) :
    ∃ tokens, lex d back = .ok tokens ∧
      t :: bs = tokens.map (Lexeme.shift (endLocation front.toList)) := by
  obtain ⟨front', back', tokens, htext, hstart', hlex, htokens⟩ := exists_lex_of_append h ht
  have hchars : front.toList ++ back.toList = front'.toList ++ back'.toList := by
    rw [← String.toList_append, ← String.toList_append, htext]
  have hfront : front.toList = front'.toList := by
    refine eq_of_byteLength_eq (List.prefix_append _ back.toList) ?_ ?_
    · rw [hchars]
      exact List.prefix_append _ _
    · rw [← offset_endLocation, ← offset_endLocation, ← hstart, hstart']
  rw [hfront] at hchars
  have hback := String.toList_inj.mp (List.append_cancel_left hchars)
  exact ⟨tokens, hback ▸ hlex, hfront ▸ htokens⟩

/-- The tokens around one that is no blank, blanks included. -/
theorem exists_of_significant_eq {tokens before rest : List Lexeme} {t : Lexeme}
    (h : significant tokens = before ++ t :: rest) :
    ∃ as bs, tokens = as ++ t :: bs ∧ significant as = before ∧ significant bs = rest ∧
      t.token.isBlank = false := by
  obtain ⟨as, tail, rfl, has, htail⟩ := List.filter_eq_append_iff.mp h
  obtain ⟨blanks, bs, rfl, hblanks, ht, hbs⟩ := List.filter_eq_cons_iff.mp htail
  refine ⟨as ++ blanks, bs, (List.append_assoc ..).symm, ?_, hbs, by simpa using ht⟩
  rw [significant_append, significant, has, significant, List.filter_eq_nil_iff.mpr hblanks,
    List.append_nil]

theorem exists_significant_eq_cons {t : Lexeme} {bs own : List Lexeme} {base : Location}
    (hblank : t.token.isBlank = false) (h : t :: bs = own.map (Lexeme.shift base)) :
    ∃ u more, significant own = u :: more ∧ u.token = t.token := by
  cases own with
  | nil => cases h
  | cons u own =>
    obtain ⟨rfl, -⟩ := List.cons.inj h
    exact ⟨u, significant own, List.filter_cons_of_pos (by simpa using hblank), rfl⟩

/-! ## Texts that keep the tokens of their parts -/

/-- The tokens of the parts of a text that stands behind `before`, each part divided by itself. -/
def lexParts (d : Dialect) (before : List Char) : List String → Except LexError (List Lexeme)
  | [] => .ok []
  | part :: parts => do
    let tokens ← lex d part
    let more ← lexParts d (before ++ part.toList) parts
    return tokens.map (Lexeme.shift (endLocation before)) ++ more

/-- The text that is put together out of the parts has the tokens that they have by themselves. -/
def KeepsTokens (d : Dialect) (parts : List String) : Prop :=
  (lexParts d [] parts).isOk = true ∧ lex d (String.join parts) = lexParts d [] parts

instance (d : Dialect) (parts : List String) : Decidable (KeepsTokens d parts) :=
  inferInstanceAs (Decidable (_ ∧ _))

theorem lexParts_cons_eq_ok_iff {before : List Char} {part : String} {parts : List String}
    {tokens : List Lexeme} :
    lexParts d before (part :: parts) = .ok tokens ↔
      ∃ first more, lex d part = .ok first ∧ lexParts d (before ++ part.toList) parts = .ok more ∧
        tokens = first.map (Lexeme.shift (endLocation before)) ++ more := by
  rw [lexParts]
  constructor
  · intro h
    cases hfirst : lex d part with
    | error e =>
      rw [hfirst] at h
      cases h
    | ok first =>
      cases hmore : lexParts d (before ++ part.toList) parts with
      | error e =>
        rw [hfirst, hmore] at h
        cases h
      | ok more =>
        rw [hfirst, hmore] at h
        cases h
        exact ⟨first, more, rfl, rfl, rfl⟩
  · rintro ⟨first, more, hfirst, hmore, rfl⟩
    rw [hfirst, hmore]
    rfl

theorem KeepsTokens.exists_tokens {parts : List String} (h : KeepsTokens d parts) :
    ∃ tokens, lexParts d [] parts = .ok tokens ∧ lex d (String.join parts) = .ok tokens := by
  obtain ⟨hparts, htext⟩ := h
  cases htokens : lexParts d [] parts with
  | error e =>
    rw [htokens] at hparts
    cases hparts
  | ok tokens => exact ⟨tokens, rfl, htext.trans htokens⟩

/-- At the beginning of a document nothing is moved. -/
theorem map_shift_of_lex {text : String} {tokens : List Lexeme} (h : lex d text = .ok tokens) :
    tokens.map (Lexeme.shift (endLocation [])) = tokens := by
  obtain ⟨ps, -, rfl⟩ := lex_eq_ok_iff.mp h
  exact (place_shift _ (by decide) ps).symm

/-- The tokens of the first part are the first ones. -/
theorem KeepsTokens.exists_tail {front : String} {parts : List String} {first : List Lexeme}
    (h : KeepsTokens d (front :: parts)) (hfirst : lex d front = .ok first) :
    ∃ tail, lexParts d front.toList parts = .ok tail ∧
      lex d (front ++ String.join parts) = .ok (first ++ tail) := by
  obtain ⟨tokens, hparts, htext⟩ := h.exists_tokens
  obtain ⟨first', tail, hfirst', htail, rfl⟩ := lexParts_cons_eq_ok_iff.mp hparts
  obtain rfl := Except.ok.inj (hfirst'.symm.trans hfirst)
  rw [map_shift_of_lex hfirst, String.join_cons] at htext
  exact ⟨tail, htail, htext⟩

/-! ## The FROM clause of the text that follows -/

/-- **Where no `FROM` stands before it, the clause of a text is its own**, further on. -/
theorem fromClause_append_left {before text : String} {first tokens : List Lexeme}
    (hlex : lex d text = .ok tokens)
    (hboth : lex d (before ++ text) =
      .ok (first ++ tokens.map (Lexeme.shift (endLocation before.toList))))
    (hbalanced : FromClause.balanced 0 (significant first) = true)
    (hfrom : FromClause.afterFrom? 0 (significant first) = none) :
    fromClause d (before ++ text) =
      (fromClause d text).map (·.map (FromEntry.shift (endLocation before.toList))) := by
  have htext : before ++ text = String.ofList (before.toList ++ text.toList) := by
    rw [← String.toList_append, String.ofList_toList]
  have hscan := FromClause.scan_map_shift (parse d) before.toList text (significant tokens)
  simp only [fromClause, hlex, hboth, Except.map]
  rw [← hscan, ← htext, significant_append, significant_map_shift,
    FromClause.scan_append_left hbalanced hfrom]

end SqlCompletion.Sql
