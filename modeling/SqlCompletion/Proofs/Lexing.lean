import SqlCompletion.Proofs.Place
import SqlCompletion.Proofs.ScanProgress
import SqlCompletion.Sql.Lexer

/-!
# Tokens and their places

`lex` does two things at once: it divides the text into pieces, which needs the characters alone,
and it gives every piece its place. Here they are taken apart.

* `lex_eq_ok_iff`: the tokens of a text are the pieces of its division, placed one after the other.
* `inText_of_mem_lex`: every token starts and ends at a place of the text.
* `pairwise_lex`: every token ends before the ones after it start.
* `place_shift`: the same pieces further on in a document have their places shifted.
-/

namespace SqlCompletion

/-- The place after `cs`, which stands at `l`. -/
def Location.after (l : Location) (cs : List Char) : Location := cs.foldl Location.advance l

@[simp] theorem Location.after_nil (l : Location) : l.after [] = l := rfl

@[simp] theorem Location.after_cons (l : Location) (c : Char) (cs : List Char) :
    l.after (c :: cs) = (l.advance c).after cs := rfl

@[simp] theorem Location.after_append (l : Location) (as bs : List Char) :
    l.after (as ++ bs) = (l.after as).after bs := List.foldl_append

theorem Location.offset_after (l : Location) (cs : List Char) :
    (l.after cs).offset = l.offset + Text.byteLength cs := by
  induction cs generalizing l with
  | nil => rfl
  | cons c cs ih =>
    have hc : (l.advance c).offset = l.offset + c.utf8Size := by
      unfold Location.advance
      split <;> rfl
    rw [after_cons, ih, hc, Text.byteLength_cons, Nat.add_assoc]

theorem endLocation_append (as bs : List Char) :
    endLocation (as ++ bs) = (endLocation as).after bs := by
  induction bs generalizing as with
  | nil => rw [List.append_nil, Location.after_nil]
  | cons b bs ih =>
    rw [Location.after_cons, ← endLocation_concat, ← ih, List.append_assoc, List.singleton_append]

/-! ## Places further on -/

/-- The place of the document for the place `l` of a text that stands at `base`. -/
def Location.shift (base l : Location) : Location where
  offset := base.offset + l.offset
  line := base.line + (l.line - 1)
  column := if l.line = 1 then base.column + (l.column - 1) else l.column

theorem Location.shift_advance (base : Location) {l : Location} (hline : 1 ≤ l.line)
    (hcolumn : 1 ≤ l.column) (c : Char) : base.shift (l.advance c) = (base.shift l).advance c := by
  obtain ⟨o, line, column⟩ := l
  simp only at hline hcolumn
  simp only [Location.advance, Location.shift]
  split
  · simp only [Location.mk.injEq, Nat.add_assoc, true_and]
    exact ⟨by omega, if_neg (by omega)⟩
  · simp only [Location.mk.injEq, Nat.add_assoc, true_and]
    split <;> omega

theorem Location.one_le_advance {l : Location} (h : 1 ≤ l.line ∧ 1 ≤ l.column) (c : Char) :
    1 ≤ (l.advance c).line ∧ 1 ≤ (l.advance c).column := by
  unfold Location.advance
  split
  · exact ⟨Nat.le_add_left 1 _, Nat.le_refl 1⟩
  · exact ⟨h.1, Nat.le_add_left 1 _⟩

theorem Location.one_le_after {l : Location} (h : 1 ≤ l.line ∧ 1 ≤ l.column) (cs : List Char) :
    1 ≤ (l.after cs).line ∧ 1 ≤ (l.after cs).column := by
  induction cs generalizing l with
  | nil => exact h
  | cons c cs ih => exact ih (one_le_advance h c)

theorem Location.shift_after (base : Location) {l : Location} (h : 1 ≤ l.line ∧ 1 ≤ l.column)
    (cs : List Char) : base.shift (l.after cs) = (base.shift l).after cs := by
  induction cs generalizing l with
  | nil => rfl
  | cons c cs ih =>
    rw [after_cons, after_cons, ih (one_le_advance h c), shift_advance base h.1 h.2]

/-- The end of a text, seen from the beginning of the document that it is in. -/
theorem shift_endLocation (as bs : List Char) :
    (endLocation as).shift (endLocation bs) = endLocation (as ++ bs) := by
  rw [endLocation_append, ← List.nil_append bs, endLocation_append, List.nil_append,
    Location.shift_after _ (by decide)]
  rfl

namespace Sql

/-! ## Pieces -/

/-- A token with the characters that it takes. -/
structure Piece where
  token : Token
  chars : List Char

/-- The pieces of a text that follows the token `prev`. -/
inductive Division (d : Dialect) : (prev : Option Token) → List Char → List Piece → Prop where
  | nil (prev : Option Token) : Division d prev [] []
  | cons {prev : Option Token} {c : Char} {rest : List Char} {token : Token} {n : Nat}
      {ps : List Piece} (hscan : scan d prev c rest = .ok (token, n))
      (hrest : Division d (some token) ((c :: rest).drop n) ps) :
      Division d prev (c :: rest) (⟨token, (c :: rest).take n⟩ :: ps)

/-- The pieces, the first of which stands at `l`, with their places. -/
def place (l : Location) : List Piece → List Lexeme
  | [] => []
  | p :: ps => ⟨p.token, l, l.after p.chars⟩ :: place (l.after p.chars) ps

variable {d : Dialect} {prev : Option Token} {cs : List Char} {ps : List Piece}

/-- The pieces make up the text. -/
theorem Division.flatMap_chars (h : Division d prev cs ps) : ps.flatMap Piece.chars = cs := by
  induction h with
  | nil => rfl
  | @cons _ c rest _ n _ _ _ ih => rw [List.flatMap_cons, ih, List.take_append_drop]

/-- What is left of a division after some pieces is a division of the text that is left. -/
theorem Division.exists_of_append {ps qs : List Piece} (h : Division d prev cs (ps ++ qs)) :
    ∃ prev' rest, cs = ps.flatMap Piece.chars ++ rest ∧ Division d prev' rest qs := by
  induction ps generalizing prev cs with
  | nil => exact ⟨prev, cs, rfl, h⟩
  | cons p ps ih =>
    cases h with
    | @cons _ c rest token n _ hscan hrest =>
      obtain ⟨prev', more, hmore, hdivision⟩ := ih hrest
      refine ⟨prev', more, ?_, hdivision⟩
      rw [List.flatMap_cons, List.append_assoc, ← hmore, List.take_append_drop]

theorem Division.exists_of_append_cons {ps qs : List Piece} {p : Piece}
    (h : Division d prev cs (ps ++ p :: qs)) :
    ∃ rest, cs = ps.flatMap Piece.chars ++ p.chars ++ rest ∧ Division d (some p.token) rest qs := by
  obtain ⟨_, left, rfl, hleft⟩ := h.exists_of_append
  cases hleft with
  | cons hscan hrest => exact ⟨_, by rw [List.append_assoc, List.take_append_drop], hrest⟩

theorem place_append (l : Location) (ps qs : List Piece) :
    place l (ps ++ qs) = place l ps ++ place (l.after (ps.flatMap Piece.chars)) qs := by
  induction ps generalizing l with
  | nil => rfl
  | cons p ps ih => simp only [List.cons_append, place, ih, List.flatMap_cons, Location.after_append]

/-- Tokens that are placed one after the other are pieces that are. -/
theorem exists_of_place_eq_append {l : Location} {ps : List Piece} {as bs : List Lexeme}
    (h : place l ps = as ++ bs) :
    ∃ qs rs, ps = qs ++ rs ∧ place l qs = as ∧ place (l.after (qs.flatMap Piece.chars)) rs = bs := by
  induction as generalizing l ps with
  | nil => exact ⟨[], ps, rfl, rfl, h⟩
  | cons a as ih =>
    cases ps with
    | nil => cases h
    | cons p ps =>
      obtain ⟨ha, hrest⟩ := List.cons.inj h
      obtain ⟨qs, rs, rfl, hqs, hrs⟩ := ih hrest
      refine ⟨p :: qs, rs, rfl, ?_, ?_⟩
      · rw [place, ha, hqs]
      · rw [List.flatMap_cons, Location.after_append, hrs]

/-! ## The two parts of the lexer -/

theorem advanceBy_eq (n : Nat) (l : Location) (cs : List Char) :
    advanceBy n l cs = (l.after (cs.take n), cs.drop n) := by
  induction n generalizing l cs with
  | zero => rfl
  | succ n ih =>
    cases cs with
    | nil => rfl
    | cons c cs => rw [advanceBy, ih, List.take_succ_cons, List.drop_succ_cons, Location.after_cons]

theorem lexFrom_nil_eq_ok_iff {fuel : Nat} {l : Location} {read tokens : List Lexeme} :
    lexFrom d fuel l prev read [] = .ok tokens ↔
      ∃ ps, Division d prev [] ps ∧ tokens = read.reverse ++ place l ps := by
  have hnil : lexFrom d fuel l prev read [] = .ok read.reverse := by cases fuel <;> rfl
  rw [hnil]
  constructor
  · intro h
    cases h
    exact ⟨[], .nil prev, (List.append_nil _).symm⟩
  · rintro ⟨ps, hps, rfl⟩
    cases hps
    rw [place, List.append_nil]

/-- The lexer gives the pieces their places; it does not run out of fuel, since every token takes a
character. -/
theorem lexFrom_eq_ok_iff {fuel : Nat} {l : Location} {read tokens : List Lexeme}
    (hfuel : cs.length ≤ fuel) :
    lexFrom d fuel l prev read cs = .ok tokens ↔
      ∃ ps, Division d prev cs ps ∧ tokens = read.reverse ++ place l ps := by
  induction fuel generalizing l prev read cs with
  | zero =>
    cases List.length_eq_zero_iff.mp (Nat.le_zero.mp hfuel)
    exact lexFrom_nil_eq_ok_iff
  | succ fuel ih =>
    cases cs with
    | nil => exact lexFrom_nil_eq_ok_iff
    | cons c rest =>
      rw [lexFrom]
      split
      · next message n hscan =>
        constructor
        · intro h
          cases h
        · rintro ⟨ps, hps, -⟩
          cases hps with
          | cons hscan' _ =>
            rw [hscan] at hscan'
            cases hscan'
      · next token n hscan =>
        -- The token takes a character, so one unit of fuel less is enough for the rest.
        have hn := advances_scan d prev c rest token n hscan
        have hshort : ((c :: rest).drop n).length ≤ fuel := by
          rw [List.length_drop]
          rw [List.length_cons] at hfuel ⊢
          omega
        simp only [advanceBy_eq]
        rw [ih hshort]
        constructor
        · rintro ⟨ps, hps, rfl⟩
          exact ⟨_, .cons hscan hps, by simp [place]⟩
        · rintro ⟨ps, hps, rfl⟩
          cases hps with
          | cons hscan' hrest =>
            rw [hscan] at hscan'
            cases hscan'
            exact ⟨_, hrest, by simp [place]⟩

/-- **The tokens of a text are the pieces of its division, one after the other.** -/
theorem lex_eq_ok_iff {text : String} {tokens : List Lexeme} :
    lex d text = .ok tokens ↔
      ∃ ps, Division d none text.toList ps ∧ tokens = place .first ps := by
  rw [lex, lexFrom_eq_ok_iff (Nat.le_refl _)]
  rfl

/-! ## Places of tokens -/

/-- The place is one of the text: the end of a part that it starts with. -/
def InText (text : List Char) (l : Location) : Prop := ∃ pre, pre <+: text ∧ l = endLocation pre

theorem InText.offset_le {cs : List Char} {l : Location} (h : InText cs l) :
    l.offset ≤ Text.byteLength cs := by
  obtain ⟨pre, hpre, rfl⟩ := h
  exact byteLength_le_of_prefix hpre

theorem inText_of_mem_place (as : List Char) {ps : List Piece} {t : Lexeme}
    (h : t ∈ place (endLocation as) ps) :
    InText (as ++ ps.flatMap Piece.chars) t.range.start ∧
      InText (as ++ ps.flatMap Piece.chars) t.range.stop := by
  induction ps generalizing as with
  | nil => cases h
  | cons p ps ih =>
    rw [place, ← endLocation_append] at h
    rw [List.flatMap_cons, ← List.append_assoc]
    rcases List.mem_cons.mp h with rfl | h
    · refine ⟨⟨as, ?_, rfl⟩, ⟨as ++ p.chars, List.prefix_append _ _, rfl⟩⟩
      rw [List.append_assoc]
      exact List.prefix_append _ _
    · exact ih (as ++ p.chars) h

/-- **Every token starts and ends at a place of the text.** -/
theorem inText_of_mem_lex {text : String} {tokens : List Lexeme} (h : lex d text = .ok tokens)
    {t : Lexeme} (ht : t ∈ tokens) :
    InText text.toList t.range.start ∧ InText text.toList t.range.stop := by
  obtain ⟨ps, hps, rfl⟩ := lex_eq_ok_iff.mp h
  rw [← hps.flatMap_chars]
  exact inText_of_mem_place [] ht

theorem offset_le_of_mem_place {l : Location} {t : Lexeme} (h : t ∈ place l ps) :
    l.offset ≤ t.range.start.offset := by
  induction ps generalizing l with
  | nil => cases h
  | cons p ps ih =>
    rcases List.mem_cons.mp h with rfl | h
    · exact Nat.le_refl _
    · have hle := ih h
      rw [Location.offset_after] at hle
      omega

theorem pairwise_place (l : Location) (ps : List Piece) :
    (place l ps).Pairwise fun t u => t.range.stop.offset ≤ u.range.start.offset := by
  induction ps generalizing l with
  | nil => exact .nil
  | cons p ps ih => exact .cons (fun _ hu => offset_le_of_mem_place hu) (ih _)

/-- **Every token ends before the ones after it start.** -/
theorem pairwise_lex {text : String} {tokens : List Lexeme} (h : lex d text = .ok tokens) :
    tokens.Pairwise fun t u => t.range.stop.offset ≤ u.range.start.offset := by
  obtain ⟨ps, -, rfl⟩ := lex_eq_ok_iff.mp h
  exact pairwise_place .first ps

/-- The token, seen from the beginning of a document in which its text stands at `base`. -/
def Lexeme.shift (base : Location) (t : Lexeme) : Lexeme :=
  ⟨t.token, base.shift t.range.start, base.shift t.range.stop⟩

@[simp] theorem Lexeme.token_shift (base : Location) (t : Lexeme) :
    (t.shift base).token = t.token := rfl

theorem place_shift (base : Location) {l : Location} (h : 1 ≤ l.line ∧ 1 ≤ l.column)
    (ps : List Piece) : place (base.shift l) ps = (place l ps).map (Lexeme.shift base) := by
  induction ps generalizing l with
  | nil => rfl
  | cons p ps ih =>
    rw [place, place, List.map_cons, ← Location.shift_after base h,
      ih (Location.one_le_after h p.chars)]
    rfl

theorem significant_append (as bs : List Lexeme) :
    significant (as ++ bs) = significant as ++ significant bs := List.filter_append ..

theorem significant_map_shift (base : Location) (tokens : List Lexeme) :
    significant (tokens.map (Lexeme.shift base)) =
      (significant tokens).map (Lexeme.shift base) := by
  rw [significant, significant, List.filter_map]
  rfl

end Sql

end SqlCompletion
