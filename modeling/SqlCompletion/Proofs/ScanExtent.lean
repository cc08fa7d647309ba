import SqlCompletion.Proofs.FromScan
import SqlCompletion.Proofs.Lexing

/-!
# How far a scan reads

The scan of a FROM clause reads the tokens up to the end of the clause, and the text of the document
between the parentheses of subqueries. A part of it that leaves a token has read nothing behind that
token. One that takes all tokens has asked what follows them, and there a token that ends the clause
is as good as the end of the text, unless a word is awaited: behind the dot of a name and behind `AS`
every word belongs to the table.

* `scanAlias_append`, `scanFactor_append`, `afterFactor_append`: every part makes out the same where
  more tokens follow, if it leaves a token or the clause ends between them.
* `scan_append`: so does the scan, in any text that is the same between the parentheses.
* `sameGroups_append`: a text that goes on is the same there.
-/

namespace SqlCompletion.Sql.FromClause

/-! ## The text of the document -/

/-- All groups that the tokens open are closed, and between the parentheses both texts are the
same. -/
def SameGroups (as bs : List Char) (tokens : List Lexeme) : Prop :=
  ∀ opening rest, opening :: rest <:+ tokens → opening.token = .symbol .leftParen →
    ∃ close more, groupEnd? 0 rest = some (close, more) ∧
      Text.slice as opening.range.stop.offset close.range.start.offset =
        Text.slice bs opening.range.stop.offset close.range.start.offset

/-- Between the parentheses of every group that the tokens close both texts are the same. -/
def SameInside (as bs : List Char) (tokens : List Lexeme) : Prop :=
  ∀ opening rest close more, opening :: rest <:+ tokens → opening.token = .symbol .leftParen →
    groupEnd? 0 rest = some (close, more) →
      Text.slice as opening.range.stop.offset close.range.start.offset =
        Text.slice bs opening.range.stop.offset close.range.start.offset

/-- All groups that the tokens open are closed. -/
def Closed (tokens : List Lexeme) : Prop :=
  ∀ opening rest, opening :: rest <:+ tokens → opening.token = .symbol .leftParen →
    (groupEnd? 0 rest).isSome = true

theorem SameGroups.sameInside {as bs : List Char} {tokens : List Lexeme}
    (h : SameGroups as bs tokens) : SameInside as bs tokens := by
  intro opening rest close more hs hopening hgroup
  obtain ⟨close', more', hgroup', htext⟩ := h opening rest hs hopening
  rw [hgroup'] at hgroup
  cases hgroup
  exact htext

theorem SameGroups.closed {as bs : List Char} {tokens : List Lexeme}
    (h : SameGroups as bs tokens) : Closed tokens := by
  intro opening rest hs hopening
  obtain ⟨close, more, hgroup, -⟩ := h opening rest hs hopening
  rw [hgroup, Option.isSome_some]

theorem SameInside.of_suffix {as bs : List Char} {tokens rest : List Lexeme}
    (h : SameInside as bs tokens) (hs : rest <:+ tokens) : SameInside as bs rest :=
  fun opening more close after hmore => h opening more close after (hmore.trans hs)

theorem Closed.of_suffix {tokens rest : List Lexeme} (h : Closed tokens) (hs : rest <:+ tokens) :
    Closed rest :=
  fun opening more hmore => h opening more (hmore.trans hs)

theorem SameGroups.of_suffix {as bs : List Char} {tokens rest : List Lexeme}
    (h : SameGroups as bs tokens) (hs : rest <:+ tokens) : SameGroups as bs rest :=
  fun opening more hmore => h opening more (hmore.trans hs)

/-! ## The end of a clause -/

/-- The tokens are at an end, or the next one has the property. -/
def NextIs (p : Token → Prop) (rest : List Lexeme) : Prop := ∀ t ∈ rest.head?, p t.token

instance (p : Token → Prop) [DecidablePred p] (rest : List Lexeme) : Decidable (NextIs p rest) :=
  inferInstanceAs (Decidable (∀ t ∈ rest.head?, p t.token))

theorem NextIs.nil (p : Token → Prop) : NextIs p [] := by
  intro t ht
  cases ht

theorem nextIs_cons {p : Token → Prop} {t : Lexeme} {rest : List Lexeme} :
    NextIs p (t :: rest) ↔ p t.token := by
  simp [NextIs]

theorem NextIs.imp {p q : Token → Prop} {rest : List Lexeme} (h : NextIs p rest)
    (hpq : ∀ t, p t → q t) : NextIs q rest :=
  fun t ht => hpq t.token (h t ht)

/-- The token ends a clause: a keyword of the next clause that is not in quotes, a semicolon, or a
parenthesis that was opened before the clause. -/
def isClauseEnd (t : Token) : Bool :=
  match t with
  | .symbol .semicolon | .symbol .rightParen => true
  | .word w => w.quote.isNone && w.isOneOf clauseEnds
  | _ => false

@[simp] theorem isKeyword_word (w : Word) (k : String) :
    isKeyword (.word w) k = (w.keyword == some k) := rfl

@[simp] theorem isOneOf_word (w : Word) (keywords : List String) :
    isOneOf (.word w) keywords = w.isOneOf keywords := rfl

theorem Word.isOneOf_iff {w : Word} {keywords : List String} :
    w.isOneOf keywords = true ↔ ∃ k ∈ keywords, w.keyword = some k := by
  rw [Word.isOneOf]
  split <;> simp_all

theorem isClauseEnd_iff {t : Token} :
    isClauseEnd t = true ↔ t = .symbol .semicolon ∨ t = .symbol .rightParen ∨
      ∃ w k, t = .word w ∧ w.quote = none ∧ k ∈ clauseEnds ∧ w.keyword = some k := by
  constructor
  · intro h
    unfold isClauseEnd at h
    split at h
    · exact .inl rfl
    · exact .inr (.inl rfl)
    · next w =>
      obtain ⟨hquote, hone⟩ := Bool.and_eq_true_iff.mp h
      obtain ⟨k, hk, hw⟩ := Word.isOneOf_iff.mp hone
      exact .inr (.inr ⟨w, k, rfl, Option.isNone_iff_eq_none.mp hquote, hk, hw⟩)
    · cases h
  · rintro (rfl | rfl | ⟨w, k, rfl, hquote, hk, hw⟩)
    · rfl
    · rfl
    · simp [isClauseEnd, hquote, Word.isOneOf_iff.mpr ⟨k, hk, hw⟩]

section

variable {t : Token} (h : isClauseEnd t = true)

include h

theorem isKeyword_of_isClauseEnd (k : String) (hk : k ∉ clauseEnds) : isKeyword t k = false := by
  rcases isClauseEnd_iff.mp h with rfl | rfl | ⟨w, k', rfl, -, hk', hw⟩
  · rfl
  · rfl
  · have hne : k' ≠ k := fun heq => hk (heq ▸ hk')
    simp [hw, hne]

theorem isOneOf_of_isClauseEnd (keywords : List String) (hk : ∀ k ∈ clauseEnds, k ∉ keywords) :
    isOneOf t keywords = false := by
  rcases isClauseEnd_iff.mp h with rfl | rfl | ⟨w, k', rfl, -, hk', hw⟩
  · rfl
  · rfl
  · simp [Word.isOneOf, hw, hk k' hk']

theorem isName_of_isClauseEnd {w : Word} (hw : t = .word w) : isName w = false := by
  subst hw
  obtain ⟨hquote, hone⟩ := Bool.and_eq_true_iff.mp h
  simp [isName, Option.isNone_iff_eq_none.mp hquote, hone]

theorem ne_symbol_of_isClauseEnd (s : Symbol) (hsemicolon : s ≠ .semicolon)
    (hparen : s ≠ .rightParen) : t ≠ .symbol s := by
  rintro rfl
  rcases isClauseEnd_iff.mp h with hs | hs | ⟨w, k, hw, -⟩
  · exact hsemicolon (Token.symbol.inj hs)
  · exact hparen (Token.symbol.inj hs)
  · cases hw

theorem endsCondition_of_isClauseEnd : endsCondition t = true := by
  rcases isClauseEnd_iff.mp h with rfl | rfl | ⟨w, k, rfl, -, hk, hw⟩
  · rfl
  · rfl
  · simp [endsCondition, Word.isOneOf_iff.mpr ⟨k, hk, hw⟩]

end

/-- The token does not go on with a table: it is no dot, no parenthesis of arguments and no alias. -/
def endsTable (t : Token) : Bool :=
  match t with
  | .symbol .period | .symbol .leftParen => false
  | .word w => !isName w && w.keyword != some "AS"
  | _ => true

theorem endsTable_of_isClauseEnd {t : Token} (h : isClauseEnd t = true) : endsTable t = true := by
  unfold endsTable
  split
  · exact absurd rfl (ne_symbol_of_isClauseEnd h .period (by decide) (by decide))
  · exact absurd rfl (ne_symbol_of_isClauseEnd h .leftParen (by decide) (by decide))
  · next w =>
    have has := isKeyword_of_isClauseEnd h "AS" (by decide)
    rw [isName_of_isClauseEnd h rfl]
    simpa using has
  · rfl

theorem scanAlias_of_endsTable {rest : List Lexeme}
    (h : NextIs (fun t => endsTable t = true) rest) : scanAlias rest = (none, rest) := by
  cases rest with
  | nil => rfl
  | cons t rest =>
    have ht := nextIs_cons.mp h
    cases hw : t.token with
    | word w =>
      rw [hw] at ht
      have hnot : isName w = false ∧ w.keyword ≠ some "AS" := by simpa [endsTable] using ht
      simp [scanAlias, hw, hnot.1, hnot.2]
    | _ => simp [scanAlias, hw, isKeyword, Token.keyword?, Token.word?]

/-- No table and no condition comes after a token that ends the clause. -/
theorem afterFactor_of_isClauseEnd {rest : List Lexeme} (entries : List FromEntry)
    (h : NextIs (isClauseEnd · = true) rest) : afterFactor entries rest = (entries, none) := by
  cases rest with
  | nil => rw [afterFactor]
  | cons t rest =>
    have hends := nextIs_cons.mp h
    have hcomma := ne_symbol_of_isClauseEnd hends .comma (by decide) (by decide)
    have hon := isKeyword_of_isClauseEnd hends "ON" (by decide)
    have husing := isKeyword_of_isClauseEnd hends "USING" (by decide)
    have hjoin := isOneOf_of_isClauseEnd hends joinWords (by decide)
    rw [afterFactor]
    simp [hcomma, hon, husing, hjoin]

/-! ## Tables that are not finished -/

/-- The tokens are an `AS` alone: the next word is an alias. -/
def awaitsAlias : List Lexeme → Bool
  | [t] => isKeyword t.token "AS"
  | _ => false

/-- The tokens from the name of a table on are at an end behind a dot of the name, or behind the `AS`
of its alias. Arguments are passed over as the columns of `USING` are. -/
def awaitsPart (first : Lexeme) (tokens : List Lexeme) : Bool :=
  let (_, last, rest) := scanName [] first tokens
  (rest.isEmpty && last.token == .symbol .period) || awaitsAlias (afterUsing rest)

/-- The tokens are at an end within the first table: the next word belongs to it, whatever it is. -/
def awaitsWord (tokens : List Lexeme) : Bool :=
  match skipLateral tokens with
  | t :: rest =>
    match t.token with
    | .symbol .leftParen => awaitsAlias (afterGroup rest)
    | .word w => isName w && awaitsPart t (t :: rest)
    | _ => false
  | [] => false

/-- The clause ends between `tokens` and `tail`: no group is left open, and what follows ends the
clause. Where a word is awaited it is not a word that follows. -/
structure EndsBetween (awaited : Bool) (tokens tail : List Lexeme) : Prop where
  closed : Closed tokens
  ends : NextIs (isClauseEnd · = true) tail
  noWord : awaited = true → NextIs (·.word? = none) tail

theorem EndsBetween.of_suffix {awaited awaited' : Bool} {tokens rest tail : List Lexeme}
    (h : EndsBetween awaited tokens tail) (hs : rest <:+ tokens)
    (himp : awaited' = true → awaited = true) : EndsBetween awaited' rest tail where
  closed := h.closed.of_suffix hs
  ends := h.ends
  noWord := fun hawaited => h.noWord (himp hawaited)

/-! ## Where more tokens follow -/

theorem groupEnd?_append_of_eq_some {depth : Nat} {tokens rest : List Lexeme} {close : Lexeme}
    (h : groupEnd? depth tokens = some (close, rest)) (tail : List Lexeme) :
    groupEnd? depth (tokens ++ tail) = some (close, rest ++ tail) := by
  fun_induction groupEnd? depth tokens with
  | case1 => cases h
  | case2 depth t more ht ih => simp only [List.cons_append, groupEnd?, ht, ih h]
  | case3 t more ht =>
    cases h
    simp only [List.cons_append, groupEnd?, ht]
  | case4 t more ht depth ih => simp only [List.cons_append, groupEnd?, ht, ih h]
  | case5 depth t more hopen hclose ih =>
    rw [List.cons_append, groupEnd?_cons_of_ne hopen hclose, ih h]

theorem afterFrom?_append_of_eq_some {depth : Nat} {tokens rest : List Lexeme}
    (h : afterFrom? depth tokens = some rest) (tail : List Lexeme) :
    afterFrom? depth (tokens ++ tail) = some (rest ++ tail) := by
  induction tokens generalizing depth with
  | nil => cases h
  | cons t tokens ih =>
    rw [afterFrom?] at h
    rw [List.cons_append, afterFrom?]
    split at h
    · next hfrom =>
      cases h
      rw [if_pos hfrom]
    · next hfrom =>
      rw [if_neg hfrom]
      exact ih h

theorem startsQuery_append {tokens : List Lexeme} (h : startsQuery tokens = true)
    (rest : List Lexeme) : startsQuery (tokens ++ rest) = true := by
  cases tokens with
  | nil => cases h
  | cons t tokens => exact h

/-- What stands before the clause makes no difference to it, if the parentheses there match and no
`FROM` is outside them. -/
theorem afterFrom?_append_of_eq_none {depth : Nat} {tokens : List Lexeme}
    (hbalanced : balanced depth tokens = true) (h : afterFrom? depth tokens = none)
    (tail : List Lexeme) : afterFrom? depth (tokens ++ tail) = afterFrom? 0 tail := by
  induction tokens generalizing depth with
  | nil => rw [beq_iff_eq.mp hbalanced, List.nil_append]
  | cons t tokens ih =>
    rw [afterFrom?] at h
    rw [List.cons_append, afterFrom?]
    split at h
    · cases h
    · next hfrom =>
      rw [if_neg hfrom]
      exact ih (balanced_cons hbalanced).2 h

/-- The groups that are open after a token are closed, if those that are open before it are. -/
theorem isSome_groupEnd?_of_depthAfter {depth k : Nat} {t : Lexeme} {rest : List Lexeme}
    (hopening : t.token = .symbol .leftParen → (groupEnd? 0 rest).isSome = true)
    (h : ∀ k, depth = k + 1 → (groupEnd? k (t :: rest)).isSome = true)
    (hk : depthAfter t.token depth = k + 1) : (groupEnd? k rest).isSome = true := by
  unfold depthAfter at hk
  split at hk
  · next ht =>
    obtain rfl := Nat.succ.inj hk
    cases depth with
    | zero => exact hopening ht
    | succ depth => simpa only [groupEnd?, ht] using h depth rfl
  · next ht => simpa only [groupEnd?, ht] using h (k + 1) (by omega)
  · next hopen hclose => simpa only [groupEnd?_cons_of_ne hopen hclose] using h k hk

section

variable {tokens tail : List Lexeme}

theorem scanAlias_append
    (h : (scanAlias tokens).2 = [] → EndsBetween (awaitsAlias tokens) tokens tail) :
    scanAlias (tokens ++ tail) = ((scanAlias tokens).1, (scanAlias tokens).2 ++ tail) := by
  cases tokens with
  | nil => exact scanAlias_of_endsTable ((h rfl).ends.imp fun _ => endsTable_of_isClauseEnd)
  | cons a rest =>
    simp only [List.cons_append, scanAlias] at h ⊢
    split
    · next has =>
      rw [if_pos has] at h
      cases rest with
      | nil =>
        cases tail with
        | nil => rfl
        | cons s more =>
          have hword := nextIs_cons.mp ((h rfl).noWord has)
          cases hs : s.token with
          | word w => simp [hs, Token.word?] at hword
          | _ => simp [hs]
      | cons t more =>
        simp only [List.cons_append]
        split <;> rfl
    · split
      · split <;> rfl
      · rfl

theorem scanName_append {parts : List String} {last : Lexeme}
    (hlast : tokens = [] → last.token = .symbol .period)
    (h : (scanName parts last tokens).2.2 = [] →
      EndsBetween ((scanName parts last tokens).2.1.token == .symbol .period) tokens tail) :
    scanName parts last (tokens ++ tail) =
      ((scanName parts last tokens).1, (scanName parts last tokens).2.1,
        (scanName parts last tokens).2.2 ++ tail) := by
  fun_induction scanName parts last tokens with
  | case1 parts last =>
    cases tail with
    | nil => rfl
    | cons s more =>
      have hword := nextIs_cons.mp ((h rfl).noWord (beq_iff_eq.mpr (hlast rfl)))
      cases hs : s.token with
      | word w => simp [hs, Token.word?] at hword
      | _ => simp [scanName, hs]
  | case2 parts last t w ht dot more hdot ih =>
    have hs : more <:+ t :: dot :: more := (List.suffix_cons dot more).trans (List.suffix_cons t _)
    have hmore := ih (fun _ => beq_iff_eq.mp hdot) fun hnil => (h hnil).of_suffix hs id
    simp only [List.cons_append, scanName, ht, hdot, if_true, hmore]
  | case3 parts last t w ht dot more hdot => simp [scanName, ht, hdot]
  | case4 parts last t w ht =>
    cases tail with
    | nil => simp [scanName, ht]
    | cons s more =>
      have hs := ne_symbol_of_isClauseEnd (nextIs_cons.mp (h rfl).ends) .period (by decide)
        (by decide)
      simp [scanName, ht, hs]
  | case5 parts last t rest ht =>
    rw [List.cons_append, scanName]
    split
    · next w hw => exact absurd hw (ht w)
    · rfl

theorem skipLateral_append (h : skipLateral tokens = [] → NextIs (isClauseEnd · = true) tail) :
    skipLateral (tokens ++ tail) = skipLateral tokens ++ tail := by
  cases tokens with
  | nil =>
    cases tail with
    | nil => rfl
    | cons s more =>
      have hs := isKeyword_of_isClauseEnd (nextIs_cons.mp (h rfl)) "LATERAL" (by decide)
      simp [skipLateral, hs]
  | cons t rest =>
    simp only [List.cons_append, skipLateral]
    split <;> rfl

theorem scanJoin?_append {words : List String}
    (h : scanJoin? words tokens = none → NextIs (isClauseEnd · = true) tail) :
    scanJoin? words (tokens ++ tail) = (scanJoin? words tokens).map fun r => (r.1, r.2 ++ tail) := by
  induction tokens generalizing words with
  | nil =>
    cases tail with
    | nil => rfl
    | cons s more =>
      rw [List.nil_append, scanJoin?]
      rcases isClauseEnd_iff.mp (nextIs_cons.mp (h rfl)) with hs | hs | ⟨w, k, hs, -, hk, hw⟩
      · simp [hs, Token.keyword?, Token.word?, scanJoin?]
      · simp [hs, Token.keyword?, Token.word?, scanJoin?]
      · have hjoin : k ∉ joinWords := (by decide : ∀ k ∈ clauseEnds, k ∉ joinWords) k hk
        have hne : k ≠ "JOIN" := fun heq => hjoin (heq ▸ by decide)
        simp [hs, Token.keyword?, Token.word?, hw, hne, hjoin, scanJoin?]
  | cons t rest ih =>
    simp only [List.cons_append, scanJoin?] at h ⊢
    split
    · next k hk =>
      simp only [hk] at h
      split
      · rfl
      · next hne =>
        rw [if_neg hne] at h
        split
        · next hjoin => exact ih (by simpa only [if_pos hjoin] using h)
        · rfl
    · rfl

/-- A group that is not closed is taken to the end of the tokens, so a clause does not end there. -/
theorem exists_groupEnd?_of_endsBetween {awaited : Bool} {opening : Lexeme} {rest : List Lexeme}
    (hopening : opening.token = .symbol .leftParen)
    (h : groupEnd? 0 rest = none → EndsBetween awaited (opening :: rest) tail) :
    ∃ close more, groupEnd? 0 rest = some (close, more) := by
  cases hgroup : groupEnd? 0 rest with
  | none =>
    have hclosed := (h hgroup).closed opening rest List.suffix_rfl hopening
    rw [hgroup] at hclosed
    cases hclosed
  | some found => exact ⟨found.1, found.2, rfl⟩

theorem afterUsing_append (h : afterUsing tokens = [] → EndsBetween false tokens tail) :
    afterUsing (tokens ++ tail) = afterUsing tokens ++ tail := by
  cases tokens with
  | nil =>
    cases tail with
    | nil => rfl
    | cons s more =>
      have hs := ne_symbol_of_isClauseEnd (nextIs_cons.mp (h rfl).ends) .leftParen (by decide)
        (by decide)
      simp [afterUsing, hs]
  | cons t rest =>
    simp only [List.cons_append, afterUsing] at h ⊢
    split
    · next hopening =>
      rw [if_pos hopening] at h
      obtain ⟨close, more, hgroup⟩ := exists_groupEnd?_of_endsBetween (beq_iff_eq.mp hopening)
        fun hnone => h (by rw [afterGroup, hnone])
      simp only [afterGroup, hgroup, groupEnd?_append_of_eq_some hgroup]
    · rfl

/-- Arguments are passed over as the columns of `USING` are. -/
theorem scanArguments_snd (doc : Document) (last : Lexeme) (tokens : List Lexeme) :
    (scanArguments doc last tokens).2 = afterUsing tokens := by
  cases tokens with
  | nil => rfl
  | cons t rest =>
    simp only [scanArguments, afterUsing]
    split
    · unfold afterGroup
      cases groupEnd? 0 rest <;> rfl
    · rfl

theorem scanArguments_append {as bs : List Char} {last last' nameLast : Lexeme}
    {parse : String → Except ParseFailure Statement}
    (h : afterUsing tokens = [] → EndsBetween false tokens tail) :
    scanArguments ⟨as, last, parse⟩ nameLast (tokens ++ tail) =
      ((scanArguments ⟨bs, last', parse⟩ nameLast tokens).1, afterUsing tokens ++ tail) := by
  refine Prod.ext ?_ (by rw [scanArguments_snd, afterUsing_append h])
  cases tokens with
  | nil =>
    cases tail with
    | nil => rfl
    | cons s more =>
      have hs := ne_symbol_of_isClauseEnd (nextIs_cons.mp (h rfl).ends) .leftParen (by decide)
        (by decide)
      simp [scanArguments, hs]
  | cons t rest =>
    simp only [List.cons_append, scanArguments, afterUsing] at h ⊢
    split
    · next hopening =>
      rw [if_pos hopening] at h
      obtain ⟨close, more, hgroup⟩ := exists_groupEnd?_of_endsBetween (beq_iff_eq.mp hopening)
        fun hnone => h (by rw [afterGroup, hnone])
      simp only [hgroup, groupEnd?_append_of_eq_some hgroup, Option.getD_some]
    · rfl

theorem rest_scanTable (doc : Document) (join : Option String) (first : Lexeme)
    (tokens : List Lexeme) :
    (scanTable doc join first tokens).rest =
      (scanAlias (afterUsing (scanName [] first tokens).2.2)).2 := by
  rw [← scanArguments_snd doc (scanName [] first tokens).2.1]
  rfl

/-- What was made out of a table, where more tokens follow. -/
def Factor.append (f : Factor) (tail : List Lexeme) : Factor := { f with rest := f.rest ++ tail }

variable {as bs : List Char} {last last' : Lexeme} {join : Option String}
  {parse : String → Except ParseFailure Statement}

theorem scanTable_append {t : Lexeme} {rest : List Lexeme}
    (h : (scanTable ⟨bs, last', parse⟩ join t (t :: rest)).rest = [] →
      EndsBetween (awaitsPart t (t :: rest)) (t :: rest) tail) :
    scanTable ⟨as, last, parse⟩ join t (t :: rest ++ tail) =
      (scanTable ⟨bs, last', parse⟩ join t (t :: rest)).append tail := by
  rw [rest_scanTable] at h
  have hafter := suffix_scanName [] t (t :: rest)
  -- The parts of the table come to the end of the tokens only if the table does.
  have hname : scanName [] t (t :: rest ++ tail) =
      ((scanName [] t (t :: rest)).1, (scanName [] t (t :: rest)).2.1,
        (scanName [] t (t :: rest)).2.2 ++ tail) := by
    refine scanName_append (fun hnil => absurd hnil (List.cons_ne_nil _ _)) fun hnil => ?_
    refine (h (by rw [hnil]; rfl)).of_suffix List.suffix_rfl fun hdot => ?_
    simp only [awaitsPart, hnil, List.isEmpty_nil, hdot, Bool.and_self, Bool.true_or]
  have harguments : scanArguments ⟨as, last, parse⟩ (scanName [] t (t :: rest)).2.1
      ((scanName [] t (t :: rest)).2.2 ++ tail) =
        ((scanArguments ⟨bs, last', parse⟩ (scanName [] t (t :: rest)).2.1
          (scanName [] t (t :: rest)).2.2).1, afterUsing (scanName [] t (t :: rest)).2.2 ++ tail) :=
    scanArguments_append fun hnil => (h (by rw [hnil]; rfl)).of_suffix hafter nofun
  have halias : scanAlias (afterUsing (scanName [] t (t :: rest)).2.2 ++ tail) =
      ((scanAlias (afterUsing (scanName [] t (t :: rest)).2.2)).1,
        (scanAlias (afterUsing (scanName [] t (t :: rest)).2.2)).2 ++ tail) := by
    refine scanAlias_append fun hnil => ?_
    refine (h hnil).of_suffix ((suffix_afterUsing _).trans hafter) fun has => ?_
    simp only [awaitsPart, has, Bool.or_true]
  simp only [scanTable, Factor.append, hname, harguments, halias, scanArguments_snd]

theorem scanGroup_append {opening : Lexeme} (hopening : opening.token = .symbol .leftParen)
    (hsame : SameInside as bs (opening :: tokens))
    (h : (scanGroup ⟨bs, last', parse⟩ opening tokens).rest = [] →
      EndsBetween (awaitsAlias (afterGroup tokens)) (opening :: tokens) tail) :
    scanGroup ⟨as, last, parse⟩ opening (tokens ++ tail) =
      (scanGroup ⟨bs, last', parse⟩ opening tokens).append tail := by
  obtain ⟨close, more, hgroup⟩ := exists_groupEnd?_of_endsBetween hopening fun hnone => h (by
    simp only [scanGroup, scanSubquery, afterGroup, hnone]
    split <;> rfl)
  have htext := hsame opening tokens close more List.suffix_rfl hopening hgroup
  have hstart : startsQuery (tokens ++ tail) = startsQuery tokens := by
    cases tokens with
    | nil => cases hgroup
    | cons t rest => rfl
  have hlonger := groupEnd?_append_of_eq_some hgroup tail
  have hmore : more <:+ opening :: tokens :=
    (List.suffix_cons close more).trans ((suffix_of_groupEnd? hgroup).trans (List.suffix_cons _ _))
  have halias : scanAlias (more ++ tail) = ((scanAlias more).1, (scanAlias more).2 ++ tail) := by
    refine scanAlias_append fun hnil => ?_
    refine (h ?_).of_suffix hmore fun has => by simpa only [afterGroup, hgroup] using has
    simp only [scanGroup, scanSubquery, afterGroup, hgroup]
    split <;> exact hnil
  simp only [scanGroup, hstart]
  split
  · simp only [scanSubquery, hgroup, hlonger, htext, halias, Factor.append]
  · simp only [afterGroup, hgroup, hlonger, halias, Factor.append, Option.isSome_some]

/-- **A table is made out the same where more tokens follow**, if it leaves a token or the clause
ends with it. -/
theorem scanFactor_append (hsame : SameInside as bs tokens)
    (h : (scanFactor ⟨bs, last', parse⟩ join tokens).rest = [] →
      EndsBetween (awaitsWord tokens) tokens tail) :
    scanFactor ⟨as, last, parse⟩ join (tokens ++ tail) =
      (scanFactor ⟨bs, last', parse⟩ join tokens).append tail := by
  have hs := suffix_skipLateral tokens
  have hskip : skipLateral (tokens ++ tail) = skipLateral tokens ++ tail :=
    skipLateral_append fun hnil => (h (by simp only [scanFactor, hnil])).ends
  simp only [scanFactor, awaitsWord, hskip] at h ⊢
  cases hlateral : skipLateral tokens with
  | nil =>
    simp only [hlateral, forall_const] at h
    cases tail with
    | nil => rfl
    | cons s more =>
      have hends := nextIs_cons.mp h.ends
      have hparen := ne_symbol_of_isClauseEnd hends .leftParen (by decide) (by decide)
      simp only [List.nil_append]
      split
      · next ht => exact absurd ht hparen
      · next w hw => simp [isName_of_isClauseEnd hends hw, Factor.append]
      · rfl
  | cons t rest =>
    rw [hlateral] at hs
    simp only [hlateral, List.cons_append] at h ⊢
    split
    · next hopening =>
      simp only [hopening] at h
      exact scanGroup_append hopening (hsame.of_suffix hs) fun hnil => (h hnil).of_suffix hs id
    · next w hw =>
      simp only [hw] at h
      split
      · next hname =>
        simp only [hname, if_true, Bool.true_and] at h
        exact scanTable_append fun hnil => (h hnil).of_suffix hs id
      · rfl
    · rfl

/-- A condition ends where it ends by itself, with the parentheses that it opens closed. -/
theorem afterCondition_append {depth : Nat}
    (h : afterCondition depth tokens = [] → EndsBetween false tokens tail ∧
      ∀ k, depth = k + 1 → (groupEnd? k tokens).isSome = true) :
    afterCondition depth (tokens ++ tail) = afterCondition depth tokens ++ tail := by
  induction tokens generalizing depth with
  | nil =>
    obtain ⟨hends, hdepth⟩ := h rfl
    cases depth with
    | zero =>
      cases tail with
      | nil => rfl
      | cons s more =>
        have hs := endsCondition_of_isClauseEnd (nextIs_cons.mp hends.ends)
        simp [afterCondition, hs]
    | succ depth => cases hdepth depth rfl
  | cons t rest ih =>
    rw [afterCondition] at h
    rw [List.cons_append, afterCondition, afterCondition]
    split
    · rfl
    · next hgoes =>
      rw [if_neg hgoes] at h
      refine ih fun hnil => ?_
      obtain ⟨hends, hdepth⟩ := h hnil
      refine ⟨hends.of_suffix (List.suffix_cons t rest) id, fun k hk => ?_⟩
      exact isSome_groupEnd?_of_depthAfter (hends.closed t rest List.suffix_rfl) hdepth hk

/-- **What follows a table is passed over the same where more tokens follow**, if another table
comes next or the clause ends there. -/
theorem afterFactor_append {entries : List FromEntry}
    (h : (afterFactor entries tokens).2 = none → EndsBetween false tokens tail) :
    afterFactor entries (tokens ++ tail) =
      ((afterFactor entries tokens).1,
        (afterFactor entries tokens).2.map fun next => (next.1, next.2 ++ tail)) := by
  fun_induction afterFactor entries tokens with
  | case1 entries => rw [List.nil_append, afterFactor_of_isClauseEnd entries (h rfl).ends, Option.map_none]
  | case2 entries t more hcomma => simp [afterFactor, hcomma]
  | case3 entries t more hcomma hon ih =>
    have hs := List.suffix_cons t more
    have hcondition : afterCondition 0 (more ++ tail) = afterCondition 0 more ++ tail := by
      refine afterCondition_append fun hnil => ⟨?_, fun k hk => absurd hk (Nat.succ_ne_zero k).symm⟩
      exact (h (by rw [hnil, afterFactor])).of_suffix hs id
    rw [List.cons_append, afterFactor, if_neg hcomma, if_pos hon, hcondition]
    exact ih fun hnone => (h hnone).of_suffix ((suffix_afterCondition 0 more).trans hs) id
  | case4 entries t more hcomma hon husing ih =>
    have hs := List.suffix_cons t more
    have hcolumns : afterUsing (more ++ tail) = afterUsing more ++ tail :=
      afterUsing_append fun hnil => (h (by rw [hnil, afterFactor])).of_suffix hs id
    rw [List.cons_append, afterFactor, if_neg hcomma, if_neg hon, if_pos husing, hcolumns]
    exact ih fun hnone => (h hnone).of_suffix ((suffix_afterUsing more).trans hs) id
  | case5 entries t more hcomma hon husing hjoin =>
    have hwords : scanJoin? [] (t :: more ++ tail) =
        (scanJoin? [] (t :: more)).map fun r => (r.1, r.2 ++ tail) :=
      scanJoin?_append fun hnone => (h (by rw [hnone, Option.map_none])).ends
    rw [List.cons_append, afterFactor, if_neg hcomma, if_neg hon, if_neg husing, if_pos hjoin,
      ← List.cons_append, hwords]
    cases scanJoin? [] (t :: more) <;> rfl
  | case6 entries t more hcomma hon husing hjoin =>
    rw [List.cons_append, afterFactor, if_neg hcomma, if_neg hon, if_neg husing, if_neg hjoin]
    rfl

end

/-! ## Whole clauses -/

/-- What follows the table that the tokens start with, if the clause can go on after it. -/
def afterTable? (tokens : List Lexeme) : Option (List Lexeme) :=
  match skipLateral tokens with
  | t :: rest =>
    match t.token with
    | .symbol .leftParen => (groupEnd? 0 rest).map fun found => (scanAlias found.2).2
    | .word w =>
      if isName w then some (scanAlias (afterUsing (scanName [] t (t :: rest)).2.2)).2 else none
    | _ => none
  | [] => none

theorem reach_scanGroup (doc : Document) (opening : Lexeme) (tokens : List Lexeme) :
    (if (scanGroup doc opening tokens).continues then some (scanGroup doc opening tokens).rest
      else none) = (groupEnd? 0 tokens).map fun found => (scanAlias found.2).2 := by
  unfold scanGroup
  split
  · cases hgroup : groupEnd? 0 tokens <;> simp [scanSubquery, hgroup]
  · cases hgroup : groupEnd? 0 tokens <;> simp [afterGroup, hgroup]

/-- How far a table reaches is the same in every document. -/
theorem afterTable?_eq (doc : Document) (join : Option String) (tokens : List Lexeme) :
    afterTable? tokens =
      if (scanFactor doc join tokens).continues then some (scanFactor doc join tokens).rest
      else none := by
  unfold afterTable? scanFactor
  cases skipLateral tokens with
  | nil => rfl
  | cons t rest =>
    obtain ⟨token, range⟩ := t
    cases token with
    | symbol s =>
      cases s with
      | leftParen => exact (reach_scanGroup doc _ rest).symm
      | _ => rfl
    | word w =>
      by_cases hname : isName w = true
      · simp only [hname, if_true, ← rest_scanTable doc join]
        rfl
      · simp only [hname]
        rfl
    | _ => rfl

/-- Which table comes next does not depend on the entries so far. -/
theorem afterFactor_snd (entries entries' : List FromEntry) (tokens : List Lexeme) :
    (afterFactor entries tokens).2 = (afterFactor entries' tokens).2 := by
  fun_induction afterFactor entries tokens generalizing entries' with
  | case1 => rw [afterFactor]
  | case2 entries t more hcomma => rw [afterFactor, if_pos hcomma]
  | case3 entries t more hcomma hon ih => rw [afterFactor, if_neg hcomma, if_pos hon, ih]
  | case4 entries t more hcomma hon husing ih =>
    rw [afterFactor, if_neg hcomma, if_neg hon, if_pos husing, ih]
  | case5 entries t more hcomma hon husing hjoin =>
    rw [afterFactor, if_neg hcomma, if_neg hon, if_neg husing, if_pos hjoin]
  | case6 entries t more hcomma hon husing hjoin =>
    rw [afterFactor, if_neg hcomma, if_neg hon, if_neg husing, if_neg hjoin]

theorem length_lt_of_afterTable? {tokens rest : List Lexeme} (h : afterTable? tokens = some rest) :
    rest.length < tokens.length := by
  cases tokens with
  | nil => cases h
  | cons t more =>
    rw [afterTable?_eq ⟨[], t, fun _ => .error (.other "")⟩ none] at h
    split at h
    · next hcontinues =>
      cases h
      exact length_lt_of_scanFactor hcontinues
    · cases h

/-- The tokens of a clause are at an end within its last table: the next word belongs to it. -/
def clauseAwaits (tokens : List Lexeme) : Bool :=
  awaitsWord tokens ||
    match _ : afterTable? tokens with
    | some rest =>
      match _ : afterFactor [] rest with
      | (_, some (_, next)) => clauseAwaits next
      | (_, none) => false
    | none => false
termination_by tokens.length
decreasing_by
  exact Nat.lt_trans (length_lt_of_afterFactor (by assumption))
    (length_lt_of_afterTable? (by assumption))

theorem clauseAwaits_of_awaitsWord {tokens : List Lexeme} (h : awaitsWord tokens = true) :
    clauseAwaits tokens = true := by
  rw [clauseAwaits, h, Bool.true_or]

section

variable {tail : List Lexeme} {as bs : List Char} {tokens : List Lexeme}
  {parse : String → Except ParseFailure Statement}

theorem clauseAwaits_of_next {doc : Document} {join join' : Option String}
    {entries entries' : List FromEntry} {rest : List Lexeme}
    (hcontinues : (scanFactor doc join tokens).continues = true)
    (hafter : afterFactor entries (scanFactor doc join tokens).rest = (entries', some (join', rest)))
    (h : clauseAwaits rest = true) : clauseAwaits tokens = true := by
  have htable : afterTable? tokens = some (scanFactor doc join tokens).rest := by
    rw [afterTable?_eq doc join, if_pos hcontinues]
  have hnext := congrArg Prod.snd hafter
  rw [afterFactor_snd entries []] at hnext
  rw [clauseAwaits, Bool.or_eq_true]
  refine .inr ?_
  split
  · next more hmore =>
    cases hmore.symm.trans htable
    split
    · next join'' next' hfound =>
      rw [hfound] at hnext
      cases hnext
      exact h
    · next hfound =>
      rw [hfound] at hnext
      cases hnext
  · next hmore => cases hmore.symm.trans htable

theorem scanEntries_append (hsame : SameInside as bs tokens)
    (h : EndsBetween (clauseAwaits tokens) tokens tail) (last last' : Lexeme)
    (join : Option String) (entries : List FromEntry) :
    scanEntries ⟨as, last, parse⟩ join entries (tokens ++ tail) =
      scanEntries ⟨bs, last', parse⟩ join entries tokens := by
  have hfactor {join : Option String} {tokens : List Lexeme} (hsame : SameInside as bs tokens)
      (h : EndsBetween (clauseAwaits tokens) tokens tail) :
      scanFactor ⟨as, last, parse⟩ join (tokens ++ tail) =
        (scanFactor ⟨bs, last', parse⟩ join tokens).append tail :=
    scanFactor_append hsame fun _ => h.of_suffix List.suffix_rfl clauseAwaits_of_awaitsWord
  have hafter {join : Option String} {tokens : List Lexeme} (entries : List FromEntry)
      (h : EndsBetween (clauseAwaits tokens) tokens tail) :
      afterFactor entries ((scanFactor ⟨bs, last', parse⟩ join tokens).rest ++ tail) =
        ((afterFactor entries (scanFactor ⟨bs, last', parse⟩ join tokens).rest).1,
          (afterFactor entries (scanFactor ⟨bs, last', parse⟩ join tokens).rest).2.map
            fun next => (next.1, next.2 ++ tail)) :=
    afterFactor_append fun _ => h.of_suffix (suffix_scanFactor _ join tokens) nofun
  induction join, entries, tokens using scanEntries_induction ⟨bs, last', parse⟩ with
  | stop join entries tokens hstop hscan =>
    rw [hscan, scanEntries_eq, hfactor hsame h]
    simp only [Factor.append, hstop, Bool.false_eq_true, if_false]
  | last join entries tokens entries' hcontinues hnext hscan =>
    rw [hscan, scanEntries_eq, hfactor hsame h]
    simp only [Factor.append, hcontinues, if_true, hafter _ h, hnext, Option.map_none]
  | next join entries tokens entries' join' rest hcontinues hnext hscan ih =>
    have hs := (suffix_of_afterFactor hnext).trans (suffix_scanFactor _ join tokens)
    rw [hscan, scanEntries_eq ⟨as, last, parse⟩, hfactor hsame h]
    simp only [Factor.append, hcontinues, if_true, hafter _ h, hnext, Option.map_some]
    exact ih (hsame.of_suffix hs) (h.of_suffix hs (clauseAwaits_of_next hcontinues hnext))

/-- **The scan reads the text of the document only between the parentheses of subqueries, and no
token after the one that ends the clause.** -/
theorem scan_append {a b : String} {clause : List Lexeme} (hfrom : afterFrom? 0 tokens = some clause)
    (hsame : SameInside a.toList b.toList clause)
    (h : EndsBetween (clauseAwaits clause) clause tail) :
    scan parse a (tokens ++ tail) = scan parse b tokens := by
  obtain ⟨last, -, hscan⟩ := exists_scan_eq hfrom parse b
  obtain ⟨last', -, hlonger⟩ := exists_scan_eq (afterFrom?_append_of_eq_some hfrom tail) parse a
  rw [hlonger, hscan, scanEntries_append hsame h last' last]

end

/-- What stands before the clause makes no difference to the scan. -/
theorem scan_append_left {before tokens : List Lexeme} (hbalanced : balanced 0 before = true)
    (hbefore : afterFrom? 0 before = none) (parse : String → Except ParseFailure Statement)
    (text : String) : scan parse text (before ++ tokens) = scan parse text tokens := by
  have hall := afterFrom?_append_of_eq_none hbalanced hbefore tokens
  cases hfrom : afterFrom? 0 tokens with
  | none =>
    rw [hfrom] at hall
    simp only [scan, hfrom, hall]
  | some clause =>
    obtain ⟨last, hlast, hscan⟩ := exists_scan_eq hfrom parse text
    obtain ⟨last', hlast', hlonger⟩ := exists_scan_eq (hall.trans hfrom) parse text
    rw [List.getLast?_append, hlast, Option.some_or] at hlast'
    cases hlast'
    rw [hlonger, hscan]

/-- The end of the text ends a clause. -/
theorem endsBetween_nil {awaited : Bool} {tokens : List Lexeme} (h : Closed tokens) :
    EndsBetween awaited tokens [] where
  closed := h
  ends := .nil _
  noWord := fun _ => .nil _

/-- The text of the document is read nowhere else. -/
theorem scan_congr {a b : String} {tokens : List Lexeme}
    {parse : String → Except ParseFailure Statement}
    (h : SameGroups a.toList b.toList tokens) : scan parse a tokens = scan parse b tokens := by
  cases hfrom : afterFrom? 0 tokens with
  | none => simp only [scan, hfrom]
  | some clause =>
    have hclause := h.of_suffix (suffix_of_afterFrom? hfrom)
    have hsame : scan parse a (tokens ++ []) = scan parse b tokens :=
      scan_append hfrom hclause.sameInside (endsBetween_nil hclause.closed)
    rwa [List.append_nil] at hsame

/-! ## A text that goes on -/

/-- More text after a text changes none of the groups that its tokens close. -/
theorem sameInside_append {text more : List Char} {tokens : List Lexeme}
    (htokens : ∀ t ∈ tokens, InText text t.range.start ∧ InText text t.range.stop) :
    SameInside (text ++ more) text tokens := by
  intro opening rest close after hs hopening hgroup
  have hclose : close ∈ tokens := by
    refine hs.subset (List.mem_cons_of_mem opening ?_)
    exact (suffix_of_groupEnd? hgroup).subset (List.mem_cons_self ..)
  -- Both parentheses stand in the text, and so does all between them.
  obtain ⟨as, has, hstart⟩ := (htokens opening (hs.subset (List.mem_cons_self ..))).2
  obtain ⟨bs, hbs, hstop⟩ := (htokens close hclose).1
  rw [hstart, hstop, offset_endLocation, offset_endLocation, slice_append_of_prefix has hbs]

/-- Where parentheses match, all groups are closed. -/
theorem closed_of_balanced {tokens : List Lexeme} (h : balanced 0 tokens = true) : Closed tokens :=
  fun _ _ hs hopening => isSome_groupEnd?_of_suffix h hs hopening

/-- Where the parentheses of a text match, more text after it changes none of its groups. -/
theorem sameGroups_append {text more : List Char} {tokens : List Lexeme}
    (hbalanced : balanced 0 tokens = true)
    (htokens : ∀ t ∈ tokens, InText text t.range.start ∧ InText text t.range.stop) :
    SameGroups (text ++ more) text tokens := by
  intro opening rest hs hopening
  obtain ⟨⟨close, after⟩, hgroup⟩ :=
    Option.isSome_iff_exists.mp (closed_of_balanced hbalanced opening rest hs hopening)
  exact ⟨close, after, hgroup, sameInside_append htokens opening rest close after hs hopening hgroup⟩

end SqlCompletion.Sql.FromClause
