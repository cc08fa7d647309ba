import SqlCompletion.Proofs.Parentheses

/-!
# Where an INSERT names its columns

Where the text of an INSERT ends in its list of columns, columns are offered and nothing else.
Whether it does is decided by counting the parentheses that are open at the end, from the list on.
The count does not know which parenthesis is which: besides a list that is still open, any later
parenthesis that stays open makes it positive.

* `columnList?_eq_some_iff`: the list starts at the first parenthesis before the rows.
* `inColumnName_insert_iff`: a column is named in a list that is open, or behind a list that is
  closed, in a parenthesis that stays open.
-/

namespace SqlCompletion.Sql

variable {t : Token} {tokens rest : List Token}

/-! ## The list of columns -/

/-- The tokens hold a list of columns, which `list` follows from behind its parenthesis: the first
parenthesis, if nothing before it starts the rows. -/
def OpensColumns (tokens list : List Token) : Prop :=
  ∃ before, tokens = before ++ .symbol .leftParen :: list ∧
    ∀ t ∈ before, t ≠ .symbol .leftParen ∧ startsRows t = false

theorem opensColumns_leftParen {list : List Token} :
    OpensColumns (.symbol .leftParen :: rest) list ↔ list = rest := by
  constructor
  · rintro ⟨before, htokens, hbefore⟩
    cases before with
    | nil => exact (List.cons.inj htokens).2.symm
    | cons u before =>
      obtain ⟨rfl, -⟩ := List.cons.inj htokens
      exact absurd rfl (hbefore _ List.mem_cons_self).1
  · rintro rfl
    exact ⟨[], rfl, by simp⟩

theorem opensColumns_cons (hopen : t ≠ .symbol .leftParen) {list : List Token} :
    OpensColumns (t :: rest) list ↔ startsRows t = false ∧ OpensColumns rest list := by
  constructor
  · rintro ⟨before, htokens, hbefore⟩
    cases before with
    | nil => exact absurd (List.cons.inj htokens).1 hopen
    | cons u before =>
      obtain ⟨rfl, rfl⟩ := List.cons.inj htokens
      obtain ⟨ht, hbefore⟩ := List.forall_mem_cons.mp hbefore
      exact ⟨ht.2, before, rfl, hbefore⟩
  · rintro ⟨hrows, before, rfl, hbefore⟩
    exact ⟨t :: before, rfl, List.forall_mem_cons.mpr ⟨⟨hopen, hrows⟩, hbefore⟩⟩

theorem columnList?_eq_some_iff {found : List Token} :
    columnList? tokens = some found ↔
      ∃ list, OpensColumns tokens list ∧ found = .symbol .leftParen :: list := by
  induction tokens with
  | nil => simp [columnList?, OpensColumns]
  | cons t rest ih =>
    rw [columnList?]
    by_cases hopen : t = .symbol .leftParen
    · subst hopen
      simp [opensColumns_leftParen, eq_comm]
    · rw [if_neg hopen]
      cases hrows : startsRows t with
      | true => simp [opensColumns_cons hopen, hrows]
      | false => simpa [opensColumns_cons hopen, hrows] using ih

/-- A name may follow the tokens or be their end: they end in a word, a comma or an opening
parenthesis. -/
def AwaitsName (tokens : List Token) : Prop :=
  ∃ t, tokens.getLast? = some t ∧
    ((∃ w, t = .word w) ∨ t = .symbol .comma ∨ t = .symbol .leftParen)

theorem OpensColumns.unique {list list' : List Token} (h : OpensColumns tokens list)
    (h' : OpensColumns tokens list') : list = list' := by
  have hfound := columnList?_eq_some_iff.mpr ⟨list, h, rfl⟩
  rw [columnList?_eq_some_iff.mpr ⟨list', h', rfl⟩] at hfound
  exact (List.cons.inj (Option.some.inj hfound)).2.symm

theorem inInsertColumns_iff :
    inInsertColumns tokens = true ↔
      AwaitsName tokens ∧ ∃ list, OpensColumns tokens list ∧
        0 < openParens (.symbol .leftParen :: list) := by
  unfold inInsertColumns
  split
  · next hnone =>
    constructor
    · intro h
      cases h
    · rintro ⟨-, list, hlist, -⟩
      rw [columnList?_eq_some_iff.mpr ⟨list, hlist, rfl⟩] at hnone
      cases hnone
  · next found hfound =>
    obtain ⟨list, hlist, rfl⟩ := columnList?_eq_some_iff.mp hfound
    have hcount : (∃ list, OpensColumns tokens list ∧ 0 < openParens (.symbol .leftParen :: list)) ↔
        0 < openParens (.symbol .leftParen :: list) := by
      constructor
      · rintro ⟨list', hlist', hpos⟩
        rwa [hlist.unique hlist']
      · exact fun hpos => ⟨list, hlist, hpos⟩
    rw [hcount, Bool.and_eq_true, decide_eq_true_eq, and_comm]
    refine and_congr_left fun _ => ?_
    split
    · next w hlast => exact iff_of_true rfl ⟨_, hlast, Or.inl ⟨w, rfl⟩⟩
    · next hlast => exact iff_of_true rfl ⟨_, hlast, Or.inr (Or.inl rfl)⟩
    · next hlast => exact iff_of_true rfl ⟨_, hlast, Or.inr (Or.inr rfl)⟩
    · next hword hcomma hparen =>
      refine iff_of_false Bool.false_ne_true ?_
      rintro ⟨t, hlast, ⟨w, rfl⟩ | rfl | rfl⟩
      · exact hword w hlast
      · exact hcomma hlast
      · exact hparen hlast

/-- **Where the text of an INSERT ends in a column name.** It ends in a word, a comma or an opening
parenthesis, and its list of columns is still open; or the list is closed, and behind it some
parenthesis stays open. -/
theorem inColumnName_insert_iff {w : Word} (hw : w.isKeyword "INSERT" = true)
    (rest : List Token) :
    inColumnName (.word w :: rest) = true ↔
      AwaitsName (.word w :: rest) ∧ ∃ list, OpensColumns (.word w :: rest) list ∧
        (StaysOpen list ∨ ∃ later, ClosesBefore list later ∧ LeavesOpen later) := by
  rw [inColumnName, if_pos hw, inInsertColumns_iff]
  simp only [zero_lt_openParens_cons_iff]

/-- The list is closed, and the parenthesis of a row of values is open. -/
theorem inColumnName_insert_iff_values :
    ∃ w rest list later, tokensOf .generic "INSERT INTO t (x) VALUES (y" = .word w :: rest ∧
      OpensColumns (.word w :: rest) list ∧ ClosesBefore list later ∧
      inColumnName (.word w :: rest) = true := by
  let row : List Token := [.word ⟨"y", none, none⟩]
  let later : List Token := .word ⟨"VALUES", none, some "VALUES"⟩ :: .symbol .leftParen :: row
  let list : List Token := .word ⟨"x", none, none⟩ :: .symbol .rightParen :: later
  let rest : List Token := .word ⟨"INTO", none, some "INTO"⟩ :: .word ⟨"t", none, none⟩ ::
    .symbol .leftParen :: list
  have htokens : tokensOf .generic "INSERT INTO t (x) VALUES (y" =
      .word ⟨"INSERT", none, some "INSERT"⟩ :: rest := by
    decide +kernel
  have hlist : OpensColumns (.word ⟨"INSERT", none, some "INSERT"⟩ :: rest) list :=
    ⟨[_, _, _], rfl, by decide⟩
  have hcloses : ClosesBefore list later :=
    ⟨[_], .token (by decide) (by decide) .nil, rfl⟩
  have hstays : StaysOpen row := by
    rintro more ⟨inside, -, hrow⟩
    have hmem : Token.symbol .rightParen ∈ row := by
      rw [hrow]
      exact List.mem_append_right inside List.mem_cons_self
    exact absurd hmem (by decide)
  refine ⟨_, rest, list, later, htokens, hlist, hcloses, ?_⟩
  exact (inColumnName_insert_iff rfl rest).mpr
    ⟨⟨_, rfl, Or.inl ⟨_, rfl⟩⟩, list, hlist, Or.inr ⟨later, hcloses, ⟨[_], row, rfl, hstays⟩⟩⟩

end SqlCompletion.Sql
