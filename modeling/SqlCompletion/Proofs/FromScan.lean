import SqlCompletion.Sql.FromClause

/-!
# The scan of a FROM clause

Every part of the scan hands on a rest of the tokens that it was given, so what holds of all tokens
of a clause holds wherever the scan has come to.

* `groupEnd?_append`: matching parentheses are passed over on the way to the end of a group.
* `groupEnd?_eq_some_iff`: a group ends at the parenthesis before which all match.
* `afterCondition_cons_leftParen`: a condition passes over a group as a whole.
* `suffix_scanFactor`, `suffix_of_afterFactor`: a table, and what stands between two tables, leave a
  rest of the tokens.
* `scanEntries_induction`: induction on the tables of a clause.
* `forall_mem_scanEntries`: every entry is made out of a table.
-/

namespace SqlCompletion.Sql.FromClause

/-! ## Matching parentheses -/

/-- Where `depth` parentheses are open, the tokens close them all, and none that is not open. -/
def balanced (depth : Nat) : List Lexeme → Bool
  | [] => depth == 0
  | t :: rest =>
    match t.token with
    | .symbol .leftParen => balanced (depth + 1) rest
    | .symbol .rightParen =>
      match depth with
      | 0 => false
      | depth + 1 => balanced depth rest
    | _ => balanced depth rest

/-- Where no parenthesis is open, a token of a text in which all match does not close one. -/
theorem balanced_cons {depth : Nat} {t : Lexeme} {rest : List Lexeme}
    (h : balanced depth (t :: rest) = true) :
    (depth = 0 → t.token ≠ .symbol .rightParen) ∧
      balanced (depthAfter t.token depth) rest = true := by
  unfold balanced at h
  split at h
  · next ht => simpa [ht, depthAfter] using h
  · next ht =>
    split at h
    · cases h
    · simpa [ht, depthAfter] using h
  · next hopen hclose =>
    refine ⟨fun _ => hclose, ?_⟩
    rw [depthAfter]
    · exact h
    · exact hopen
    · exact hclose

theorem balanced_cons_iff {depth : Nat} {t : Lexeme} {rest : List Lexeme} :
    balanced depth (t :: rest) = true ↔
      (depth = 0 → t.token ≠ .symbol .rightParen) ∧
        balanced (depthAfter t.token depth) rest = true := by
  refine ⟨balanced_cons, fun ⟨hclose, hrest⟩ => ?_⟩
  unfold balanced
  split
  · next ht => rwa [ht] at hrest
  · next ht =>
    cases depth with
    | zero => exact absurd ht (hclose rfl)
    | succ depth => rwa [ht] at hrest
  · next hopen hshut =>
    rwa [depthAfter] at hrest
    · exact hopen
    · exact hshut

/-- What a text opens, a text behind it can close. -/
theorem balanced_append {depth outer : Nat} {as bs : List Lexeme} (has : balanced depth as = true)
    (hbs : balanced outer bs = true) : balanced (depth + outer) (as ++ bs) = true := by
  induction as generalizing depth with
  | nil => rwa [beq_iff_eq.mp has, Nat.zero_add, List.nil_append]
  | cons t as ih =>
    obtain ⟨hclose, hrest⟩ := balanced_cons has
    have hdepth : depthAfter t.token (depth + outer) = depthAfter t.token depth + outer := by
      unfold depthAfter
      split
      · omega
      · next ht =>
        have hpos : depth ≠ 0 := fun h0 => hclose h0 ht
        omega
      · rfl
    refine balanced_cons_iff.mpr ⟨fun h0 => hclose (by omega), ?_⟩
    rw [hdepth]
    exact ih hrest

theorem groupEnd?_cons_of_ne {depth : Nat} {t : Lexeme} {rest : List Lexeme}
    (hopen : t.token ≠ .symbol .leftParen) (hclose : t.token ≠ .symbol .rightParen) :
    groupEnd? depth (t :: rest) = groupEnd? depth rest := by
  conv => lhs; unfold groupEnd?
  split
  · next ht => exact absurd ht hopen
  · next ht => exact absurd ht hclose
  · rfl

/-- The end of a group is not among tokens whose parentheses match. -/
theorem groupEnd?_append {depth : Nat} {tokens : List Lexeme} (h : balanced depth tokens = true)
    (rest : List Lexeme) : groupEnd? depth (tokens ++ rest) = groupEnd? 0 rest := by
  fun_induction balanced depth tokens with
  | case1 depth => rw [beq_iff_eq.mp h, List.nil_append]
  | case2 depth t more ht ih => simp only [List.cons_append, groupEnd?, ht, ih h]
  | case3 => cases h
  | case4 t more ht depth ih => simp only [List.cons_append, groupEnd?, ht, ih h]
  | case5 depth t more hopen hclose ih =>
    rw [List.cons_append, groupEnd?_cons_of_ne hopen hclose, ih h]

/-- A group ends with its parenthesis where those in it match. -/
theorem groupEnd?_closed {body : List Lexeme} (h : balanced 0 body = true) (close : Lexeme)
    (hclose : close.token = .symbol .rightParen) (rest : List Lexeme) :
    groupEnd? 0 (body ++ close :: rest) = some (close, rest) := by
  rw [groupEnd?_append h]
  simp only [groupEnd?, hclose]

theorem isSome_groupEnd? {outer depth : Nat} {tokens : List Lexeme}
    (h : balanced depth tokens = true) (hlt : outer < depth) :
    (groupEnd? outer tokens).isSome = true := by
  fun_induction balanced depth tokens generalizing outer with
  | case1 depth =>
    rw [beq_iff_eq.mp h] at hlt
    cases hlt
  | case2 depth t more ht ih =>
    simp only [groupEnd?, ht]
    exact ih h (Nat.succ_lt_succ hlt)
  | case3 => cases h
  | case4 t more ht depth ih =>
    simp only [groupEnd?, ht]
    cases outer with
    | zero => rfl
    | succ outer => exact ih h (Nat.lt_of_succ_lt_succ hlt)
  | case5 depth t more hopen hclose ih =>
    rw [groupEnd?_cons_of_ne hopen hclose]
    exact ih h hlt

/-- Where parentheses match, every group that is opened is closed. -/
theorem isSome_groupEnd?_of_suffix {depth : Nat} {tokens rest : List Lexeme} {opening : Lexeme}
    (h : balanced depth tokens = true) (hs : opening :: rest <:+ tokens)
    (hopening : opening.token = .symbol .leftParen) : (groupEnd? 0 rest).isSome = true := by
  fun_induction balanced depth tokens with
  | case1 => cases List.suffix_nil.mp hs
  | case2 depth t more ht ih =>
    rcases List.suffix_cons_iff.mp hs with hs | hs
    · cases hs
      exact isSome_groupEnd? h (Nat.succ_pos depth)
    · exact ih h hs
  | case3 => cases h
  | case4 t more ht depth ih =>
    rcases List.suffix_cons_iff.mp hs with hs | hs
    · cases hs
      rw [ht] at hopening
      cases hopening
    · exact ih h hs
  | case5 depth t more hopen hclose ih =>
    rcases List.suffix_cons_iff.mp hs with hs | hs
    · cases hs
      exact absurd hopening hopen
    · exact ih h hs

theorem balanced_cons_of_ne {depth : Nat} {t : Lexeme} {rest : List Lexeme}
    (hopen : t.token ≠ .symbol .leftParen) (hclose : t.token ≠ .symbol .rightParen) :
    balanced depth (t :: rest) = balanced depth rest := by
  conv => lhs; unfold balanced
  split
  · next ht => exact absurd ht hopen
  · next ht => exact absurd ht hclose
  · rfl

/-- **The end of a group is the parenthesis before which all match.** -/
theorem groupEnd?_eq_some_iff {depth : Nat} {tokens rest : List Lexeme} {close : Lexeme} :
    groupEnd? depth tokens = some (close, rest) ↔
      ∃ inner, tokens = inner ++ close :: rest ∧ balanced depth inner = true ∧
        close.token = .symbol .rightParen := by
  constructor
  · intro h
    fun_induction groupEnd? depth tokens with
    | case1 => cases h
    | case3 t more ht =>
      cases h
      exact ⟨[], rfl, rfl, ht⟩
    | case2 depth t more ht ih | case4 t more ht depth ih =>
      obtain ⟨inner, rfl, hinner, hclose⟩ := ih h
      exact ⟨t :: inner, rfl, by simpa only [balanced, ht] using hinner, hclose⟩
    | case5 depth t more hopen hclose' ih =>
      obtain ⟨inner, rfl, hinner, hclose⟩ := ih h
      exact ⟨t :: inner, rfl, by rwa [balanced_cons_of_ne hopen hclose'], hclose⟩
  · rintro ⟨inner, rfl, hinner, hclose⟩
    rw [groupEnd?_append hinner]
    simp only [groupEnd?, hclose]

/-! ## Conditions -/

/-- Where parentheses are open, a condition goes on after the end of the outermost group. -/
theorem afterCondition_succ (depth : Nat) (tokens : List Lexeme) :
    afterCondition (depth + 1) tokens =
      match groupEnd? depth tokens with
      | some (_, rest) => afterCondition 0 rest
      | none => [] := by
  fun_induction groupEnd? depth tokens with
  | case1 => rfl
  | case2 depth t more ht ih | case4 t more ht depth ih =>
    rw [← ih]
    simp only [afterCondition, ht, depthAfter]
    rfl
  | case3 t more ht =>
    simp only [afterCondition, ht, depthAfter]
    rfl
  | case5 depth t more hopen hclose ih =>
    rw [← ih, afterCondition, depthAfter]
    · simp
    · exact hopen
    · exact hclose

/-- A group in a condition is passed over as a whole. -/
theorem afterCondition_cons_leftParen {t : Lexeme} (ht : t.token = .symbol .leftParen)
    (rest : List Lexeme) :
    afterCondition 0 (t :: rest) = afterCondition 0 (afterGroup rest) := by
  rw [afterCondition, ht]
  refine (afterCondition_succ 0 rest).trans ?_
  unfold afterGroup
  cases groupEnd? 0 rest <;> rfl

/-- Any other token that does not end a condition is passed over. -/
theorem afterCondition_cons {t : Lexeme} (hopen : t.token ≠ .symbol .leftParen)
    (hends : endsCondition t.token = false) (rest : List Lexeme) :
    afterCondition 0 (t :: rest) = afterCondition 0 rest := by
  have hdepth : depthAfter t.token 0 = 0 := by
    unfold depthAfter
    split
    · next ht => exact absurd ht hopen
    · rfl
    · rfl
  rw [afterCondition, hdepth, hends]
  rfl

/-! ## What a part leaves -/

theorem suffix_of_afterFrom? {depth : Nat} {tokens rest : List Lexeme}
    (h : afterFrom? depth tokens = some rest) : rest <:+ tokens := by
  induction tokens generalizing depth with
  | nil => cases h
  | cons t tokens ih =>
    rw [afterFrom?] at h
    split at h
    · cases h
      exact List.suffix_cons t rest
    · exact (ih h).trans (List.suffix_cons t tokens)

theorem suffix_of_groupEnd? {depth : Nat} {tokens rest : List Lexeme} {close : Lexeme}
    (h : groupEnd? depth tokens = some (close, rest)) : close :: rest <:+ tokens := by
  fun_induction groupEnd? depth tokens with
  | case1 => cases h
  | case3 t more =>
    cases h
    exact List.suffix_rfl
  | case2 _ _ _ _ ih | case4 _ _ _ _ ih | case5 _ _ _ _ _ ih =>
    exact (ih h).trans (List.suffix_cons _ _)

theorem suffix_afterGroup (tokens : List Lexeme) : afterGroup tokens <:+ tokens := by
  rw [afterGroup]
  split
  · next close rest h => exact (List.suffix_cons close rest).trans (suffix_of_groupEnd? h)
  · exact List.nil_suffix

theorem suffix_afterCondition (depth : Nat) (tokens : List Lexeme) :
    afterCondition depth tokens <:+ tokens := by
  induction tokens generalizing depth with
  | nil => exact List.suffix_rfl
  | cons t rest ih =>
    rw [afterCondition]
    split
    · exact List.suffix_rfl
    · exact (ih _).trans (List.suffix_cons t rest)

theorem suffix_scanAlias (tokens : List Lexeme) : (scanAlias tokens).2 <:+ tokens := by
  unfold scanAlias
  repeat' split
  all_goals simp [List.suffix_cons_iff]

/-- The token of an alias is the last one before what follows it. -/
theorem suffix_of_scanAlias {tokens : List Lexeme} {name : String} {t : Lexeme}
    (h : (scanAlias tokens).1 = some (name, t)) : t :: (scanAlias tokens).2 <:+ tokens := by
  fun_cases scanAlias tokens with
  | case1 a has u more w hw =>
    simp only [scanAlias, has, hw, if_true] at h
    cases h
    exact List.suffix_cons a _
  | case4 a rest has w hw hname =>
    simp only [scanAlias, if_neg has] at h
    simp only [hw, if_pos hname] at h
    cases h
    exact List.suffix_rfl
  | _ => simp_all [scanAlias]

theorem suffix_scanName (parts : List String) (last : Lexeme) (tokens : List Lexeme) :
    (scanName parts last tokens).2.2 <:+ tokens := by
  fun_induction scanName parts last tokens with
  | case1 => exact List.suffix_rfl
  | case2 _ _ t w _ dot more _ ih =>
    exact ih.trans ((List.suffix_cons dot more).trans (List.suffix_cons t _))
  | case3 => exact List.suffix_cons _ _
  | case4 => exact List.nil_suffix
  | case5 => exact List.suffix_rfl

/-- A name ends with a token before what follows it. -/
theorem suffix_cons_scanName (parts : List String) (last : Lexeme) (tokens : List Lexeme) :
    (scanName parts last tokens).2.1 :: (scanName parts last tokens).2.2 <:+ last :: tokens := by
  fun_induction scanName parts last tokens with
  | case1 => exact List.suffix_rfl
  | case2 _ last t w _ dot more _ ih =>
    exact ih.trans ((List.suffix_cons t _).trans (List.suffix_cons last _))
  | case3 _ last => exact List.suffix_cons last _
  | case4 _ last => exact List.suffix_cons last _
  | case5 => exact List.suffix_rfl

/-- A name that starts with a word ends with the word or with a later token. -/
theorem suffix_scanName_word (parts : List String) (last : Lexeme) {t : Lexeme} {w : Word}
    (h : t.token = .word w) (rest : List Lexeme) :
    (scanName parts last (t :: rest)).2.1 :: (scanName parts last (t :: rest)).2.2 <:+
      t :: rest := by
  rw [scanName]
  simp only [h]
  split
  · next dot more =>
    split
    · exact (suffix_cons_scanName _ dot more).trans (List.suffix_cons t _)
    · exact List.suffix_rfl
  · exact List.suffix_rfl

theorem suffix_scanArguments (doc : Document) (last : Lexeme) (tokens : List Lexeme) :
    (scanArguments doc last tokens).2 <:+ tokens := by
  unfold scanArguments
  split
  · next t rest =>
    split
    · cases h : groupEnd? 0 rest with
      | none => exact List.nil_suffix
      | some found =>
        exact (List.suffix_cons found.1 found.2).trans
          ((suffix_of_groupEnd? h).trans (List.suffix_cons t rest))
    · exact List.suffix_rfl
  · exact List.suffix_rfl

theorem suffix_skipLateral (tokens : List Lexeme) : skipLateral tokens <:+ tokens := by
  unfold skipLateral
  split
  · split
    · exact List.suffix_cons _ _
    · exact List.suffix_rfl
  · exact List.suffix_rfl

theorem suffix_scanTable (doc : Document) (join : Option String) (first : Lexeme)
    (tokens : List Lexeme) : (scanTable doc join first tokens).rest <:+ tokens :=
  (suffix_scanAlias _).trans ((suffix_scanArguments doc _ _).trans (suffix_scanName [] first tokens))

theorem suffix_scanGroup (doc : Document) (opening : Lexeme) (tokens : List Lexeme) :
    (scanGroup doc opening tokens).rest <:+ tokens := by
  unfold scanGroup
  split
  · unfold scanSubquery
    split
    · exact List.nil_suffix
    · next close rest h =>
      exact (suffix_scanAlias rest).trans
        ((List.suffix_cons close rest).trans (suffix_of_groupEnd? h))
  · exact (suffix_scanAlias _).trans (suffix_afterGroup tokens)

/-- What follows a table is a rest of the tokens. -/
theorem suffix_scanFactor (doc : Document) (join : Option String) (tokens : List Lexeme) :
    (scanFactor doc join tokens).rest <:+ tokens := by
  refine List.IsSuffix.trans ?_ (suffix_skipLateral tokens)
  unfold scanFactor
  split
  · next t rest hs =>
    rw [hs]
    split
    · exact (suffix_scanGroup doc t rest).trans (List.suffix_cons t rest)
    · split
      · exact suffix_scanTable doc join t (t :: rest)
      · exact List.suffix_rfl
    · exact List.suffix_rfl
  · exact List.nil_suffix

theorem suffix_of_scanJoin? {words : List String} {tokens rest : List Lexeme} {label : String}
    (h : scanJoin? words tokens = some (label, rest)) : rest <:+ tokens := by
  induction tokens generalizing words with
  | nil => cases h
  | cons t tokens ih =>
    rw [scanJoin?] at h
    split at h
    · split at h
      · cases h
        exact List.suffix_cons t rest
      · split at h
        · exact (ih h).trans (List.suffix_cons t tokens)
        · cases h
    · cases h

theorem suffix_afterUsing (tokens : List Lexeme) : afterUsing tokens <:+ tokens := by
  unfold afterUsing
  split
  · next t rest =>
    split
    · exact (suffix_afterGroup rest).trans (List.suffix_cons t rest)
    · exact List.suffix_rfl
  · exact List.suffix_rfl

/-- The next table starts with a rest of the tokens. -/
theorem suffix_of_afterFactor {entries entries' : List FromEntry} {join : Option String}
    {tokens rest : List Lexeme} (h : afterFactor entries tokens = (entries', some (join, rest))) :
    rest <:+ tokens := by
  fun_induction afterFactor entries tokens with
  | case1 => cases h
  | case2 entries t more =>
    cases h
    exact List.suffix_cons t rest
  | case3 entries t more _ _ ih =>
    exact (ih h).trans ((suffix_afterCondition 0 more).trans (List.suffix_cons t more))
  | case4 entries t more _ _ _ ih =>
    exact (ih h).trans ((suffix_afterUsing more).trans (List.suffix_cons t more))
  | case5 entries t more =>
    obtain ⟨_, hj⟩ := Prod.mk.inj h
    obtain ⟨found, hf, hr⟩ := Option.map_eq_some_iff.mp hj
    cases hr
    exact suffix_of_scanJoin? hf
  | case6 => cases h

/-- The scan without its measure. -/
theorem scanEntries_eq (doc : Document) (join : Option String) (entries : List FromEntry)
    (tokens : List Lexeme) :
    scanEntries doc join entries tokens =
      if (scanFactor doc join tokens).continues then
        match afterFactor ((scanFactor doc join tokens).entry.toList ++ entries)
            (scanFactor doc join tokens).rest with
        | (entries, some (join, rest)) => scanEntries doc join entries rest
        | (entries, none) => entries
      else (scanFactor doc join tokens).entry.toList ++ entries := by
  rw [scanEntries]
  split
  · split <;> simp_all
  · simp_all

/-- Induction on the tables of a clause: one after which the clause cannot go on, one after which no
other comes, and one with the tables after it. -/
theorem scanEntries_induction (doc : Document)
    {P : Option String → List FromEntry → List Lexeme → Prop}
    (stop : ∀ join entries tokens, (scanFactor doc join tokens).continues = false →
      scanEntries doc join entries tokens = (scanFactor doc join tokens).entry.toList ++ entries →
      P join entries tokens)
    (last : ∀ join entries tokens entries', (scanFactor doc join tokens).continues = true →
      afterFactor ((scanFactor doc join tokens).entry.toList ++ entries)
        (scanFactor doc join tokens).rest = (entries', none) →
      scanEntries doc join entries tokens = entries' → P join entries tokens)
    (next : ∀ join entries tokens entries' join' rest,
      (scanFactor doc join tokens).continues = true →
      afterFactor ((scanFactor doc join tokens).entry.toList ++ entries)
        (scanFactor doc join tokens).rest = (entries', some (join', rest)) →
      scanEntries doc join entries tokens = scanEntries doc join' entries' rest →
      P join' entries' rest → P join entries tokens)
    (join : Option String) (entries : List FromEntry) (tokens : List Lexeme) :
    P join entries tokens := by
  -- The next table starts with fewer tokens.
  induction hn : tokens.length using Nat.strongRecOn generalizing join entries tokens with
  | ind n ih =>
    have hscan := scanEntries_eq doc join entries tokens
    cases hcontinues : (scanFactor doc join tokens).continues with
    | false =>
      rw [hcontinues, if_neg Bool.false_ne_true] at hscan
      exact stop join entries tokens hcontinues hscan
    | true =>
      rw [hcontinues, if_pos rfl] at hscan
      rcases hafter : afterFactor ((scanFactor doc join tokens).entry.toList ++ entries)
        (scanFactor doc join tokens).rest with ⟨entries', _ | ⟨join', rest⟩⟩
      · rw [hafter] at hscan
        exact last join entries tokens entries' hcontinues hafter hscan
      · rw [hafter] at hscan
        have hshort := length_lt_of_scanFactor hcontinues
        have hlt := length_lt_of_afterFactor hafter
        exact next join entries tokens entries' join' rest hcontinues hafter hscan
          (ih rest.length (by omega) join' entries' rest rfl)

/-- The entries of a text are those of the clause after its first `FROM`. -/
theorem exists_scan_eq {tokens clause : List Lexeme} (h : afterFrom? 0 tokens = some clause)
    (parse : String → Except ParseFailure Statement) (text : String) :
    ∃ last, tokens.getLast? = some last ∧
      scan parse text tokens = (scanEntries ⟨text.toList, last, parse⟩ none [] clause).reverse := by
  cases hlast : tokens.getLast? with
  | none =>
    rw [List.getLast?_eq_none_iff.mp hlast] at h
    cases h
  | some last => exact ⟨last, rfl, by rw [scan, h, hlast]⟩

/-- A second condition changes nothing. -/
theorem markConstrained_idem (entries : List FromEntry) :
    markConstrained (markConstrained entries) = markConstrained entries := by
  cases entries with
  | nil => rfl
  | cons entry entries => cases entry <;> rfl

section

variable {P : FromEntry → Prop} (hmark : ∀ r, P (.table r) → P (.table { r with hasOn := true }))

include hmark

theorem forall_mem_markConstrained {entries : List FromEntry} (h : ∀ entry ∈ entries, P entry) :
    ∀ entry ∈ markConstrained entries, P entry := by
  unfold markConstrained
  split
  · next r rest =>
    rw [List.forall_mem_cons] at h ⊢
    exact ⟨hmark r h.1, h.2⟩
  · exact h

theorem forall_mem_afterFactor {entries : List FromEntry} (tokens : List Lexeme)
    (h : ∀ entry ∈ entries, P entry) : ∀ entry ∈ (afterFactor entries tokens).1, P entry := by
  fun_induction afterFactor entries tokens with
  | case1 | case2 | case5 | case6 => exact h
  | case3 _ _ _ _ _ ih | case4 _ _ _ _ _ _ ih => exact ih (forall_mem_markConstrained hmark h)

/-- **What holds of every table of a clause holds of every entry**, if the condition of a join does
not change it. -/
theorem forall_mem_scanEntries {doc : Document} {join : Option String} {entries : List FromEntry}
    {tokens : List Lexeme}
    (hfactor : ∀ join rest entry, rest <:+ tokens → (scanFactor doc join rest).entry = some entry →
      P entry)
    (hentries : ∀ entry ∈ entries, P entry) :
    ∀ entry ∈ scanEntries doc join entries tokens, P entry := by
  have hfirst (join : Option String) {entries : List FromEntry} {tokens : List Lexeme}
      (hfactor : ∀ join rest entry, rest <:+ tokens →
        (scanFactor doc join rest).entry = some entry → P entry)
      (hentries : ∀ entry ∈ entries, P entry) :
      ∀ entry ∈ (scanFactor doc join tokens).entry.toList ++ entries, P entry := by
    intro entry hentry
    rcases List.mem_append.mp hentry with hnew | hold
    · exact hfactor join tokens entry List.suffix_rfl (Option.mem_toList.mp hnew)
    · exact hentries entry hold
  induction join, entries, tokens using scanEntries_induction doc with
  | stop join entries tokens _ hscan =>
    rw [hscan]
    exact hfirst join hfactor hentries
  | last join entries tokens entries' _ hafter hscan =>
    have hall := forall_mem_afterFactor hmark (scanFactor doc join tokens).rest
      (hfirst join hfactor hentries)
    rw [hafter] at hall
    rwa [hscan]
  | next join entries tokens entries' join' rest _ hafter hscan ih =>
    have hall := forall_mem_afterFactor hmark (scanFactor doc join tokens).rest
      (hfirst join hfactor hentries)
    have hs := (suffix_of_afterFactor hafter).trans (suffix_scanFactor doc join tokens)
    rw [hafter] at hall
    rw [hscan]
    exact ih (fun join more entry hmore => hfactor join more entry (hmore.trans hs)) hall

end

end SqlCompletion.Sql.FromClause
