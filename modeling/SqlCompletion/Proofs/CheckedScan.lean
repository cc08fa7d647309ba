import SqlCompletion.Proofs.EntryPlaces
import SqlCompletion.Sql.Scanner

/-!
# The scan by positions makes no fault

Whatever the tokens are, as long as they stand in the text one after the other, the scan by
positions comes to its end without a fault, with the entries of `FromClause.scan`. Every part of it
does at the position of `rest` what the part of `FromClause` with the same name does with `rest`,
and comes to the position of what that one leaves.

* `position`: where a rest of the tokens starts.
* `part_eq_ok`: between places of the text, in order, a part can be cut out.
* `loop_of_again`, `loop_of_done`: one pass of a loop.
* `closing_succ`: a group ends where `groupEnd?` ends it; the count of parentheses stays above zero.
* `exists_loop_namePass`, `skipCondition_position`, `loop_joinPass`: the loops inside of a clause.
* `scanFactor_position`, `between_position`: one table, and what follows it.
* `loop_clausePass`, `scanner_scan_eq_ok`: the whole clause.
-/

namespace SqlCompletion.Sql.FromClause

open Text

/-! ## Positions -/

/-- Where `rest` starts among the tokens that it ends. -/
def position (tokens rest : List Lexeme) : Nat := tokens.length - rest.length

section

variable {tokens rest more : List Lexeme} {t : Lexeme}

@[simp] theorem position_self : position tokens tokens = 0 := Nat.sub_self _

@[simp] theorem position_nil : position tokens [] = tokens.length := rfl

theorem position_le : position tokens rest ≤ tokens.length := Nat.sub_le _ _

theorem drop_position (hs : rest <:+ tokens) : tokens.drop (position tokens rest) = rest :=
  (List.suffix_iff_eq_drop.mp hs).symm

theorem getElem?_position (hs : rest <:+ tokens) : tokens[position tokens rest]? = rest.head? := by
  rw [← List.head?_drop, drop_position hs]

theorem position_cons (hs : t :: rest <:+ tokens) :
    position tokens rest = position tokens (t :: rest) + 1 := by
  have hle := hs.length_le
  rw [List.length_cons] at hle
  rw [position, position, List.length_cons]
  omega

theorem position_lt (hs : rest <:+ tokens) (hlt : more.length < rest.length) :
    position tokens rest < position tokens more := by
  have hle := hs.length_le
  rw [position, position]
  omega

end

/-! ## Checked steps -/

theorem ok_bind {α β : Type} (a : α) (f : α → Except Fault β) : (Except.ok a >>= f) = f a := rfl

theorem pure_eq_ok {α : Type} (a : α) : (pure a : Except Fault α) = .ok a := rfl

theorem sub_eq_ok {m n : Nat} (h : n ≤ m) : sub m n = .ok (m - n) := if_pos h

/-- Characters start, and the text ends, where its prefixes end. -/
theorem isBoundary_iff {cs : List Char} {offset : Nat} :
    isBoundary cs offset = true ↔ ∃ pre, pre <+: cs ∧ byteLength pre = offset := by
  induction cs generalizing offset with
  | nil =>
    rw [isBoundary, beq_iff_eq]
    constructor
    · rintro rfl
      exact ⟨[], List.prefix_rfl, rfl⟩
    · rintro ⟨pre, hpre, rfl⟩
      rw [List.prefix_nil.mp hpre, byteLength_nil]
  | cons c cs ih =>
    rw [isBoundary, Bool.or_eq_true, beq_iff_eq, Bool.and_eq_true, decide_eq_true_iff, ih]
    constructor
    · rintro (rfl | ⟨hle, pre, hpre, hsize⟩)
      · exact ⟨[], List.nil_prefix, rfl⟩
      · refine ⟨c :: pre, (List.cons_prefix_cons).mpr ⟨rfl, hpre⟩, ?_⟩
        rw [byteLength_cons]
        omega
    · rintro ⟨pre, hpre, rfl⟩
      rcases pre with _ | ⟨d, pre⟩
      · exact .inl rfl
      · obtain ⟨rfl, hrest⟩ := List.cons_prefix_cons.mp hpre
        rw [byteLength_cons]
        exact .inr ⟨Nat.le_add_right _ _, pre, hrest, by omega⟩

/-- **Between places of the text, in order, a part can be cut out.** -/
theorem part_eq_ok {cs : List Char} {l m : Location} (hl : InText cs l) (hm : InText cs m)
    (hle : l.offset ≤ m.offset) :
    part cs l.offset m.offset = .ok (String.ofList (slice cs l.offset m.offset)) := by
  have hboundary {l : Location} (h : InText cs l) : isBoundary cs l.offset = true := by
    obtain ⟨pre, hpre, rfl⟩ := h
    exact isBoundary_iff.mpr ⟨pre, hpre, rfl⟩
  rw [part, hboundary hl, hboundary hm, decide_eq_true hle]
  rfl

section

variable {σ α : Type} {count : Nat} {pos : σ → Nat} {pass : σ → Except Fault (σ ⊕ α)} {s next : σ}

theorem loop_of_done {result : α} (h : pass s = .ok (.inr result)) :
    loop count pos pass s = .ok result := by
  rw [loop, h]

/-- A pass that comes to a later position is followed by the next one. -/
theorem loop_of_again (h : pass s = .ok (.inl next)) (hlt : pos s < pos next)
    (hle : pos next ≤ count) : loop count pos pass s = loop count pos pass next := by
  rw [loop, h]
  simp only [if_pos hlt, if_pos hle]

end

namespace Scanner

variable (s : Scanner) {t : Lexeme} {rest : List Lexeme}

theorem peek_position (hs : rest <:+ s.tokens) :
    s.peek (position s.tokens rest) = rest.head?.map (·.token) := by
  rw [peek, getElem?_position hs]

theorem peek_nil : s.peek (position s.tokens []) = none :=
  s.peek_position List.nil_suffix

theorem peek_cons (hs : t :: rest <:+ s.tokens) :
    s.peek (position s.tokens (t :: rest)) = some t.token :=
  s.peek_position hs

theorem peekWord_cons (hs : t :: rest <:+ s.tokens) :
    s.peekWord (position s.tokens (t :: rest)) = t.token.word? := by
  rw [peekWord, peek_cons s hs, Option.bind_some]

theorem peekKeyword_cons (hs : t :: rest <:+ s.tokens) (keyword : String) :
    s.peekKeyword (position s.tokens (t :: rest)) keyword = isKeyword t.token keyword := by
  rw [peekKeyword, peek_cons s hs, Option.any_some]

theorem peekSymbol_cons (hs : t :: rest <:+ s.tokens) (symbol : Symbol) :
    s.peekSymbol (position s.tokens (t :: rest)) symbol = (t.token == .symbol symbol) := by
  rw [peekSymbol, peek_cons s hs]
  rfl

theorem locationAt_eq {i : Nat} (hi : s.tokens[i]? = some t) (stop : Bool) :
    s.locationAt i stop = if stop then t.range.stop else t.range.start := by
  rw [locationAt, hi]

theorem locationAt_position (hs : t :: rest <:+ s.tokens) (stop : Bool) :
    s.locationAt (position s.tokens (t :: rest)) stop =
      if stop then t.range.stop else t.range.start :=
  s.locationAt_eq (getElem?_position hs) stop

@[simp] theorem goto_position (rest : List Lexeme) :
    s.goto (position s.tokens rest) = .ok (position s.tokens rest) := if_pos position_le

/-- From a token the scan can go on to the next position. -/
theorem goto_succ (hs : t :: rest <:+ s.tokens) :
    s.goto (position s.tokens (t :: rest) + 1) = .ok (position s.tokens rest) := by
  rw [← position_cons hs, goto_position]

/-! ## Groups -/

theorem closing_cons_of_ne {depth pos : Nat} (hopen : t.token ≠ .symbol .leftParen)
    (hclose : t.token ≠ .symbol .rightParen) :
    closing depth pos (t :: rest) = closing depth (pos + 1) rest := by
  conv => lhs; unfold closing
  split
  · next ht => exact absurd ht hopen
  · next ht => exact absurd ht hclose
  · rfl

/-- **A group ends where `groupEnd?` ends it.** Before its end one parenthesis more is open than
those inside, so the count is never zero where one is closed. -/
theorem closing_succ (hs : rest <:+ s.tokens) (depth : Nat) :
    closing (depth + 1) (position s.tokens rest) rest =
      .ok ((groupEnd? depth rest).map fun found => position s.tokens (found.1 :: found.2)) := by
  fun_induction groupEnd? depth rest with
  | case1 => rfl
  | case2 depth t more ht ih =>
    have hmore := (List.suffix_cons t more).trans hs
    rw [← ih hmore, position_cons hs]
    simp only [closing, ht]
  | case3 t more ht =>
    simp only [closing, ht]
    rfl
  | case4 t more ht depth ih =>
    have hmore := (List.suffix_cons t more).trans hs
    rw [← ih hmore, position_cons hs]
    simp only [closing, ht]
    rfl
  | case5 depth t more hopen hclose ih =>
    have hmore := (List.suffix_cons t more).trans hs
    rw [closing_cons_of_ne hopen hclose, ← ih hmore, position_cons hs]

/-- The search for the end of a group starts with its parenthesis. -/
theorem matchingParen_position (hs : t :: rest <:+ s.tokens)
    (ht : t.token = .symbol .leftParen) :
    s.matchingParen (position s.tokens (t :: rest)) =
      .ok ((groupEnd? 0 rest).map fun found => position s.tokens (found.1 :: found.2)) := by
  have hrest := (List.suffix_cons t rest).trans hs
  rw [matchingParen, drop_position hs, ← closing_succ s hrest, position_cons hs]
  simp only [closing, ht]

theorem skipGroup_position (hs : t :: rest <:+ s.tokens) (ht : t.token = .symbol .leftParen) :
    s.skipGroup (position s.tokens (t :: rest)) = .ok (position s.tokens (afterGroup rest)) := by
  rw [skipGroup, matchingParen_position s hs ht, afterGroup]
  cases hgroup : groupEnd? 0 rest with
  | none => exact s.goto_position []
  | some found =>
    have hclose := (suffix_of_groupEnd? hgroup).trans ((List.suffix_cons t rest).trans hs)
    exact s.goto_succ hclose

/-! ## Aliases and names -/

theorem aliasWord_nil (explicit : Bool) :
    s.aliasWord explicit (position s.tokens []) = .ok (none, position s.tokens []) := by
  simp only [aliasWord, peekWord, peek_nil]
  rfl

theorem aliasWord_cons (hs : t :: rest <:+ s.tokens) (explicit : Bool) :
    s.aliasWord explicit (position s.tokens (t :: rest)) =
      .ok (match t.token with
        | .word w =>
          if explicit || isName w then (some w.value, position s.tokens rest)
          else (none, position s.tokens (t :: rest))
        | _ => (none, position s.tokens (t :: rest))) := by
  simp only [aliasWord, peekWord_cons s hs, goto_succ s hs, ok_bind, pure_eq_ok]
  cases t.token with
  | word w =>
    simp only [Token.word?]
    split <;> rfl
  | _ => rfl

theorem scanAlias_position (hs : rest <:+ s.tokens) :
    s.scanAlias (position s.tokens rest) =
      .ok ((FromClause.scanAlias rest).1.map (·.1),
        position s.tokens (FromClause.scanAlias rest).2) := by
  unfold scanAlias FromClause.scanAlias
  cases rest with
  | nil =>
    simp only [peekKeyword, peek_nil]
    exact aliasWord_nil s false
  | cons a rest =>
    have hrest := (List.suffix_cons a rest).trans hs
    rw [peekKeyword_cons s hs]
    by_cases has : isKeyword a.token "AS" = true
    · simp only [if_pos has, goto_succ s hs, ok_bind]
      cases rest with
      | nil => exact aliasWord_nil s true
      | cons t more =>
        rw [aliasWord_cons s hrest]
        simp only
        cases t.token <;> rfl
    · simp only [if_neg has, aliasWord_cons s hs]
      cases a.token with
      | word w =>
        simp only [Bool.false_or]
        split <;> rfl
      | _ => rfl

/-- The last token of a table is that of its alias, which stands before the position after it. -/
theorem exists_lastWithAlias (hs : rest <:+ s.tokens) {last : Lexeme} {i : Nat}
    (hi : s.tokens[i]? = some last) :
    ∃ j, lastWithAlias ((FromClause.scanAlias rest).1.map (·.1)) i
        (position s.tokens (FromClause.scanAlias rest).2) = .ok j ∧
      s.tokens[j]? = some (((FromClause.scanAlias rest).1.map (·.2)).getD last) := by
  cases halias : (FromClause.scanAlias rest).1 with
  | none => exact ⟨i, rfl, hi⟩
  | some found =>
    have hname := (suffix_of_scanAlias halias).trans hs
    refine ⟨position s.tokens (found.2 :: (FromClause.scanAlias rest).2), ?_, ?_⟩
    · rw [position_cons hname]
      exact sub_eq_ok (Nat.le_add_left 1 _)
    · exact getElem?_position hname

/-- **A name is read to its end**, part by part. -/
theorem exists_loop_namePass (hs : rest <:+ s.tokens) (parts : List String) {last : Lexeme}
    {i : Nat} (hi : s.tokens[i]? = some last) :
    ∃ j, loop s.tokens.length NameState.pos s.namePass ⟨parts, i, position s.tokens rest⟩ =
        .ok ⟨(FromClause.scanName parts last rest).1, j,
          position s.tokens (FromClause.scanName parts last rest).2.2⟩ ∧
      s.tokens[j]? = some (FromClause.scanName parts last rest).2.1 := by
  fun_induction FromClause.scanName parts last rest generalizing i with
  | case1 parts last =>
    refine ⟨i, loop_of_done ?_, hi⟩
    simp only [namePass, peekWord, peek_nil]
    rfl
  | case2 parts last t w ht dot more hdot ih =>
    have hdots := (List.suffix_cons t _).trans hs
    have hmore := (List.suffix_cons dot _).trans hdots
    obtain ⟨j, hloop, hj⟩ := ih hmore (getElem?_position hdots)
    refine ⟨j, ?_, hj⟩
    rw [← hloop]
    refine loop_of_again ?_ ?_ position_le
    · simp only [namePass, peekWord_cons s hs, ht, Token.word?, goto_succ s hs, ok_bind,
        peekSymbol_cons s hdots, hdot, if_true, goto_succ s hdots, pure_eq_ok]
    · exact position_lt hs (by simp only [List.length_cons]; omega)
  | case3 parts last t w ht dot more hdot =>
    have hdots := (List.suffix_cons t _).trans hs
    refine ⟨position s.tokens (t :: dot :: more), loop_of_done ?_, getElem?_position hs⟩
    simp only [namePass, peekWord_cons s hs, ht, Token.word?, goto_succ s hs, ok_bind,
      peekSymbol_cons s hdots, if_neg hdot, pure_eq_ok]
  | case4 parts last t w ht =>
    refine ⟨position s.tokens [t], loop_of_done ?_, getElem?_position hs⟩
    simp only [namePass, peekWord_cons s hs, ht, Token.word?, goto_succ s hs, ok_bind, peekSymbol,
      peek_nil]
    rfl
  | case5 parts last t more ht =>
    refine ⟨i, loop_of_done ?_, hi⟩
    have hword : t.token.word? = none := by
      cases htoken : t.token with
      | word w => exact absurd htoken (ht w)
      | _ => rfl
    simp only [namePass, peekWord_cons s hs, hword, pure_eq_ok]

/-- The arguments of a table function are passed over. -/
theorem exists_scanArguments {doc : Document} {last : Lexeme}
    (hlast : EndsDocument doc s.tokens) (hs : rest <:+ s.tokens) {i : Nat}
    (hi : s.tokens[i]? = some last) :
    ∃ j, s.scanArguments i (position s.tokens rest) =
        .ok (j, position s.tokens (FromClause.scanArguments doc last rest).2) ∧
      s.tokens[j]? = some (FromClause.scanArguments doc last rest).1 := by
  unfold scanArguments FromClause.scanArguments
  cases rest with
  | nil =>
    simp only [peekSymbol, peek_nil]
    exact ⟨i, rfl, hi⟩
  | cons t rest =>
    rw [peekSymbol_cons s hs]
    by_cases hopening : (t.token == .symbol .leftParen) = true
    · have ht := beq_iff_eq.mp hopening
      have hrest := (List.suffix_cons t rest).trans hs
      have hpos : 1 ≤ s.tokens.length :=
        Nat.le_trans (Nat.le_add_left 1 rest.length) hs.length_le
      simp only [if_pos hopening, sub_eq_ok hpos, ok_bind, matchingParen_position s hs ht,
        skipGroup_position s hs ht, pure_eq_ok]
      cases hgroup : groupEnd? 0 rest with
      | none =>
        have hend := hlast.suffix (List.ne_nil_of_length_pos hpos)
        exact ⟨position s.tokens [doc.last], by rw [afterGroup, hgroup]; rfl,
          getElem?_position hend⟩
      | some found =>
        have hclose := (suffix_of_groupEnd? hgroup).trans hrest
        exact ⟨position s.tokens (found.1 :: found.2), by rw [afterGroup, hgroup]; rfl,
          getElem?_position hclose⟩
    · simp only [if_neg hopening]
      exact ⟨i, rfl, hi⟩

/-! ## One table -/

/-- A table as the scan over lists makes it out. -/
def stepOf (f : Factor) : Step := ⟨f.entry, position s.tokens f.rest, f.continues⟩

section

variable {doc : Document} (join : Option String)

theorem scanTable_position (hlast : EndsDocument doc s.tokens) (hs : t :: rest <:+ s.tokens) :
    s.scanTable join (position s.tokens (t :: rest)) =
      .ok (s.stepOf (FromClause.scanTable doc join t (t :: rest))) := by
  obtain ⟨i, hname, hi⟩ := s.exists_loop_namePass hs [] (getElem?_position hs)
  have hafter := (suffix_scanName [] t (t :: rest)).trans hs
  obtain ⟨j, harguments, hj⟩ := s.exists_scanArguments hlast hafter hi
  have hrest := (suffix_scanArguments doc (FromClause.scanName [] t (t :: rest)).2.1 _).trans hafter
  obtain ⟨k, hwith, hk⟩ := s.exists_lastWithAlias hrest hj
  rw [scanTable, scanName, hname]
  simp only [ok_bind, harguments, scanAlias_position s hrest, hwith, pure_eq_ok,
    locationAt_position s hs, locationAt_eq s hk]
  rfl

/-- The text of a subquery can be cut out of the document. -/
theorem part_group (h : Placed s.chars s.tokens) (hs : t :: rest <:+ s.tokens) :
    part s.chars t.range.stop.offset (groupStop s.chars rest).offset =
      .ok (String.ofList
        (slice s.chars t.range.stop.offset (groupStop s.chars rest).offset)) := by
  have hfits := fits_group h hs (List.nil_suffix : [] <:+ afterGroup rest)
  exact part_eq_ok hfits.inText_start hfits.inText_stop hfits.start_le_stop

theorem scanClosed_position (h : Placed s.chars s.tokens) (hs : t :: rest <:+ s.tokens)
    {close : Lexeme} {after : List Lexeme} (hgroup : groupEnd? 0 rest = some (close, after))
    (last : Lexeme) :
    s.scanClosed (position s.tokens (t :: rest)) (position s.tokens (close :: after)) =
      .ok (s.stepOf (scanSubquery ⟨s.chars, last, s.parse⟩ t rest)) := by
  have htext := s.part_group h hs
  have hclose := (suffix_of_groupEnd? hgroup).trans ((List.suffix_cons t rest).trans hs)
  have hafter := (List.suffix_cons close after).trans hclose
  obtain ⟨i, hwith, hi⟩ := s.exists_lastWithAlias hafter (getElem?_position hclose)
  rw [groupStop, hgroup] at htext
  simp only [scanClosed, locationAt_position s hs, locationAt_position s hclose, if_true,
    Bool.false_eq_true, if_false, htext, ok_bind, goto_succ s hclose, scanAlias_position s hafter,
    scanSubquery, hgroup]
  split
  · next statement hparse =>
    simp only [hwith, ok_bind, locationAt_eq s hi, stepOf, hparse]
    rfl
  · next failure hparse =>
    simp only [stepOf, hparse]
    rfl

theorem scanUnclosed_position (h : Placed s.chars s.tokens) (hs : t :: rest <:+ s.tokens)
    (hgroup : groupEnd? 0 rest = none) (last : Lexeme) :
    s.scanUnclosed (position s.tokens (t :: rest)) =
      .ok (s.stepOf (scanSubquery ⟨s.chars, last, s.parse⟩ t rest)) := by
  have htext := s.part_group h hs
  have hend : s.goto s.tokens.length = .ok (position s.tokens []) := s.goto_position []
  rw [groupStop, hgroup] at htext
  simp only [scanUnclosed, locationAt_position s hs, if_true, htext, ok_bind, hend, scanSubquery,
    hgroup, stepOf]
  rfl

theorem scanParenthesized_position (h : Placed s.chars s.tokens) (hs : t :: rest <:+ s.tokens)
    (ht : t.token = .symbol .leftParen) (last : Lexeme) :
    s.scanParenthesized (position s.tokens (t :: rest)) =
      .ok (s.stepOf (scanGroup ⟨s.chars, last, s.parse⟩ t rest)) := by
  have hrest := (List.suffix_cons t rest).trans hs
  have hafter := (suffix_afterGroup rest).trans hrest
  have hquery : (s.peek (position s.tokens (t :: rest) + 1)).any (isOneOf · ["SELECT", "WITH"]) =
      startsQuery rest := by
    rw [← position_cons hs, peek_position s hrest]
    cases rest <;> rfl
  simp only [scanParenthesized, scanGroup, hquery, matchingParen_position s hs ht, ok_bind]
  split
  · cases hgroup : groupEnd? 0 rest with
    | none => exact s.scanUnclosed_position h hs hgroup last
    | some found => exact s.scanClosed_position h hs hgroup last
  · simp only [skipGroup_position s hs ht, ok_bind, scanAlias_position s hafter, Option.isSome_map,
      stepOf]
    rfl

/-- At most one token is passed over. -/
theorem skipLateral_position (hs : rest <:+ s.tokens) :
    s.skipLateral (position s.tokens rest) =
      .ok (position s.tokens (FromClause.skipLateral rest)) := by
  unfold skipLateral FromClause.skipLateral
  cases rest with
  | nil =>
    simp only [peekKeyword, peek_nil]
    rfl
  | cons t rest =>
    rw [peekKeyword_cons s hs, goto_succ s hs]
    by_cases hlateral : isKeyword t.token "LATERAL" = true
    · simp only [if_pos hlateral]
    · simp only [if_neg hlateral, pure_eq_ok]

/-- **One table of the clause is scanned without a fault.** -/
theorem scanFactor_position {last : Lexeme} (h : Placed s.chars s.tokens)
    (hlast : EndsDocument ⟨s.chars, last, s.parse⟩ s.tokens) (hs : rest <:+ s.tokens) :
    s.scanFactor join (position s.tokens rest) =
      .ok (s.stepOf (FromClause.scanFactor ⟨s.chars, last, s.parse⟩ join rest)) := by
  have hskip := (suffix_skipLateral rest).trans hs
  rw [scanFactor, skipLateral_position s hs, ok_bind, FromClause.scanFactor]
  cases htokens : FromClause.skipLateral rest with
  | nil =>
    rw [peek_nil]
    rfl
  | cons t more =>
    rw [htokens] at hskip
    rw [peek_cons s hskip]
    cases ht : t.token with
    | word w =>
      simp only [ht]
      split
      · exact s.scanTable_position join hlast hskip
      · rfl
    | symbol symbol =>
      cases symbol with
      | leftParen =>
        simp only [ht]
        exact s.scanParenthesized_position h hskip ht last
      | _ =>
        simp only [ht]
        rfl
    | _ =>
      simp only [ht]
      rfl

end

/-! ## Between two tables -/

/-- **The condition of a join is passed over**, token by token and group by group. -/
theorem skipCondition_position (hs : rest <:+ s.tokens) :
    s.skipCondition (position s.tokens rest) =
      .ok (position s.tokens (afterCondition 0 rest)) := by
  -- A group leaves any number of tokens fewer.
  induction hn : rest.length using Nat.strongRecOn generalizing rest with
  | ind n ih =>
    subst hn
    cases rest with
    | nil =>
      refine loop_of_done ?_
      rw [conditionPass, peek_nil]
      rfl
    | cons t rest =>
      have hrest := (List.suffix_cons t rest).trans hs
      by_cases hopening : (t.token == .symbol .leftParen) = true
      · have ht := beq_iff_eq.mp hopening
        have hshort := length_afterGroup_le rest
        have hpass : s.conditionPass (position s.tokens (t :: rest)) =
            .ok (.inl (position s.tokens (afterGroup rest))) := by
          simp only [conditionPass, peek_cons s hs, if_pos hopening, skipGroup_position s hs ht]
          rfl
        rw [afterCondition_cons_leftParen ht,
          ← ih (afterGroup rest).length (Nat.lt_succ_of_le hshort)
            ((suffix_afterGroup rest).trans hrest) rfl]
        exact loop_of_again hpass (position_lt hs (Nat.lt_succ_of_le hshort)) position_le
      · by_cases hends : endsCondition t.token = true
        · have hstop : afterCondition 0 (t :: rest) = t :: rest := by simp [afterCondition, hends]
          rw [hstop]
          refine loop_of_done ?_
          simp only [conditionPass, peek_cons s hs, if_neg hopening, if_pos hends, pure_eq_ok]
        · have hpass : s.conditionPass (position s.tokens (t :: rest)) =
              .ok (.inl (position s.tokens rest)) := by
            simp only [conditionPass, peek_cons s hs, if_neg hopening, if_neg hends, goto_succ s hs]
            rfl
          have hopen : t.token ≠ .symbol .leftParen := fun ht => hopening (beq_iff_eq.mpr ht)
          rw [afterCondition_cons hopen (Bool.not_eq_true _ ▸ hends),
            ← ih rest.length (Nat.lt_succ_self _) hrest rfl]
          exact loop_of_again hpass (position_lt hs (Nat.lt_succ_self _)) position_le

theorem skipUsing_position (hs : rest <:+ s.tokens) :
    s.skipUsing (position s.tokens rest) = .ok (position s.tokens (afterUsing rest)) := by
  unfold skipUsing afterUsing
  cases rest with
  | nil =>
    simp only [peekSymbol, peek_nil]
    rfl
  | cons t rest =>
    rw [peekSymbol_cons s hs]
    by_cases hopening : (t.token == .symbol .leftParen) = true
    · simp only [if_pos hopening, skipGroup_position s hs (beq_iff_eq.mp hopening)]
    · simp only [if_neg hopening, pure_eq_ok]

/-- **A join operator is read word by word.** -/
theorem loop_joinPass (hs : rest <:+ s.tokens) (words : List String) :
    loop s.tokens.length Prod.snd s.joinPass (words, position s.tokens rest) =
      .ok ((scanJoin? words rest).map fun found => (found.1, position s.tokens found.2)) := by
  induction rest generalizing words with
  | nil =>
    refine loop_of_done ?_
    simp only [joinPass, peek_nil]
    rfl
  | cons t rest ih =>
    have hrest := (List.suffix_cons t rest).trans hs
    rw [scanJoin?]
    cases hk : t.token.keyword? with
    | none =>
      refine loop_of_done ?_
      simp only [joinPass, peek_cons s hs, Option.bind_some, hk, pure_eq_ok]
      rfl
    | some k =>
      by_cases hjoin : k = "JOIN"
      · refine loop_of_done ?_
        subst hjoin
        simp only [joinPass, peek_cons s hs, Option.bind_some, hk, goto_succ s hs, ok_bind,
          pure_eq_ok]
        rfl
      · simp only [if_neg hjoin]
        by_cases hword : joinWords.contains k = true
        · rw [if_pos hword, ← ih hrest]
          refine loop_of_again ?_ (position_lt hs (Nat.lt_succ_self _)) position_le
          simp only [joinPass, peek_cons s hs, Option.bind_some, hk, goto_succ s hs, ok_bind,
            if_pos hword, if_neg hjoin, pure_eq_ok]
        · rw [if_neg hword]
          refine loop_of_done ?_
          simp only [joinPass, peek_cons s hs, Option.bind_some, hk, if_neg hword, pure_eq_ok]
          rfl

/-- What follows a table, with positions for what is left. -/
def nextOf (next : List FromEntry × Option (Option String × List Lexeme)) :
    List FromEntry × Option (Option String × Nat) :=
  (next.1, next.2.map fun found => (found.1, position s.tokens found.2))

/-- **What stands between two tables is passed over**, condition by condition. -/
theorem between_position (hs : rest <:+ s.tokens) (entries : List FromEntry) :
    s.between entries (position s.tokens rest) = .ok (s.nextOf (afterFactor entries rest)) := by
  fun_induction afterFactor entries rest with
  | case1 entries =>
    refine loop_of_done ?_
    simp only [betweenPass, peek_nil]
    rfl
  | case2 entries t more hcomma =>
    refine loop_of_done ?_
    simp only [betweenPass, peek_cons s hs, if_pos hcomma, goto_succ s hs]
    rfl
  | case3 entries t more hcomma hon ih =>
    have hmore := (List.suffix_cons t more).trans hs
    have hshort := length_afterCondition_le 0 more
    rw [← ih ((suffix_afterCondition 0 more).trans hmore)]
    refine loop_of_again ?_ (position_lt hs (Nat.lt_succ_of_le hshort)) position_le
    simp only [betweenPass, peek_cons s hs, if_neg hcomma, if_pos hon, goto_succ s hs, ok_bind,
      skipCondition_position s hmore, pure_eq_ok]
  | case4 entries t more hcomma hon husing ih =>
    have hmore := (List.suffix_cons t more).trans hs
    have hshort := length_afterUsing_le more
    rw [← ih ((suffix_afterUsing more).trans hmore)]
    refine loop_of_again ?_ (position_lt hs (Nat.lt_succ_of_le hshort)) position_le
    simp only [betweenPass, peek_cons s hs, if_neg hcomma, if_neg hon, if_pos husing,
      goto_succ s hs, ok_bind, skipUsing_position s hmore, pure_eq_ok]
  | case5 entries t more hcomma hon husing hjoin =>
    refine loop_of_done ?_
    have hscan := s.loop_joinPass hs []
    simp only [betweenPass, peek_cons s hs, if_neg hcomma, if_neg hon, if_neg husing, if_pos hjoin,
      scanJoin, hscan, ok_bind, pure_eq_ok, nextOf, Option.map_map]
    rfl
  | case6 entries t more hcomma hon husing hjoin =>
    refine loop_of_done ?_
    simp only [betweenPass, peek_cons s hs, if_neg hcomma, if_neg hon, if_neg husing, if_neg hjoin]
    rfl

/-! ## The clause -/

/-- **The tables of a clause are scanned without a fault.** -/
theorem loop_clausePass {last : Lexeme} (h : Placed s.chars s.tokens)
    (hlast : EndsDocument ⟨s.chars, last, s.parse⟩ s.tokens) (hs : rest <:+ s.tokens)
    (join : Option String) (entries : List FromEntry) :
    loop s.tokens.length ClauseState.pos s.clausePass ⟨join, entries, position s.tokens rest⟩ =
      .ok (FromClause.scanEntries ⟨s.chars, last, s.parse⟩ join entries rest) := by
  induction join, entries, rest using scanEntries_induction ⟨s.chars, last, s.parse⟩ with
  | stop join entries rest hstop hscan =>
    have hfactor := s.scanFactor_position join h hlast hs
    rw [hscan]
    refine loop_of_done ?_
    simp only [clausePass, hfactor, ok_bind, stepOf, hstop, Bool.false_eq_true, if_false]
    rfl
  | last join entries rest entries' hcontinues hafter hscan =>
    have hfactor := s.scanFactor_position join h hlast hs
    have hfs := (suffix_scanFactor ⟨s.chars, last, s.parse⟩ join rest).trans hs
    rw [hscan]
    refine loop_of_done ?_
    simp only [clausePass, hfactor, ok_bind, stepOf, hcontinues, if_true, between_position s hfs,
      hafter]
    rfl
  | next join entries rest entries' join' rest' hcontinues hafter hscan ih =>
    have hfactor := s.scanFactor_position join h hlast hs
    have hfs := (suffix_scanFactor ⟨s.chars, last, s.parse⟩ join rest).trans hs
    have hshort := length_lt_of_scanFactor hcontinues
    have hlt := length_lt_of_afterFactor hafter
    rw [hscan, ← ih ((suffix_of_afterFactor hafter).trans hfs)]
    refine loop_of_again ?_ (position_lt hs (by omega)) position_le
    simp only [clausePass, hfactor, ok_bind, stepOf, hcontinues, if_true, between_position s hfs,
      hafter]
    rfl

theorem firstFrom?_position (hs : rest <:+ s.tokens) (depth : Nat) :
    (firstFrom? depth (position s.tokens rest) rest).map (· + 1) =
      (afterFrom? depth rest).map (position s.tokens) := by
  induction rest generalizing depth with
  | nil => rfl
  | cons t rest ih =>
    have hrest := (List.suffix_cons t rest).trans hs
    rw [firstFrom?, afterFrom?, ← position_cons hs]
    split
    · rw [Option.map_some, Option.map_some, ← position_cons hs]
    · exact ih hrest _

end Scanner

/-- **The scan by positions comes to its end without a fault, whatever the tokens are**, as long as
they stand in the text one after the other. Every pass of a loop that is not its last one comes to a
later position, none of them past the tokens; no number falls below zero; the texts of subqueries
are parts of the document. Its entries are those of `FromClause.scan`. -/
theorem scanner_scan_eq_ok {sql : String} {tokens : List Lexeme} (h : Placed sql.toList tokens)
    (parse : String → Except ParseFailure Statement) :
    (Scanner.mk sql.toList tokens parse).scan = .ok (scan parse sql tokens) := by
  let s : Scanner := ⟨sql.toList, tokens, parse⟩
  have hplaced : Placed s.chars s.tokens := h
  have hfirst := s.firstFrom?_position List.suffix_rfl 0
  rw [position_self] at hfirst
  change s.scan = .ok (scan s.parse sql s.tokens)
  rw [Scanner.scan, scan]
  cases hfrom : afterFrom? 0 s.tokens with
  | none =>
    rw [hfrom, Option.map_none, Option.map_eq_none_iff] at hfirst
    rw [hfirst]
  | some rest =>
    rw [hfrom, Option.map_some, Option.map_eq_some_iff] at hfirst
    obtain ⟨start, hstart, hnext⟩ := hfirst
    have hs := suffix_of_afterFrom? hfrom
    have hne : s.tokens ≠ [] := by
      intro hnil
      rw [hnil] at hfrom
      cases hfrom
    obtain ⟨last, hlast⟩ := Option.isSome_iff_exists.mp (List.getLast?_isSome.mpr hne)
    have hclause := s.loop_clausePass hplaced (endsDocument_of_getLast? hlast) hs none []
    simp only [hstart, hlast, hnext, Scanner.goto_position, ok_bind, Scanner.scanEntries, hclause]
    rfl

/-- A name that ends with a dot, a condition that `USING` is a part of, a subquery that is only a
word, and parentheses that are not closed. -/
theorem scanner_scan_eq_ok_malformed :
    let sql := "FROM a., b ON x USING (y) LEFT JOIN LATERAL (WITH ), f((. AS"
    ∃ tokens entries, lex .generic sql = .ok tokens ∧ Placed sql.toList (significant tokens) ∧
      (Scanner.mk sql.toList (significant tokens) (parse .generic)).scan = .ok entries ∧
      entries.map (fun e => (e.location.start.offset, e.location.stop.offset)) =
        [(5, 7), (9, 10), (45, 50), (53, 60)] := by
  intro sql
  have hclause : (fromClause .generic sql).toOption.map (List.map fun e =>
      (e.location.start.offset, e.location.stop.offset)) =
        some [(5, 7), (9, 10), (45, 50), (53, 60)] := by decide +kernel
  unfold fromClause at hclause
  cases hlex : lex .generic sql with
  | error e =>
    rw [hlex] at hclause
    cases hclause
  | ok tokens =>
    rw [hlex] at hclause
    have hplaced := placed_significant hlex
    exact ⟨tokens, _, rfl, hplaced, scanner_scan_eq_ok hplaced (parse .generic),
      Option.some.inj hclause⟩

/-- The count of parentheses stays above zero only because it starts with the one that opens the
group. -/
example : Scanner.closing 0 0 [⟨.symbol .rightParen, Range.none⟩] = .error .underflow := rfl

end SqlCompletion.Sql.FromClause
