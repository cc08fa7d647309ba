import SqlCompletion.Proofs.Parts
import SqlCompletion.Proofs.SettledEntries
import SqlCompletion.Proofs.WrittenClause

/-!
# The condition of a join

Behind `ON` the scan passes over tokens up to one that cannot be part of a condition, and groups as a
whole. A condition in parentheses makes no difference to what follows it. One without them makes none
as long as it has no such token outside parentheses of its own. But the words of join operators and of
clauses are names of functions and columns as well, and a comma may stand in brackets. At such a token
the condition is taken to be at an end, and the rest of it is read as what follows.

* `scanEntries_append_condition`: a clause that is at an end behind `ON` is scanned as far, and then
  what follows the condition.
* `scanEntries_append_entries`: entries that are settled make no difference to those that follow.
* `resume_map_shift`: nor does the place at which they stand.
* `fromClause_join_condition`: the clause with a condition, in parentheses and without them.
-/

namespace SqlCompletion.Sql.FromClause

/-! ## Going on behind a table -/

/-- The entries, the last one first, once what follows a table is read: the next table comes after it,
if there is one. -/
def resume (doc : Document) (entries : List FromEntry) (tokens : List Lexeme) : List FromEntry :=
  match afterFactor entries tokens with
  | (entries, some (join, rest)) => scanEntries doc join entries rest
  | (entries, none) => entries

theorem scanEntries_eq_resume (doc : Document) (join : Option String) (entries : List FromEntry)
    (tokens : List Lexeme) :
    scanEntries doc join entries tokens =
      if (scanFactor doc join tokens).continues then
        resume doc ((scanFactor doc join tokens).entry.toList ++ entries)
          (scanFactor doc join tokens).rest
      else (scanFactor doc join tokens).entry.toList ++ entries :=
  scanEntries_eq doc join entries tokens

/-- The tokens are an `ON` alone. -/
def isOn : List Lexeme → Bool
  | [t] => isKeyword t.token "ON"
  | _ => false

theorem isOn_iff {tokens : List Lexeme} :
    isOn tokens = true ↔ ∃ t, tokens = [t] ∧ isKeyword t.token "ON" = true := by
  unfold isOn
  split
  · simp
  · next h =>
    simp only [Bool.false_eq_true, false_iff]
    rintro ⟨t, rfl, -⟩
    exact h t rfl

/-- The tokens of a clause are at an end behind the `ON` that follows its last table. -/
def awaitsCondition (tokens : List Lexeme) : Bool :=
  match _ : afterTable? tokens with
  | some rest =>
    isOn rest ||
      match _ : afterFactor [] rest with
      | (_, some (_, next)) => awaitsCondition next
      | (_, none) => false
  | none => false
termination_by tokens.length
decreasing_by
  exact Nat.lt_trans (length_lt_of_afterFactor (by assumption))
    (length_lt_of_afterTable? (by assumption))

section

variable {doc : Document} {join : Option String} {tokens : List Lexeme}

theorem continues_of_awaitsCondition (doc : Document) (join : Option String)
    (h : awaitsCondition tokens = true) : (scanFactor doc join tokens).continues = true := by
  rw [awaitsCondition] at h
  split at h
  · next rest htable =>
    rw [afterTable?_eq doc join] at htable
    split at htable
    · assumption
    · cases htable
  · cases h

/-- Behind a table there is an `ON` alone, or another table comes and the clause is at an end behind
its last one. -/
theorem awaitsCondition_cases (doc : Document) (join : Option String) (entries : List FromEntry)
    (h : awaitsCondition tokens = true) :
    isOn (scanFactor doc join tokens).rest = true ∨
      ∃ entries' join' next,
        afterFactor entries (scanFactor doc join tokens).rest = (entries', some (join', next)) ∧
          awaitsCondition next = true := by
  have htable : afterTable? tokens = some (scanFactor doc join tokens).rest := by
    rw [afterTable?_eq doc join, if_pos (continues_of_awaitsCondition doc join h)]
  rw [awaitsCondition] at h
  split at h
  · next rest hrest =>
    cases htable.symm.trans hrest
    refine (Bool.or_eq_true_iff.mp h).imp_right fun hmore => ?_
    split at hmore
    · next join' next hafter =>
      have hsnd := afterFactor_snd entries [] (scanFactor doc join tokens).rest
      rw [hafter] at hsnd
      exact ⟨_, join', next, Prod.ext rfl hsnd, hmore⟩
    · cases hmore
  · cases h

/-- The `ON` marks the table before it, and the condition is passed over. -/
theorem afterFactor_of_isOn {rest : List Lexeme} (h : isOn rest = true) (entries : List FromEntry)
    (tail : List Lexeme) :
    afterFactor entries (rest ++ tail) =
      afterFactor (markConstrained entries) (afterCondition 0 tail) := by
  obtain ⟨t, rfl, hon⟩ := isOn_iff.mp h
  have hcomma : ¬(t.token == .symbol .comma) = true := by
    intro hcomma
    rw [beq_iff_eq.mp hcomma] at hon
    cases hon
  rw [List.singleton_append, afterFactor, if_neg hcomma, if_pos hon]

theorem afterFactor_isOn {rest : List Lexeme} (h : isOn rest = true) (entries : List FromEntry) :
    afterFactor entries rest = (markConstrained entries, none) := by
  have hnothing := afterFactor_of_isOn h entries []
  rwa [List.append_nil, afterCondition, afterFactor] at hnothing

/-! ## Settled entries -/

end

section

variable {settled : List FromEntry} (h : markConstrained settled = settled)

include h

theorem markConstrained_append (entries : List FromEntry) :
    markConstrained (entries ++ settled) = markConstrained entries ++ settled := by
  cases entries with
  | nil => exact h
  | cons entry entries => cases entry <;> rfl

theorem afterFactor_append_entries (entries : List FromEntry) (tokens : List Lexeme) :
    afterFactor (entries ++ settled) tokens =
      ((afterFactor entries tokens).1 ++ settled, (afterFactor entries tokens).2) := by
  refine Prod.ext ?_ (afterFactor_snd _ _ tokens)
  fun_induction afterFactor entries tokens with
  | case1 => rw [afterFactor]
  | case2 entries t more hcomma => rw [afterFactor, if_pos hcomma]
  | case3 entries t more hcomma hon ih =>
    rw [afterFactor, if_neg hcomma, if_pos hon, markConstrained_append h, ih]
  | case4 entries t more hcomma hon husing ih =>
    rw [afterFactor, if_neg hcomma, if_neg hon, if_pos husing, markConstrained_append h, ih]
  | case5 entries t more hcomma hon husing hjoin =>
    rw [afterFactor, if_neg hcomma, if_neg hon, if_neg husing, if_pos hjoin]
  | case6 entries t more hcomma hon husing hjoin =>
    rw [afterFactor, if_neg hcomma, if_neg hon, if_neg husing, if_neg hjoin]

/-- **Entries that are settled make no difference to those that follow.** -/
theorem scanEntries_append_entries (doc : Document) (join : Option String)
    (entries : List FromEntry) (tokens : List Lexeme) :
    scanEntries doc join (entries ++ settled) tokens =
      scanEntries doc join entries tokens ++ settled := by
  induction join, entries, tokens using scanEntries_induction doc with
  | stop join entries tokens hstop hscan =>
    rw [hscan, scanEntries_eq, hstop, if_neg Bool.false_ne_true, List.append_assoc]
  | last join entries tokens entries' hcontinues hafter hscan =>
    rw [hscan, scanEntries_eq, if_pos hcontinues, ← List.append_assoc,
      afterFactor_append_entries h, hafter]
  | next join entries tokens entries' join' rest hcontinues hafter hscan ih =>
    rw [hscan, scanEntries_eq, if_pos hcontinues, ← List.append_assoc,
      afterFactor_append_entries h, hafter]
    exact ih

theorem resume_append_entries (doc : Document) (entries : List FromEntry) (tokens : List Lexeme) :
    resume doc (entries ++ settled) tokens = resume doc entries tokens ++ settled := by
  rw [resume, resume, afterFactor_append_entries h]
  rcases afterFactor entries tokens with ⟨entries', _ | ⟨join, rest⟩⟩
  · rfl
  · exact scanEntries_append_entries h doc join entries' rest

end

/-! ## Up to the condition -/

section

variable {as bs : List Char} {tokens : List Lexeme}
  {parse : String → Except ParseFailure Statement}

/-- **A clause that is at an end behind `ON` is scanned as far**, with a condition on its last table.
The scan goes on behind the condition. -/
theorem scanEntries_append_condition (hsame : SameInside as bs tokens)
    (h : awaitsCondition tokens = true) (tail : List Lexeme) (last last' : Lexeme)
    (join : Option String) (entries : List FromEntry) :
    markConstrained (scanEntries ⟨bs, last', parse⟩ join entries tokens) =
        scanEntries ⟨bs, last', parse⟩ join entries tokens ∧
      scanEntries ⟨as, last, parse⟩ join entries (tokens ++ tail) =
        resume ⟨as, last, parse⟩ (scanEntries ⟨bs, last', parse⟩ join entries tokens)
          (afterCondition 0 tail) := by
  have hfactor {join : Option String} {tokens : List Lexeme} (hsame : SameInside as bs tokens)
      (hne : (scanFactor ⟨bs, last', parse⟩ join tokens).rest ≠ []) :
      scanFactor ⟨as, last, parse⟩ join (tokens ++ tail) =
        (scanFactor ⟨bs, last', parse⟩ join tokens).append tail :=
    scanFactor_append hsame fun hnil => absurd hnil hne
  induction join, entries, tokens using scanEntries_induction ⟨bs, last', parse⟩ with
  | stop join entries tokens hstop hscan =>
    rw [continues_of_awaitsCondition _ join h] at hstop
    cases hstop
  | last join entries tokens entries' hcontinues hafter hscan =>
    have hon : isOn (scanFactor ⟨bs, last', parse⟩ join tokens).rest = true := by
      rcases awaitsCondition_cases ⟨bs, last', parse⟩ join _ h with hon | ⟨_, _, _, hnext, -⟩
      · exact hon
      · rw [hafter] at hnext
        cases hnext
    have hne : (scanFactor ⟨bs, last', parse⟩ join tokens).rest ≠ [] := by
      intro hnil
      rw [hnil] at hon
      cases hon
    rw [afterFactor_isOn hon] at hafter
    obtain ⟨rfl, -⟩ := Prod.mk.inj hafter
    rw [hscan, scanEntries_eq_resume, hfactor hsame hne]
    refine ⟨markConstrained_idem _, ?_⟩
    simp only [Factor.append, hcontinues, if_true]
    rw [resume, resume, afterFactor_of_isOn hon]
  | next join entries tokens entries' join' rest hcontinues hafter hscan ih =>
    have hrest : awaitsCondition rest = true := by
      rcases awaitsCondition_cases ⟨bs, last', parse⟩ join _ h with hon | ⟨_, _, _, hnext, hrest⟩
      · rw [afterFactor_isOn hon] at hafter
        cases hafter
      · rw [hafter] at hnext
        cases hnext
        exact hrest
    have hne : (scanFactor ⟨bs, last', parse⟩ join tokens).rest ≠ [] := by
      intro hnil
      rw [hnil, afterFactor] at hafter
      cases hafter
    have hs := (suffix_of_afterFactor hafter).trans (suffix_scanFactor _ join tokens)
    rw [hscan, scanEntries_eq ⟨as, last, parse⟩, hfactor hsame hne]
    simp only [Factor.append, hcontinues, if_true, afterFactor_append_of_eq_some hafter tail]
    exact ih (hsame.of_suffix hs) hrest

end

/-! ## What follows the condition -/

/-- The entries of the tables that follow a condition, in a text that goes on behind it with the given
tokens, blanks left out. -/
def scanBehind (parse : String → Except ParseFailure Statement) (text : String)
    (tokens : List Lexeme) : List FromEntry :=
  match tokens.getLast? with
  | some last => (resume ⟨text.toList, last, parse⟩ [] tokens).reverse
  | none => []

theorem resume_map_shift (pre : List Char) (doc : Document) (entries : List FromEntry)
    (tokens : List Lexeme) :
    resume (doc.after pre) (entries.map (FromEntry.shift (endLocation pre)))
        (tokens.map (Lexeme.shift (endLocation pre))) =
      (resume doc entries tokens).map (FromEntry.shift (endLocation pre)) := by
  rw [resume, resume, afterFactor_map_shift]
  rcases afterFactor entries tokens with ⟨entries', _ | ⟨join, rest⟩⟩
  · rfl
  · exact scanEntries_map_shift pre doc join entries' rest

/-- Where a text stands further on in a document, what follows the condition is the same, further
on. -/
theorem resume_eq_scanBehind (parse : String → Except ParseFailure Statement) {front : String}
    (back : String) {tokens before : List Lexeme} {last : Lexeme}
    (hlast : (before ++ tokens.map (Lexeme.shift (endLocation front.toList))).getLast? =
      some last) :
    (resume ⟨(front ++ back).toList, last, parse⟩ []
        (tokens.map (Lexeme.shift (endLocation front.toList)))).reverse =
      (scanBehind parse back tokens).map (FromEntry.shift (endLocation front.toList)) := by
  cases hown : tokens.getLast? with
  | none =>
    rw [List.getLast?_eq_none_iff.mp hown, List.map_nil, resume, afterFactor]
    rfl
  | some own =>
    rw [List.getLast?_append, List.getLast?_map, hown, Option.map_some, Option.some_or] at hlast
    cases hlast
    have hshift := resume_map_shift front.toList ⟨back.toList, own, parse⟩ [] tokens
    rw [Document.after, List.map_nil] at hshift
    rw [String.toList_append, hshift, scanBehind, hown, List.map_reverse]

end SqlCompletion.Sql.FromClause

namespace SqlCompletion.Sql

open FromClause

variable {d : Dialect}

/-- The entries of the tables that follow a condition, in a text that goes on behind it. -/
def clauseBehind (d : Dialect) (text : String) : Except ParseFailure (List FromEntry) :=
  match lex d text with
  | .error e => .error (.invalid (lexFailure text e))
  | .ok tokens => .ok (scanBehind (parse d) text (significant tokens))

section

variable {front text : String} {first tail clause : List Lexeme}

/-- A document that goes on behind an `ON`: first come the entries up to there, then those of the text
behind the condition. -/
theorem fromClause_append_condition (hfirst : lex d front = .ok first)
    (hboth : lex d (front ++ text) = .ok (first ++ tail))
    (hfrom : afterFrom? 0 (significant first) = some clause) (hon : awaitsCondition clause = true)
    {before behind : String} {own : List Lexeme} (htext : front ++ text = before ++ behind)
    (hown : afterCondition 0 (significant tail) =
      (significant own).map (Lexeme.shift (endLocation before.toList))) :
    fromClause d (front ++ text) =
      .ok (FromClause.scan (parse d) front (significant first) ++
        (scanBehind (parse d) behind (significant own)).map
          (FromEntry.shift (endLocation before.toList))) := by
  obtain ⟨last', -, hfront⟩ := exists_scan_eq hfrom (parse d) front
  obtain ⟨last, hlast, hscan⟩ := exists_scan_eq
    (afterFrom?_append_of_eq_some hfrom (significant tail)) (parse d) (front ++ text)
  have hsame : SameInside (front ++ text).toList front.toList clause := by
    rw [String.toList_append]
    refine sameInside_append fun t ht => inText_of_mem_lex hfirst ?_
    exact (List.mem_filter.mp ((suffix_of_afterFrom? hfrom).subset ht)).1
  obtain ⟨hmark, hmore⟩ := scanEntries_append_condition hsame hon (significant tail) last last'
    none []
  obtain ⟨condition, hcondition⟩ := suffix_afterCondition 0 (significant tail)
  rw [← hcondition, ← List.append_assoc, hown] at hlast
  have hbehind := resume_eq_scanBehind (parse d) behind hlast
  have hsettled := resume_append_entries hmark ⟨(before ++ behind).toList, last, parse d⟩ []
    ((significant own).map (Lexeme.shift (endLocation before.toList)))
  rw [List.nil_append] at hsettled
  simp only [fromClause, hboth, significant_append]
  rw [hscan, hmore, hown, htext, hsettled, List.reverse_append, hbehind, hfront]

end

theorem afterCondition_group {opening close : Lexeme} (hopening : opening.token = .symbol .leftParen)
    (hclose : close.token = .symbol .rightParen) {inner : List Lexeme}
    (hbalanced : balanced 0 inner = true) (rest : List Lexeme) :
    afterCondition 0 (opening :: (inner ++ close :: rest)) = afterCondition 0 rest := by
  rw [afterCondition_cons_leftParen hopening, afterGroup, groupEnd?_closed hbalanced close hclose]

theorem outside_map_shift (base : Location) (depth : Nat) (tokens : List Lexeme) :
    outside depth (tokens.map (Lexeme.shift base)) =
      (outside depth tokens).map (Lexeme.shift base) := by
  induction tokens generalizing depth with
  | nil => rfl
  | cons t tokens ih =>
    rw [List.map_cons, outside, outside, Lexeme.token_shift, ih]
    split <;> rfl

theorem lex_blank : lex d " " = .ok (place .first [⟨.blank " ", [' ']⟩]) :=
  lex_eq_ok_iff.mpr ⟨_, .cons (scan_blank d _ _) (.nil _), rfl⟩

theorem lex_leftParen :
    lex d " (" = .ok (place .first [⟨.blank " ", [' ']⟩, ⟨.symbol .leftParen, ['(']⟩]) :=
  lex_eq_ok_iff.mpr ⟨_, .cons (scan_blank d _ _) (.cons (scan_leftParen d _ _) (.nil _)), rfl⟩

theorem lex_rightParen : lex d ")" = .ok (place .first [⟨.symbol .rightParen, [')']⟩]) :=
  lex_eq_ok_iff.mpr ⟨_, .cons (scan_rightParen d _ _) (.nil _), rfl⟩

section

variable {front condition rest : String} {first tokens more : List Lexeme}

/-- The tokens of a document with a condition. -/
theorem lex_bare_condition (hfirst : lex d front = .ok first)
    (hcondition : lex d condition = .ok tokens) (hrest : lex d rest = .ok more)
    (hkeeps : KeepsTokens d [front, " ", condition, rest]) :
    ∃ blanks, significant blanks = [] ∧
      lex d (front ++ (" " ++ condition ++ rest)) =
        .ok (first ++ (blanks ++
          tokens.map (Lexeme.shift (endLocation (front ++ " ").toList)) ++
          more.map (Lexeme.shift (endLocation (front ++ " " ++ condition).toList)))) := by
  obtain ⟨tail, htail, hboth⟩ := hkeeps.exists_tail hfirst
  obtain ⟨blank, tail1, hblank, htail1, rfl⟩ := lexParts_cons_eq_ok_iff.mp htail
  obtain ⟨inner, tail2, hinner, htail2, rfl⟩ := lexParts_cons_eq_ok_iff.mp htail1
  obtain ⟨behind, nothing, hbehind, hnothing, rfl⟩ := lexParts_cons_eq_ok_iff.mp htail2
  cases hnothing
  obtain rfl := Except.ok.inj (hblank.symm.trans lex_blank)
  obtain rfl := Except.ok.inj (hcondition.symm.trans hinner)
  obtain rfl := Except.ok.inj (hrest.symm.trans hbehind)
  refine ⟨(place .first [⟨.blank " ", [' ']⟩]).map (Lexeme.shift (endLocation front.toList)), rfl, ?_⟩
  simp only [String.join_cons, String.join_nil, String.append_empty, List.append_nil] at hboth
  simp only [String.append_assoc, List.append_assoc, String.toList_append] at hboth ⊢
  exact hboth

end

section

variable {front condition rest : String} {first tokens more clause : List Lexeme}
  (hfirst : lex d front = .ok first) (hfrom : afterFrom? 0 (significant first) = some clause)
  (hon : awaitsCondition clause = true) (hcondition : lex d condition = .ok tokens)
  (hbalanced : balanced 0 (significant tokens) = true) (hrest : lex d rest = .ok more)
  (hnext : NextIs (endsCondition · = true) (significant more))

include hfirst hfrom hon hcondition hbalanced hrest hnext

/-- **Behind a condition in parentheses the clause goes on with what follows it.** -/
theorem fromClause_grouped_condition (hkeeps : KeepsTokens d [front, " (", condition, ")", rest]) :
    fromClause d (front ++ (" (" ++ condition ++ ")" ++ rest)) =
      .ok (FromClause.scan (parse d) front (significant first) ++
        (scanBehind (parse d) rest (significant more)).map
          (FromEntry.shift (endLocation (front ++ " (" ++ condition ++ ")").toList))) := by
  obtain ⟨tail, htail, hboth⟩ := hkeeps.exists_tail hfirst
  obtain ⟨opening, tail1, hopening, htail1, rfl⟩ := lexParts_cons_eq_ok_iff.mp htail
  obtain ⟨inner, tail2, hinner, htail2, rfl⟩ := lexParts_cons_eq_ok_iff.mp htail1
  obtain ⟨closing, tail3, hclosing, htail3, rfl⟩ := lexParts_cons_eq_ok_iff.mp htail2
  obtain ⟨behind, nothing, hbehind, hnothing, rfl⟩ := lexParts_cons_eq_ok_iff.mp htail3
  cases hnothing
  obtain rfl := Except.ok.inj (hopening.symm.trans lex_leftParen)
  obtain rfl := Except.ok.inj (hcondition.symm.trans hinner)
  obtain rfl := Except.ok.inj (hclosing.symm.trans lex_rightParen)
  obtain rfl := Except.ok.inj (hrest.symm.trans hbehind)
  have htext : " (" ++ condition ++ ")" ++ rest = String.join [" (", condition, ")", rest] := by
    simp only [String.join_cons, String.join_nil, String.append_empty, String.append_assoc]
  rw [htext]
  refine fromClause_append_condition hfirst hboth hfrom hon
    (by simp only [← htext, String.append_assoc]) ?_
  have hgroup : balanced 0 ((significant tokens).map
      (Lexeme.shift (endLocation (front.toList ++ " (".toList)))) = true := by
    rw [balanced_map_shift, hbalanced]
  simp only [significant_append, significant_map_shift, List.append_nil, String.toList_append]
  show afterCondition 0 (⟨.symbol .leftParen, _⟩ ::
    ((significant tokens).map _ ++ ⟨.symbol .rightParen, _⟩ :: (significant more).map _)) = _
  rw [afterCondition_group rfl rfl hgroup, afterCondition_map_shift,
    afterCondition_of_nextIs hnext]

/-- **So it does behind a condition without them**, where no token of its own ends it. -/
theorem fromClause_bare_condition (hkeeps : KeepsTokens d [front, " ", condition, rest])
    (hplain : ∀ t ∈ outside 0 (significant tokens), endsCondition t.token = false) :
    fromClause d (front ++ (" " ++ condition ++ rest)) =
      .ok (FromClause.scan (parse d) front (significant first) ++
        (scanBehind (parse d) rest (significant more)).map
          (FromEntry.shift (endLocation (front ++ " " ++ condition).toList))) := by
  obtain ⟨blanks, hblanks, hboth⟩ := lex_bare_condition hfirst hcondition hrest hkeeps
  refine fromClause_append_condition hfirst hboth hfrom hon
    (by simp only [String.append_assoc]) ?_
  simp only [significant_append, significant_map_shift, hblanks, List.nil_append]
  have hinner : balanced 0 ((significant tokens).map
      (Lexeme.shift (endLocation (front ++ " ").toList))) = true := by
    rw [balanced_map_shift, hbalanced]
  rw [afterCondition_append_of_outside hinner, afterCondition_map_shift,
    afterCondition_of_nextIs hnext]
  rw [outside_map_shift]
  exact List.forall_mem_map.mpr hplain

omit hnext in
/-- **Where one does, the rest of the condition is read as what follows it.** -/
theorem exists_fromClause_bare_condition (hkeeps : KeepsTokens d [front, " ", condition, rest])
    (hends : ∃ t ∈ outside 0 (significant tokens), endsCondition t.token = true) :
    ∃ read left own further, condition = read ++ left ∧ lex d left = .ok own ∧
      (∃ t ∈ (significant own).head?, endsCondition t.token = true) ∧
      clauseBehind d (left ++ rest) = .ok further ∧
      fromClause d (front ++ (" " ++ condition ++ rest)) =
        .ok (FromClause.scan (parse d) front (significant first) ++
          further.map (FromEntry.shift (endLocation (front ++ " " ++ read).toList))) := by
  obtain ⟨before, t, after, hsplit, ht, hbefore, hplain⟩ :=
    exists_first_outside (p := endsCondition) hbalanced hends
  obtain ⟨as, bs, rfl, rfl, rfl, hblank⟩ := exists_of_significant_eq hsplit
  have hany := standsAnywhere_of_endsCondition ht
  obtain ⟨read, left, own, rfl, hstart, hleft, hown⟩ := exists_lex_of_append hcondition hany
  obtain ⟨blanks, hblanks, hboth⟩ := lex_bare_condition hfirst hcondition hrest hkeeps
  have htext : front ++ (" " ++ (read ++ left) ++ rest) = front ++ " " ++ read ++ (left ++ rest) := by
    simp only [String.append_assoc]
  -- In the document the token stands where what stands before it in the condition ends.
  have hcut := hboth
  rw [htext, List.map_append, List.map_cons, ← List.append_assoc blanks, List.append_assoc _ (_ :: _),
    List.cons_append, ← List.append_assoc first] at hcut
  obtain ⟨behind, hbehind, hmore⟩ := exists_lex_of_start hcut hany (by
    rw [Lexeme.shift, hstart, shift_endLocation, ← String.toList_append])
  obtain ⟨u, _, hu, htoken⟩ := exists_significant_eq_cons hblank hown
  refine ⟨read, left, own, scanBehind (parse d) (left ++ rest) (significant behind), rfl, hleft,
    ⟨u, ?_, htoken ▸ ht⟩, ?_, fromClause_append_condition hfirst hboth hfrom hon htext ?_⟩
  · rw [hu]
    rfl
  · rw [clauseBehind, hbehind]
  · have hread : balanced 0 ((significant as).map
        (Lexeme.shift (endLocation (front ++ " ").toList))) = true := by
      rw [balanced_map_shift, hbefore]
    obtain ⟨v, _, hv, hvt⟩ := exists_significant_eq_cons (t := t.shift _) hblank hmore
    have hnext : NextIs (endsCondition · = true) (significant behind) := by
      rw [hv, nextIs_cons, hvt]
      exact ht
    rw [List.map_append, List.map_cons, ← List.append_assoc blanks, List.append_assoc _ (_ :: _),
      List.cons_append, hmore]
    simp only [significant_append, significant_map_shift, hblanks, List.nil_append]
    rw [afterCondition_append_of_outside hread, afterCondition_map_shift,
      afterCondition_of_nextIs hnext]
    rw [outside_map_shift]
    exact List.forall_mem_map.mpr hplain

end

/-- **Which tables are found behind a join depends on its condition only by a token of its own that
ends a condition.** The document is at an end behind `ON` before the condition; the condition has
matching parentheses, what follows it starts with a token that ends it, and the document has the tokens
of its parts. Then the entries up to the condition come first. With the condition in parentheses, those
of what follows it come next. It is the same without them, if no token of the condition outside
parentheses ends it. Otherwise the condition is taken to be at an end there, and the rest of it is read
as what follows. -/
theorem fromClause_join_condition (d : Dialect) (front condition rest : String)
    (first tokens more clause : List Lexeme) (hfirst : lex d front = .ok first)
    (hfrom : afterFrom? 0 (significant first) = some clause) (hon : awaitsCondition clause = true)
    (hcondition : lex d condition = .ok tokens) (hbalanced : balanced 0 (significant tokens) = true)
    (hrest : lex d rest = .ok more) (hnext : NextIs (endsCondition · = true) (significant more))
    (hbare : KeepsTokens d [front, " ", condition, rest])
    (hgrouped : KeepsTokens d [front, " (", condition, ")", rest]) :
    ∃ entries, fromClause d front = .ok entries ∧
      (∃ further, clauseBehind d rest = .ok further ∧
        fromClause d (front ++ (" (" ++ condition ++ ")" ++ rest)) =
          .ok (entries ++ further.map
            (FromEntry.shift (endLocation (front ++ " (" ++ condition ++ ")").toList))) ∧
        ((∀ t ∈ outside 0 (significant tokens), endsCondition t.token = false) →
          fromClause d (front ++ (" " ++ condition ++ rest)) =
            .ok (entries ++ further.map
              (FromEntry.shift (endLocation (front ++ " " ++ condition).toList))))) ∧
      ((∃ t ∈ outside 0 (significant tokens), endsCondition t.token = true) →
        ∃ read left own further, condition = read ++ left ∧ lex d left = .ok own ∧
          (∃ t ∈ (significant own).head?, endsCondition t.token = true) ∧
          clauseBehind d (left ++ rest) = .ok further ∧
          fromClause d (front ++ (" " ++ condition ++ rest)) =
            .ok (entries ++ further.map
              (FromEntry.shift (endLocation (front ++ " " ++ read).toList)))) := by
  refine ⟨FromClause.scan (parse d) front (significant first), ?_,
    ⟨scanBehind (parse d) rest (significant more), ?_, ?_, fun hplain => ?_⟩, fun hends => ?_⟩
  · rw [fromClause, hfirst]
  · rw [clauseBehind, hrest]
  · exact fromClause_grouped_condition hfirst hfrom hon hcondition hbalanced hrest hnext hgrouped
  · exact fromClause_bare_condition hfirst hfrom hon hcondition hbalanced hrest hnext hbare hplain
  · exact exists_fromClause_bare_condition hfirst hfrom hon hcondition hbalanced hrest hbare hends

/-- The name of the function `left` is a word of join operators: the condition is taken to be at an end
there, and the table that is joined next is lost. -/
theorem fromClause_join_condition_left :
    let front := "SELECT 1 FROM a JOIN b ON"
    let rest := " JOIN c"
    let names (sql : String) : List String :=
      (tableRefs ((parser .generic).entries sql)).map (·.table)
    names (front ++ (" " ++ "x" ++ rest)) = ["a", "b", "c"] ∧
      names (front ++ (" (" ++ "left(x)" ++ ")" ++ rest)) = ["a", "b", "c"] ∧
      names (front ++ (" " ++ "left(x)" ++ rest)) = ["a", "b"] ∧
      (∃ entries further, fromClause .generic front = .ok entries ∧
        clauseBehind .generic rest = .ok further ∧
        fromClause .generic (front ++ (" " ++ "x" ++ rest)) =
          .ok (entries ++ further.map
            (FromEntry.shift (endLocation (front ++ " " ++ "x").toList)))) ∧
      ∃ entries read left further, "left(x)" = read ++ left ∧
        fromClause .generic front = .ok entries ∧
        clauseBehind .generic (left ++ rest) = .ok further ∧
        fromClause .generic (front ++ (" " ++ "left(x)" ++ rest)) =
          .ok (entries ++ further.map
            (FromEntry.shift (endLocation (front ++ " " ++ read).toList))) := by
  intro front rest names
  let tokens (text : String) : List Lexeme := (lex .generic text).toOption.getD []
  have hplain := fromClause_join_condition .generic front "x" rest (tokens front)
    (tokens "x") (tokens rest) ((significant (tokens front)).drop 3) (by decide +kernel)
    (by decide +kernel) (by decide +kernel) (by decide +kernel) (by decide +kernel)
    (by decide +kernel) (by decide +kernel) (by decide +kernel) (by decide +kernel)
  have hleft := fromClause_join_condition .generic front "left(x)" rest (tokens front)
    (tokens "left(x)") (tokens rest) ((significant (tokens front)).drop 3)
    (by decide +kernel) (by decide +kernel) (by decide +kernel) (by decide +kernel)
    (by decide +kernel) (by decide +kernel) (by decide +kernel) (by decide +kernel)
    (by decide +kernel)
  refine ⟨by decide +kernel, by decide +kernel, by decide +kernel, ?_, ?_⟩
  · obtain ⟨entries, hentries, ⟨further, hfurther, -, hsame⟩, -⟩ := hplain
    exact ⟨entries, further, hentries, hfurther, hsame (by decide +kernel)⟩
  · obtain ⟨entries, hentries, -, hrest⟩ := hleft
    obtain ⟨read, left, _, further, hcut, -, -, hfurther, hclause⟩ := hrest (by decide +kernel)
    exact ⟨entries, read, left, further, hcut, hentries, hfurther, hclause⟩

end SqlCompletion.Sql
