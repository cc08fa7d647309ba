import SqlCompletion.Proofs.FromScan
import SqlCompletion.Proofs.Lexing

/-!
# A clause further on in a document

Where a text stands further on in a document, its tokens are the same with their places shifted, and
so is everything that the scan of its FROM clause makes out. No part of the scan looks at a place:
places go into the entries as they are, and the text of a subquery is the same text.

* `scanFactor_map_shift`, `afterFactor_map_shift`: one table, and what stands between two tables.
* `scan_map_shift`: the whole clause.
-/

namespace SqlCompletion

open Text

/-! ## Text further on -/

theorem dropBytes_add (pre : List Char) (n : Nat) (cs : List Char) :
    dropBytes (byteLength pre + n) (pre ++ cs) = dropBytes n cs := by
  induction pre with
  | nil => rw [byteLength_nil, Nat.zero_add, List.nil_append]
  | cons c pre ih =>
    have := c.utf8Size_pos
    rw [List.cons_append, dropBytes, byteLength_cons, if_neg (by omega),
      show c.utf8Size + byteLength pre + n - c.utf8Size = byteLength pre + n by omega, ih]

/-- Between places further on stands the same text. -/
theorem slice_add (pre cs : List Char) (start stop : Nat) :
    slice (pre ++ cs) (byteLength pre + start) (byteLength pre + stop) = slice cs start stop := by
  rw [slice, slice, dropBytes_add, Nat.add_sub_add_left]

/-- The range, seen from the beginning of a document in which its text stands at `base`. -/
def Range.shift (base : Location) (r : Range) : Range := ⟨base.shift r.start, base.shift r.stop⟩

/-- The entry, seen from the beginning of a document in which its text stands at `base`. -/
def FromEntry.shift (base : Location) : FromEntry → FromEntry
  | .table r => .table { r with location := r.location.shift base }
  | .subquery s a l => .subquery s a (l.shift base)
  | .incomplete t l => .incomplete t (l.shift base)

namespace Sql.FromClause

variable (base : Location)

/-! ## Groups -/

theorem balanced_map_shift (depth : Nat) (tokens : List Lexeme) :
    balanced depth (tokens.map (Lexeme.shift base)) = balanced depth tokens := by
  fun_induction balanced depth tokens with
  | case1 => rfl
  | case2 depth t rest ht ih => simp only [List.map_cons, balanced, Lexeme.token_shift, ht, ih]
  | case3 t rest ht => simp only [List.map_cons, balanced, Lexeme.token_shift, ht]
  | case4 t rest ht depth ih => simp only [List.map_cons, balanced, Lexeme.token_shift, ht, ih]
  | case5 depth t rest hopen hclose ih =>
    rw [List.map_cons]
    conv => lhs; unfold balanced
    split
    · next ht => exact absurd ht hopen
    · next ht => exact absurd ht hclose
    · exact ih

theorem startsQuery_map_shift (tokens : List Lexeme) :
    startsQuery (tokens.map (Lexeme.shift base)) = startsQuery tokens := by
  cases tokens <;> rfl

theorem afterFrom?_map_shift (depth : Nat) (tokens : List Lexeme) :
    afterFrom? depth (tokens.map (Lexeme.shift base)) =
      (afterFrom? depth tokens).map (·.map (Lexeme.shift base)) := by
  induction tokens generalizing depth with
  | nil => rfl
  | cons t rest ih =>
    rw [List.map_cons, afterFrom?, afterFrom?]
    by_cases hfrom : (decide (depth = 0) && isKeyword t.token "FROM") = true
    · rw [if_pos hfrom]
      exact if_pos hfrom
    · rw [if_neg hfrom]
      exact (if_neg hfrom).trans (ih _)

theorem groupEnd?_map_shift (depth : Nat) (tokens : List Lexeme) :
    groupEnd? depth (tokens.map (Lexeme.shift base)) =
      (groupEnd? depth tokens).map fun g => (g.1.shift base, g.2.map (Lexeme.shift base)) := by
  fun_induction groupEnd? depth tokens with
  | case1 => rfl
  | case2 depth t rest ht ih => simp only [List.map_cons, groupEnd?, Lexeme.token_shift, ht, ih]
  | case3 t rest ht => simp only [List.map_cons, groupEnd?, Lexeme.token_shift, ht, Option.map_some]
  | case4 t rest ht depth ih => simp only [List.map_cons, groupEnd?, Lexeme.token_shift, ht, ih]
  | case5 depth t rest hopen hclose ih =>
    rw [List.map_cons, groupEnd?_cons_of_ne (t := t.shift base) hopen hclose, ih]

theorem afterGroup_map_shift (tokens : List Lexeme) :
    afterGroup (tokens.map (Lexeme.shift base)) = (afterGroup tokens).map (Lexeme.shift base) := by
  rw [afterGroup, afterGroup, groupEnd?_map_shift]
  cases groupEnd? 0 tokens <;> rfl

theorem afterCondition_map_shift (depth : Nat) (tokens : List Lexeme) :
    afterCondition depth (tokens.map (Lexeme.shift base)) =
      (afterCondition depth tokens).map (Lexeme.shift base) := by
  induction tokens generalizing depth with
  | nil => rfl
  | cons t rest ih =>
    rw [List.map_cons, afterCondition, afterCondition]
    by_cases hends : (decide (depth = 0) && endsCondition t.token) = true
    · rw [if_pos hends]
      exact if_pos hends
    · rw [if_neg hends]
      exact (if_neg hends).trans (ih _)

theorem afterUsing_map_shift (tokens : List Lexeme) :
    afterUsing (tokens.map (Lexeme.shift base)) = (afterUsing tokens).map (Lexeme.shift base) := by
  cases tokens with
  | nil => rfl
  | cons t rest =>
    rw [List.map_cons, afterUsing, afterUsing]
    by_cases ht : (t.token == .symbol .leftParen) = true
    · rw [if_pos ht]
      exact (if_pos ht).trans (afterGroup_map_shift base rest)
    · rw [if_neg ht]
      exact if_neg ht

/-! ## Names -/

theorem scanAlias_map_shift (tokens : List Lexeme) :
    scanAlias (tokens.map (Lexeme.shift base)) =
      ((scanAlias tokens).1.map fun a => (a.1, a.2.shift base),
        (scanAlias tokens).2.map (Lexeme.shift base)) := by
  cases tokens with
  | nil => rfl
  | cons a rest =>
    simp only [List.map_cons, scanAlias, Lexeme.token_shift]
    split
    · cases rest with
      | nil => rfl
      | cons t more =>
        simp only [List.map_cons, Lexeme.token_shift]
        split <;> rfl
    · split
      · split <;> rfl
      · rfl

theorem scanName_map_shift (parts : List String) (last : Lexeme) (tokens : List Lexeme) :
    scanName parts (last.shift base) (tokens.map (Lexeme.shift base)) =
      ((scanName parts last tokens).1, (scanName parts last tokens).2.1.shift base,
        (scanName parts last tokens).2.2.map (Lexeme.shift base)) := by
  fun_induction scanName parts last tokens with
  | case1 => rfl
  | case2 parts last t w ht dot more hdot ih =>
    simp only [List.map_cons, scanName, Lexeme.token_shift, ht, hdot, if_true, ih]
  | case3 parts last t w ht dot more hdot =>
    simp [scanName, ht, hdot]
  | case4 parts last t w ht => simp [scanName, ht]
  | case5 parts last t rest ht =>
    rw [List.map_cons, scanName]
    split
    · next w hw => exact absurd hw (ht w)
    · rfl

theorem skipLateral_map_shift (tokens : List Lexeme) :
    skipLateral (tokens.map (Lexeme.shift base)) = (skipLateral tokens).map (Lexeme.shift base) := by
  cases tokens with
  | nil => rfl
  | cons t rest =>
    rw [List.map_cons, skipLateral, skipLateral]
    by_cases ht : isKeyword t.token "LATERAL" = true
    · rw [if_pos ht]
      exact if_pos ht
    · rw [if_neg ht]
      exact if_neg ht

theorem scanJoin?_map_shift (words : List String) (tokens : List Lexeme) :
    scanJoin? words (tokens.map (Lexeme.shift base)) =
      (scanJoin? words tokens).map fun j => (j.1, j.2.map (Lexeme.shift base)) := by
  induction tokens generalizing words with
  | nil => rfl
  | cons t rest ih =>
    simp only [List.map_cons, scanJoin?, Lexeme.token_shift]
    split
    · split
      · rfl
      · split
        · exact ih _
        · rfl
    · rfl

theorem markConstrained_map_shift (entries : List FromEntry) :
    markConstrained (entries.map (FromEntry.shift base)) =
      (markConstrained entries).map (FromEntry.shift base) := by
  cases entries with
  | nil => rfl
  | cons entry entries => cases entry <;> rfl

theorem afterFactor_map_shift (entries : List FromEntry) (tokens : List Lexeme) :
    afterFactor (entries.map (FromEntry.shift base)) (tokens.map (Lexeme.shift base)) =
      ((afterFactor entries tokens).1.map (FromEntry.shift base),
        (afterFactor entries tokens).2.map fun next => (next.1, next.2.map (Lexeme.shift base))) := by
  fun_induction afterFactor entries tokens with
  | case1 => simp [afterFactor]
  | case2 entries t more hcomma => simp [afterFactor, hcomma]
  | case3 entries t more hcomma hon ih =>
    rw [List.map_cons, afterFactor]
    refine (if_neg hcomma).trans ((if_pos hon).trans ?_)
    rw [markConstrained_map_shift, afterCondition_map_shift, ih]
  | case4 entries t more hcomma hon husing ih =>
    rw [List.map_cons, afterFactor]
    refine (if_neg hcomma).trans ((if_neg hon).trans ((if_pos husing).trans ?_))
    rw [markConstrained_map_shift, afterUsing_map_shift, ih]
  | case5 entries t more hcomma hon husing hjoin =>
    rw [List.map_cons, afterFactor]
    refine (if_neg hcomma).trans ((if_neg hon).trans ((if_neg husing).trans ((if_pos hjoin).trans ?_)))
    rw [← List.map_cons, scanJoin?_map_shift]
    cases scanJoin? [] (t :: more) <;> rfl
  | case6 entries t more hcomma hon husing hjoin =>
    rw [List.map_cons, afterFactor]
    exact (if_neg hcomma).trans ((if_neg hon).trans ((if_neg husing).trans (if_neg hjoin)))

/-! ## Entries -/

/-- What was made out of a table, seen from the beginning of the document. -/
def Factor.shift (f : Factor) : Factor where
  entry := f.entry.map (FromEntry.shift base)
  rest := f.rest.map (Lexeme.shift base)
  continues := f.continues

section

variable (pre : List Char) (doc : Document)

/-- The document in which the text of another one stands after `pre`. -/
def Document.after : Document :=
  ⟨pre ++ doc.chars, doc.last.shift (endLocation pre), doc.parse⟩

theorem scanArguments_map_shift (last : Lexeme) (tokens : List Lexeme) :
    scanArguments (doc.after pre) (last.shift (endLocation pre))
        (tokens.map (Lexeme.shift (endLocation pre))) =
      ((scanArguments doc last tokens).1.shift (endLocation pre),
        (scanArguments doc last tokens).2.map (Lexeme.shift (endLocation pre))) := by
  cases tokens with
  | nil => rfl
  | cons t rest =>
    simp only [List.map_cons, scanArguments, Lexeme.token_shift, groupEnd?_map_shift]
    split
    · cases groupEnd? 0 rest <;> rfl
    · rfl

theorem scanTable_map_shift (join : Option String) (first : Lexeme) (tokens : List Lexeme) :
    scanTable (doc.after pre) join (first.shift (endLocation pre))
        (tokens.map (Lexeme.shift (endLocation pre))) =
      (scanTable doc join first tokens).shift (endLocation pre) := by
  simp only [scanTable, scanName_map_shift, scanArguments_map_shift, scanAlias_map_shift,
    Factor.shift, Option.map_some, FromEntry.shift, Range.shift]
  cases (scanAlias (scanArguments doc (scanName [] first tokens).2.1
    (scanName [] first tokens).2.2).2).1 <;> rfl

/-- Between shifted places of the document stands the same text. -/
theorem Document.slice_after (start stop : Location) :
    slice (doc.after pre).chars ((endLocation pre).shift start).offset
        ((endLocation pre).shift stop).offset = slice doc.chars start.offset stop.offset :=
  slice_add pre doc.chars start.offset stop.offset

theorem scanSubquery_map_shift (opening : Lexeme) (tokens : List Lexeme) :
    scanSubquery (doc.after pre) (opening.shift (endLocation pre))
        (tokens.map (Lexeme.shift (endLocation pre))) =
      (scanSubquery doc opening tokens).shift (endLocation pre) := by
  simp only [scanSubquery, groupEnd?_map_shift]
  cases groupEnd? 0 tokens with
  | none =>
    have hend : endLocation (doc.after pre).chars = (endLocation pre).shift (endLocation doc.chars) :=
      (shift_endLocation pre doc.chars).symm
    have htext := doc.slice_after pre opening.range.stop (endLocation doc.chars)
    simp only [Option.map_none, Lexeme.shift, hend, htext]
    rfl
  | some found =>
    have htext := doc.slice_after pre opening.range.stop found.1.range.start
    simp only [Option.map_some, Lexeme.shift, htext, scanAlias_map_shift]
    have hparse : (doc.after pre).parse = doc.parse := rfl
    rw [hparse]
    cases doc.parse (String.ofList
      (slice doc.chars opening.range.stop.offset found.1.range.start.offset)) <;>
      cases (scanAlias found.2).1 <;> rfl

theorem scanGroup_map_shift (opening : Lexeme) (tokens : List Lexeme) :
    scanGroup (doc.after pre) (opening.shift (endLocation pre))
        (tokens.map (Lexeme.shift (endLocation pre))) =
      (scanGroup doc opening tokens).shift (endLocation pre) := by
  unfold scanGroup
  rw [startsQuery_map_shift]
  split
  · exact scanSubquery_map_shift pre doc opening tokens
  · simp only [afterGroup_map_shift, scanAlias_map_shift, groupEnd?_map_shift, Option.isSome_map,
      Factor.shift, Option.map_none]

theorem scanFactor_map_shift (join : Option String) (tokens : List Lexeme) :
    scanFactor (doc.after pre) join (tokens.map (Lexeme.shift (endLocation pre))) =
      (scanFactor doc join tokens).shift (endLocation pre) := by
  simp only [scanFactor, skipLateral_map_shift]
  cases skipLateral tokens with
  | nil => rfl
  | cons t rest =>
    simp only [List.map_cons, Lexeme.token_shift]
    split
    · exact scanGroup_map_shift pre doc t rest
    · split
      · exact scanTable_map_shift pre doc join t (t :: rest)
      · rfl
    · rfl

theorem scanEntries_map_shift (join : Option String) (entries : List FromEntry)
    (tokens : List Lexeme) :
    scanEntries (doc.after pre) join (entries.map (FromEntry.shift (endLocation pre)))
        (tokens.map (Lexeme.shift (endLocation pre))) =
      (scanEntries doc join entries tokens).map (FromEntry.shift (endLocation pre)) := by
  have hfirst (join : Option String) (entries : List FromEntry) (tokens : List Lexeme) :
      ((scanFactor doc join tokens).shift (endLocation pre)).entry.toList ++
          entries.map (FromEntry.shift (endLocation pre)) =
        ((scanFactor doc join tokens).entry.toList ++ entries).map
          (FromEntry.shift (endLocation pre)) := by
    cases h : (scanFactor doc join tokens).entry <;> simp [Factor.shift, h]
  induction join, entries, tokens using scanEntries_induction doc with
  | stop join entries tokens hstop hscan =>
    rw [hscan, scanEntries_eq, scanFactor_map_shift, hfirst]
    exact if_neg (by simp [Factor.shift, hstop])
  | last join entries tokens entries' hcontinues hafter hscan =>
    rw [hscan, scanEntries_eq, scanFactor_map_shift, hfirst]
    simp only [Factor.shift, afterFactor_map_shift, hcontinues, if_true, hafter]
    rfl
  | next join entries tokens entries' join' rest hcontinues hafter hscan ih =>
    rw [hscan, scanEntries_eq, scanFactor_map_shift, hfirst, ← ih]
    simp only [Factor.shift, afterFactor_map_shift, hcontinues, if_true, hafter]
    rfl

end

/-- **The entries of a text that stands further on in a document are its own, with their places
shifted.** -/
theorem scan_map_shift (parse : String → Except ParseFailure Statement) (pre : List Char)
    (text : String) (tokens : List Lexeme) :
    scan parse (String.ofList (pre ++ text.toList)) (tokens.map (Lexeme.shift (endLocation pre))) =
      (scan parse text tokens).map (FromEntry.shift (endLocation pre)) := by
  simp only [scan, afterFrom?_map_shift, List.getLast?_map, String.toList_ofList]
  cases afterFrom? 0 tokens with
  | none => rfl
  | some rest =>
    cases tokens.getLast? with
    | none => rfl
    | some last =>
      have hentries := scanEntries_map_shift pre ⟨text.toList, last, parse⟩ none [] rest
      rw [List.map_nil] at hentries
      simp only [Option.map_some, List.map_reverse]
      rw [← hentries]
      rfl

end Sql.FromClause

end SqlCompletion
