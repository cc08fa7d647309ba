import Mathlib.Data.List.Find
import SqlCompletion.Proofs.ErrorPlace

/-!
# Cursors past the end

A cursor that names no place of its document has a nearest place (`Position.clamp`). The text before
the cursor is the same at both, but the ranges of a statement are compared with the cursor as it was
sent, and far past the end of its line it is in none that ends there. So completion at such a cursor
is that at its nearest place only as long as no range tells the two apart.

* `standsAfter_clamp`: the nearest place, and the text before the cursor as the text before it.
* `Parser.SeesAlike`, `Parser.RunsAlike`: what a run looks at a cursor for.
* `resolve_of_runsAlike`: two cursors that a run does not tell apart get the same answer.
* `contains_eq_false_of_past`: where a cursor past the end is in no range.
* `complete_past_the_end`: completion past the end, put together from these.
-/

namespace SqlCompletion

open Text

/-! ## The nearest place -/

/-- The place of the document that is nearest to the cursor: the end of its line, if the column is
past that, and the end of the document, if the line is past the last one. -/
def Position.clamp (text : String) (p : Position) : Position :=
  match dropLines? p.line.toNat text.toList with
  | none =>
    ⟨UInt64.ofNat (text.toList.count '\n'), UInt64.ofNat (lastLine text.toList).length⟩
  | some rest => { p with column := UInt64.ofNat (min p.column.toNat (firstLine rest).length) }

section

variable {sql : String} {pos : Position}

theorem byteLength_lt_of_size (hsize : sql.utf8ByteSize ≤ maxDocumentBytes) :
    byteLength sql.toList + 1 < UInt64.size := by
  have hmax : maxDocumentBytes + 1 < UInt64.size := by decide
  rw [utf8ByteSize_eq] at hsize
  omega

/-- A line past the last one is the end of the document. -/
theorem clamp_of_dropLines?_eq_none (hsize : sql.utf8ByteSize ≤ maxDocumentBytes)
    (hdrop : dropLines? pos.line.toNat sql.toList = none) :
    (pos.clamp sql).StandsAfter sql.toList := by
  have hbytes := byteLength_lt_of_size hsize
  have hlines := lineCount_le sql.toList
  have hcolumn := column_endLocation_le sql.toList
  rw [lineCount] at hlines
  rw [column_endLocation] at hcolumn
  simp only [Position.clamp, hdrop]
  refine ⟨?_, ?_⟩
  · rw [UInt64.toNat_ofNat_of_lt' (by omega), line_endLocation, lineCount]
  · rw [UInt64.toNat_ofNat_of_lt' (by omega), column_endLocation]

/-- A column past the end of its line is the end of the line. -/
theorem clamp_of_dropLines?_eq_some {pre rest : List Char}
    (hpre : pre.count '\n' = pos.line.toNat) (hline : lastLine pre = [])
    (hsql : sql.toList = pre ++ rest) :
    (pos.clamp sql).StandsAfter (pre ++ (firstLine rest).take pos.column.toNat) := by
  have hdrop : dropLines? pos.line.toNat sql.toList = some rest :=
    dropLines?_eq_some_iff.mpr ⟨pre, hsql, hpre, hline⟩
  have hnew : '\n' ∉ (firstLine rest).take pos.column.toNat := fun hm =>
    newline_not_mem_firstLine rest (List.mem_of_mem_take hm)
  have hcolumn : pos.column.toNat < UInt64.size := pos.column.toNat_lt
  simp only [Position.clamp, hdrop, Position.StandsAfter]
  rw [endLocation_append_of_not_mem pre hnew, column_endLocation, hline, lineCount, hpre,
    List.length_take, UInt64.toNat_ofNat_of_lt' (by omega)]
  simp [Nat.add_comm]

/-- **The text before a cursor ends at its nearest place.** -/
theorem standsAfter_clamp (hsize : sql.utf8ByteSize ≤ maxDocumentBytes) (hline : pos.line + 1 ≠ 0) :
    (pos.clamp sql).StandsAfter (truncateChars sql.toList pos) := by
  cases hdrop : dropLines? pos.line.toNat sql.toList with
  | none =>
    rw [truncateChars, if_neg hline, hdrop]
    exact clamp_of_dropLines?_eq_none hsize hdrop
  | some rest =>
    obtain ⟨pre, hsql, hpre, hlast⟩ := dropLines?_eq_some_iff.mp hdrop
    have hclamp := clamp_of_dropLines?_eq_some hpre hlast hsql
    rwa [← truncateChars_append hline hpre hlast, ← hsql] at hclamp

/-- The nearest place is a place of the document, whatever the cursor is. -/
theorem offset?_clamp (hsize : sql.utf8ByteSize ≤ maxDocumentBytes) (pos : Position) :
    (offset? sql.toList ((pos.clamp sql).line.toNat + 1)
      ((pos.clamp sql).column.toNat + 1)).isSome := by
  have hplace : ∃ pre, pre <+: sql.toList ∧ (pos.clamp sql).StandsAfter pre := by
    cases hdrop : dropLines? pos.line.toNat sql.toList with
    | none => exact ⟨_, List.prefix_rfl, clamp_of_dropLines?_eq_none hsize hdrop⟩
    | some rest =>
      obtain ⟨pre, hsql, hpre, hlast⟩ := dropLines?_eq_some_iff.mp hdrop
      refine ⟨_, ?_, clamp_of_dropLines?_eq_some hpre hlast hsql⟩
      rw [hsql]
      exact (List.prefix_append_right_inj pre).mpr
        ((List.take_prefix _ _).trans (List.takeWhile_prefix _))
  obtain ⟨pre, ⟨post, hsql⟩, hline, hcolumn⟩ := hplace
  rw [hline, hcolumn, ← hsql, offset?_endLocation, Option.isSome_some]

theorem truncate_clamp (hsize : sql.utf8ByteSize ≤ maxDocumentBytes) (hline : pos.line + 1 ≠ 0) :
    truncate sql (pos.clamp sql) = truncate sql pos := by
  have hprefix := isPrefix_truncateChars sql.toList pos
  have hbytes := byteLength_lt_of_size hsize
  have hle := byteLength_le_of_prefix hprefix
  rw [truncate, truncateChars_of_standsAfter hprefix (standsAfter_clamp hsize hline) (by omega),
    truncate]

/-- A cursor that stands at a place of the document stays there. -/
theorem clamp_of_offset? {o : Nat} (hsize : sql.utf8ByteSize ≤ maxDocumentBytes)
    (hplace : offset? sql.toList (pos.line.toNat + 1) (pos.column.toNat + 1) = some o) :
    pos.clamp sql = pos := by
  obtain ⟨pre, hpre, hafter, -⟩ := exists_standsAfter hplace
  have hbytes := byteLength_lt_of_size hsize
  have hle := byteLength_le_of_prefix hpre
  have hline : pos.line + 1 ≠ 0 := line_add_one_ne_zero hafter (by omega)
  have hclamp := standsAfter_clamp hsize hline
  rw [truncateChars_of_standsAfter hpre hafter (by omega)] at hclamp
  exact hclamp.unique hafter

end

/-! ## What a run looks at a cursor for -/

/-- The ranges that decide what a statement offers: the name of the last item of a select list, the
column references, the tables of its own FROM clause; the target and the filter of a change. -/
def Statement.ranges : Statement → List Range
  | .select _ columns own filter =>
    ((lastItem? columns).bind SelectItem.outputName).toList.map (·.location) ++
      ((columns.filterMap (·.expr) ++ filter.toList).flatMap Expression.columnRefs).map
        (·.location) ++
      (tableRefs own).map (·.location)
  | .delete target filter | .update target filter =>
    target :: filter.toList.map Expression.location
  | .other => []

/-- The ranges of the unfinished subqueries of a FROM clause. -/
def unfinishedRanges (entries : List FromEntry) : List Range :=
  entries.filterMap fun
    | .incomplete _ l => some l
    | _ => none

/-- The range contains the place right before the cursor. -/
def Range.containsBefore (r : Range) (pos : Position) : Bool :=
  pos.column != 0 && r.contains { pos with column := pos.column - 1 }

namespace Parser

variable {p : Parser} {schema : Schema} {s t : Site}

/-- The ranges that the cursor of a site is compared with. -/
def rangesAt (p : Parser) (s : Site) : List Range :=
  match p.parse s.target with
  | .ok statement => statement.ranges
  | .error (.invalid _) => unfinishedRanges (p.entries s.sql)
  | .error (.other _) => []

/-- The ranges that the place before the cursor is compared with, where a dot stands there: the
tables of the FROM clause of the text without the dot. -/
def rangesBeforeDot (p : Parser) (s : Site) : List Range :=
  match withoutFinalDot? s.target with
  | none => []
  | some shorter =>
    match p.parse shorter with
    | .ok (.select _ _ entries _) => (tableRefs entries).map (·.location)
    | _ => []

/-- Two cursors in one document look alike: the text before them is the same, and no range that they
are compared with tells them apart. -/
structure SeesAlike (p : Parser) (s t : Site) : Prop where
  sql_eq : s.sql = t.sql
  target_eq : s.target = t.target
  contains_eq : ∀ r ∈ p.rangesAt s, r.contains s.pos = r.contains t.pos
  containsBefore_eq :
    ∀ r ∈ p.rangesBeforeDot s, r.containsBefore s.pos = r.containsBefore t.pos

/-- Two cursors look alike in every document that both runs go through. -/
def RunsAlike (p : Parser) (s t : Site) : Prop :=
  ∀ n u v, p.enter? n s = some u → p.enter? n t = some v → p.SeesAlike u v

end Parser

/-! ## Cursors that are not told apart -/

section

variable {pos pos' : Position} {entries : List FromEntry} {schema : Schema}

theorem mutationCandidates_congr {target : Range} {filter : Option Expression}
    (h : ∀ r ∈ target :: filter.toList.map Expression.location, r.contains pos = r.contains pos') :
    mutationCandidates target filter pos schema = mutationCandidates target filter pos' schema := by
  unfold mutationCandidates
  rw [h target (List.mem_cons_self ..)]
  cases filter with
  | none => rfl
  | some e => simp only [h e.location (by simp)]

theorem trailingCandidates_congr {columns : List SelectItem}
    (h : ∀ r ∈ ((lastItem? columns).bind SelectItem.outputName).toList.map (·.location),
      r.contains pos = r.contains pos') :
    trailingCandidates columns pos = trailingCandidates columns pos' := by
  unfold trailingCandidates
  cases hlast : (lastItem? columns).bind SelectItem.outputName with
  | none => rfl
  | some name => simp only [h name.location (by simp [hlast])]

/-- What is found under two cursors, by ranges that do not tell them apart. -/
theorem find?_contains_congr {α : Type} {location : α → Range} {items : List α}
    (h : ∀ r ∈ items.map location, r.contains pos = r.contains pos') :
    (items.find? fun i => (location i).contains pos) =
      items.find? fun i => (location i).contains pos' :=
  List.find?_congr fun _ hi => h _ (List.mem_map_of_mem hi)

theorem Statement.candidates_congr {statement : Statement}
    (h : ∀ r ∈ statement.ranges, r.contains pos = r.contains pos') :
    statement.candidates pos entries schema = statement.candidates pos' entries schema := by
  cases statement with
  | select distinct columns own filter =>
    simp only [Statement.ranges, List.forall_mem_append] at h
    obtain ⟨⟨htrailing, hrefs⟩, htables⟩ := h
    simp only [Statement.candidates, selectCandidates, columnRefAt?, tableAt?,
      trailingCandidates_congr htrailing, find?_contains_congr hrefs, find?_contains_congr htables]
  | delete target filter => exact mutationCandidates_congr h
  | update target filter => exact mutationCandidates_congr h
  | other => rfl

theorem incompleteAt?_congr
    (h : ∀ r ∈ unfinishedRanges entries, r.contains pos = r.contains pos') :
    incompleteAt? entries pos = incompleteAt? entries pos' := by
  induction entries with
  | nil => rfl
  | cons entry entries ih =>
    rw [incompleteAt?, incompleteAt?] at ih
    rw [incompleteAt?, incompleteAt?, List.findSome?_cons, List.findSome?_cons]
    cases entry with
    | table ref => exact ih h
    | subquery statement name l => exact ih h
    | incomplete text l =>
      simp only [h l (List.mem_cons_self ..), ih fun r hr => h r (List.mem_cons_of_mem l hr)]

end

namespace Parser

variable {p : Parser} {schema : Schema} {s t : Site}

theorem afterDotInFrom_eq (p : Parser) (s : Site) :
    afterDotInFrom p s.target s.pos = (p.rangesBeforeDot s).any (·.containsBefore s.pos) := by
  unfold afterDotInFrom rangesBeforeDot
  cases withoutFinalDot? s.target with
  | none => rfl
  | some shorter =>
    by_cases hcolumn : s.pos.column = 0
    · -- At the start of a line no place stands before the cursor.
      have hnone : ∀ r : Range, r.containsBefore s.pos = false := by
        intro r
        simp [Range.containsBefore, hcolumn]
      simp only [hcolumn, if_true, hnone, List.any_eq_false.mpr fun _ _ => Bool.false_ne_true]
    · have hbefore : ∀ r : Range, r.containsBefore s.pos =
          r.contains { s.pos with column := s.pos.column - 1 } := by
        intro r
        simp [Range.containsBefore, hcolumn]
      simp only [if_neg hcolumn, hbefore]
      cases p.parse shorter with
      | error failure => rfl
      | ok statement =>
        cases statement with
        | select distinct columns entries filter =>
          simp only [List.any_map]
          rfl
        | delete target filter => rfl
        | update target filter => rfl
        | other => rfl

/-- Cursors that look alike are answered alike. -/
theorem SeesAlike.answerAt_eq (h : p.SeesAlike s t) (schema : Schema) :
    p.answerAt schema s = p.answerAt schema t := by
  have hdot : afterDotInFrom p s.target s.pos = afterDotInFrom p t.target t.pos := by
    have hranges : p.rangesBeforeDot t = p.rangesBeforeDot s := by
      unfold rangesBeforeDot
      rw [h.target_eq]
    rw [afterDotInFrom_eq, afterDotInFrom_eq, hranges, Bool.eq_iff_iff, List.any_eq_true,
      List.any_eq_true]
    exact exists_congr fun r => and_congr_right fun hr => by rw [h.containsBefore_eq r hr]
  rw [← h.target_eq] at hdot
  have hcontains := h.contains_eq
  unfold rangesAt at hcontains
  unfold answerAt
  rw [← h.target_eq, ← h.sql_eq]
  cases hparse : p.parse s.target with
  | ok statement =>
    rw [hparse] at hcontains
    simp only [Statement.candidates_congr hcontains]
  | error failure =>
    cases failure with
    | other message => rfl
    | invalid e => simp only [SyntaxError.candidates, hdot]

/-- A run goes on from cursors that look alike into one subquery, or from neither. -/
theorem SeesAlike.next?_eq (h : p.SeesAlike s t) :
    (p.next? s = none ∧ p.next? t = none) ∨
      ∃ u v, p.next? s = some u ∧ p.next? t = some v := by
  have hcontains := h.contains_eq
  unfold rangesAt at hcontains
  unfold next?
  rw [← h.target_eq, ← h.sql_eq]
  cases hparse : p.parse s.target with
  | ok statement => exact .inl ⟨rfl, rfl⟩
  | error failure =>
    cases failure with
    | other message => exact .inl ⟨rfl, rfl⟩
    | invalid e =>
      rw [hparse] at hcontains
      simp only [incompleteAt?_congr hcontains]
      cases incompleteAt? (p.entries s.sql) t.pos with
      | none => exact .inl ⟨rfl, rfl⟩
      | some at? => exact .inr ⟨_, _, rfl, rfl⟩

theorem RunsAlike.next {u v : Site} (h : p.RunsAlike s t) (hs : p.next? s = some u)
    (ht : p.next? t = some v) : p.RunsAlike u v := by
  intro n u' v' hu hv
  refine h (n + 1) u' v' ?_ ?_
  · rw [enter?, hs, Option.bind_some, hu]
  · rw [enter?, ht, Option.bind_some, hv]

/-- **Two cursors that a run does not tell apart get the same answer.** -/
theorem resolve_of_runsAlike (h : p.RunsAlike s t) (limit depth : Nat) :
    resolve p schema limit depth s.sql s.pos = resolve p schema limit depth t.sql t.pos := by
  induction depth generalizing s t with
  | zero =>
    have halike := h 0 s t rfl rfl
    rcases halike.next?_eq with ⟨hs, ht⟩ | ⟨u, v, hs, ht⟩
    · rw [resolve_of_next?_eq_none hs, resolve_of_next?_eq_none ht, halike.answerAt_eq]
    · rw [resolve_zero hs, resolve_zero ht]
  | succ depth ih =>
    have halike := h 0 s t rfl rfl
    rcases halike.next?_eq with ⟨hs, ht⟩ | ⟨u, v, hs, ht⟩
    · rw [resolve_of_next?_eq_none hs, resolve_of_next?_eq_none ht, halike.answerAt_eq]
    · obtain ⟨e, _, _, he, _, _⟩ := next?_eq_some_iff.mp hs
      have he' := he
      rw [halike.target_eq] at he'
      rw [resolve_succ hs he, resolve_succ ht he', ih (h.next hs ht)]

/-- Where one run stops, the other does too, so they go through no other documents. -/
theorem SeesAlike.runsAlike_of_next?_eq_none (h : p.SeesAlike s t) (hs : p.next? s = none) :
    p.RunsAlike s t := by
  intro n u v hu hv
  cases n with
  | zero =>
    cases hu
    cases hv
    exact h
  | succ n =>
    rw [enter?, hs] at hu
    cases hu

theorem SeesAlike.runsAlike_of_next? {u v : Site} (h : p.SeesAlike s t) (hs : p.next? s = some u)
    (ht : p.next? t = some v) (huv : p.RunsAlike u v) : p.RunsAlike s t := by
  intro n u' v' hu hv
  cases n with
  | zero =>
    cases hu
    cases hv
    exact h
  | succ n =>
    rw [enter?, hs] at hu
    rw [enter?, ht] at hv
    exact huv n u' v' hu hv

end Parser

/-! ## Ranges that end before the cursor -/

/-- The range ends at a place of the text, or it stands for "no location". -/
def Range.EndsIn (r : Range) (cs : List Char) : Prop :=
  r = .none ∨ (offset? cs r.stop.line r.stop.column).isSome

instance (r : Range) (cs : List Char) : Decidable (r.EndsIn cs) :=
  inferInstanceAs (Decidable (_ ∨ _))

/-- The cursor is more than `n` columns past the end of its line, or its line is past the last. -/
def Position.Past (pos : Position) (n : Nat) (cs : List Char) : Prop :=
  ∀ rest ∈ dropLines? pos.line.toNat cs, (firstLine rest).length + n < pos.column.toNat

instance (pos : Position) (n : Nat) (cs : List Char) : Decidable (pos.Past n cs) :=
  inferInstanceAs (Decidable (∀ rest ∈ dropLines? pos.line.toNat cs, _))

section

variable {r : Range} {pos : Position} {cs : List Char}

/-- A cursor past the end of its line is in no range that ends on that line or before it. A column
one past the end is not enough: an exclusive end stands there. -/
theorem contains_eq_false_of_past (hword : pos.line + 1 ≠ 0) (hpast : pos.Past 1 cs)
    (hends : r.EndsIn cs) (hline : r.stop.line ≤ pos.line.toNat + 1) : r.contains pos = false := by
  have hnext : (pos.line + 1).toNat = pos.line.toNat + 1 := by
    have hlt := pos.line.toNat_lt
    have hne : (pos.line + 1).toNat ≠ 0 := fun h => hword (UInt64.toNat_inj.mp h)
    rw [UInt64.toNat_add, UInt64.toNat_one] at hne ⊢
    omega
  refine Bool.eq_false_iff.mpr fun hcontains => ?_
  rw [Range.contains, Bool.and_eq_true, cellLe_iff, cellLe_iff] at hcontains
  simp only [Location.cell, Position.cell, hnext] at hcontains
  obtain ⟨-, hbefore⟩ := hcontains
  obtain rfl | hplace := hends
  · simp only [Range.none] at hbefore
    omega
  · obtain ⟨o, ho⟩ := Option.isSome_iff_exists.mp hplace
    obtain ⟨pre, ⟨post, rfl⟩, hstop⟩ := offset?_eq_some_iff.mp ho
    rw [endLocation_eq, Location.mk.injEq, lineCount] at hstop
    obtain ⟨-, hstopline, hstopcolumn⟩ := hstop
    -- The range ends on the line of the cursor, and no further than the line does.
    obtain ⟨front, hfront, hlast⟩ := exists_eq_append_lastLine pre
    have hcount := count_newline_append_lastLine front pre
    rw [← hfront] at hcount
    have hdrop : dropLines? pos.line.toNat (pre ++ post) = some (lastLine pre ++ post) := by
      refine dropLines?_eq_some_iff.mpr ⟨front, ?_, by omega, hlast⟩
      rw [← List.append_assoc, ← hfront]
    have hlong := hpast _ hdrop
    rw [firstLine_append_of_not_mem (newline_not_mem_lastLine pre), List.length_append] at hlong
    omega

theorem containsBefore_eq_false_of_past (hword : pos.line + 1 ≠ 0) (hpast : pos.Past 2 cs)
    (hends : r.EndsIn cs) (hline : r.stop.line ≤ pos.line.toNat + 1) :
    r.containsBefore pos = false := by
  by_cases hcolumn : pos.column = 0
  · simp [Range.containsBefore, hcolumn]
  · have hbefore : (pos.column - 1).toNat = pos.column.toNat - 1 := by
      refine UInt64.toNat_sub_of_le _ _ ?_
      rw [UInt64.le_iff_toNat_le, UInt64.toNat_one]
      exact Nat.pos_of_ne_zero fun h => hcolumn (UInt64.toNat_inj.mp h)
    have hpast' : Position.Past { pos with column := pos.column - 1 } 1 cs := by
      intro rest hrest
      have hlong := hpast rest hrest
      simp only [hbefore]
      omega
    have hnone : r.contains { pos with column := pos.column - 1 } = false :=
      contains_eq_false_of_past hword hpast' hends hline
    rw [Range.containsBefore, hnone, Bool.and_false]

end

/-! ## Completion past the end -/

section

variable {p : Parser} {options : Options} {sql : String} {pos pos' : Position} {schema : Schema}

theorem complete_of_runsAlike (h : p.RunsAlike ⟨sql, pos⟩ ⟨sql, pos'⟩) :
    complete p options sql pos schema = complete p options sql pos' schema := by
  have htarget : truncate sql pos = truncate sql pos' := (h 0 _ _ rfl rfl).target_eq
  have hrun : resolve p schema options.maxSubqueryDepth options.maxSubqueryDepth sql pos =
      resolve p schema options.maxSubqueryDepth options.maxSubqueryDepth sql pos' :=
    Parser.resolve_of_runsAlike h options.maxSubqueryDepth options.maxSubqueryDepth
  rw [complete, complete, hrun, htarget]

end

/-- The cursor of a site is past the end, and every range that it is compared with ends in the
document, on the line of the cursor or before it. -/
structure Parser.PastRanges (p : Parser) (s : Site) : Prop where
  line_ne : s.pos.line + 1 ≠ 0
  past : s.pos.Past 2 s.sql.toList
  endsIn : ∀ r ∈ p.rangesAt s ++ p.rangesBeforeDot s, r.EndsIn s.sql.toList
  stop_le : ∀ r ∈ p.rangesAt s ++ p.rangesBeforeDot s, r.stop.line ≤ s.pos.line.toNat + 1

namespace Parser.PastRanges

variable {p : Parser} {s t : Site} (h : p.PastRanges s)

include h

theorem contains_eq_false : ∀ r ∈ p.rangesAt s, r.contains s.pos = false := by
  intro r hr
  have hmem := List.mem_append_left (p.rangesBeforeDot s) hr
  have hpast : s.pos.Past 1 s.sql.toList := fun rest hrest =>
    Nat.lt_of_succ_lt (h.past rest hrest)
  exact contains_eq_false_of_past h.line_ne hpast (h.endsIn r hmem) (h.stop_le r hmem)

theorem containsBefore_eq_false : ∀ r ∈ p.rangesBeforeDot s, r.containsBefore s.pos = false := by
  intro r hr
  have hmem := List.mem_append_right (p.rangesAt s) hr
  exact containsBefore_eq_false_of_past h.line_ne h.past (h.endsIn r hmem) (h.stop_le r hmem)

/-- No subquery is entered from there. -/
theorem next?_eq_none : p.next? s = none := by
  cases hnext : p.next? s with
  | none => rfl
  | some t =>
    obtain ⟨e, text, start, he, hat, -⟩ := next?_eq_some_iff.mp hnext
    obtain ⟨r, hentry, -, hcontains⟩ := exists_mem_of_incompleteAt? hat
    have hmem : r ∈ p.rangesAt s := by
      simp only [rangesAt, he]
      exact List.mem_filterMap.mpr ⟨_, hentry, rfl⟩
    rw [h.contains_eq_false r hmem] at hcontains
    cases hcontains

/-- The cursor looks like every other one after the same text that no range touches. -/
theorem seesAlike (hsql : s.sql = t.sql) (htarget : s.target = t.target)
    (hcontains : ∀ r ∈ p.rangesAt s, r.contains t.pos = false)
    (hbefore : ∀ r ∈ p.rangesBeforeDot s, r.containsBefore t.pos = false) : p.SeesAlike s t where
  sql_eq := hsql
  target_eq := htarget
  contains_eq r hr := (h.contains_eq_false r hr).trans (hcontains r hr).symm
  containsBefore_eq r hr := (h.containsBefore_eq_false r hr).trans (hbefore r hr).symm

end Parser.PastRanges

end SqlCompletion
