import SqlCompletion.Proofs.FromScan
import SqlCompletion.Proofs.Outcome
import SqlCompletion.Proofs.Spelling

/-!
# Where unfinished subqueries stand

The text of an unfinished subquery is a part of the document. It starts right after a parenthesis,
which stands somewhere after the keyword `FROM`, and ends before the parenthesis that closes the
group, or with the document. So it is shorter than the document by the bytes of `FROM(` at least,
and a run of completion is no longer than the document allows.

* `exists_group_of_mem_scan`: every unfinished subquery of a clause is a group of the clause.
* `standsBehindFrom_of_mem_fromClause`: its text is a part of the document, behind `FROM` and `(`.
* `exists_stops`: with the parsers for SQL every run stops.
-/

namespace SqlCompletion

namespace Sql

open Text

/-! ## Groups as text -/

namespace FromClause

variable {doc : Document} {join : Option String} {text : String} {range : Range}

/-- Where a group ends whose parenthesis `tokens` follow: at the parenthesis that closes it, or with
the document. -/
def groupStop (chars : List Char) (tokens : List Lexeme) : Location :=
  match groupEnd? 0 tokens with
  | some (close, _) => close.range.start
  | none => endLocation chars

/-- A group as an unfinished subquery: the text between its parentheses. -/
def groupEntry (chars : List Char) (opening : Lexeme) (tokens : List Lexeme) : FromEntry :=
  let range : Range := ⟨opening.range.stop, groupStop chars tokens⟩
  .incomplete (String.ofList (slice chars range.start.offset range.stop.offset)) range

/-- A subquery that is kept as text is the group. -/
theorem eq_groupEntry_of_scanSubquery {opening : Lexeme} {tokens : List Lexeme}
    (h : (scanSubquery doc opening tokens).entry = some (.incomplete text range)) :
    .incomplete text range = groupEntry doc.chars opening tokens := by
  simp only [scanSubquery] at h
  simp only [groupEntry, groupStop]
  cases hgroup : groupEnd? 0 tokens with
  | none =>
    simp only [hgroup, Option.some.injEq] at h
    exact h.symm
  | some found =>
    simp only [hgroup, Option.some.injEq] at h
    split at h
    · cases h
    · exact h.symm

/-- The tokens hold a group whose text is the unfinished subquery. -/
def HasGroup (chars : List Char) (tokens : List Lexeme) (entry : FromEntry) : Prop :=
  ∃ opening rest, opening :: rest <:+ tokens ∧ opening.token = .symbol .leftParen ∧
    entry = groupEntry chars opening rest

theorem HasGroup.of_suffix {chars : List Char} {tokens rest : List Lexeme} {entry : FromEntry}
    (h : HasGroup chars rest entry) (hs : rest <:+ tokens) : HasGroup chars tokens entry := by
  obtain ⟨opening, more, hmore, hgroup⟩ := h
  exact ⟨opening, more, hmore.trans hs, hgroup⟩

/-- A table of the clause that is an unfinished subquery is a group. -/
theorem hasGroup_of_scanFactor {tokens : List Lexeme}
    (h : (scanFactor doc join tokens).entry = some (.incomplete text range)) :
    HasGroup doc.chars tokens (.incomplete text range) := by
  refine HasGroup.of_suffix ?_ (suffix_skipLateral tokens)
  unfold scanFactor at h
  split at h
  · next t rest hs =>
    rw [hs]
    split at h
    · next hopening =>
      refine ⟨t, rest, List.suffix_rfl, hopening, ?_⟩
      unfold scanGroup at h
      split at h
      · exact eq_groupEntry_of_scanSubquery h
      · cases h
    · split at h <;> cases h
    · cases h
  · cases h

/-- Every unfinished subquery of a clause is a group of its tokens. -/
theorem hasGroup_of_mem_scanEntries {tokens : List Lexeme}
    (h : .incomplete text range ∈ scanEntries doc join [] tokens) :
    HasGroup doc.chars tokens (.incomplete text range) := by
  have hfactor (join : Option String) (rest : List Lexeme) (entry : FromEntry)
      (hs : rest <:+ tokens) (hentry : (scanFactor doc join rest).entry = some entry) :
      ∀ text range, entry = .incomplete text range → HasGroup doc.chars tokens entry := by
    rintro text range rfl
    exact (hasGroup_of_scanFactor hentry).of_suffix hs
  exact forall_mem_scanEntries (fun _ _ => nofun) hfactor
    (fun _ hentry => absurd hentry List.not_mem_nil) _ h text range rfl

theorem exists_keyword_of_afterFrom? {depth : Nat} {tokens rest : List Lexeme}
    (h : afterFrom? depth tokens = some rest) :
    ∃ t, t :: rest <:+ tokens ∧ isKeyword t.token "FROM" = true := by
  induction tokens generalizing depth with
  | nil => cases h
  | cons t tokens ih =>
    rw [afterFrom?] at h
    split at h
    · next hfrom =>
      cases h
      exact ⟨t, List.suffix_rfl, (Bool.and_eq_true_iff.mp hfrom).2⟩
    · obtain ⟨u, hu, hkeyword⟩ := ih h
      exact ⟨u, hu.trans (List.suffix_cons t tokens), hkeyword⟩

/-- **Every unfinished subquery of a clause is a group after its `FROM`.** -/
theorem exists_group_of_mem_scan {parse : String → Except ParseFailure Statement} {sql : String}
    {tokens : List Lexeme} (h : .incomplete text range ∈ scan parse sql tokens) :
    ∃ t rest, t :: rest <:+ tokens ∧ isKeyword t.token "FROM" = true ∧
      HasGroup sql.toList rest (.incomplete text range) := by
  unfold scan at h
  split at h
  · next rest last hrest _ =>
    obtain ⟨t, ht, hkeyword⟩ := exists_keyword_of_afterFrom? hrest
    have hgroup := hasGroup_of_mem_scanEntries (List.mem_reverse.mp h)
    exact ⟨t, rest, ht, hkeyword, hgroup⟩
  · cases h

end FromClause

/-! ## Groups in the document -/

/-- The text stands in the document at `range`, after a parenthesis that comes after a `FROM`; both
are tokens of the document, and `FROM` is not in quotes. -/
def StandsBehindFrom (d : Dialect) (sql text : String) (range : Range) : Prop :=
  ∃ tokens before word between after, lex d sql = .ok tokens ∧
    sql.toList = before ++ word ++ between ++ ['('] ++ text.toList ++ after ∧
    ⟨wordToken word, ⟨endLocation before, endLocation (before ++ word)⟩⟩ ∈ tokens ∧
    Keyword.ofWord? word = some "FROM" ∧
    ⟨.symbol .leftParen, ⟨endLocation (before ++ word ++ between), range.start⟩⟩ ∈ tokens ∧
    range.start = endLocation (before ++ word ++ between ++ ['(']) ∧
    range.stop = endLocation (before ++ word ++ between ++ ['('] ++ text.toList)

variable {d : Dialect} {sql text : String} {range : Range} {tokens : List Lexeme}

/-- A token that starts no earlier than another one ends stands after it. -/
theorem Lexeme.Stands.isPrefix {t u : Lexeme} {cs before chars before' chars' : List Char}
    (ht : t.Stands before chars) (hcs : before ++ chars <+: cs) (hu : u.Stands before' chars')
    (hcs' : before' ++ chars' <+: cs) (hle : t.range.stop.offset ≤ u.range.start.offset) :
    before ++ chars <+: before' := by
  rw [ht.range_eq, hu.range_eq, offset_endLocation, offset_endLocation] at hle
  exact isPrefix_of_byteLength_le hcs ((List.prefix_append before' chars').trans hcs') hle

theorem exists_stands_of_suffix (hlex : lex d sql = .ok tokens) {t : Lexeme} {rest : List Lexeme}
    (hs : t :: rest <:+ significant tokens) :
    t ∈ tokens ∧ ∃ before chars, before ++ chars <+: sql.toList ∧ t.Stands before chars := by
  have ht : t ∈ tokens := (List.mem_filter.mp (hs.subset (List.mem_cons_self ..))).1
  exact ⟨ht, exists_stands_of_mem_lex hlex ht⟩

/-- A group ends no earlier than it starts, at a place of the document. -/
theorem exists_groupStop (hlex : lex d sql = .ok tokens) {opening : Lexeme} {rest : List Lexeme}
    (hs : opening :: rest <:+ significant tokens) {before chars : List Char}
    (hcs : before ++ chars <+: sql.toList) (hstands : opening.Stands before chars) :
    ∃ inner, before ++ chars ++ inner <+: sql.toList ∧
      FromClause.groupStop sql.toList rest = endLocation (before ++ chars ++ inner) := by
  unfold FromClause.groupStop
  split
  · next close after hgroup =>
    have hclose := FromClause.suffix_of_groupEnd? hgroup
    obtain ⟨-, before', chars', hcs', hstands'⟩ :=
      exists_stands_of_suffix hlex (hclose.trans ((List.suffix_cons opening rest).trans hs))
    have hle := (placed_significant hlex).stop_le_start hs (hclose.subset (List.mem_cons_self ..))
    obtain ⟨inner, rfl⟩ := hstands.isPrefix hcs hstands' hcs' hle
    exact ⟨inner, (List.prefix_append _ chars').trans hcs', by rw [hstands'.range_eq]⟩
  · obtain ⟨inner, hinner⟩ := hcs
    rw [← hinner]
    exact ⟨inner, List.prefix_rfl, rfl⟩

/-- A group as an unfinished subquery is the part of the document between its ends. -/
theorem exists_groupEntry (hlex : lex d sql = .ok tokens) {opening : Lexeme} {rest : List Lexeme}
    (hs : opening :: rest <:+ significant tokens) {before chars : List Char}
    (hcs : before ++ chars <+: sql.toList) (hstands : opening.Stands before chars) :
    ∃ inner, before ++ chars ++ inner <+: sql.toList ∧
      FromClause.groupEntry sql.toList opening rest = .incomplete (String.ofList inner)
        ⟨endLocation (before ++ chars), endLocation (before ++ chars ++ inner)⟩ := by
  obtain ⟨inner, hinner, hstop⟩ := exists_groupStop hlex hs hcs hstands
  refine ⟨inner, hinner, ?_⟩
  obtain ⟨after, hafter⟩ := hinner
  rw [FromClause.groupEntry, hstop, hstands.range_eq, offset_endLocation, offset_endLocation,
    ← hafter, slice_append]

/-- **The text of an unfinished subquery is a part of the document, behind `FROM` and `(`.** -/
theorem standsBehindFrom_of_mem_fromClause {entries : List FromEntry}
    (h : fromClause d sql = .ok entries) (he : .incomplete text range ∈ entries) :
    StandsBehindFrom d sql text range := by
  unfold fromClause at h
  split at h
  · cases h
  · next tokens hlex =>
    cases h
    obtain ⟨t, rest, ht, hkeyword, opening, more, hopening, hparen, hentry⟩ :=
      FromClause.exists_group_of_mem_scan he
    have hgroup := hopening.trans ((List.suffix_cons t rest).trans ht)
    obtain ⟨hmem, before, word, hword, hstands⟩ := exists_stands_of_suffix hlex ht
    obtain ⟨hmem', before', chars, hchars, hstands'⟩ := exists_stands_of_suffix hlex hgroup
    have hle := (placed_significant hlex).stop_le_start ht (hopening.subset (List.mem_cons_self ..))
    obtain ⟨between, rfl⟩ := hstands.isPrefix hword hstands' hchars hle
    -- Both tokens are spelled as they should be.
    obtain ⟨htoken, hfrom⟩ := hstands.isSpelled.eq_wordToken (beq_iff_eq.mp hkeyword)
    obtain rfl := hstands'.eq_leftParen hparen
    obtain ⟨inner, ⟨after, hafter⟩, hinner⟩ := exists_groupEntry hlex hgroup hchars hstands'
    rw [hinner] at hentry
    cases hentry
    refine ⟨tokens, before, word, between, after, hlex, ?_, ?_, hfrom, ?_, rfl, ?_⟩
    · rw [← hafter, String.toList_ofList]
    · rw [← htoken, ← hstands.range_eq]
      exact hmem
    · have hrange := hstands'.range_eq
      rw [← hparen, ← hrange]
      exact hmem'
    · rw [String.toList_ofList]

/-- **Such a text is shorter than the document by the five bytes of `FROM(` at least.** -/
theorem StandsBehindFrom.size_le (h : StandsBehindFrom d sql text range) :
    text.utf8ByteSize + 5 ≤ sql.utf8ByteSize := by
  obtain ⟨_, before, word, between, after, -, hsql, -, hfrom, -⟩ := h
  have hword : 4 ≤ byteLength word := length_le_byteLength_of_ofWord? hfrom
  have hparen : byteLength ['('] = 1 := rfl
  rw [utf8ByteSize_eq, utf8ByteSize_eq, hsql]
  simp only [byteLength_append]
  omega

/-! ## The length of a run -/

theorem mem_entries_iff {p : Parser} {entry : FromEntry} :
    entry ∈ p.entries sql ↔ ∃ entries, p.fromClause sql = .ok entries ∧ entry ∈ entries := by
  unfold Parser.entries
  split
  · next entries h => simp [h]
  · next h => simp [h]

/-- A step goes from a document to a part of it. -/
theorem exists_standsBehindFrom_of_next? {s t : Site} (h : (parser d).next? s = some t) :
    ∃ range, StandsBehindFrom d s.sql t.sql range := by
  obtain ⟨_, text, start, -, hincomplete, rfl⟩ := Parser.next?_eq_some_iff.mp h
  obtain ⟨range, hmem, -⟩ := exists_mem_of_incompleteAt? hincomplete
  obtain ⟨entries, hentries, he⟩ := mem_entries_iff.mp hmem
  exact ⟨range, standsBehindFrom_of_mem_fromClause hentries he⟩

/-- Every step of a run leaves a document that is five bytes shorter. -/
theorem size_le_of_enter? {s t : Site} {n : Nat} (h : (parser d).enter? n s = some t) :
    t.sql.utf8ByteSize + 5 * n ≤ s.sql.utf8ByteSize := by
  induction n generalizing s with
  | zero =>
    cases h
    exact Nat.le_refl _
  | succ n ih =>
    obtain ⟨u, hu, hrest⟩ := Option.bind_eq_some_iff.mp h
    obtain ⟨range, hpart⟩ := exists_standsBehindFrom_of_next? hu
    have hstep := hpart.size_le
    have hrun := ih hrest
    omega

/-- A run stops by itself, before it has taken a step for every five bytes of the document. -/
theorem exists_stops (d : Dialect) (s : Site) :
    ∃ n t, 5 * n ≤ s.sql.utf8ByteSize ∧ (parser d).enter? n s = some t ∧
      (parser d).next? t = none := by
  rcases (parser d).exceeds_or_stops s (s.sql.utf8ByteSize / 5) with ⟨t, ht⟩ | ⟨n, t, hle, ht, hstop⟩
  · have := size_le_of_enter? ht
    omega
  · exact ⟨n, t, by omega, ht, hstop⟩

/-- **Descent is bounded by the document.** Every unfinished subquery of a document is a part of it,
behind a `FROM` that is not in quotes and a parenthesis, so it is five bytes shorter. A run of
completion takes a step for every five bytes of the document at most, without the limit, and a limit
that allows as many is never exceeded. -/
theorem descent_bounded_by_document (d : Dialect) :
    (∀ sql text range entries, fromClause d sql = .ok entries →
      .incomplete text range ∈ entries →
      StandsBehindFrom d sql text range ∧ text.utf8ByteSize + 5 ≤ sql.utf8ByteSize) ∧
    (∀ s n t, (parser d).enter? n s = some t →
      t.sql.utf8ByteSize + 5 * n ≤ s.sql.utf8ByteSize) ∧
    (∀ s, ∃ t, (parser d).Stops s t) ∧
    ∀ (options : Options) sql pos schema limit,
      sql.utf8ByteSize < 5 * (options.maxSubqueryDepth + 1) →
      complete (parser d) options sql pos schema ≠ .error (.subqueryDepthExceeded limit) := by
  refine ⟨fun sql text range entries h he => ?_, fun s n t ht => size_le_of_enter? ht,
    fun s => ?_, fun options sql pos schema limit hshort h => ?_⟩
  · have hpart := standsBehindFrom_of_mem_fromClause h he
    exact ⟨hpart, hpart.size_le⟩
  · obtain ⟨n, t, -, ht, hstop⟩ := exists_stops d s
    exact ⟨t, ⟨n, ht⟩, hstop⟩
  · by_cases hsize : sql.utf8ByteSize ≤ maxDocumentBytes
    · obtain ⟨n, t, hle, ht, hstop⟩ := exists_stops d ⟨sql, pos⟩
      simp only at hle
      obtain ⟨m, -, hm⟩ :=
        (complete_eq_error_iff_of_stops schema hsize (by omega) ht hstop).mp h
      cases hm
    · rw [complete, if_pos (Nat.not_le.mp hsize)] at h
      cases h

/-- Two unfinished subqueries, one in the other, in a document of 48 bytes: a limit of nine is
enough for all its runs. -/
theorem descent_bounded_by_document_twice :
    let sql := "SELECT a FROM (SELECT b FROM (SELECT c. FROM t c"
    (∃ entries text range, fromClause .generic sql = .ok entries ∧
      .incomplete text range ∈ entries ∧ text.utf8ByteSize + 5 ≤ sql.utf8ByteSize) ∧
    (∃ t, (parser .generic).enter? 2 ⟨sql, ⟨0, 39⟩⟩ = some t ∧
      t.sql.utf8ByteSize + 5 * 2 ≤ sql.utf8ByteSize) ∧
    complete (parser .generic) { maxSubqueryDepth := 9 } sql ⟨0, 39⟩ {} ≠
      .error (.subqueryDepthExceeded 9) := by
  intro sql
  have hat : incompleteAt? ((parser .generic).entries sql) ⟨0, 39⟩ =
      some ("SELECT b FROM (SELECT c. FROM t c", ⟨15, 1, 16⟩) := by decide +kernel
  have hdeep : ((parser .generic).enter? 2 ⟨sql, ⟨0, 39⟩⟩).isSome = true := by decide +kernel
  obtain ⟨range, hmem, -⟩ := exists_mem_of_incompleteAt? hat
  obtain ⟨entries, hentries, he⟩ := mem_entries_iff.mp hmem
  obtain ⟨t, ht⟩ := Option.isSome_iff_exists.mp hdeep
  obtain ⟨hpart, hrun, -, hlimit⟩ := descent_bounded_by_document .generic
  refine ⟨⟨entries, _, range, hentries, he, (hpart sql _ range entries hentries he).2⟩,
    ⟨t, ht, hrun ⟨sql, ⟨0, 39⟩⟩ 2 t ht⟩, ?_⟩
  exact hlimit { maxSubqueryDepth := 9 } sql ⟨0, 39⟩ {} 9 (by decide)

end Sql

end SqlCompletion
