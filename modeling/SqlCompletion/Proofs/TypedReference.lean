import Mathlib.Data.List.DropRight
import SqlCompletion.Proofs.ScopedColumns

/-!
# The reference under the cursor

Two readings of what is being typed meet where a column reference with a scope is completed. The
parser says which columns are offered, by the reference that it has read. The typed word says what
is left to type, and it is a run of token characters, which are fewer than the characters of a name.

* `filter_scopedName_selectCandidates`: the columns that a reference offers.
* `lastTokenChars_append_eq_iff`: when the typed word is a given end of the text.
* `complete_typed_reference`: accepting a column completes the reference exactly when the typed word
  is the reference.
-/

namespace SqlCompletion

/-! ## The typed word at the end of a text -/

theorem isTokenChar_of_mem_lastTokenChars {cs : List Char} {c : Char}
    (h : c ∈ lastTokenChars cs) : isTokenChar c = true :=
  List.mem_rtakeWhile_imp h

theorem lastTokenChars_eq_nil_iff {cs : List Char} :
    lastTokenChars cs = [] ↔ ∀ c ∈ cs.getLast?, isTokenChar c = false := by
  refine List.rtakeWhile_eq_nil_iff.trans ⟨fun h c hc => ?_, fun h hne => ?_⟩
  · obtain ⟨hne, rfl⟩ := List.mem_getLast?_eq_getLast hc
    exact Bool.eq_false_iff.mpr (h hne)
  · exact Bool.eq_false_iff.mp (h _ (List.getLast_mem_getLast? hne))

theorem lastTokenChars_append_of_isTokenChar (as : List Char) {bs : List Char}
    (h : ∀ c ∈ bs, isTokenChar c = true) :
    lastTokenChars (as ++ bs) = lastTokenChars as ++ bs := by
  have hall : ∀ c ∈ bs.reverse, isTokenChar c = true := fun c hc => h c (List.mem_reverse.mp hc)
  rw [lastTokenChars, List.reverse_append, List.takeWhile_append_of_pos hall, List.reverse_append,
    List.reverse_reverse, lastTokenChars]

/-- The typed word is an end of the text exactly when that is made of token characters and none
stands right before it. -/
theorem lastTokenChars_append_eq_iff {as bs : List Char} :
    lastTokenChars (as ++ bs) = bs ↔
      (∀ c ∈ bs, isTokenChar c = true) ∧ ∀ c ∈ as.getLast?, isTokenChar c = false := by
  rw [← lastTokenChars_eq_nil_iff]
  constructor
  · intro h
    have htoken : ∀ c ∈ bs, isTokenChar c = true := by
      rw [← h]
      exact fun c hc => isTokenChar_of_mem_lastTokenChars hc
    rw [lastTokenChars_append_of_isTokenChar as htoken, List.append_left_eq_self] at h
    exact ⟨htoken, h⟩
  · rintro ⟨htoken, hnone⟩
    rw [lastTokenChars_append_of_isTokenChar as htoken, hnone, List.nil_append]

/-! ## The columns that a reference offers -/

section

variable {columns : List SelectItem} {filter : Option Expression} {pos : Position} {ref : ColumnRef}

theorem scopedName_eq_none_of_mem_ofKeyword {keywords : List String} {c : Candidate}
    (h : c ∈ keywords.map Candidate.ofKeyword) : c.scopedName = none := by
  obtain ⟨k, -, rfl⟩ := List.mem_map.mp h
  rfl

/-- Beside the columns in the scope of the reference under the cursor a SELECT offers keywords. -/
theorem filter_scopedName_selectCandidates (distinct : Bool) (own entries : List FromEntry)
    (schema : Schema) (href : columnRefAt? columns filter pos = some ref)
    (htable : ref.table.isSome) :
    (selectCandidates distinct columns own filter pos entries schema).filter (·.scopedName.isSome) =
      scopedColumns entries (scopeTables schema.tables entries) ref.qualifiedName := by
  obtain ⟨table, htable⟩ := Option.isSome_iff_exists.mp htable
  have hkeywords : ∀ c ∈ selectKeywords.map Candidate.ofKeyword ++
      (if distinct then [] else [Candidate.ofKeyword "DISTINCT"]) ++
        trailingCandidates columns pos, ¬c.scopedName.isSome = true := by
    intro c hc
    have hnone : c.scopedName = none := by
      simp only [List.mem_append, or_assoc] at hc
      rcases hc with hc | hc | hc
      · exact scopedName_eq_none_of_mem_ofKeyword hc
      · split at hc
        · cases hc
        · have hword : c ∈ ["DISTINCT"].map Candidate.ofKeyword := hc
          exact scopedName_eq_none_of_mem_ofKeyword hword
      · unfold trailingCandidates at hc
        split at hc
        · split at hc
          · exact scopedName_eq_none_of_mem_ofKeyword hc
          · cases hc
        · cases hc
    rw [hnone]
    nofun
  simp only [selectCandidates, href, referenceCandidates, htable]
  rw [List.filter_append, List.filter_eq_nil_iff.mpr hkeywords, List.nil_append,
    List.filter_eq_self]
  intro c hc
  obtain ⟨name, hname⟩ := exists_scopedName_of_mem hc
  rw [hname, Option.isSome_some]

end

/-- The column reference under the cursor, if the text before the cursor is a SELECT. -/
def Parser.referenceAt? (p : Parser) (s : Site) : Option ColumnRef :=
  match p.parse s.target with
  | .ok (.select _ columns _ filter) => columnRefAt? columns filter s.pos
  | _ => none

theorem Parser.referenceAt?_eq_some_iff {p : Parser} {s : Site} {ref : ColumnRef} :
    p.referenceAt? s = some ref ↔
      ∃ distinct columns own filter,
        p.parse s.target = .ok (.select distinct columns own filter) ∧
        columnRefAt? columns filter s.pos = some ref := by
  constructor
  · intro h
    unfold referenceAt? at h
    split at h
    · next hparse => exact ⟨_, _, _, _, hparse, h⟩
    · cases h
  · rintro ⟨distinct, columns, own, filter, hparse, h⟩
    simp only [referenceAt?, hparse, h]

/-! ## Accepting a candidate -/

/-- **Accepting a column completes the reference under the cursor exactly when the typed word is the
reference.** The columns that are offered are those in the scope of the reference that continue the
typed word, and the text to insert is what the name of the column has more than the typed word. So
the reference with that text is the name of the column, and the document up to the cursor becomes
the document with that name, if and only if the typed word is the reference: if all characters of
the reference are token characters and none stands right before it. -/
theorem complete_typed_reference (p : Parser) (options : Options) (sql : String) (pos : Position)
    (schema : Schema) (ref : ColumnRef) (before : String)
    (href : p.referenceAt? ⟨sql, pos⟩ = some ref) (htable : ref.table.isSome)
    (htyped : truncate sql pos = before ++ ref.qualifiedName) :
    (sql.utf8ByteSize ≤ maxDocumentBytes → ∃ r, complete p options sql pos schema = .ok r) ∧
    (∀ r, complete p options sql pos schema = .ok r →
      (r.candidates.map Candidate.bare).filter (·.scopedName.isSome) =
        ((scopedColumns (p.entries sql) (scopeTables schema.tables (p.entries sql))
          ref.qualifiedName).filter fun c =>
          (lastToken (truncate sql pos)).toList <+: c.matchText.toList) ∧
      ∀ c ∈ r.candidates, ∀ name, c.scopedName = some name →
        ∃ rest, c.insertText = some rest ∧ lastToken (truncate sql pos) ++ rest = name ∧
          (ref.qualifiedName ++ rest = name ↔
            lastToken (truncate sql pos) = ref.qualifiedName) ∧
          (truncate sql pos ++ rest = before ++ name ↔
            lastToken (truncate sql pos) = ref.qualifiedName)) ∧
    (lastToken (truncate sql pos) = ref.qualifiedName ↔
      (∀ c ∈ ref.qualifiedName.toList, isTokenChar c = true) ∧
        ∀ c ∈ before.toList.getLast?, isTokenChar c = false) := by
  obtain ⟨distinct, columns, own, filter, hparse, hat⟩ := Parser.referenceAt?_eq_some_iff.mp href
  simp only [Site.target] at hparse hat
  -- The text before the cursor is a statement, so no subquery is entered.
  have hrun (limit : Nat) : resolve p schema limit limit sql pos =
      .ok (selectCandidates distinct columns own filter pos (p.entries sql) schema, none) := by
    unfold resolve
    simp only [hparse, Statement.candidates]
  have horigin : ∀ c ∈ selectCandidates distinct columns own filter pos (p.entries sql) schema,
      Origin schema (p.entries sql) [] c := fun c hc => origin_of_mem_selectCandidates hc
  have hkept {r : Completion} (hr : complete p options sql pos schema = .ok r) :
      r.candidates = filterByToken
        (selectCandidates distinct columns own filter pos (p.entries sql) schema)
        (lastToken (truncate sql pos)) := by
    obtain ⟨cs, error, hcs, hfilter⟩ := exists_resolve_of_complete hr
    rw [hrun] at hcs
    cases hcs
    exact hfilter
  refine ⟨fun hsize => ?_, fun r hr => ⟨?_, fun c hc name hname => ?_⟩, ?_⟩
  · rw [complete_of_size_le hsize, hrun]
    exact ⟨_, rfl⟩
  · rw [hkept hr, map_bare_filterByToken fun c hc => (horigin c hc).bare_eq, List.filter_comm,
      filter_scopedName_selectCandidates distinct own _ schema hat htable]
  · rw [hkept hr] at hc
    have hcontinues :=
      continues_of_mem_filterByToken (fun c hc => (horigin c hc).insertText_eq_none) c hc
    obtain ⟨rest, hinsert, hrest⟩ := hcontinues.insertText_of_some name hname
    have hname' : ref.qualifiedName ++ rest = name ↔
        lastToken (truncate sql pos) = ref.qualifiedName := by
      -- Both readings leave the same rest, so they agree on what is before it.
      rw [← hrest, String.append_left_inj, eq_comm]
    refine ⟨rest, hinsert, hrest, hname', ?_⟩
    rw [← hname', htyped, String.append_assoc, String.append_right_inj]
  · rw [htyped, lastToken, ← String.toList_inj, String.toList_ofList, String.toList_append]
    exact lastTokenChars_append_eq_iff

/-- A name with its table before the dot: both are part of the typed word. -/
theorem complete_typed_reference_word :
    ∃ r, complete (Sql.parser .generic) {} "SELECT t.a FROM t" ⟨0, 10⟩
          { tables := [{ name := "t", columns := [{ name := "ab" }, { name := "c" }] }] } = .ok r ∧
      r.candidates.map (fun c => (c.scopedName, c.insertText)) = [(some "t.ab", some "b")] ∧
      ∀ c ∈ r.candidates, ∀ name, c.scopedName = some name →
        ∃ rest, c.insertText = some rest ∧ "t.a" ++ rest = name ∧
          "SELECT t.a" ++ rest = "SELECT " ++ name := by
  let ref : ColumnRef := ⟨some "t", "a", ⟨⟨7, 1, 8⟩, ⟨10, 1, 11⟩⟩⟩
  have href : (Sql.parser .generic).referenceAt? ⟨"SELECT t.a FROM t", ⟨0, 10⟩⟩ = some ref := by
    decide +kernel
  have hok : complete (Sql.parser .generic) {} "SELECT t.a FROM t" ⟨0, 10⟩
      { tables := [{ name := "t", columns := [{ name := "ab" }, { name := "c" }] }] } =
        .ok ⟨[(Candidate.ofScopedColumn "t" { name := "ab" }).afterToken "t.a"], none⟩ := by
    decide +kernel
  have hword : lastToken (truncate "SELECT t.a FROM t" ⟨0, 10⟩) = "t.a" := by decide
  refine ⟨_, hok, by decide, fun c hc name hname => ?_⟩
  obtain ⟨rest, hinsert, -, hcompletes, hdocument⟩ :=
    ((complete_typed_reference (Sql.parser .generic) {} _ _ _ ref "SELECT " href rfl
      (by decide)).2.1 _ hok).2 c hc name hname
  exact ⟨rest, hinsert, hcompletes.mpr hword, hdocument.mpr hword⟩

/-- A letter that is no token character: the parser reads `t.é` as a reference, the typed word is
empty, and the whole name is still left to type. -/
theorem not_forall_complete_typed_reference :
    ¬∀ (p : Parser) (options : Options) (sql : String) (pos : Position) (schema : Schema)
      (ref : ColumnRef) (before : String) (r : Completion),
      (offset? sql.toList (pos.line.toNat + 1) (pos.column.toNat + 1)).isSome →
      p.referenceAt? ⟨sql, pos⟩ = some ref → ref.table.isSome →
      truncate sql pos = before ++ ref.qualifiedName →
      complete p options sql pos schema = .ok r →
      ∀ c ∈ r.candidates, ∀ name, c.scopedName = some name →
        ∃ rest, c.insertText = some rest ∧ name = ref.qualifiedName ++ rest := by
  intro hall
  let ref : ColumnRef := ⟨some "t", "é", ⟨⟨7, 1, 8⟩, ⟨11, 1, 11⟩⟩⟩
  have href : (Sql.parser .generic).referenceAt? ⟨"SELECT t.é FROM t", ⟨0, 10⟩⟩ = some ref := by
    decide +kernel
  let offered := (Candidate.ofScopedColumn "t" { name := "été" }).afterToken ""
  have hok : complete (Sql.parser .generic) {} "SELECT t.é FROM t" ⟨0, 10⟩
      { tables := [{ name := "t", columns := [{ name := "été" }] }] } =
        .ok ⟨(selectKeywords ++ ["DISTINCT"]).map Candidate.ofKeyword ++ [offered], none⟩ := by
    decide +kernel
  obtain ⟨rest, hinsert, hname⟩ := hall _ _ _ _ _ ref "SELECT " _ (by decide) href rfl (by decide)
    hok offered (List.mem_append_right _ (List.mem_singleton.mpr rfl)) "t.été" rfl
  have hrest : offered.insertText = some "t.été" := by decide
  rw [hrest] at hinsert
  cases hinsert
  revert hname
  decide

end SqlCompletion
