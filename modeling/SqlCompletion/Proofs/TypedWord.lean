import SqlCompletion.Proofs.Origin

/-!
# Candidates and the typed word

Every candidate continues the word before the cursor, whichever document it was found in. A column
with a scope says what is left to type, and that completes the word to its scoped name; nothing else
has a text to insert. The word only takes candidates away from a run (`map_bare_filterByToken`).
-/

namespace SqlCompletion

/-! ## Prefixes -/

theorem Text.startsWith_iff {text pre : String} :
    Text.startsWith text pre = true ↔ pre.toList <+: text.toList := by
  rw [Text.startsWith, Option.isSome_iff_exists]
  constructor
  · rintro ⟨rest, h⟩
    exact ⟨rest, (Text.dropPrefix?_eq_some_iff.mp h).symm⟩
  · rintro ⟨rest, h⟩
    exact ⟨rest, Text.dropPrefix?_eq_some_iff.mpr h.symm⟩

theorem Text.afterPrefix?_eq_some_iff {text pre rest : String} :
    Text.afterPrefix? text pre = some rest ↔ pre ++ rest = text := by
  rw [Text.afterPrefix?, Option.map_eq_some_iff]
  constructor
  · rintro ⟨cs, h, rfl⟩
    rw [← String.toList_inj, String.toList_append, String.toList_ofList,
      Text.dropPrefix?_eq_some_iff.mp h]
  · intro h
    refine ⟨rest.toList, Text.dropPrefix?_eq_some_iff.mpr ?_, String.ofList_toList⟩
    rw [← h, String.toList_append]

/-! ## What is left to type -/

/-- The candidate continues the typed word, and where it has a scoped name, the text to insert
completes the word to that name. -/
structure Candidate.Continues (c : Candidate) (token : String) : Prop where
  isPrefix_matchText : token.toList <+: c.matchText.toList
  insertText_of_some : ∀ name, c.scopedName = some name →
    ∃ rest, c.insertText = some rest ∧ token ++ rest = name
  insertText_of_none : c.scopedName = none → c.insertText = none

theorem Candidate.continues_afterToken {c : Candidate} {token : String}
    (hc : c.insertText = none) (hmatch : token.toList <+: c.matchText.toList) :
    (c.afterToken token).Continues token := by
  obtain ⟨label, kind, detail, documentation, insertText, scopedName⟩ := c
  cases scopedName with
  | none =>
    refine ⟨hmatch, fun name hname => ?_, fun _ => hc⟩
    cases hname
  | some name =>
    obtain ⟨rest, hrest⟩ := hmatch
    have hafter : Text.afterPrefix? name token = some (String.ofList rest) := by
      rw [Text.afterPrefix?_eq_some_iff, ← String.toList_inj, String.toList_append,
        String.toList_ofList, hrest]
      rfl
    simp only [Candidate.afterToken, Option.bind_some, hafter]
    refine ⟨⟨rest, hrest⟩, fun name' hname' => ?_, fun hnone => by cases hnone⟩
    cases hname'
    exact ⟨_, rfl, Text.afterPrefix?_eq_some_iff.mp hafter⟩

/-! ## The candidates that are kept -/

section

variable {cs : List Candidate} {token : String}

theorem continues_of_mem_filterByToken (hcs : ∀ c ∈ cs, c.insertText = none) :
    ∀ c ∈ filterByToken cs token, c.Continues token := by
  intro c hc
  obtain ⟨c', hc', rfl⟩ := List.mem_map.mp hc
  obtain ⟨hmem, hstarts⟩ := List.mem_filter.mp hc'
  exact Candidate.continues_afterToken (hcs c' hmem) (Text.startsWith_iff.mp hstarts)

/-- The typed word takes away the candidates that do not continue it and leaves the others in their
order, as they were but for what is left to type. -/
theorem map_bare_filterByToken (hcs : ∀ c ∈ cs, c.bare = c) :
    (filterByToken cs token).map Candidate.bare =
      cs.filter fun c => token.toList <+: c.matchText.toList := by
  have hkept : (fun c : Candidate => Text.startsWith c.matchText token) =
      fun c => decide (token.toList <+: c.matchText.toList) := by
    funext c
    rw [Bool.eq_iff_iff, Text.startsWith_iff, decide_eq_true_iff]
  rw [filterByToken, List.map_map, hkept]
  refine (List.map_congr_left fun c hc => ?_).trans (List.map_id _)
  rw [Function.comp_apply, Candidate.bare_afterToken, hcs c (List.mem_filter.mp hc).1, id]

end

/-- **The candidates of a completion are those of its run that continue the typed word.** They are
in the order of the run and as often, and only what is left to type is added to them. -/
theorem complete_continues_typed_word {p : Parser} {options : Options} {sql : String}
    {pos : Position} {schema : Schema} {r : Completion}
    (h : complete p options sql pos schema = .ok r) :
    (∀ c ∈ r.candidates, c.Continues (lastToken (truncate sql pos))) ∧
      ∃ cs error,
        resolve p schema options.maxSubqueryDepth options.maxSubqueryDepth sql pos =
          .ok (cs, error) ∧
        r.candidates.map Candidate.bare =
          cs.filter fun c => (lastToken (truncate sql pos)).toList <+: c.matchText.toList := by
  obtain ⟨cs, error, hr, hfilter⟩ := exists_resolve_of_complete h
  obtain ⟨t, -, horigin⟩ := exists_origin_of_resolve (s := ⟨sql, pos⟩) hr
  rw [hfilter]
  refine ⟨continues_of_mem_filterByToken fun c hc => (horigin c hc).insertText_eq_none,
    cs, error, hr, ?_⟩
  exact map_bare_filterByToken fun c hc => (horigin c hc).bare_eq

/-- The word reaches over the alias and the dot, and the text to insert is the rest of the name. -/
theorem complete_continues_typed_word_scoped :
    ∃ r, complete (Sql.parser .generic) {} "SELECT e.na FROM t e" ⟨0, 10⟩
          { tables := [{ name := "t", columns := [{ name := "id" }, { name := "name" }] }] } =
        .ok r ∧
      r.candidates.map (fun c => (c.scopedName, c.insertText)) =
        [(some "e.name", some "ame")] ∧
      ∀ c ∈ r.candidates, c.Continues "e.n" := by
  have hok : complete (Sql.parser .generic) {} "SELECT e.na FROM t e" ⟨0, 10⟩
      { tables := [{ name := "t", columns := [{ name := "id" }, { name := "name" }] }] } =
        .ok ⟨[(Candidate.ofScopedColumn "e" { name := "name" }).afterToken "e.n"], none⟩ := by
    decide +kernel
  exact ⟨_, hok, by decide, (complete_continues_typed_word hok).1⟩

end SqlCompletion
