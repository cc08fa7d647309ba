import SqlCompletion.Proofs.Descent
import SqlCompletion.Sql.Parser

/-!
# The outcome of a completion

There are three ways in which the parser may fail a completion, and they do not mix. A text that
does not parse is what completion is for: it is reported beside the candidates, and the report is
that of the document. Any other failure of the parser is that of the run, when it comes up at the
site where the run stops. A FROM clause that cannot be made out counts as empty (`Parser.lenient`).
-/

namespace SqlCompletion

namespace Parser

variable {p : Parser} {schema : Schema} {s t : Site}

/-- The parser with an empty FROM clause where it has none to give. -/
def lenient (p : Parser) : Parser := { p with fromClause := fun text => .ok (p.entries text) }

theorem enter?_lenient (p : Parser) (n : Nat) (s : Site) : p.lenient.enter? n s = p.enter? n s := by
  induction n generalizing s with
  | zero => rfl
  | succ n ih =>
    have hnext : p.lenient.next? s = p.next? s := rfl
    have hrest : p.lenient.enter? n = p.enter? n := funext ih
    rw [enter?, enter?, hnext, hrest]

/-- A run makes no difference between a FROM clause that cannot be made out and an empty one. -/
theorem resolve_lenient (p : Parser) (schema : Schema) (limit depth : Nat) (s : Site) :
    resolve p.lenient schema limit depth s.sql s.pos = resolve p schema limit depth s.sql s.pos := by
  rcases p.exceeds_or_stops s depth with ⟨t, ht⟩ | ⟨n, t, hle, ht, hstop⟩
  · rw [resolve_of_enter?_succ ht, resolve_of_enter?_succ ((enter?_lenient p _ s).trans ht)]
  · rw [resolve_of_stops hle ht hstop,
      resolve_of_stops (p := p.lenient) hle ((enter?_lenient p n s).trans ht) hstop]
    rfl

/-- A run goes no further than a document whose FROM clause cannot be made out. -/
theorem next?_eq_none_of_fromClause {failure : ParseFailure}
    (h : p.fromClause s.sql = .error failure) : p.next? s = none := by
  have hentries : p.entries s.sql = [] := by rw [entries, h]
  cases hnext : p.next? s with
  | none => rfl
  | some t =>
    obtain ⟨_, _, _, -, hat, -⟩ := next?_eq_some_iff.mp hnext
    rw [hentries] at hat
    cases hat

/-- The only failure at a site where a run stops is one that the parser passes on. -/
theorem answerAt_eq_error_iff (schema : Schema) {failure : CompletionError} :
    p.answerAt schema t = .error failure ↔
      ∃ m, p.parse t.target = .error (.other m) ∧ failure = .parser m := by
  rw [answerAt]
  split
  · next h => simp [h]
  · next m h => simp [h, eq_comm]
  · next h => simp [h]

end Parser

/-! ## The three outcomes -/

section

variable {p : Parser} {options : Options} {sql : String} {pos : Position} {schema : Schema}

theorem complete_of_exceeds {t : Site} (hsize : sql.utf8ByteSize ≤ maxDocumentBytes)
    (h : p.enter? (options.maxSubqueryDepth + 1) ⟨sql, pos⟩ = some t) :
    complete p options sql pos schema =
      .error (.subqueryDepthExceeded options.maxSubqueryDepth) := by
  have hrun : resolve p schema options.maxSubqueryDepth options.maxSubqueryDepth sql pos =
      .error (.subqueryDepthExceeded options.maxSubqueryDepth) :=
    Parser.resolve_of_enter?_succ h
  rw [complete_of_size_le hsize, hrun]
  rfl

/-- Where the chain stops, a completion is the answer at its last site, beside which the error of
the document is reported. -/
theorem complete_of_stops {t : Site} {n : Nat} (hsize : sql.utf8ByteSize ≤ maxDocumentBytes)
    (hle : n ≤ options.maxSubqueryDepth) (ht : p.enter? n ⟨sql, pos⟩ = some t)
    (hstop : p.next? t = none) :
    complete p options sql pos schema =
      (p.answerAt schema t).map fun r =>
        { candidates := filterByToken r.1 (lastToken (truncate sql pos))
          error := (Parser.syntaxError? (p.parse (truncate sql pos))).map SyntaxError.report } := by
  have hrun : resolve p schema options.maxSubqueryDepth options.maxSubqueryDepth sql pos =
      (p.answerAt schema t).map
        fun r => (r.1, Parser.syntaxError? (p.parse (truncate sql pos))) :=
    Parser.resolve_of_stops hle ht hstop
  rw [complete_of_size_le hsize, hrun]
  cases p.answerAt schema t <;> rfl

section

variable {t : Site} {n : Nat} (hsize : sql.utf8ByteSize ≤ maxDocumentBytes)
  (hle : n ≤ options.maxSubqueryDepth) (ht : p.enter? n ⟨sql, pos⟩ = some t)
  (hstop : p.next? t = none)

include hsize hle ht hstop

variable (schema)

/-- Where the chain stops, all failures are those of the parser at its last site. -/
theorem complete_eq_error_iff_of_stops {failure : CompletionError} :
    complete p options sql pos schema = .error failure ↔
      ∃ m, p.parse t.target = .error (.other m) ∧ failure = .parser m := by
  rw [complete_of_stops hsize hle ht hstop, ← Parser.answerAt_eq_error_iff schema]
  cases p.answerAt schema t <;> simp [Except.map]

theorem exists_complete_eq_ok_of_stops (hparse : ∀ m, p.parse t.target ≠ .error (.other m)) :
    ∃ r, complete p options sql pos schema = .ok r ∧
      r.error = (Parser.syntaxError? (p.parse (truncate sql pos))).map SyntaxError.report := by
  rw [complete_of_stops hsize hle ht hstop]
  cases hanswer : p.answerAt schema t with
  | ok r => exact ⟨_, rfl, rfl⟩
  | error failure =>
    obtain ⟨m, hm, -⟩ := (Parser.answerAt_eq_error_iff schema).mp hanswer
    exact absurd hm (hparse m)

end

theorem complete_eq_exceeds_iff (hsize : sql.utf8ByteSize ≤ maxDocumentBytes) :
    complete p options sql pos schema =
        .error (.subqueryDepthExceeded options.maxSubqueryDepth) ↔
      ∃ t, p.enter? (options.maxSubqueryDepth + 1) ⟨sql, pos⟩ = some t := by
  refine ⟨fun h => ?_, fun ⟨t, ht⟩ => complete_of_exceeds hsize ht⟩
  rcases p.exceeds_or_stops ⟨sql, pos⟩ options.maxSubqueryDepth with hex | ⟨n, t, hle, ht, hstop⟩
  · exact hex
  · obtain ⟨m, -, he⟩ := (complete_eq_error_iff_of_stops schema hsize hle ht hstop).mp h
    cases he

theorem complete_lenient (hsize : sql.utf8ByteSize ≤ maxDocumentBytes) :
    complete p.lenient options sql pos schema = complete p options sql pos schema := by
  have hrun := Parser.resolve_lenient p schema options.maxSubqueryDepth options.maxSubqueryDepth
    ⟨sql, pos⟩
  rw [complete_of_size_le hsize, complete_of_size_le hsize]
  simp only [hrun]

end

end SqlCompletion
