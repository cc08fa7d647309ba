import SqlCompletion.Completion
import SqlCompletion.Proofs.Place

/-!
# The way into subqueries

A run of completion is a chain of documents with cursors. While the text before the cursor does not
parse and the cursor is in an unfinished subquery, completion goes on with the text of the subquery
(`Parser.next?`); where it stops, it answers (`Parser.answerAt`). `resolve` is this chain with a
limit on its length:

* `resolve_of_next?_eq_none`, `resolve_zero`, `resolve_succ`: what each step of the run does.
* `exceeds_or_stops`: the chain has more steps than the limit, or it stops at a site.
* `resolve_of_enter?_succ`, `resolve_of_stops`: what a whole run gives in the one case and in the
  other.
* `resolve_limit_succ`, `resolve_of_le`: the limit matters only for the failure that names it.
-/

namespace SqlCompletion

/-- A document with a cursor. -/
structure Site where
  sql : String
  pos : Position
  deriving DecidableEq

/-- The document up to the cursor. -/
def Site.target (s : Site) : String := truncate s.sql s.pos

/-- The subquery under the cursor is an entry of the FROM clause. -/
theorem exists_mem_of_incompleteAt? {entries : List FromEntry} {pos : Position} {text : String}
    {start : Location} (h : incompleteAt? entries pos = some (text, start)) :
    ∃ range, .incomplete text range ∈ entries ∧ range.start = start ∧
      range.contains pos = true := by
  obtain ⟨entry, hmem, he⟩ := List.exists_of_findSome?_eq_some h
  split at he
  · split at he
    · next hcontains =>
      cases he
      exact ⟨_, hmem, rfl, hcontains⟩
    · cases he
  · cases he

namespace Parser

variable {p : Parser} {schema : Schema} {s t : Site}

/-- The site that completion goes on with: the unfinished subquery under the cursor, if the text
before the cursor does not parse. -/
def next? (p : Parser) (s : Site) : Option Site :=
  match p.parse s.target with
  | .error (.invalid _) =>
    (incompleteAt? (p.entries s.sql) s.pos).map fun (text, start) => ⟨text, s.pos.within start⟩
  | _ => none

/-- The site after `n` steps. -/
def enter? (p : Parser) : Nat → Site → Option Site
  | 0, s => some s
  | n + 1, s => (p.next? s).bind (p.enter? n)

/-- Completion that starts at `s` goes no further than `t`. -/
def Stops (p : Parser) (s t : Site) : Prop :=
  (∃ n, p.enter? n s = some t) ∧ p.next? t = none

/-- The answer at a site where completion goes no further. -/
def answerAt (p : Parser) (schema : Schema) (s : Site) :
    Except CompletionError (List Candidate × Option SyntaxError) :=
  match p.parse s.target with
  | .ok statement => .ok (statement.candidates s.pos (p.entries s.sql) schema, none)
  | .error (.other message) => .error (.parser message)
  | .error (.invalid e) => .ok (e.candidates p s.target s.pos (p.entries s.sql) schema, some e)

/-- The error of a text that is not a statement. -/
def syntaxError? : Except ParseFailure Statement → Option SyntaxError
  | .error (.invalid e) => some e
  | _ => none

theorem syntaxError?_eq_some_iff {x : Except ParseFailure Statement} {e : SyntaxError} :
    syntaxError? x = some e ↔ x = .error (.invalid e) := by
  unfold syntaxError?
  split <;> simp_all

/-! ## One step -/

/-- A step is taken exactly when the text before the cursor is invalid and an unfinished subquery
contains the cursor. -/
theorem next?_eq_some_iff :
    p.next? s = some t ↔
      ∃ e text start, p.parse s.target = .error (.invalid e) ∧
        incompleteAt? (p.entries s.sql) s.pos = some (text, start) ∧
        t = ⟨text, s.pos.within start⟩ := by
  constructor
  · intro h
    unfold next? at h
    split at h
    · next e he =>
      obtain ⟨⟨text, start⟩, hi, ht⟩ := Option.map_eq_some_iff.mp h
      exact ⟨e, text, start, he, hi, ht.symm⟩
    · cases h
  · rintro ⟨e, text, start, he, hi, rfl⟩
    simp only [next?, he, hi, Option.map_some]

/-- Where no step is taken, the run answers. -/
theorem resolve_of_next?_eq_none (h : p.next? s = none) (limit depth : Nat) :
    resolve p schema limit depth s.sql s.pos = p.answerAt schema s := by
  unfold resolve answerAt
  unfold next? at h
  simp only [Site.target] at h ⊢
  cases hparse : p.parse (truncate s.sql s.pos) with
  | ok statement => rfl
  | error failure =>
    cases failure with
    | other message => rfl
    | invalid e =>
      rw [hparse] at h
      simp only [Option.map_eq_none_iff.mp h]

/-- A step that the limit does not allow. -/
theorem resolve_zero (h : p.next? s = some t) (limit : Nat) :
    resolve p schema limit 0 s.sql s.pos = .error (.subqueryDepthExceeded limit) := by
  obtain ⟨e, text, start, he, hi, -⟩ := next?_eq_some_iff.mp h
  unfold resolve
  simp only [Site.target] at he
  simp only [he, hi]

/-- After a step the run is that of the subquery; only the error that is reported beside the
candidates is that of the document. -/
theorem resolve_succ (h : p.next? s = some t) {e : SyntaxError}
    (he : p.parse s.target = .error (.invalid e)) (limit depth : Nat) :
    resolve p schema limit (depth + 1) s.sql s.pos =
      (resolve p schema limit depth t.sql t.pos).map fun r => (r.1, some e) := by
  obtain ⟨e', text, start, he', hi, rfl⟩ := next?_eq_some_iff.mp h
  rw [he] at he'
  cases he'
  conv => lhs; unfold resolve
  simp only [Site.target] at he
  simp only [he, hi]
  cases resolve p schema limit depth text (s.pos.within start) <;> rfl

/-- A run sees a document through the text before the cursor and through the FROM clause. -/
theorem resolve_congr {sql sql' : String} {pos : Position} {limit depth : Nat}
    (htarget : truncate sql pos = truncate sql' pos) (hentries : p.entries sql = p.entries sql') :
    resolve p schema limit depth sql pos = resolve p schema limit depth sql' pos := by
  unfold resolve
  simp only [htarget, hentries]

/-! ## A whole run -/

/-- There is one site at which completion stops. -/
theorem Stops.eq {u : Site} (ht : p.Stops s t) (hu : p.Stops s u) : t = u := by
  obtain ⟨⟨n, hn⟩, ht⟩ := ht
  obtain ⟨⟨m, hm⟩, hu⟩ := hu
  induction n generalizing s m with
  | zero =>
    cases hn
    cases m with
    | zero => exact Option.some.inj hm
    | succ m =>
      rw [enter?, ht] at hm
      cases hm
  | succ n ih =>
    rw [enter?, Option.bind_eq_some_iff] at hn
    obtain ⟨s', hs, hn⟩ := hn
    cases m with
    | zero =>
      cases hm
      rw [hu] at hs
      cases hs
    | succ m =>
      rw [enter?, hs] at hm
      exact ih hn m hm

/-- A run that would need more steps than it may take fails. -/
theorem resolve_of_enter?_succ {limit depth : Nat} (h : p.enter? (depth + 1) s = some t) :
    resolve p schema limit depth s.sql s.pos = .error (.subqueryDepthExceeded limit) := by
  induction depth generalizing s with
  | zero =>
    obtain ⟨u, hu, -⟩ := Option.bind_eq_some_iff.mp h
    exact resolve_zero hu limit
  | succ depth ih =>
    obtain ⟨u, hu, hrest⟩ := Option.bind_eq_some_iff.mp h
    obtain ⟨e, _, _, he, _, _⟩ := next?_eq_some_iff.mp hu
    rw [resolve_succ hu he, ih hrest]
    rfl

/-- **A run answers at the site where it stops**, if it may go that far; the error that is reported
is that of the document. -/
theorem resolve_of_stops {limit depth n : Nat} (hle : n ≤ depth) (hn : p.enter? n s = some t)
    (hstop : p.next? t = none) :
    resolve p schema limit depth s.sql s.pos =
      (p.answerAt schema t).map fun r => (r.1, syntaxError? (p.parse s.target)) := by
  induction n generalizing s depth with
  | zero =>
    cases hn
    rw [resolve_of_next?_eq_none hstop, answerAt]
    split <;> next h => simp [Except.map, h, syntaxError?]
  | succ n ih =>
    obtain ⟨u, hu, hrest⟩ := Option.bind_eq_some_iff.mp hn
    obtain ⟨e, _, _, he, _, _⟩ := next?_eq_some_iff.mp hu
    cases depth with
    | zero => cases hle
    | succ depth =>
      rw [resolve_succ hu he, ih (Nat.le_of_succ_le_succ hle) hrest, he]
      cases p.answerAt schema t <;> rfl

/-- A run would need more steps than it may take, or it stops at a site. -/
theorem exceeds_or_stops (p : Parser) (s : Site) (depth : Nat) :
    (∃ t, p.enter? (depth + 1) s = some t) ∨
      ∃ n t, n ≤ depth ∧ p.enter? n s = some t ∧ p.next? t = none := by
  induction depth generalizing s with
  | zero =>
    cases hs : p.next? s with
    | none => exact .inr ⟨0, s, Nat.le_refl _, rfl, hs⟩
    | some t => exact .inl ⟨t, by rw [enter?, hs, Option.bind_some, enter?]⟩
  | succ depth ih =>
    cases hs : p.next? s with
    | none => exact .inr ⟨0, s, Nat.zero_le _, rfl, hs⟩
    | some u =>
      rcases ih u with ⟨t, ht⟩ | ⟨n, t, hle, ht, hstop⟩
      · exact .inl ⟨t, by rw [enter?, hs, Option.bind_some, ht]⟩
      · exact .inr ⟨n + 1, t, Nat.succ_le_succ hle, by rw [enter?, hs, Option.bind_some, ht], hstop⟩

/-- The candidates of a run are those of the site where it stops. -/
theorem exists_answerAt_of_resolve {limit depth : Nat} {cs : List Candidate}
    {error : Option SyntaxError} (h : resolve p schema limit depth s.sql s.pos = .ok (cs, error)) :
    ∃ n t, n ≤ depth ∧ p.enter? n s = some t ∧ p.next? t = none ∧
      ∃ error', p.answerAt schema t = .ok (cs, error') := by
  rcases p.exceeds_or_stops s depth with ⟨t, ht⟩ | ⟨n, t, hle, ht, hstop⟩
  · rw [resolve_of_enter?_succ ht] at h
    cases h
  · rw [resolve_of_stops hle ht hstop] at h
    refine ⟨n, t, hle, ht, hstop, ?_⟩
    cases hanswer : p.answerAt schema t with
    | error failure =>
      rw [hanswer] at h
      cases h
    | ok r =>
      rw [hanswer] at h
      cases h
      exact ⟨r.2, rfl⟩

end Parser

/-! ## The limit -/

/-- A failure as it is reported under a limit that is one higher. -/
def CompletionError.underNextLimit : CompletionError → CompletionError
  | .subqueryDepthExceeded limit => .subqueryDepthExceeded (limit + 1)
  | failure => failure

/-- The limit that is reported is all that tells apart two runs that may go equally deep. -/
theorem resolve_limit_succ (p : Parser) (schema : Schema) (limit depth : Nat) (s : Site) :
    resolve p schema (limit + 1) depth s.sql s.pos =
      (resolve p schema limit depth s.sql s.pos).mapError .underNextLimit := by
  rcases p.exceeds_or_stops s depth with ⟨t, ht⟩ | ⟨n, t, hle, ht, hstop⟩
  · rw [Parser.resolve_of_enter?_succ ht, Parser.resolve_of_enter?_succ ht]
    rfl
  · rw [Parser.resolve_of_stops hle ht hstop, Parser.resolve_of_stops hle ht hstop,
      Parser.answerAt]
    split <;> rfl

/-- A run that stops within the limit is the same where it may go further. -/
theorem resolve_of_le {p : Parser} {schema : Schema} {limit depth depth' : Nat} {s : Site}
    (h : resolve p schema limit depth s.sql s.pos ≠ .error (.subqueryDepthExceeded limit))
    (hle : depth ≤ depth') (limit' : Nat) :
    resolve p schema limit' depth' s.sql s.pos = resolve p schema limit depth s.sql s.pos := by
  rcases p.exceeds_or_stops s depth with ⟨t, ht⟩ | ⟨n, t, hn, ht, hstop⟩
  · exact absurd (Parser.resolve_of_enter?_succ ht) h
  · rw [Parser.resolve_of_stops hn ht hstop,
      Parser.resolve_of_stops (Nat.le_trans hn hle) ht hstop]

/-! ## Completion over a run -/

/-- Completion of a document that is not too large is its run, of which the candidates are kept that
continue the typed word. -/
theorem complete_of_size_le {sql : String} (hsize : sql.utf8ByteSize ≤ maxDocumentBytes)
    (p : Parser) (options : Options) (pos : Position) (schema : Schema) :
    complete p options sql pos schema =
      (resolve p schema options.maxSubqueryDepth options.maxSubqueryDepth sql pos).map fun r =>
        { candidates := filterByToken r.1 (lastToken (truncate sql pos))
          error := r.2.map SyntaxError.report } := by
  rw [complete, if_neg (Nat.not_lt.mpr hsize)]
  cases resolve p schema options.maxSubqueryDepth options.maxSubqueryDepth sql pos <;> rfl

/-- A completion with an answer is a run with an answer. -/
theorem exists_resolve_of_complete {p : Parser} {options : Options} {sql : String} {pos : Position}
    {schema : Schema} {r : Completion} (h : complete p options sql pos schema = .ok r) :
    ∃ cs error,
      resolve p schema options.maxSubqueryDepth options.maxSubqueryDepth sql pos = .ok (cs, error) ∧
      r.candidates = filterByToken cs (lastToken (truncate sql pos)) := by
  rw [complete] at h
  split at h
  · cases h
  · split at h
    · cases h
    · next cs error hr =>
      cases h
      exact ⟨cs, error, hr, rfl⟩

/-- A higher limit leaves a run that is within the lower one as it is. -/
theorem complete_of_le {p : Parser} {options : Options} {limit : Nat} {sql : String}
    {pos : Position} {schema : Schema}
    (h : complete p options sql pos schema ≠
      .error (.subqueryDepthExceeded options.maxSubqueryDepth))
    (hle : options.maxSubqueryDepth ≤ limit) :
    complete p { options with maxSubqueryDepth := limit } sql pos schema =
      complete p options sql pos schema := by
  by_cases hsize : sql.utf8ByteSize ≤ maxDocumentBytes
  · rw [complete_of_size_le hsize] at h
    rw [complete_of_size_le hsize, complete_of_size_le hsize]
    have hrun : resolve p schema options.maxSubqueryDepth options.maxSubqueryDepth sql pos ≠
        .error (.subqueryDepthExceeded options.maxSubqueryDepth) := by
      intro hexceeds
      rw [hexceeds] at h
      exact h rfl
    have hsame := resolve_of_le (s := ⟨sql, pos⟩) hrun hle limit
    simp only at hsame
    rw [hsame]
  · rw [complete, complete, if_pos (Nat.not_le.mp hsize), if_pos (Nat.not_le.mp hsize)]

/-- A higher limit leaves an answer as it is. -/
theorem complete_limit_succ {p : Parser} {options : Options} {limit : Nat} {sql : String}
    {pos : Position} {schema : Schema} {r : Completion}
    (h : complete p { options with maxSubqueryDepth := limit } sql pos schema = .ok r) :
    complete p { options with maxSubqueryDepth := limit + 1 } sql pos schema = .ok r := by
  have hwithin : complete p { options with maxSubqueryDepth := limit } sql pos schema ≠
      .error (.subqueryDepthExceeded limit) := by
    rw [h]
    nofun
  have hsame := complete_of_le hwithin (Nat.le_succ limit)
  rwa [h] at hsame

end SqlCompletion
