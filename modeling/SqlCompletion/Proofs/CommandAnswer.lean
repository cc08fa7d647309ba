import SqlCompletion.Command.Run
import SqlCompletion.Proofs.ErrorPlace
import SqlCompletion.Proofs.WireForm

/-!
# The command answers as a request does

The command reads a document and a schema, sets up the parser and the choices from its arguments and
completes. That is the answer to the request that the arguments make up (`Arguments.request`), and
the exit code tells the three outcomes apart: nothing to complete, no answer, an answer. Only an
answer is printed, and as JSON it is read back as the answer.

* `exists_run_eq_load`, `run_of_loaded`: what a run gives, by what can be read.
* `respond_agrees_with_answer`: so for the whole command.
-/

namespace SqlCompletion.Command

open Json

variable {sources : Sources} {args : Arguments}

/-! ## What a run reads -/

/-- The request that arguments make up, with a document and a schema. -/
def Arguments.request (args : Arguments) (sql : String) (schema : Schema) : Request where
  sql := sql
  position := args.position
  schema := schema
  options := some args.options

/-- The document can be read: the file that the arguments name, or else standard input. -/
def Sources.HasDocument (sources : Sources) (args : Arguments) (sql : String) : Prop :=
  match args.file with
  | some name => sources.file name = .ok sql
  | none => sources.input = .ok sql

/-- The schema can be read and is one; it is empty if the arguments name none. -/
def Sources.HasSchema (sources : Sources) (args : Arguments) (schema : Schema) : Prop :=
  match args.schema with
  | some name =>
    ∃ text, sources.file name = .ok text ∧
      (Json.parseLoosely? text).bind Schema.ofJson? = some schema
  | none => schema = {}

/-- What the arguments name can be had, and this is the answer to the request that they make up. -/
def Sources.Answers (sources : Sources) (args : Arguments)
    (answer : Except CompletionError Completion) : Prop :=
  ∃ sql schema, sources.HasDocument args sql ∧ sources.HasSchema args schema ∧
    (args.request sql schema).answer Sql.parser = answer

theorem mapError_eq_ok_iff {ε ε' α : Type} {f : ε → ε'} {x : Except ε α} {v : α} :
    x.mapError f = .ok v ↔ x = .ok v := by
  cases x <;> simp [Except.mapError]

theorem loadDocument_eq_ok_iff {sql : String} :
    loadDocument sources args.file = .ok sql ↔ sources.HasDocument args sql := by
  unfold loadDocument Sources.HasDocument
  cases args.file <;> exact mapError_eq_ok_iff

theorem loadSchema_eq_ok_iff {schema : Schema} :
    loadSchema sources args.schema = .ok schema ↔ sources.HasSchema args schema := by
  unfold loadSchema Sources.HasSchema
  cases args.schema with
  | none => simp [eq_comm]
  | some name =>
    simp only
    cases sources.file name with
    | error reason => simp [Except.mapError, bind, Except.bind]
    | ok text =>
      simp only [Except.mapError, bind, Except.bind, Except.ok.injEq, exists_eq_left']
      split
      · next found hfound => rw [hfound, Option.some.injEq, Except.ok.injEq]
      · next hfound => simp [hfound]

theorem Sources.Answers.unique {answer answer' : Except CompletionError Completion}
    (h : sources.Answers args answer) (h' : sources.Answers args answer') : answer = answer' := by
  obtain ⟨sql, schema, hsql, hschema, rfl⟩ := h
  obtain ⟨sql', schema', hsql', hschema', rfl⟩ := h'
  rw [← loadDocument_eq_ok_iff] at hsql hsql'
  rw [← loadSchema_eq_ok_iff] at hschema hschema'
  cases hsql.symm.trans hsql'
  cases hschema.symm.trans hschema'
  rfl

theorem not_exists_answers_iff :
    (¬∃ answer, sources.Answers args answer) ↔
      (¬∃ sql, sources.HasDocument args sql) ∨ ¬∃ schema, sources.HasSchema args schema := by
  rw [← not_and_or, not_iff_not]
  constructor
  · rintro ⟨_, sql, schema, hsql, hschema, -⟩
    exact ⟨⟨sql, hsql⟩, schema, hschema⟩
  · rintro ⟨⟨sql, hsql⟩, schema, hschema⟩
    exact ⟨_, sql, schema, hsql, hschema, rfl⟩

/-! ## What a run gives -/

/-- Where the document or the schema cannot be had, that is what the run says. -/
theorem exists_run_eq_load (parserOf : Dialect → Parser)
    (h : ¬∃ answer, sources.Answers args answer) :
    ∃ e, run parserOf sources args = .error (.load e) := by
  unfold run
  cases hdocument : loadDocument sources args.file with
  | error e => exact ⟨e, rfl⟩
  | ok sql =>
    cases hschema : loadSchema sources args.schema with
    | error e => exact ⟨e, rfl⟩
    | ok schema =>
      exact absurd ⟨_, sql, schema, loadDocument_eq_ok_iff.mp hdocument,
        loadSchema_eq_ok_iff.mp hschema, rfl⟩ h

/-- **Where both can be had, a run is the answer to the request**, in the form that the arguments ask
for. -/
theorem run_of_answers {answer : Except CompletionError Completion}
    (h : sources.Answers args answer) :
    run Sql.parser sources args =
      (answer.mapError .completion).map fun r =>
        r.render args.format ++ if args.json then "\n" else "" := by
  obtain ⟨sql, schema, hsql, hschema, rfl⟩ := h
  rw [run, loadDocument_eq_ok_iff.mpr hsql, loadSchema_eq_ok_iff.mpr hschema]
  rfl

/-! ## What is printed -/

theorem getLast?_append_brace (text : String) : (text ++ "\x7d").toList.getLast? = some '\x7d' := by
  simp

theorem getLast?_compact_object (members : List (String × Json)) :
    (compact (.object members)).toList.getLast? = some '\x7d' := by
  rw [compact]
  exact getLast?_append_brace _

theorem getLast?_pretty_object (members : List (String × Json)) :
    (pretty (.object members)).toList.getLast? = some '\x7d' := by
  cases members with
  | nil => rfl
  | cons m members =>
    rw [pretty, prettyAt]
    · exact getLast?_append_brace _
    · simp

/-- An answer that is printed as JSON has no line break at its end. -/
theorem getLast?_render (hjson : args.json = true) (r : Completion) :
    (r.render args.format).toList.getLast? = some '\x7d' := by
  rw [Arguments.format, if_pos hjson]
  split
  · exact getLast?_compact_object _
  · exact getLast?_pretty_object _

/-- An answer that is printed as JSON is read back, line break and all. -/
theorem decodesTo_render (hjson : args.json = true) {r : Completion} (hr : r.InWords) :
    DecodesTo Completion.ofJson? (r.render args.format ++ "\n") r := by
  have hreadable : Readable maxNesting r.toJson := r.readable_toJson.of_le (by decide)
  have hblank : Blank "\n".toList := by
    intro c hc
    rw [List.mem_singleton.mp hc]
    rfl
  rw [Arguments.format, if_pos hjson]
  split
  · exact (ReadBack.compact hreadable hblank).decodesTo (Completion.ofJson?_toJson hr)
  · exact (ReadBack.pretty hreadable hblank).decodesTo (Completion.ofJson?_toJson hr)

/-- The numbers of an answer fit in the words in which they are printed. -/
theorem inWords_of_answers {r : Completion} (h : sources.Answers args (.ok r)) : r.InWords := by
  obtain ⟨sql, schema, -, -, hanswer⟩ := h
  intro e he
  have hsize := size_of_error hanswer he
  have hmax : maxDocumentBytes + 1 < UInt64.size := by decide
  exact ⟨by omega, by omega⟩

/-! ## The whole command -/

/-- The three outcomes of a command whose arguments are accepted. -/
theorem respond_cases {argv : List String} (h : Arguments.parse argv = .ok args)
    (sources : Sources) :
    (¬∃ answer, sources.Answers args answer) ∧
        (respond Sql.parser sources argv).exitCode = 66 ∧
        (respond Sql.parser sources argv).stdout = "" ∨
      (∃ failure, sources.Answers args (.error failure)) ∧
        (respond Sql.parser sources argv).exitCode = 1 ∧
        (respond Sql.parser sources argv).stdout = "" ∨
      ∃ r, sources.Answers args (.ok r) ∧ (respond Sql.parser sources argv).exitCode = 0 ∧
        (respond Sql.parser sources argv).stdout =
          r.render args.format ++ if args.json then "\n" else "" := by
  simp only [respond, h]
  by_cases hloaded : ∃ answer, sources.Answers args answer
  · obtain ⟨answer, hanswer⟩ := hloaded
    rw [run_of_answers hanswer]
    cases answer with
    | error failure => exact .inr (.inl ⟨⟨failure, hanswer⟩, rfl, rfl⟩)
    | ok r => exact .inr (.inr ⟨r, hanswer, rfl, rfl⟩)
  · obtain ⟨e, hrun⟩ := exists_run_eq_load Sql.parser hloaded
    rw [hrun]
    exact .inl ⟨hloaded, rfl, rfl⟩

end SqlCompletion.Command
