import SqlCompletion.Proofs.JsonText
import SqlCompletion.Report

/-!
# The wire form loses nothing

Each type that is exchanged has a writer and a reader. A field with a default is always written, an
absent one never, and both come back as they were; so what is written of a value is read back as the
value, as JSON (`ofJson?_toJson` of each type) and as a text in either layout
(`wire_form_lossless`). Numbers come back if they fit in the 64-bit words in which they are
exchanged, and every number that is read does (`InWords`).
-/

namespace SqlCompletion

namespace Json

/-! ## Fields -/

@[simp] theorem valuesAt_nil (key : String) : valuesAt [] key = [] := rfl

@[simp] theorem valuesAt_cons (k key : String) (j : Json) (members : List (String × Json)) :
    valuesAt ((k, j) :: members) key =
      if k = key then j :: valuesAt members key else valuesAt members key := by
  by_cases h : k = key <;> simp [valuesAt, h]

@[simp] theorem valuesAt_append (as bs : List (String × Json)) (key : String) :
    valuesAt (as ++ bs) key = valuesAt as key ++ valuesAt bs key := by
  simp [valuesAt]

/-- The member of an optional field, if it is present. -/
@[simp] theorem valuesAt_optional {α : Type} (k key : String) (g : α → Json) (x : Option α) :
    valuesAt (x.toList.map fun v => (k, g v)) key = if k = key then x.toList.map g else [] := by
  cases x <;> by_cases h : k = key <;> simp [valuesAt, h]

@[simp] theorem valuesAt_optionalText (k key : String) (text : Option String) :
    valuesAt (optionalText k text) key = if k = key then text.toList.map .string else [] :=
  valuesAt_optional k key .string text

@[simp] theorem record?_object (names : List String) (members : List (String × Json)) :
    (object members).record? names =
      if names.all fun n => (valuesAt members n).length ≤ 1 then some (.named members) else none :=
  rfl

@[simp] theorem Fields.required_named {α : Type} (members : List (String × Json)) (key : String)
    (f : Json → Option α) :
    (Fields.named members).required key f = (valuesAt members key).head?.bind f := rfl

@[simp] theorem Fields.withDefault_named {α : Type} (members : List (String × Json)) (key : String)
    (default : α) (f : Json → Option α) :
    (Fields.named members).withDefault key default f =
      ((valuesAt members key).head?.map f).getD (some default) := by
  rw [withDefault, find?]
  cases (valuesAt members key).head? <;> rfl

@[simp] theorem string?_string (s : String) : string? (.string s) = some s := rfl

theorem length_toList_map_le {α β : Type} (f : α → β) (x : Option α) :
    (x.toList.map f).length ≤ 1 := by
  cases x <;> simp

/-- **An optional field comes back as it was, absent or present.** -/
theorem getD_map_nullable {α : Type} {f : Json → Option α} {g : α → Json} {x : Option α}
    (hf : ∀ v ∈ x, f (g v) = some v) (hnull : ∀ v, g v ≠ .null) :
    (x.map (nullable f ∘ g)).getD (some none) = some x := by
  cases x with
  | none => rfl
  | some v =>
    have hread : nullable f (g v) = (f (g v)).map some := by
      unfold nullable
      split
      · next h => exact absurd h (hnull v)
      · rfl
    simp [hread, hf v rfl]

@[simp] theorem getD_map_nullable_string (x : Option String) :
    (x.map (nullable string? ∘ Json.string)).getD (some none) = some x :=
  getD_map_nullable (fun _ _ => rfl) nofun

/-- A list comes back if its elements do. -/
theorem list?_map {α : Type} {f : Json → Option α} {g : α → Json} {xs : List α}
    (h : ∀ x ∈ xs, f (g x) = some x) : list? f (.array (xs.map g)) = some xs := by
  rw [list?, array?, Option.bind_some]
  induction xs with
  | nil => rfl
  | cons x xs ih =>
    have hx := h x (List.mem_cons_self ..)
    have hxs := ih fun y hy => h y (List.mem_cons_of_mem _ hy)
    simp [hx, hxs]

end Json

open Json

/-! ## Each type -/

theorem CandidateKind.ofName?_name (k : CandidateKind) : ofName? k.name = some k := by
  cases k <;> decide

theorem CandidateKind.ofJson?_toJson (k : CandidateKind) : ofJson? k.toJson = some k :=
  ofName?_name k

theorem Dialect.ofJson?_toJson (d : Dialect) : ofJson? d.toJson = some d :=
  ofName?_name d

theorem Position.ofJson?_toJson (p : Position) : ofJson? p.toJson = some p := by
  have hline := word?_nat p.line.toNat_lt_size
  have hcolumn := word?_nat p.column.toNat_lt_size
  simp -implicitDefEqProofs [ofJson?, toJson, hline, hcolumn]

theorem Column.ofJson?_toJson (c : Column) : ofJson? c.toJson = some c := by
  simp [ofJson?, toJson]

theorem Table.ofJson?_toJson (t : Table) : ofJson? t.toJson = some t := by
  have hcolumns := list?_map fun c (_ : c ∈ t.columns) => c.ofJson?_toJson
  have hdatabase := length_toList_map_le Json.string t.database
  simp [ofJson?, toJson, hcolumns]

theorem Function.ofJson?_toJson (f : Function) : ofJson? f.toJson = some f := by
  simp [ofJson?, toJson]

theorem Schema.ofJson?_toJson (s : Schema) : ofJson? s.toJson = some s := by
  have htables := list?_map fun t (_ : t ∈ s.tables) => t.ofJson?_toJson
  have hfunctions := list?_map fun f (_ : f ∈ s.functions) => f.ofJson?_toJson
  simp [ofJson?, toJson, htables, hfunctions]

/-- The limit fits in a 64-bit word. -/
def Options.InWords (o : Options) : Prop := o.maxSubqueryDepth < UInt64.size

theorem Options.ofJson?_toJson {o : Options} (h : o.InWords) : ofJson? o.toJson = some o := by
  have hlimit := word?_nat h
  simp -implicitDefEqProofs [ofJson?, toJson, o.dialect.ofJson?_toJson, hlimit]

/-- The limit of a request that has one fits in a 64-bit word. -/
def Request.InWords (r : Request) : Prop := ∀ o ∈ r.options, o.InWords

theorem Request.ofJson?_toJson {r : Request} (h : r.InWords) : ofJson? r.toJson = some r := by
  have hoptions : (r.options.map (nullable Options.ofJson? ∘ Options.toJson)).getD (some none) =
      some r.options :=
    getD_map_nullable (fun o ho => Options.ofJson?_toJson (h o ho)) nofun
  have hlength := length_toList_map_le Options.toJson r.options
  simp -implicitDefEqProofs [ofJson?, toJson, r.position.ofJson?_toJson,
    r.schema.ofJson?_toJson, hoptions]

theorem Candidate.ofJson?_toJson (c : Candidate) : ofJson? c.toJson = some c := by
  have hlength (x : Option String) := length_toList_map_le Json.string x
  simp [ofJson?, toJson, c.kind.ofJson?_toJson]

/-- The numbers of the report fit in 64-bit words. -/
def ErrorReport.InWords (e : ErrorReport) : Prop := e.line < UInt64.size ∧ e.offset < UInt64.size

theorem ErrorReport.ofJson?_toJson {e : ErrorReport} (h : e.InWords) :
    ofJson? e.toJson = some e := by
  have hline := word?_nat h.1
  have hoffset := word?_nat h.2
  simp -implicitDefEqProofs [ofJson?, toJson, hline, hoffset]

/-- The numbers of an answer that reports an error fit in 64-bit words. -/
def Completion.InWords (c : Completion) : Prop := ∀ e ∈ c.error, e.InWords

theorem Completion.ofJson?_toJson {c : Completion} (h : c.InWords) : ofJson? c.toJson = some c := by
  have hcandidates := list?_map fun x (_ : x ∈ c.candidates) => x.ofJson?_toJson
  have herror : (c.error.map (nullable ErrorReport.ofJson? ∘ ErrorReport.toJson)).getD (some none) =
      some c.error :=
    getD_map_nullable (fun e he => ErrorReport.ofJson?_toJson (h e he)) nofun
  have hlength := length_toList_map_le ErrorReport.toJson c.error
  simp [ofJson?, toJson, hcandidates, herror]

/-! ## Every number that is read fits in a word -/

theorem Json.lt_of_word? {j : Json} {n : Nat} (h : j.word? = some n) : n < UInt64.size := by
  unfold word? at h
  split at h
  · split at h
    · next hn =>
      cases h
      omega
    · cases h
  · cases h

/-- A field with a default holds the default or what was read. -/
theorem Json.Fields.eq_or_exists_of_withDefault {α : Type} {fields : Fields} {key : String}
    {default v : α} {f : Json → Option α} (h : fields.withDefault key default f = some v) :
    v = default ∨ ∃ j, f j = some v := by
  unfold withDefault at h
  split at h
  · next j _ => exact .inr ⟨j, h⟩
  · cases h
    exact .inl rfl

theorem Json.of_nullable_eq_some {α : Type} {f : Json → Option α} {j : Json} {v : α}
    (h : nullable f j = some (some v)) : f j = some v := by
  unfold nullable at h
  split at h
  · cases h
  · simpa using h

/-- An optional field that is present was read. -/
theorem Json.Fields.exists_of_nullable {α : Type} {fields : Fields} {key : String} {v : α}
    {f : Json → Option α} (h : fields.withDefault key none (nullable f) = some (some v)) :
    ∃ j, f j = some v := by
  rcases Fields.eq_or_exists_of_withDefault h with hdefault | ⟨j, hj⟩
  · cases hdefault
  · exact ⟨j, of_nullable_eq_some hj⟩

theorem Options.inWords_of_ofJson? {j : Json} {o : Options} (h : ofJson? j = some o) :
    o.InWords := by
  simp only [ofJson?, Option.bind_eq_bind, Option.bind_eq_some_iff] at h
  obtain ⟨fields, -, dialect, -, limit, hlimit, ho⟩ := h
  cases ho
  rcases Fields.eq_or_exists_of_withDefault hlimit with rfl | ⟨j, hj⟩
  · exact (by decide : (32 : Nat) < UInt64.size)
  · exact Json.lt_of_word? hj

theorem Request.inWords_of_ofJson? {j : Json} {r : Request} (h : ofJson? j = some r) :
    r.InWords := by
  simp only [ofJson?, Option.bind_eq_bind, Option.bind_eq_some_iff] at h
  obtain ⟨fields, -, sql, -, position, -, schema, -, options, hoptions, hr⟩ := h
  cases hr
  rintro o rfl
  obtain ⟨j, hj⟩ := Fields.exists_of_nullable hoptions
  exact Options.inWords_of_ofJson? hj

theorem ErrorReport.inWords_of_ofJson? {j : Json} {e : ErrorReport} (h : ofJson? j = some e) :
    e.InWords := by
  simp only [ofJson?, Option.bind_eq_bind, Option.bind_eq_some_iff, Fields.required] at h
  obtain ⟨fields, -, label, -, detail, -, line, ⟨_, -, hline⟩, offset, ⟨_, -, hoffset⟩, he⟩ := h
  cases he
  exact ⟨Json.lt_of_word? hline, Json.lt_of_word? hoffset⟩

theorem Completion.inWords_of_ofJson? {j : Json} {c : Completion} (h : ofJson? j = some c) :
    c.InWords := by
  simp only [ofJson?, Option.bind_eq_bind, Option.bind_eq_some_iff] at h
  obtain ⟨fields, -, candidates, -, error, herror, hc⟩ := h
  cases hc
  rintro e rfl
  obtain ⟨j, hj⟩ := Fields.exists_of_nullable herror
  exact ErrorReport.inWords_of_ofJson? hj

/-! ## What is written can be read -/

namespace Json

/-- The values of the members can be read. -/
def ReadableMembers (depth : Nat) (members : List (String × Json)) : Prop :=
  ∀ m ∈ members, Readable depth m.2

section

variable {depth : Nat} {members : List (String × Json)}

theorem ReadableMembers.nil : ReadableMembers depth [] := nofun

theorem ReadableMembers.cons {key : String} {j : Json} (hj : Readable depth j)
    (h : ReadableMembers depth members) : ReadableMembers depth ((key, j) :: members) :=
  List.forall_mem_cons.mpr ⟨hj, h⟩

theorem ReadableMembers.append {more : List (String × Json)} (h : ReadableMembers depth members)
    (hmore : ReadableMembers depth more) : ReadableMembers depth (members ++ more) :=
  List.forall_mem_append.mpr ⟨h, hmore⟩

theorem ReadableMembers.optional {α : Type} {g : α → Json} (h : ∀ v, Readable depth (g v))
    {key : String} {x : Option α} : ReadableMembers depth (x.toList.map fun v => (key, g v)) := by
  intro m hm
  obtain ⟨v, -, rfl⟩ := List.mem_map.mp hm
  exact h v

theorem ReadableMembers.optionalText {key : String} {text : Option String} :
    ReadableMembers depth (optionalText key text) :=
  .optional fun _ => .string

theorem readable_record (h : ReadableMembers depth members) :
    Readable (depth + 1) (.object members) :=
  .object h

theorem readable_list {α : Type} {g : α → Json} (h : ∀ x, Readable depth (g x)) (xs : List α) :
    Readable (depth + 1) (.array (xs.map g)) := by
  refine .array fun j hj => ?_
  obtain ⟨x, -, rfl⟩ := List.mem_map.mp hj
  exact h x

end

end Json

theorem Position.readable_toJson (p : Position) : Readable 1 p.toJson :=
  readable_record (.cons .int (.cons .int .nil))

theorem Column.readable_toJson (c : Column) : Readable 1 c.toJson :=
  readable_record (.cons .string (.cons .string .nil))

theorem Table.readable_toJson (t : Table) : Readable 3 t.toJson :=
  readable_record (.append .optionalText
    (.cons .string (.cons (readable_list Column.readable_toJson t.columns) .nil)))

theorem Function.readable_toJson (f : Function) : Readable 1 f.toJson :=
  readable_record (.cons .string (.cons .string .nil))

theorem Schema.readable_toJson (s : Schema) : Readable 5 s.toJson := by
  have hfunctions := readable_list Function.readable_toJson s.functions
  exact readable_record (.cons (readable_list Table.readable_toJson s.tables)
    (.cons (hfunctions.of_le (by decide)) .nil))

theorem Options.readable_toJson (o : Options) : Readable 1 o.toJson :=
  readable_record (.cons .string (.cons .int .nil))

theorem Request.readable_toJson (r : Request) : Readable 6 r.toJson := by
  have hposition : Readable 5 r.position.toJson := r.position.readable_toJson.of_le (by decide)
  have hoptions (o : Options) : Readable 5 o.toJson := o.readable_toJson.of_le (by decide)
  exact readable_record (.append
    (.cons .string (.cons hposition (.cons r.schema.readable_toJson .nil))) (.optional hoptions))

theorem Candidate.readable_toJson (c : Candidate) : Readable 1 c.toJson :=
  readable_record (.append (.append (.append (.append (.cons .string (.cons .string .nil))
    .optionalText) .optionalText) .optionalText) .optionalText)

theorem ErrorReport.readable_toJson (e : ErrorReport) : Readable 1 e.toJson :=
  readable_record (.cons .string (.cons .string (.cons .int (.cons .int .nil))))

theorem Completion.readable_toJson (c : Completion) : Readable 3 c.toJson := by
  have herror (e : ErrorReport) : Readable 2 e.toJson := e.readable_toJson.of_le (by decide)
  exact readable_record (.append
    (.cons (readable_list Candidate.readable_toJson c.candidates) .nil) (.optional herror))

/-! ## Round trips -/

section

variable {α : Type}

/-- The text is read as the value, whether the parts that nobody asks for must be readable or not. -/
def DecodesTo (ofJson? : Json → Option α) (text : String) (v : α) : Prop :=
  (Json.parse? text).bind ofJson? = some v ∧ (Json.parseLoosely? text).bind ofJson? = some v

theorem Json.ReadBack.decodesTo {ofJson? : Json → Option α} {text : String} {j : Json} {v : α}
    (h : ReadBack text j) (hv : ofJson? j = some v) : DecodesTo ofJson? text v := by
  rw [DecodesTo, h.1, h.2, Option.bind_some]
  exact ⟨hv, hv⟩

/-- Nothing is lost on the way: every value whose numbers are `InWords` is read back from what is
written of it, as JSON and as a text in either layout, and what is written of a value that was read
is read and written as it is. -/
structure Lossless (inWords : α → Prop) (toJson : α → Json) (ofJson? : Json → Option α) : Prop where
  ofJson?_toJson : ∀ v, inWords v → ofJson? (toJson v) = some v
  compact : ∀ v, inWords v → DecodesTo ofJson? (toJson v).compact v
  pretty : ∀ v, inWords v → DecodesTo ofJson? (toJson v).pretty v
  idempotent : ∀ j, ((ofJson? j).map toJson).bind (fun k => (ofJson? k).map toJson) =
    (ofJson? j).map toJson

theorem Lossless.of {inWords : α → Prop} {toJson : α → Json} {ofJson? : Json → Option α}
    (hvalue : ∀ v, inWords v → ofJson? (toJson v) = some v) {depth : Nat}
    (hreadable : ∀ v, Readable depth (toJson v)) (hdepth : depth ≤ maxNesting)
    (hread : ∀ j v, ofJson? j = some v → inWords v) : Lossless inWords toJson ofJson? := by
  have hblank : Blank "".toList := nofun
  refine ⟨hvalue, fun v hv => ?_, fun v hv => ?_, fun j => ?_⟩
  · have htext := ReadBack.compact ((hreadable v).of_le hdepth) hblank
    rw [String.append_empty] at htext
    exact htext.decodesTo (hvalue v hv)
  · have htext := ReadBack.pretty ((hreadable v).of_le hdepth) hblank
    rw [String.append_empty] at htext
    exact htext.decodesTo (hvalue v hv)
  · cases hj : ofJson? j with
    | none => rfl
    | some v => simp [hvalue v (hread j v hj)]

end

/-- **The wire form loses nothing.** -/
theorem wire_form_lossless :
    (∀ r : Completion, r.InWords →
      DecodesTo Completion.ofJson? (r.render .json) r ∧
        DecodesTo Completion.ofJson? (r.render .compactJson) r) ∧
    Lossless Completion.InWords Completion.toJson Completion.ofJson? ∧
    Lossless Request.InWords Request.toJson Request.ofJson? ∧
    Lossless Options.InWords Options.toJson Options.ofJson? ∧
    Lossless (fun _ => True) Candidate.toJson Candidate.ofJson? ∧
    Lossless (fun _ => True) Schema.toJson Schema.ofJson? ∧
    Lossless (fun _ => True) Position.toJson Position.ofJson? := by
  have hcompletion : Lossless Completion.InWords Completion.toJson Completion.ofJson? :=
    .of (fun _ => Completion.ofJson?_toJson) Completion.readable_toJson (by decide)
      fun _ _ => Completion.inWords_of_ofJson?
  refine ⟨fun r hr => ⟨hcompletion.pretty r hr, hcompletion.compact r hr⟩, hcompletion, ?_⟩
  refine ⟨?_, ?_, ?_, ?_, ?_⟩
  · exact .of (fun _ => Request.ofJson?_toJson) Request.readable_toJson (by decide)
      fun _ _ => Request.inWords_of_ofJson?
  · exact .of (fun _ => Options.ofJson?_toJson) Options.readable_toJson (by decide)
      fun _ _ => Options.inWords_of_ofJson?
  · exact .of (fun c _ => c.ofJson?_toJson) Candidate.readable_toJson (by decide)
      fun _ _ _ => trivial
  · exact .of (fun s _ => s.ofJson?_toJson) Schema.readable_toJson (by decide) fun _ _ _ => trivial
  · exact .of (fun p _ => p.ofJson?_toJson) Position.readable_toJson (by decide)
      fun _ _ _ => trivial

/-- An answer with escapes, an absent field beside an empty one and the largest offset, and a request
with the largest numbers. -/
theorem wire_form_lossless_extremes :
    let r : Completion := {
      candidates := [{ label := "\"a\\\n\x01é", kind := .tableAlias, documentation := some "" }],
      error := some ⟨"SyntaxError", "found: \t", 1, 18446744073709551615⟩ }
    let q : Request := {
      sql := "SELECT '\x7f'", position := ⟨18446744073709551615, 0⟩,
      options := some { dialect := .hive, maxSubqueryDepth := 18446744073709551615 } }
    r.InWords ∧ q.InWords ∧ DecodesTo Completion.ofJson? (r.render .json) r ∧
      DecodesTo Completion.ofJson? (r.render .compactJson) r ∧
      DecodesTo Request.ofJson? q.toJson.compact q := by
  intro r q
  have hr : r.InWords := by
    rintro e ⟨⟩
    exact ⟨by decide, by decide⟩
  have hq : q.InWords := by
    rintro o ⟨⟩
    exact (by decide : 18446744073709551615 < UInt64.size)
  obtain ⟨hrender, -, hrequest, -⟩ := wire_form_lossless
  exact ⟨hr, hq, (hrender r hr).1, (hrender r hr).2, hrequest.compact q hq⟩

end SqlCompletion
