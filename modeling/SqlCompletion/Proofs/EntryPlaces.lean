import SqlCompletion.Proofs.Unfinished

/-!
# Where the entries of a clause stand

A scan puts the place of an entry together from the ends of tokens that it passes on its way, and
what it passes between two entries belongs to neither. So the entries stand in the text one after
the other, as the tokens do.

* `fits_of_scanFactor`: a table begins with a token of its own and ends before what follows it.
* `inOrder_scanEntries`: the entries of a clause are in order.
* `inPlace_scan`: where the entries of a text stand, and what its unfinished subqueries are.
-/

namespace SqlCompletion.Sql

open Text

/-! ## Places of a text -/

/-- Line and column of the place lead to its offset in the text. -/
def Agrees (cs : List Char) (l : Location) : Prop := offset? cs l.line l.column = some l.offset

theorem agrees_iff_inText {cs : List Char} {l : Location} : Agrees cs l ↔ InText cs l := by
  rw [Agrees, offset?_eq_some_iff]
  exact exists_congr fun pre => and_congr_right fun _ => eq_comm

namespace FromClause

variable {cs : List Char} {tokens rest : List Lexeme}

/-! ## Ranges between tokens -/

/-- The range is one of the text, begins no earlier than one of the tokens and ends no later than
`rest` begin. -/
structure Fits (cs : List Char) (tokens rest : List Lexeme) (r : Range) : Prop where
  inText_start : InText cs r.start
  inText_stop : InText cs r.stop
  start_le_stop : r.start.offset ≤ r.stop.offset
  begins : ∃ t ∈ tokens, t.range.start.offset ≤ r.start.offset
  ends : ∀ t ∈ rest, r.stop.offset ≤ t.range.start.offset

theorem Fits.of_suffix {all : List Lexeme} {r : Range} (h : Fits cs tokens rest r)
    (hs : tokens <:+ all) : Fits cs all rest r where
  inText_start := h.inText_start
  inText_stop := h.inText_stop
  start_le_stop := h.start_le_stop
  begins := by
    obtain ⟨t, ht, hle⟩ := h.begins
    exact ⟨t, hs.subset ht, hle⟩
  ends := h.ends

/-- From the start of one token to the end of the same or a later one. -/
theorem fits_of_suffix (h : Placed cs tokens) {first last : Lexeme} {more after : List Lexeme}
    (hfirst : first :: more <:+ tokens) (hlast : last :: after <:+ first :: more)
    (hrest : rest <:+ after) : Fits cs tokens rest ⟨first.range.start, last.range.stop⟩ := by
  have hfirst' : first ∈ tokens := hfirst.subset (List.mem_cons_self ..)
  have hlast' : last ∈ tokens := (hlast.trans hfirst).subset (List.mem_cons_self ..)
  refine ⟨h.inText_start first hfirst', h.inText_stop last hlast', ?_,
    ⟨first, hfirst', Nat.le_refl _⟩, fun t ht => ?_⟩
  · have hstart := h.start_le_stop first hfirst'
    have hstop := h.start_le_stop last hlast'
    rcases List.mem_cons.mp (hlast.subset (List.mem_cons_self ..)) with rfl | hmem
    · exact hstart
    · exact hstart.trans ((h.stop_le_start hfirst hmem).trans hstop)
  · exact h.stop_le_start (hlast.trans hfirst) (hrest.subset ht)

/-- Between the parentheses of a group. -/
theorem fits_group (h : Placed cs tokens) {opening : Lexeme} {more : List Lexeme}
    (hopening : opening :: more <:+ tokens) (hrest : rest <:+ afterGroup more) :
    Fits cs tokens rest ⟨opening.range.stop, groupStop cs more⟩ := by
  have hmem : opening ∈ tokens := hopening.subset (List.mem_cons_self ..)
  have hbegins := h.start_le_stop opening hmem
  have hstart := h.inText_stop opening hmem
  cases hgroup : groupEnd? 0 more with
  | none =>
    simp only [afterGroup, hgroup, List.suffix_nil] at hrest
    subst hrest
    simp only [groupStop, hgroup]
    exact ⟨hstart, ⟨cs, List.prefix_rfl, rfl⟩, hstart.offset_le, ⟨opening, hmem, hbegins⟩,
      fun _ ht => absurd ht List.not_mem_nil⟩
  | some found =>
    obtain ⟨close, after⟩ := found
    simp only [afterGroup, hgroup] at hrest
    simp only [groupStop, hgroup]
    have hclose := suffix_of_groupEnd? hgroup
    have hs := hclose.trans ((List.suffix_cons opening more).trans hopening)
    have hmem' : close ∈ tokens := hs.subset (List.mem_cons_self ..)
    refine ⟨hstart, h.inText_start close hmem',
      h.stop_le_start hopening (hclose.subset (List.mem_cons_self ..)),
      ⟨opening, hmem, hbegins⟩, fun t ht => ?_⟩
    exact (h.start_le_stop close hmem').trans (h.stop_le_start hs (hrest.subset ht))

/-! ## The last token of a table -/

/-- The last of the tokens, if there is one, is the last token of the document. -/
def EndsDocument (doc : Document) (tokens : List Lexeme) : Prop :=
  ∀ t ∈ tokens.getLast?, t = doc.last

theorem endsDocument_of_getLast? {doc : Document} (h : tokens.getLast? = some doc.last) :
    EndsDocument doc tokens := by
  intro t ht
  rw [h] at ht
  exact (Option.some.inj ht).symm

theorem EndsDocument.of_suffix {doc : Document} (h : EndsDocument doc tokens)
    (hs : rest <:+ tokens) : EndsDocument doc rest := by
  intro t ht
  obtain ⟨before, rfl⟩ := hs
  refine h t ?_
  rw [List.getLast?_append, Option.mem_def.mp ht]
  rfl

theorem EndsDocument.suffix {doc : Document} (h : EndsDocument doc tokens) (hne : tokens ≠ []) :
    [doc.last] <:+ tokens := by
  have hlast := h _ (List.getLast?_eq_some_getLast hne)
  exact ⟨tokens.dropLast, by rw [← hlast, List.dropLast_concat_getLast]⟩

/-- With the arguments of a table function a table ends with a token before what follows it. -/
theorem suffix_cons_scanArguments {doc : Document} {last : Lexeme}
    (h : EndsDocument doc (last :: tokens)) :
    (scanArguments doc last tokens).1 :: (scanArguments doc last tokens).2 <:+ last :: tokens := by
  unfold scanArguments
  split
  · next t rest =>
    split
    · cases hgroup : groupEnd? 0 rest with
      | none => exact h.suffix (List.cons_ne_nil _ _)
      | some found =>
        exact (suffix_of_groupEnd? hgroup).trans
          ((List.suffix_cons t rest).trans (List.suffix_cons last _))
    · exact List.suffix_rfl
  · exact List.suffix_rfl

/-- With its alias a table ends with a token before what follows it. -/
theorem exists_suffix_scanAlias (last : Lexeme) (tokens : List Lexeme) :
    ∃ after, (((scanAlias tokens).1.map (·.2)).getD last) :: after <:+ last :: tokens ∧
      (scanAlias tokens).2 <:+ after := by
  cases halias : (scanAlias tokens).1 with
  | none => exact ⟨tokens, List.suffix_rfl, suffix_scanAlias tokens⟩
  | some found =>
    exact ⟨_, (suffix_of_scanAlias halias).trans (List.suffix_cons last tokens), List.suffix_rfl⟩

/-! ## One table -/

section

variable {doc : Document} {join : Option String} {entry : FromEntry}

theorem fits_of_scanTable {t : Lexeme} {w : Word} (hw : t.token = .word w)
    (h : Placed doc.chars (t :: rest)) (hlast : EndsDocument doc (t :: rest))
    (he : (scanTable doc join t (t :: rest)).entry = some entry) :
    Fits doc.chars (t :: rest) (scanTable doc join t (t :: rest)).rest entry.location := by
  have hname := suffix_scanName_word [] t hw rest
  have harguments := suffix_cons_scanArguments (hlast.of_suffix hname)
  obtain ⟨after, halias, hrest⟩ := exists_suffix_scanAlias
    (scanArguments doc (scanName [] t (t :: rest)).2.1 (scanName [] t (t :: rest)).2.2).1
    (scanArguments doc (scanName [] t (t :: rest)).2.1 (scanName [] t (t :: rest)).2.2).2
  cases he
  exact fits_of_suffix h List.suffix_rfl (halias.trans (harguments.trans hname)) hrest

theorem fits_of_scanSubquery {opening : Lexeme} (h : Placed doc.chars (opening :: rest))
    (he : (scanSubquery doc opening rest).entry = some entry) :
    Fits doc.chars (opening :: rest) (scanSubquery doc opening rest).rest entry.location := by
  have hgroup {after : List Lexeme} (hafter : after <:+ afterGroup rest) :=
    fits_group h List.suffix_rfl hafter
  simp only [scanSubquery] at he ⊢
  cases hend : groupEnd? 0 rest with
  | none =>
    simp only [hend] at he ⊢
    cases he
    have hfits := hgroup List.nil_suffix
    rwa [groupStop, hend] at hfits
  | some found =>
    obtain ⟨close, after⟩ := found
    simp only [hend, Option.some.injEq] at he ⊢
    subst he
    split
    · obtain ⟨more, halias, hrest⟩ := exists_suffix_scanAlias close after
      exact fits_of_suffix h List.suffix_rfl
        (halias.trans ((suffix_of_groupEnd? hend).trans (List.suffix_cons opening rest))) hrest
    · have hrest : (scanAlias after).2 <:+ afterGroup rest := by
        rw [afterGroup, hend]
        exact suffix_scanAlias after
      have hfits := hgroup hrest
      rwa [groupStop, hend] at hfits

/-- **A table begins with a token of its own and ends before what follows it.** -/
theorem fits_of_scanFactor (h : Placed doc.chars tokens) (hlast : EndsDocument doc tokens)
    (he : (scanFactor doc join tokens).entry = some entry) :
    Fits doc.chars tokens (scanFactor doc join tokens).rest entry.location := by
  have hskip := suffix_skipLateral tokens
  refine Fits.of_suffix ?_ hskip
  replace h := h.of_suffix hskip
  replace hlast := hlast.of_suffix hskip
  unfold scanFactor at he ⊢
  cases htokens : skipLateral tokens with
  | nil =>
    rw [htokens] at he
    cases he
  | cons t rest =>
    rw [htokens] at h hlast
    simp only [htokens] at he ⊢
    split at he
    · simp only [scanGroup] at he ⊢
      split at he
      · next hquery =>
        rw [if_pos hquery]
        exact fits_of_scanSubquery h he
      · cases he
    · next w hw =>
      split at he
      · next hname =>
        simp only [if_pos hname]
        exact fits_of_scanTable hw h hlast he
      · cases he
    · cases he

/-! ## The clause -/

/-- The ranges, the last one first, are ranges of the text, stand one after the other, and end
before the tokens. -/
structure InOrder (cs : List Char) (ranges : List Range) (tokens : List Lexeme) : Prop where
  inText : ∀ r ∈ ranges, InText cs r.start ∧ InText cs r.stop
  start_le_stop : ∀ r ∈ ranges, r.start.offset ≤ r.stop.offset
  pairwise : ranges.Pairwise fun later earlier => earlier.stop.offset ≤ later.start.offset
  ends : ∀ r ∈ ranges, ∀ t ∈ tokens, r.stop.offset ≤ t.range.start.offset

theorem InOrder.nil (cs : List Char) (tokens : List Lexeme) : InOrder cs [] tokens :=
  ⟨by simp, by simp, .nil, by simp⟩

theorem InOrder.of_suffix {ranges : List Range} (h : InOrder cs ranges tokens)
    (hs : rest <:+ tokens) : InOrder cs ranges rest :=
  ⟨h.inText, h.start_le_stop, h.pairwise, fun r hr t ht => h.ends r hr t (hs.subset ht)⟩

theorem InOrder.cons {ranges : List Range} {r : Range} (h : InOrder cs ranges tokens)
    (hr : Fits cs tokens rest r) (hs : rest <:+ tokens) : InOrder cs (r :: ranges) rest where
  inText := List.forall_mem_cons.mpr ⟨⟨hr.inText_start, hr.inText_stop⟩, h.inText⟩
  start_le_stop := List.forall_mem_cons.mpr ⟨hr.start_le_stop, h.start_le_stop⟩
  pairwise := by
    obtain ⟨t, ht, hle⟩ := hr.begins
    exact .cons (fun earlier hearlier => (h.ends earlier hearlier t ht).trans hle) h.pairwise
  ends := List.forall_mem_cons.mpr ⟨hr.ends, (h.of_suffix hs).ends⟩

/-- A table leaves the entries in order. -/
theorem inOrder_scanFactor (join : Option String) {entries : List FromEntry}
    (h : Placed doc.chars tokens) (hlast : EndsDocument doc tokens)
    (horder : InOrder doc.chars (entries.map FromEntry.location) tokens) :
    InOrder doc.chars
      (((scanFactor doc join tokens).entry.toList ++ entries).map FromEntry.location)
      (scanFactor doc join tokens).rest := by
  have hs := suffix_scanFactor doc join tokens
  cases he : (scanFactor doc join tokens).entry with
  | none => exact horder.of_suffix hs
  | some entry => exact horder.cons (fits_of_scanFactor h hlast he) hs

@[simp] theorem map_location_markConstrained (entries : List FromEntry) :
    (markConstrained entries).map FromEntry.location = entries.map FromEntry.location := by
  unfold markConstrained
  split <;> rfl

/-- What stands between two tables moves no entry. -/
theorem map_location_of_afterFactor {entries entries' : List FromEntry}
    {next : Option (Option String × List Lexeme)}
    (h : afterFactor entries tokens = (entries', next)) :
    entries'.map FromEntry.location = entries.map FromEntry.location := by
  fun_induction afterFactor entries tokens with
  | case1 | case2 | case5 | case6 =>
    cases h
    rfl
  | case3 entries t more _ _ ih | case4 entries t more _ _ _ ih =>
    rw [ih h, map_location_markConstrained]

/-- **The entries of a clause are in order.** -/
theorem inOrder_scanEntries {entries : List FromEntry} (h : Placed doc.chars tokens)
    (hlast : EndsDocument doc tokens)
    (horder : InOrder doc.chars (entries.map FromEntry.location) tokens) :
    InOrder doc.chars ((scanEntries doc join entries tokens).map FromEntry.location) [] := by
  induction join, entries, tokens using scanEntries_induction doc with
  | stop join entries tokens _ hscan =>
    rw [hscan]
    exact (inOrder_scanFactor join h hlast horder).of_suffix List.nil_suffix
  | last join entries tokens entries' _ hafter hscan =>
    rw [hscan, map_location_of_afterFactor hafter]
    exact (inOrder_scanFactor join h hlast horder).of_suffix List.nil_suffix
  | next join entries tokens entries' join' rest _ hafter hscan ih =>
    have hfactor := inOrder_scanFactor join h hlast horder
    have hs := suffix_of_afterFactor hafter
    have hrest := hs.trans (suffix_scanFactor doc join tokens)
    rw [← map_location_of_afterFactor hafter] at hfactor
    rw [hscan]
    exact ih (h.of_suffix hrest) (hlast.of_suffix hrest) (hfactor.of_suffix hs)

end

theorem inOrder_scan (parse : String → Except ParseFailure Statement) {sql : String}
    (h : Placed sql.toList tokens) :
    InOrder sql.toList ((scan parse sql tokens).reverse.map FromEntry.location) [] := by
  unfold scan
  split
  · next rest last hrest hlast =>
    have hs := suffix_of_afterFrom? hrest
    let doc : Document := ⟨sql.toList, last, parse⟩
    have hends : EndsDocument doc tokens := endsDocument_of_getLast? hlast
    have hplaced : Placed doc.chars rest := h.of_suffix hs
    rw [List.reverse_reverse]
    exact inOrder_scanEntries hplaced (hends.of_suffix hs) (.nil _ _)
  · exact .nil _ _

/-! ## Groups -/

/-- Where a group ends whose parenthesis `tokens` follow: at the parenthesis that matches it, or
with the text if there is none. -/
inductive GroupEnds (cs : List Char) (tokens : List Lexeme) : Location → Prop where
  | closed {inner more : List Lexeme} {close : Lexeme} (htokens : tokens = inner ++ close :: more)
      (hinner : balanced 0 inner = true) (hclose : close.token = .symbol .rightParen) :
      GroupEnds cs tokens close.range.start
  | unclosed (h : ∀ inner close more, tokens = inner ++ close :: more → balanced 0 inner = true →
      close.token ≠ .symbol .rightParen) : GroupEnds cs tokens (endLocation cs)

theorem groupEnds_groupStop (cs : List Char) (tokens : List Lexeme) :
    GroupEnds cs tokens (groupStop cs tokens) := by
  unfold groupStop
  split
  · next close more hgroup =>
    obtain ⟨inner, htokens, hinner, hclose⟩ := groupEnd?_eq_some_iff.mp hgroup
    exact .closed htokens hinner hclose
  · next hgroup =>
    refine .unclosed fun inner close more htokens hinner hclose => ?_
    rw [groupEnd?_eq_some_iff.mpr ⟨inner, htokens, hinner, hclose⟩] at hgroup
    cases hgroup

/-- The text is that of a group: it stands in `sql` after the character of a parenthesis, which is
one of the tokens, and goes on to where the group ends. -/
def IsGroup (sql : String) (tokens : List Lexeme) (text : String) (range : Range) : Prop :=
  ∃ before after opening rest,
    sql.toList = before ++ '(' :: (text.toList ++ after) ∧
    range.start.offset = byteLength before + 1 ∧
    range.stop.offset = range.start.offset + text.utf8ByteSize ∧
    opening :: rest <:+ tokens ∧ opening.token = .symbol .leftParen ∧
    opening.range.stop = range.start ∧ GroupEnds sql.toList rest range.stop

theorem isGroup_of_hasGroup {d : Dialect} {sql text : String} {range : Range}
    {tokens : List Lexeme} (hlex : lex d sql = .ok tokens)
    (h : HasGroup sql.toList (significant tokens) (.incomplete text range)) :
    IsGroup sql (significant tokens) text range := by
  obtain ⟨opening, rest, hs, hopening, hentry⟩ := h
  obtain ⟨-, before, chars, hchars, hstands⟩ := exists_stands_of_suffix hlex hs
  obtain rfl := hstands.eq_leftParen hopening
  obtain ⟨inner, ⟨after, hafter⟩, hinner⟩ := exists_groupEntry hlex hs hchars hstands
  have hends := groupEnds_groupStop sql.toList rest
  have hstop : groupStop sql.toList rest = endLocation (before ++ ['('] ++ inner) :=
    congrArg (·.location.stop) hinner
  have hparen : byteLength ['('] = 1 := rfl
  rw [hstop] at hends
  rw [hinner] at hentry
  cases hentry
  refine ⟨before, after, opening, rest, ?_, ?_, ?_, hs, hopening, ?_, hends⟩
  · rw [← hafter, String.toList_ofList]
    simp only [List.append_assoc, List.cons_append, List.nil_append]
  · rw [offset_endLocation, byteLength_append, hparen]
  · rw [byteLength_ofList, offset_endLocation, offset_endLocation, byteLength_append _ inner]
  · rw [hstands.range_eq]

/-- The entries stand in the text one after the other, each at places of the text, and every
unfinished subquery is a group. -/
structure InPlace (sql : String) (tokens : List Lexeme) (entries : List FromEntry) : Prop where
  pairwise : entries.Pairwise fun e f => e.location.stop.offset ≤ f.location.start.offset
  bounds : ∀ e ∈ entries, e.location.start.offset ≤ e.location.stop.offset ∧
    e.location.stop.offset ≤ sql.utf8ByteSize
  agrees : ∀ e ∈ entries, Agrees sql.toList e.location.start ∧ Agrees sql.toList e.location.stop
  isGroup : ∀ text range, .incomplete text range ∈ entries → IsGroup sql tokens text range

/-- **The entries of a text are in place**, in whatever way its subqueries are parsed. -/
theorem inPlace_scan {d : Dialect} {sql : String} {tokens : List Lexeme}
    (h : lex d sql = .ok tokens) (parse : String → Except ParseFailure Statement) :
    InPlace sql (significant tokens) (scan parse sql (significant tokens)) := by
  have horder := inOrder_scan parse (placed_significant h)
  have hmem {e : FromEntry} (he : e ∈ scan parse sql (significant tokens)) :
      e.location ∈ (scan parse sql (significant tokens)).reverse.map FromEntry.location :=
    List.mem_map_of_mem (List.mem_reverse.mpr he)
  refine ⟨?_, fun e he => ⟨horder.start_le_stop _ (hmem he), ?_⟩, fun e he => ?_,
    fun text range he => ?_⟩
  · have hpair := horder.pairwise
    rwa [List.pairwise_map, List.pairwise_reverse] at hpair
  · rw [utf8ByteSize_eq]
    exact (horder.inText _ (hmem he)).2.offset_le
  · obtain ⟨hstart, hstop⟩ := horder.inText _ (hmem he)
    exact ⟨agrees_iff_inText.mpr hstart, agrees_iff_inText.mpr hstop⟩
  · obtain ⟨t, rest, ht, -, hgroup⟩ := exists_group_of_mem_scan he
    exact isGroup_of_hasGroup h (hgroup.of_suffix ((List.suffix_cons t rest).trans ht))

/-- A table with an alias, a table function, a subquery, one that does not parse and one that is not
closed. -/
theorem inPlace_scan_unclosed :
    let sql :=
      "SELECT * FROM db.t AS x JOIN f(1) ON (a), (SELECT b FROM u) y, (SELECT 1 1), (SELECT c"
    ∃ tokens, lex .generic sql = .ok tokens ∧
      InPlace sql (significant tokens) (scan (parse .generic) sql (significant tokens)) ∧
      (scan (parse .generic) sql (significant tokens)).map
          (fun e => (e.location.start.offset, e.location.stop.offset)) =
        [(14, 23), (29, 33), (42, 61), (64, 74), (78, 86)] := by
  intro sql
  have hclause : (fromClause .generic sql).toOption.map (List.map fun e =>
      (e.location.start.offset, e.location.stop.offset)) =
        some [(14, 23), (29, 33), (42, 61), (64, 74), (78, 86)] := by decide +kernel
  unfold fromClause at hclause
  cases hlex : lex .generic sql with
  | error e =>
    rw [hlex] at hclause
    cases hclause
  | ok tokens =>
    rw [hlex] at hclause
    exact ⟨tokens, rfl, inPlace_scan hlex (parse .generic), Option.some.inj hclause⟩

end FromClause

end SqlCompletion.Sql
