import Mathlib.Data.List.Infix
import SqlCompletion.Proofs.MentionedPlace

/-!
# What was expected and what was found

A message that says what was expected and what was found is taken apart again. The description ends
where `, found:` first follows it, and what was found goes on to the end of the message, or to the
place that stands there. Both may be any text: what was found quotes the user.

* `isPlaceSuffix_iff`: what counts as a place at the end.
* `splitFound?_append`, `foundText_append`: the two loops pass over characters at which nothing
  ends.
* `expectation?_expectedMessage`: what was expected and found is read back, and without a place at
  the end of the message it is so unless what was found ends in one itself.
-/

namespace SqlCompletion.Sql

open Text

/-! ## The forms in a message -/

/-- What stands between a description and what was found. -/
inductive IsFoundMark : List Char → Prop where
  | mk (w : List Char) (hw : IsGap w) : IsFoundMark ([','] ++ (w ++ "found:".toList))

/-- What was found would be read from somewhere in the text on. -/
def MentionsFound (cs : List Char) : Prop := ∃ mark, IsFoundMark mark ∧ mark <:+: cs

/-- White space, `at` and a place. -/
inductive IsPlaceSuffix : List Char → Prop where
  | mk (w : List Char) (hw : IsGap w) (hne : w ≠ []) {line column place : List Char}
      (h : IsPlace line column place) : IsPlaceSuffix (w ++ ("at ".toList ++ place))

/-- The text ends in a place, white space before it included. -/
def EndsInPlace (cs : List Char) : Prop := ∃ suffix, IsPlaceSuffix suffix ∧ suffix <:+ cs

/-- A text that is not empty and has no white space at either end. -/
structure IsPhrase (cs : List Char) : Prop where
  ne_nil : cs ≠ []
  head : ∀ c ∈ cs.head?, isBlank c = false
  last : ∀ c ∈ cs.getLast?, isBlank c = false

theorem isPhrase_iff {cs : List Char} :
    IsPhrase cs ↔
      cs ≠ [] ∧ cs.head?.all (!isBlank ·) = true ∧ cs.getLast?.all (!isBlank ·) = true := by
  simp only [Option.all_eq_true, Bool.not_eq_true']
  exact ⟨fun h => ⟨h.ne_nil, h.head, h.last⟩, fun ⟨hne, hhead, hlast⟩ => ⟨hne, hhead, hlast⟩⟩

instance (cs : List Char) : Decidable (IsPhrase cs) := decidable_of_iff _ isPhrase_iff.symm

/-! ## White space at the ends -/

variable {cs as tail read : List Char}

theorem dropWhile_isBlank (h : ∀ c ∈ cs.head?, isBlank c = false) : cs.dropWhile isBlank = cs := by
  cases cs with
  | nil => rfl
  | cons c cs => rw [List.dropWhile_cons_of_neg (by simpa using h)]

theorem IsPhrase.trim_eq (h : IsPhrase cs) : trim cs = cs := by
  rw [trim, dropWhile_isBlank h.head, dropWhile_isBlank, List.reverse_reverse]
  rw [List.head?_reverse]
  exact h.last

theorem length_trim_le (cs : List Char) : (trim cs).length ≤ cs.length := by
  have hfront : (cs.dropWhile isBlank).length ≤ cs.length := (List.dropWhile_suffix _).length_le
  have hback : ((cs.dropWhile isBlank).reverse.dropWhile isBlank).length ≤
      (cs.dropWhile isBlank).reverse.length := (List.dropWhile_suffix _).length_le
  rw [List.length_reverse] at hback
  rw [trim, List.length_reverse]
  exact hback.trans hfront

/-! ## A place at the end -/

theorem isPlaceSuffix_iff : isPlaceSuffix cs = true ↔ IsPlaceSuffix cs := by
  constructor
  · intro h
    unfold isPlaceSuffix at h
    split at h
    · next c rest =>
      rw [Bool.and_eq_true] at h
      obtain ⟨hblank, h⟩ := h
      split at h
      · next place hread =>
        obtain ⟨more, hmore, hplace⟩ := Option.bind_eq_some_iff.mp hread
        obtain ⟨w, hw, rfl⟩ := (dropPrefix?_skipBlanks (p := 'a') rfl ['t', ' '] _ _).mp hmore
        obtain ⟨chars, hchars, rfl, -⟩ := placeAt?_eq_some_iff.mp hplace
        have hgap : IsGap (c :: w) := List.forall_mem_cons.mpr ⟨hblank, hw⟩
        simpa using IsPlaceSuffix.mk (c :: w) hgap (List.cons_ne_nil c w) hchars
      · cases h
    · cases h
  · rintro ⟨w, hw, hne, hplace⟩
    next place =>
    obtain ⟨c, w, rfl⟩ := List.exists_cons_of_ne_nil hne
    obtain ⟨hblank, hw⟩ := List.forall_mem_cons.mp hw
    have hat : dropPrefix? "at ".toList (skipBlanks (w ++ ("at ".toList ++ place))) = some place :=
      (dropPrefix?_skipBlanks (p := 'a') rfl ['t', ' '] _ _).mpr ⟨w, hw, rfl⟩
    have hread := placeAt?_eq_some_iff.mpr ⟨_, hplace, (List.append_nil _).symm, by simp⟩
    rw [List.cons_append, isPlaceSuffix, hblank, hat, Option.bind_some, hread]
    rfl

instance (cs : List Char) : Decidable (EndsInPlace cs) :=
  decidable_of_iff (∃ s ∈ cs.tails, isPlaceSuffix s = true) <| by
    simp only [List.mem_tails, isPlaceSuffix_iff, EndsInPlace, and_comm]

/-- Two texts that end alike from their last `x` on are alike before it. -/
theorem eq_of_append_cons_eq {bs ds : List Char} {x : Char} (hcs : x ∉ cs) (hds : x ∉ ds)
    (h : as ++ x :: cs = bs ++ x :: ds) : as = bs := by
  rcases List.append_eq_append_iff.mp h with ⟨more, rfl, htail⟩ | ⟨more, rfl, htail⟩
  · cases more with
    | nil => rw [List.append_nil]
    | cons y more =>
      rw [List.cons_append, List.cons.injEq] at htail
      exact absurd (by rw [htail.2]; simp) hcs
  · cases more with
    | nil => rw [List.append_nil]
    | cons y more =>
      rw [List.cons_append, List.cons.injEq] at htail
      exact absurd (by rw [htail.2]; simp) hds

/-- A text that is followed by a place is white space, if together they count as a place at the
end. -/
theorem IsPlaceSuffix.isGap {line column place : List Char} (hplace : IsPlace line column place)
    (h : IsPlaceSuffix (as ++ (" at ".toList ++ place))) : IsGap as := by
  obtain ⟨tail, rfl, htail⟩ := hplace.exists_cons_not_mem
  generalize hcs : as ++ (" at ".toList ++ 'L' :: tail) = cs at h
  obtain ⟨w, hw, -, hplace'⟩ := h
  obtain ⟨tail', rfl, htail'⟩ := hplace'.exists_cons_not_mem
  have hsame : as ++ " at ".toList = w ++ "at ".toList := by
    refine eq_of_append_cons_eq htail htail' ?_
    simpa using hcs
  have hshifted : as ++ [' '] ++ "at ".toList = w ++ "at ".toList := by simpa using hsame
  have hgap : as ++ [' '] = w := List.append_cancel_right hshifted
  exact fun c hc => hw c (by rw [← hgap]; exact List.mem_append_left _ hc)

/-! ## What was found -/

/-- What was found goes on past characters at which no place stands at the end. -/
theorem foundText_append (h : ∀ s, s ≠ [] → s <:+ as → isPlaceSuffix (s ++ tail) = false)
    (read : List Char) : foundText read (as ++ tail) = foundText (as.reverse ++ read) tail := by
  induction as generalizing read with
  | nil => rfl
  | cons c as ih =>
    have hc := h (c :: as) (List.cons_ne_nil c as) List.suffix_rfl
    rw [List.cons_append] at hc ⊢
    rw [foundText, hc, if_neg Bool.false_ne_true,
      ih fun s hne hs => h s hne (hs.trans (List.suffix_cons c as)), List.reverse_cons,
      List.append_assoc, List.singleton_append]

theorem foundText_of_isPlaceSuffix (h : IsPlaceSuffix cs) (read : List Char) :
    foundText read cs = read.reverse := by
  have hstop := isPlaceSuffix_iff.mpr h
  cases cs with
  | nil => rfl
  | cons c cs => rw [foundText, if_pos hstop]

theorem IsPlaceSuffix.exists_cons (h : IsPlaceSuffix cs) :
    ∃ c rest, cs = c :: rest ∧ isBlank c = true := by
  obtain ⟨w, hw, hne, hplace⟩ := h
  obtain ⟨c, w, rfl⟩ := List.exists_cons_of_ne_nil hne
  exact ⟨c, _, rfl, hw c (List.mem_cons_self ..)⟩

/-- A text that does not start with white space is not all of it a place at the end. -/
theorem endsInPlace_cons {c : Char} (hc : isBlank c = false) :
    EndsInPlace (c :: cs) ↔ EndsInPlace cs := by
  constructor
  · rintro ⟨suffix, hsuffix, hs⟩
    rcases List.suffix_cons_iff.mp hs with rfl | hs
    · obtain ⟨d, more, hd, hblank⟩ := hsuffix.exists_cons
      obtain rfl := (List.cons.inj hd).1
      rw [hc] at hblank
      cases hblank
    · exact ⟨suffix, hsuffix, hs⟩
  · rintro ⟨suffix, hsuffix, hs⟩
    exact ⟨suffix, hsuffix, hs.trans (List.suffix_cons c cs)⟩

/-- What was found stops at the place with which the message ends, whatever places it quotes. -/
theorem foundText_append_place {line column place : List Char} (hplace : IsPlace line column place)
    (hlast : ∀ c ∈ as.getLast?, isBlank c = false) (read : List Char) :
    foundText read (as ++ (" at ".toList ++ place)) = read.reverse ++ as := by
  have hat : IsPlaceSuffix (" at ".toList ++ place) :=
    .mk [' '] isGap_space (by simp) hplace
  have hnone : ∀ s, s ≠ [] → s <:+ as → isPlaceSuffix (s ++ (" at ".toList ++ place)) = false := by
    rintro s hne ⟨before, rfl⟩
    refine Bool.eq_false_iff.mpr fun hends => ?_
    have hgap := (isPlaceSuffix_iff.mp hends).isGap hplace
    have hnot := hlast (s.getLast hne) (by
      rw [List.getLast?_append, List.getLast?_eq_some_getLast hne, Option.some_or]
      rfl)
    rw [hgap _ (List.getLast_mem hne)] at hnot
    cases hnot
  rw [foundText_append hnone, foundText_of_isPlaceSuffix hat, List.reverse_append,
    List.reverse_reverse]

/-- Without a place at the end all of the text was found. -/
theorem foundText_of_not_endsInPlace (h : ¬EndsInPlace cs) (read : List Char) :
    foundText read cs = read.reverse ++ cs := by
  have hnone : ∀ s, s ≠ [] → s <:+ cs → isPlaceSuffix (s ++ []) = false := by
    intro s hne hs
    refine Bool.eq_false_iff.mpr fun hsuffix => h ⟨s, ?_, hs⟩
    rwa [List.append_nil, isPlaceSuffix_iff] at hsuffix
  have hwhole := foundText_append hnone read
  rw [List.append_nil] at hwhole
  rw [hwhole, foundText, List.reverse_append, List.reverse_reverse]

/-- A place at the end does not belong to what was found. -/
theorem length_foundText_lt (h : EndsInPlace cs) (read : List Char) :
    (foundText read cs).length < read.length + cs.length := by
  obtain ⟨suffix, hsuffix, hs⟩ := h
  induction cs generalizing read with
  | nil =>
    obtain ⟨c, rest, rfl, -⟩ := hsuffix.exists_cons
    cases List.eq_nil_of_suffix_nil hs
  | cons c cs ih =>
    rw [foundText]
    split
    · simp
    · next hgoesOn =>
      rcases List.suffix_cons_iff.mp hs with rfl | hs
      · exact absurd (isPlaceSuffix_iff.mpr hsuffix) hgoesOn
      · have hrest := ih (c :: read) hs
        rw [List.length_cons] at hrest ⊢
        omega

/-! ## The description -/

theorem exists_mark_of_afterFound? {found : List Char} (h : afterFound? cs = some found) :
    ∃ mark more, IsFoundMark mark ∧ cs = mark ++ more := by
  unfold afterFound? at h
  split at h
  · next rest =>
    obtain ⟨more, hmore, -⟩ := Option.bind_eq_some_iff.mp h
    obtain ⟨w, hw, rfl⟩ := (dropPrefix?_skipBlanks (p := 'f') rfl "ound:".toList _ _).mp hmore
    exact ⟨_, more, .mk w hw, by simp⟩
  · cases h

theorem afterFound?_mark (w : List Char) (hw : IsGap w) (more : List Char) :
    afterFound? (',' :: (w ++ ("found:".toList ++ more))) = foundAfter? more := by
  have hmark : dropPrefix? "found:".toList (skipBlanks (w ++ ("found:".toList ++ more))) =
      some more :=
    (dropPrefix?_skipBlanks (p := 'f') rfl "ound:".toList _ _).mpr ⟨w, hw, rfl⟩
  rw [afterFound?, hmark, Option.bind_some]

instance (cs : List Char) : Decidable (MentionsFound cs) :=
  decidable_of_iff (∃ s ∈ cs.tails, s.head? = some ',' ∧
      (dropPrefix? "found:".toList (skipBlanks s.tail)).isSome = true) <| by
    constructor
    · rintro ⟨s, hs, hcomma, hfound⟩
      obtain ⟨rest, rfl⟩ := List.head?_eq_some_iff.mp hcomma
      obtain ⟨more, hmore⟩ := Option.isSome_iff_exists.mp hfound
      obtain ⟨w, hw, hrest⟩ := (dropPrefix?_skipBlanks (p := 'f') rfl "ound:".toList _ _).mp hmore
      have hprefix : [','] ++ (w ++ "found:".toList) <+: ',' :: rest :=
        ⟨more, by rw [show rest = _ from hrest]; simp⟩
      exact ⟨_, .mk w hw, hprefix.isInfix.trans ((List.mem_tails _ _).mp hs).isInfix⟩
    · rintro ⟨_, ⟨w, hw⟩, before, after, hcs⟩
      have hfound : dropPrefix? "found:".toList (skipBlanks (w ++ ("found:".toList ++ after))) =
          some after :=
        (dropPrefix?_skipBlanks (p := 'f') rfl "ound:".toList _ _).mpr ⟨w, hw, rfl⟩
      refine ⟨',' :: (w ++ ("found:".toList ++ after)), (List.mem_tails _ _).mpr ⟨before, ?_⟩,
        rfl, ?_⟩
      · simpa using hcs
      · rw [List.tail_cons, hfound, Option.isSome_some]

/-- In front of what was found, nothing of a description without such a mark is taken for it. -/
theorem afterFound?_append_eq_none {what mark : List Char} (hwhat : ¬MentionsFound what)
    (hmark : IsFoundMark mark) {s : List Char} (hne : s ≠ []) (hs : s <:+ what) (more : List Char) :
    afterFound? (s ++ (mark ++ more)) = none := by
  refine Option.eq_none_iff_forall_ne_some.mpr fun found hfound => ?_
  obtain ⟨mark', more', hmark', heq⟩ := exists_mark_of_afterFound? hfound
  have hinside : ¬mark' <+: s := fun hprefix =>
    hwhat ⟨mark', hmark', hprefix.isInfix.trans hs.isInfix⟩
  rcases List.append_eq_append_iff.mp heq with ⟨excess, hexcess, hrest⟩ | ⟨excess, hexcess, -⟩
  · cases excess with
    | nil => exact hinside ⟨[], by rw [hexcess]; simp⟩
    | cons y excess =>
      -- The comma of the mark would stand inside another one, behind its own comma.
      obtain ⟨w, hw⟩ := hmark
      obtain ⟨w', hw'⟩ := hmark'
      obtain ⟨c, s, rfl⟩ := List.exists_cons_of_ne_nil hne
      obtain rfl : ',' = y := (List.cons.inj hrest).1
      have hrest : w' ++ "found:".toList = s ++ ',' :: excess := (List.cons.inj hexcess).2
      have hcomma : ',' ∈ w' ++ "found:".toList := by
        rw [hrest]
        simp
      rcases List.mem_append.mp hcomma with hm | hm
      · exact absurd (hw' _ hm) (by decide)
      · exact absurd hm (by decide)
  · exact hinside ⟨excess, hexcess.symm⟩

theorem splitFound?_append (h : ∀ s, s ≠ [] → s <:+ as → afterFound? (s ++ tail) = none)
    (read : List Char) : splitFound? read (as ++ tail) = splitFound? (as.reverse ++ read) tail := by
  induction as generalizing read with
  | nil => rfl
  | cons c as ih =>
    have hc := h (c :: as) (List.cons_ne_nil c as) List.suffix_rfl
    rw [List.cons_append] at hc ⊢
    rw [splitFound?, hc, ite_self]
    simp only
    rw [ih fun s hne hs => h s hne (hs.trans (List.suffix_cons c as)), List.reverse_cons,
      List.append_assoc, List.singleton_append]

/-- A description ends in front of a mark, if it has a character at all. -/
theorem splitFound?_of_afterFound? {found : List Char} {c : Char} (hread : read ≠ [])
    (h : afterFound? (c :: cs) = some found) :
    splitFound? read (c :: cs) = some (read.reverse, found) := by
  have hgoesOn : read.isEmpty = false := by simpa using hread
  simp only [splitFound?, hgoesOn, h, if_neg Bool.false_ne_true]

/-! ## Taking a message apart -/

theorem foundAfter?_of_skipBlanks {c : Char} {rest : List Char} (h : skipBlanks cs = c :: rest) :
    foundAfter? cs = some (foundText [c] rest) := by
  unfold foundAfter?
  simp only [h]

theorem expectation?_of_afterExpected? {what found : List Char}
    (h : afterExpected? cs = some (what, found)) :
    expectation? ("Expected:".toList ++ cs) = some (trim what, trim found) := by
  have hword : dropPrefix? "Expected:".toList ('E' :: ("xpected:".toList ++ cs)) = some cs :=
    dropPrefix?_eq_some_iff.mpr rfl
  show expectation? ('E' :: ("xpected:".toList ++ cs)) = _
  rw [expectation?, hword, Option.bind_some, h]

/-- **A message is split at the first mark**, and what was found goes on from there. -/
theorem expectation?_eq {what : List Char} (hwhat : IsPhrase what) (hmark : ¬MentionsFound what)
    {c : Char} (hc : isBlank c = false) (rest : List Char) :
    expectation? ("Expected: ".toList ++ (what ++ (", found: ".toList ++ (c :: rest)))) =
      some (what, trim (foundText [c] rest)) := by
  have hfound : foundAfter? (' ' :: c :: rest) = some (foundText [c] rest) :=
    foundAfter?_of_skipBlanks (skipBlanks_append (w := [' ']) isGap_space (by simpa using hc))
  have hmarked : afterFound? (", found: ".toList ++ (c :: rest)) = some (foundText [c] rest) :=
    (afterFound?_mark [' '] isGap_space (' ' :: c :: rest)).trans hfound
  have hnone : ∀ s, s ≠ [] → s <:+ what →
      afterFound? (s ++ (", found: ".toList ++ (c :: rest))) = none := fun s hne hs =>
    afterFound?_append_eq_none hmark (.mk [' '] isGap_space) hne hs (' ' :: c :: rest)
  have hsplit : splitFound? [] (what ++ (", found: ".toList ++ (c :: rest))) =
      some (what, foundText [c] rest) := by
    have hread : what.reverse ≠ [] := by simpa using hwhat.ne_nil
    have hend := splitFound?_of_afterFound? hread hmarked
    rw [splitFound?_append hnone, List.append_nil]
    exact hend.trans (by rw [List.reverse_reverse])
  have hexpected : afterExpected? (' ' :: (what ++ (", found: ".toList ++ (c :: rest)))) =
      some (what, foundText [c] rest) := by
    have hhead : ∀ d ∈ (what ++ (", found: ".toList ++ (c :: rest))).head?, isBlank d = false := by
      intro d hd
      obtain ⟨e, what, rfl⟩ := List.exists_cons_of_ne_nil hwhat.ne_nil
      exact hwhat.head d hd
    have hskip := skipBlanks_append (w := [' ']) isGap_space hhead
    rw [List.singleton_append] at hskip
    simp only [afterExpected?, hskip, hsplit]
  refine (expectation?_of_afterExpected? hexpected).trans ?_
  rw [hwhat.trim_eq]

/-- **What was expected and what was found are read back from a message**, whatever place it ends
with. Without one, that is so unless what was found ends in a place itself. -/
theorem expectation?_expectedMessage (what found : String) (hwhat : IsPhrase what.toList)
    (hfound : IsPhrase found.toList) (hmark : ¬MentionsFound what.toList) :
    (∀ l, expectation? (expectedMessage what found (some l)).toList =
      some (what.toList, found.toList)) ∧
    (expectation? (expectedMessage what found none).toList = some (what.toList, found.toList) ↔
      ¬EndsInPlace found.toList) := by
  obtain ⟨c, rest, hcs⟩ := List.exists_cons_of_ne_nil hfound.ne_nil
  rw [hcs] at hfound
  have hc : isBlank c = false := hfound.head c rfl
  have hread (place : Option Location) :
      expectation? (expectedMessage what found place).toList =
        some (what.toList, trim (foundText [c] (rest ++ (optionalPlace place).toList))) := by
    rw [toList_expectedMessage, hcs, ← expectation?_eq hwhat hmark hc, List.cons_append]
  refine ⟨fun l => ?_, ?_⟩
  · obtain ⟨place, hplace, hwritten⟩ := exists_isPlace_placeText l
    have hlast : ∀ d ∈ rest.getLast?, isBlank d = false := fun d hd => hfound.last d (by
      rw [List.getLast?_cons, Option.mem_def.mp hd]
      rfl)
    rw [hread, optionalPlace, hwritten, foundText_append_place hplace hlast, hcs]
    exact congrArg (fun f => some (what.toList, f)) hfound.trim_eq
  · rw [hread, optionalPlace, String.toList_empty, List.append_nil, Option.some.injEq,
      Prod.mk.injEq, eq_self_iff_true, true_and, hcs, endsInPlace_cons hc]
    constructor
    · intro hsame hends
      have hshort := length_foundText_lt hends [c]
      have htrim := length_trim_le (foundText [c] rest)
      rw [hsame, List.length_cons] at htrim
      rw [List.length_singleton] at hshort
      omega
    · intro hends
      rw [foundText_of_not_endsInPlace hends]
      exact hfound.trim_eq

/-- A description with a comma and a colon, and a found text with line ends, a mark and two places,
of which the second one is its end. -/
theorem expectation?_expectedMessage_quoted :
    let what := "SELECT, VALUES, or found: a subquery"
    let found := "'x,\nfound: y at Line: 1, Column: 2 z at Line: 3, Column: 4"
    (∀ l, expectation? (expectedMessage what found (some l)).toList =
      some (what.toList, found.toList)) ∧
    expectation? (expectedMessage what found none).toList ≠ some (what.toList, found.toList) ∧
    expectation? (expectedMessage what (found ++ "'") none).toList =
      some (what.toList, (found ++ "'").toList) := by
  intro what found
  have hwhat : IsPhrase what.toList := by decide
  have hmark : ¬MentionsFound what.toList := by decide
  have hread := expectation?_expectedMessage what found hwhat (by decide) hmark
  have hquoted := expectation?_expectedMessage what (found ++ "'") hwhat (by decide) hmark
  refine ⟨hread.1, fun hsame => hread.2.mp hsame (by decide), hquoted.2.mpr (by decide)⟩

end SqlCompletion.Sql
