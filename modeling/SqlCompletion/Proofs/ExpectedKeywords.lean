import Mathlib.Data.List.Nodup
import SqlCompletion.Proofs.OpenQuote
import SqlCompletion.Proofs.Origin

/-!
# The keywords that an error offers

The tokens that a syntax error expects are offered as keywords, each in capitals and in small
letters. Repetitions are removed among the tokens, before the small letters are added, so it is a
fact about the errors that no keyword is offered twice: whatever a message says, an expected token
is ASCII without small letters.

* `IsCapital.toLower_inj`, `IsCapital.eq_of_toLower_eq`: such words do not meet in small letters.
* `isCapital_of_isErrorOf`: every token that an error expects is such a word.
* `firstOccurrences_bothCases`: so repetitions may as well be removed once the small letters are
  added.
* `keywordCandidates_of_isErrorOf`: what is offered.
-/

namespace SqlCompletion

open Text

/-! ## Capital words -/

/-- The word is ASCII without small letters. -/
def IsCapital (w : String) : Prop :=
  ∀ c ∈ w.toList, c.toNat < 0x80 ∧ c.isLower = false

instance : DecidablePred IsCapital := fun w =>
  List.decidableBAll (fun c : Char => c.toNat < 0x80 ∧ c.isLower = false) w.toList

theorem toUpper_toLower {c : Char} (hc : c.toNat < 0x80) (hlower : c.isLower = false) :
    c.toLower.toUpper = c := by
  have hall : ∀ n ∈ List.range 0x80, (Char.ofNat n).isLower = false →
      (Char.ofNat n).toLower.toUpper = Char.ofNat n := by decide +kernel
  simpa using hall c.toNat (List.mem_range.mpr hc) (by simpa using hlower)

theorem toLower_eq_self {c : Char} (hc : c.toNat < 0x80) (hlower : c.toLower.isLower = false) :
    c.toLower = c := by
  have hall : ∀ n ∈ List.range 0x80, (Char.ofNat n).toLower.isLower = false →
      (Char.ofNat n).toLower = Char.ofNat n := by decide +kernel
  simpa using hall c.toNat (List.mem_range.mpr hc) (by simpa using hlower)

theorem lowerChars_of_lt {cs : List Char} (h : ∀ c ∈ cs, c.toNat < 0x80) (read : List Char) :
    lowerChars read cs = cs.map Char.toLower := by
  induction cs generalizing read with
  | nil => rfl
  | cons c cs ih =>
    obtain ⟨hc, hcs⟩ := List.forall_mem_cons.mp h
    have hsigma : c ≠ 'Σ' := by
      rintro rfl
      exact absurd hc (by decide)
    simp only [lowerChars, if_neg hsigma, lowerChar, if_pos hc, ih hcs]
    rfl

variable {v w : String}

theorem IsCapital.toList_toLower (h : IsCapital w) :
    (toLower w).toList = w.toList.map Char.toLower := by
  rw [toLower, String.toList_ofList, lowerChars_of_lt fun c hc => (h c hc).1]

theorem IsCapital.map_toUpper_toLower (h : IsCapital w) :
    (toLower w).toList.map Char.toUpper = w.toList := by
  rw [h.toList_toLower, List.map_map]
  refine (List.map_congr_left fun c hc => ?_).trans (List.map_id _)
  exact toUpper_toLower (h c hc).1 (h c hc).2

/-- Capital words that are alike in small letters are alike. -/
theorem IsCapital.toLower_inj (hv : IsCapital v) (hw : IsCapital w) (h : toLower v = toLower w) :
    v = w := by
  rw [← String.toList_inj, ← hv.map_toUpper_toLower, h, hw.map_toUpper_toLower]

/-- A capital word that is another one in small letters has no letters at all. -/
theorem IsCapital.eq_of_toLower_eq (hv : IsCapital v) (hw : IsCapital w) (h : toLower v = w) :
    v = w := by
  have hsame : v.toList.map Char.toLower = v.toList := by
    refine (List.map_congr_left fun c hc => ?_).trans (List.map_id _)
    refine toLower_eq_self (hv c hc).1 (hw c.toLower ?_).2
    rw [← h, hv.toList_toLower]
    exact List.mem_map_of_mem hc
  rw [← String.toList_inj, ← h, hv.toList_toLower, hsame]

theorem isCapital_keywordOfLiteral (h : IsCapital w) : IsCapital (keywordOfLiteral w) := by
  unfold keywordOfLiteral
  split
  · decide
  · split
    · decide
    · exact h

/-! ## First occurrences -/

theorem firstOccurrences_concat_of_mem {ws : List String} (h : w ∈ ws) :
    firstOccurrences (ws ++ [w]) = firstOccurrences ws := by
  rw [firstOccurrences_concat, if_pos (mem_firstOccurrences.mpr h)]

theorem firstOccurrences_concat_of_notMem {ws : List String} (h : w ∉ ws) :
    firstOccurrences (ws ++ [w]) = firstOccurrences ws ++ [w] := by
  rw [firstOccurrences_concat, if_neg (mt mem_firstOccurrences.mp h)]

theorem nodup_firstOccurrences (ws : List String) : (firstOccurrences ws).Nodup := by
  induction ws using List.reverseRecOn with
  | nil => exact List.nodup_nil
  | append_singleton ws w ih =>
    by_cases h : w ∈ ws
    · rw [firstOccurrences_concat_of_mem h]
      exact ih
    · rw [firstOccurrences_concat_of_notMem h, ← List.concat_eq_append]
      exact ih.concat (mt mem_firstOccurrences.mp h)

/-- The words are in the order in which they first stand in the list. -/
theorem pairwise_idxOf_firstOccurrences (ws : List String) :
    (firstOccurrences ws).Pairwise fun v w => ws.idxOf v < ws.idxOf w := by
  induction ws using List.reverseRecOn with
  | nil => exact List.Pairwise.nil
  | append_singleton ws x ih =>
    have hold : (firstOccurrences ws).Pairwise fun v w =>
        (ws ++ [x]).idxOf v < (ws ++ [x]).idxOf w := by
      refine ih.imp_of_mem fun {v w} hv hw hlt => ?_
      rwa [List.idxOf_append_of_mem (mem_firstOccurrences.mp hv),
        List.idxOf_append_of_mem (mem_firstOccurrences.mp hw)]
    by_cases h : x ∈ ws
    · rwa [firstOccurrences_concat_of_mem h]
    · rw [firstOccurrences_concat_of_notMem h, List.pairwise_append]
      refine ⟨hold, List.pairwise_singleton _ _, fun v hv w hw => ?_⟩
      rw [List.mem_singleton] at hw
      subst hw
      have hv := mem_firstOccurrences.mp hv
      rw [List.idxOf_append_of_mem hv, List.idxOf_append_of_notMem h, List.idxOf_cons_self]
      exact List.idxOf_lt_length_of_mem hv

/-! ## Small letters -/

/-- Each word, followed by its small letters. -/
def withSmallLetters (ws : List String) : List String :=
  ws.flatMap fun w => [w, toLower w]

theorem mem_withSmallLetters {u : String} {ws : List String} :
    u ∈ withSmallLetters ws ↔ ∃ w ∈ ws, u = w ∨ u = toLower w := by
  simp [withSmallLetters]

theorem withSmallLetters_concat (ws : List String) (w : String) :
    withSmallLetters (ws ++ [w]) = withSmallLetters ws ++ [w] ++ [toLower w] := by
  simp [withSmallLetters]

/-- A capital word is met in small letters only where it stands itself. -/
theorem IsCapital.mem_of_mem_withSmallLetters {ws : List String} (hw : IsCapital w)
    (hws : ∀ v ∈ ws, IsCapital v) (h : w ∈ withSmallLetters ws) : w ∈ ws := by
  obtain ⟨v, hv, rfl | hlower⟩ := mem_withSmallLetters.mp h
  · exact hv
  · rwa [(hws v hv).eq_of_toLower_eq hw hlower.symm] at hv

theorem IsCapital.mem_of_toLower_mem {ws : List String} (hw : IsCapital w)
    (hws : ∀ v ∈ ws, IsCapital v) (h : toLower w ∈ withSmallLetters ws) : w ∈ ws := by
  obtain ⟨v, hv, hlower | hlower⟩ := mem_withSmallLetters.mp h
  · rwa [hw.eq_of_toLower_eq (hws v hv) hlower]
  · rwa [hw.toLower_inj (hws v hv) hlower]

/-- **Among capital words, repetitions may as well be removed once the small letters are added.** -/
theorem firstOccurrences_bothCases {ws : List String} (h : ∀ w ∈ ws, IsCapital w) :
    (firstOccurrences ws).flatMap bothCases = firstOccurrences (withSmallLetters ws) := by
  -- from the end, since a word is dropped for the sake of those before it
  induction ws using List.reverseRecOn with
  | nil => rfl
  | append_singleton ws w ih =>
    obtain ⟨hws, hw⟩ := List.forall_mem_append.mp h
    have hw : IsCapital w := List.forall_mem_singleton.mp hw
    rw [withSmallLetters_concat]
    by_cases hin : w ∈ ws
    · have hupper : w ∈ withSmallLetters ws := mem_withSmallLetters.mpr ⟨w, hin, Or.inl rfl⟩
      have hlower : toLower w ∈ withSmallLetters ws :=
        mem_withSmallLetters.mpr ⟨w, hin, Or.inr rfl⟩
      rw [firstOccurrences_concat_of_mem hin, ih hws,
        firstOccurrences_concat_of_mem (List.mem_append_left _ hlower),
        firstOccurrences_concat_of_mem hupper]
    · have hupper : w ∉ withSmallLetters ws := mt (hw.mem_of_mem_withSmallLetters hws) hin
      have hlower : toLower w ∉ withSmallLetters ws := mt (hw.mem_of_toLower_mem hws) hin
      rw [firstOccurrences_concat_of_notMem hin, List.flatMap_append, List.flatMap_singleton,
        ih hws, bothCases]
      by_cases hsame : toLower w = w
      · -- without letters, the second copy is the repetition that `bothCases` leaves out
        rw [if_pos hsame, hsame, firstOccurrences_concat_of_mem (by simp),
          firstOccurrences_concat_of_notMem hupper]
      · have hnew : toLower w ∉ withSmallLetters ws ++ [w] := by
          simp [hlower, hsame]
        rw [if_neg hsame, firstOccurrences_concat_of_notMem hnew,
          firstOccurrences_concat_of_notMem hupper, List.append_assoc]
        rfl

/-! ## The tokens that an error expects -/

namespace Sql

variable {d : Dialect} {text l : String} {e : SyntaxError}

/-- The error may be that of a text: of its division into tokens, of the grammar, whatever the
message says, or of a text that holds no statement. -/
inductive IsErrorOf (d : Dialect) (text : String) : SyntaxError → Prop where
  | lexical (error : LexError) : IsErrorOf d text (lexFailure text error)
  | grammatical (message : String) :
      IsErrorOf d text (grammarFailure text (tokensOf d text) message)
  | missing : IsErrorOf d text (missingStatement text)

theorem isErrorOf_of_report {failure : Failure} (h : failure.report d text = .invalid e) :
    IsErrorOf d text e := by
  cases failure with
  | lexical error =>
    cases h
    exact .lexical error
  | grammatical reason =>
    simp only [Failure.report] at h
    split at h
    · cases h
      exact .grammatical _
    · cases h

/-- Every error that the parser reports is one of these. -/
theorem isErrorOf_of_parse (h : parse d text = .error (.invalid e)) : IsErrorOf d text e := by
  unfold parse at h
  split at h
  · exact isErrorOf_of_report (Except.error.inj h)
  · split at h
    · cases h
    · cases h
      exact .missing

theorem mem_literals_iff : l ∈ e.literals ↔ Expected.literal l ∈ e.expected := by
  rw [SyntaxError.literals, List.mem_filterMap]
  constructor
  · rintro ⟨t, ht, heq⟩
    cases t with
    | literal w =>
      cases heq
      exact ht
    | other w => cases heq
  · exact fun h => ⟨_, h, rfl⟩

theorem isLower_eq_false {c : Char} (h : c.toNat < 97 ∨ 122 < c.toNat) : c.isLower = false := by
  show (decide ('a'.val ≤ c.val) && decide (c.val ≤ 'z'.val)) = false
  rw [Bool.and_eq_false_iff, decide_eq_false_iff_not, decide_eq_false_iff_not]
  exact h.imp Nat.not_le.mpr Nat.not_le.mpr

theorem isCapital_of_isPunctuation {cs : List Char} (h : cs.all isPunctuation = true) :
    IsCapital (String.ofList cs) := by
  intro c hc
  rw [String.toList_ofList] at hc
  have hpunctuation := List.all_eq_true.mp h c hc
  simp only [isPunctuation, Bool.or_eq_true, Bool.and_eq_true, decide_eq_true_eq] at hpunctuation
  exact ⟨by omega, isLower_eq_false (by omega)⟩

theorem isCapital_of_isDescribedKeyword {cs : List Char} (h : isDescribedKeyword cs = true) :
    IsCapital (String.ofList cs) := by
  intro c hc
  rw [String.toList_ofList] at hc
  have hletters : cs.all (fun c => c.isUpper || c == '_') = true :=
    (Bool.and_eq_true_iff.mp (Bool.and_eq_true_iff.mp h).1).2
  rcases Bool.or_eq_true_iff.mp (List.all_eq_true.mp hletters c hc) with hupper | hunderscore
  · have hrange : 65 ≤ c.toNat ∧ c.toNat ≤ 90 := of_decide_eq_true hupper
    exact ⟨by omega, isLower_eq_false (by omega)⟩
  · rw [beq_iff_eq.mp hunderscore]
    decide

/-- **Whatever a description says, the tokens that it stands for are capital words.** -/
theorem isCapital_of_mem_describedTokens {description : List Char}
    (h : .literal l ∈ describedTokens description) : IsCapital l := by
  have htable : ∀ {words : List String}, (∀ w ∈ words, IsCapital w) →
      .literal l ∈ words.map Expected.literal → IsCapital l := by
    intro words hwords hl
    obtain ⟨word, hword, heq⟩ := List.mem_map.mp hl
    cases heq
    exact hwords l hword
  unfold describedTokens at h
  split at h
  · exact htable (by decide) h
  split at h
  · exact htable (by decide) h
  split at h
  · next hpunctuation =>
    cases List.mem_singleton.mp h
    exact isCapital_of_isPunctuation (Bool.and_eq_true_iff.mp hpunctuation).2
  split at h
  · cases List.mem_singleton.mp h
  · refine htable (fun w hw => ?_) h
    obtain ⟨cs, hcs, rfl⟩ := List.mem_map.mp hw
    exact isCapital_of_isDescribedKeyword (List.mem_filter.mp hcs).2

theorem isCapital_of_mem_furtherTokens {tokens : List Token} {found : List Char}
    (h : .literal l ∈ furtherTokens tokens found) : IsCapital l := by
  rcases List.mem_append.mp h with h | h
  · split at h
    · cases List.mem_singleton.mp h
      decide
    · cases h
  · split at h
    · cases List.mem_singleton.mp h
      decide
    · cases h

theorem isCapital_of_mem_grammarFailure {tokens : List Token} {message : String}
    (h : l ∈ (grammarFailure text tokens message).literals) : IsCapital l := by
  rw [mem_literals_iff] at h
  unfold grammarFailure at h
  split at h
  · cases h
  split at h
  · cases h
  · rcases List.mem_append.mp h with h | h
    · exact isCapital_of_mem_describedTokens h
    · exact isCapital_of_mem_furtherTokens h

theorem isCapital_of_mem_lexFailure {error : LexError}
    (h : l ∈ (lexFailure text error).literals) : IsCapital l := by
  obtain ⟨q, hq, heq⟩ := List.mem_map.mp (mem_literals_iff.mp h)
  cases heq
  obtain ⟨o, ho, rfl⟩ := exists_divides_of_openQuote? (Option.mem_toList.mp hq)
  rcases ho.isQuote with hquote | hquote | hquote <;> rw [hquote] <;> decide

/-- **Every token that an error expects is a capital word.** -/
theorem isCapital_of_isErrorOf (h : IsErrorOf d text e) : ∀ l ∈ e.literals, IsCapital l := by
  intro l hl
  cases h with
  | lexical error => exact isCapital_of_mem_lexFailure hl
  | grammatical message => exact isCapital_of_mem_grammarFailure hl
  | missing =>
    have hall : ∀ l ∈ (missingStatement text).literals, IsCapital l := by
      show ∀ l ∈ statementStarts, IsCapital l
      decide
    exact hall l hl

end Sql

/-! ## What is offered -/

/-- The keywords for the expected tokens, each followed by its small letters, with repetitions. -/
def offeredWords (literals : List String) : List String :=
  withSmallLetters ((literals.filter fun l => !ignoredLiterals.contains l).map keywordOfLiteral)

theorem mem_offeredWords_iff {literals : List String} :
    w ∈ offeredWords literals ↔ ∃ l ∈ literals, l ∉ ignoredLiterals ∧
      (w = keywordOfLiteral l ∨ w = toLower (keywordOfLiteral l)) := by
  simp [offeredWords, mem_withSmallLetters, and_assoc]

theorem keywordCandidates_eq {literals : List String} (h : ∀ l ∈ literals, IsCapital l) :
    keywordCandidates literals =
      (firstOccurrences (offeredWords literals)).map Candidate.ofKeyword := by
  have hwords : ∀ w ∈ (literals.filter fun l => !ignoredLiterals.contains l).map keywordOfLiteral,
      IsCapital w := by
    intro w hw
    obtain ⟨l, hl, rfl⟩ := List.mem_map.mp hw
    exact isCapital_keywordOfLiteral (h l (List.mem_filter.mp hl).1)
  rw [keywordCandidates, firstOccurrences_bothCases hwords, offeredWords]

/-- **An error offers each keyword that it expects once in capitals and once in small letters.** They
are the only ones that it offers, and they stand in the order in which they come up first. -/
theorem keywordCandidates_of_isErrorOf {d : Dialect} {text : String} {e : SyntaxError}
    (h : Sql.IsErrorOf d text e) :
    ∃ labels : List String, keywordCandidates e.literals = labels.map Candidate.ofKeyword ∧ labels.Nodup ∧
      (∀ w, w ∈ labels ↔ ∃ l ∈ e.literals, l ∉ ignoredLiterals ∧
        (w = keywordOfLiteral l ∨ w = toLower (keywordOfLiteral l))) ∧
      labels.Pairwise fun v w =>
        (offeredWords e.literals).idxOf v < (offeredWords e.literals).idxOf w := by
  refine ⟨firstOccurrences (offeredWords e.literals),
    keywordCandidates_eq (Sql.isCapital_of_isErrorOf h), nodup_firstOccurrences _, fun w => ?_,
    pairwise_idxOf_firstOccurrences _⟩
  rw [mem_firstOccurrences, mem_offeredWords_iff]

/-- A keyword that the message names twice is offered once, with `BY` and in both cases. -/
theorem keywordCandidates_of_isErrorOf_repeated :
    let e := Sql.grammarFailure "INSERT t" (Sql.tokensOf .generic "INSERT t")
      "Expected: ORDER, LIMIT or ORDER, found: EOF"
    e.literals = ["ORDER", "LIMIT", "ORDER", "INTO", "."] ∧
      ∃ labels : List String, keywordCandidates e.literals = labels.map Candidate.ofKeyword ∧
        labels.Nodup ∧ "ORDER BY" ∈ labels ∧ "order by" ∈ labels ∧ "ORDER" ∉ labels := by
  intro e
  have hliterals : e.literals = ["ORDER", "LIMIT", "ORDER", "INTO", "."] := by decide +kernel
  have he : Sql.IsErrorOf .generic "INSERT t" e := .grammatical _
  obtain ⟨labels, heq, hnodup, hmem, -⟩ := keywordCandidates_of_isErrorOf he
  refine ⟨hliterals, labels, heq, hnodup, ?_, ?_, ?_⟩
  · exact (hmem _).mpr (by rw [hliterals]; decide)
  · exact (hmem _).mpr (by rw [hliterals]; decide)
  · exact fun h => absurd ((hmem _).mp h) (by rw [hliterals]; decide)

end SqlCompletion
