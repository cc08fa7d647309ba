import Mathlib.Data.Nat.SuccPred
import Mathlib.Order.SuccPred.Archimedean
import SqlCompletion.Proofs.Parentheses

/-!
# Where an UPDATE names a column

Where the text of an UPDATE ends in the target of an assignment, columns are offered and nothing
else. Whether it does is found in one pass over the tokens, which keeps how many parentheses are
open, whether there was a `SET`, and whether the assignment has its equals sign.

* `AssignmentState.step_or_ends`: what one token does to the state.
* `AssignmentState.Describes.step`: what the state says of the tokens before it, it says again
  behind one more token.
* `AssignmentState.Describes.inAssignmentTarget_eq_true_iff`: from there, by induction, the whole
  pass.
* `inAssignmentTarget_iff`: the answer in terms of the first `SET` and of the last token that starts
  a target; a group of parentheses plays no part in it.
-/

namespace SqlCompletion.Sql

open FromClause (depthAfter)

variable {p : Token → Prop} {s s' : AssignmentState} {t : Token} {i : Nat}
  {tokens before inside rest : List Token}

/-! ## Tokens outside parentheses -/

/-- The token at a place has a property, and no parenthesis is open before it. -/
def OutsideAt (p : Token → Prop) (tokens : List Token) (i : Nat) : Prop :=
  openAfter 0 (tokens.take i) = 0 ∧ ∃ t, tokens[i]? = some t ∧ p t

theorem OutsideAt.lt_length (h : OutsideAt p tokens i) : i < tokens.length := by
  obtain ⟨-, t, ht, -⟩ := h
  exact (List.getElem?_eq_some_iff.mp ht).1

theorem not_outsideAt_nil : ¬OutsideAt p [] i :=
  fun h => Nat.not_lt_zero i h.lt_length

theorem outsideAt_append_of_lt (hi : i < tokens.length) :
    OutsideAt p (tokens ++ rest) i ↔ OutsideAt p tokens i := by
  unfold OutsideAt
  rw [List.take_append_of_le_length hi.le, List.getElem?_append_left hi]

theorem outsideAt_length :
    OutsideAt p (tokens ++ t :: rest) tokens.length ↔ openAfter 0 tokens = 0 ∧ p t := by
  simp [OutsideAt]

theorem OutsideAt.append (h : OutsideAt p tokens i) : OutsideAt p (tokens ++ rest) i :=
  (outsideAt_append_of_lt h.lt_length).mpr h

theorem outsideAt_concat :
    OutsideAt p (tokens ++ [t]) i ↔
      OutsideAt p tokens i ∨ i = tokens.length ∧ openAfter 0 tokens = 0 ∧ p t := by
  constructor
  · intro h
    have hi : i < tokens.length + 1 := by simpa using h.lt_length
    rcases Nat.lt_succ_iff_lt_or_eq.mp hi with hlt | rfl
    · exact Or.inl ((outsideAt_append_of_lt hlt).mp h)
    · exact Or.inr ⟨rfl, outsideAt_length.mp h⟩
  · rintro (h | ⟨rfl, h⟩)
    · exact h.append
    · exact outsideAt_length.mpr h

/-- Tokens of two kinds do not stand at the same place. -/
theorem OutsideAt.false_of_disjoint {q : Token → Prop} (h : OutsideAt p tokens i)
    (h' : OutsideAt q tokens i) (hpq : ∀ t, p t → ¬q t) : False := by
  obtain ⟨-, t, ht, hp⟩ := h
  obtain ⟨-, u, hu, hq⟩ := h'
  obtain rfl : t = u := Option.some.inj (ht.symm.trans hu)
  exact hpq t hp hq

/-! ## One token -/

/-- The token is a word without quotes, one of some keywords. -/
def IsBare (keywords : List String) (t : Token) : Prop :=
  ∃ w, t = .word w ∧ w.quote = none ∧ ∃ k ∈ keywords, w.keyword = some k

/-- Behind this token there are assignments. -/
def IsSet : Token → Prop := IsBare ["SET"]

/-- Behind this token there are no more assignments. -/
def EndsAssignments : Token → Prop := IsBare ["WHERE", "FROM", "RETURNING"]

theorem isBare_word {keywords : List String} {w : Word} :
    IsBare keywords (.word w) ↔ w.quote = none ∧ w.isOneOf keywords = true := by
  cases hk : w.keyword <;> simp [IsBare, Word.isOneOf, hk]

theorem isSet_word {w : Word} :
    IsSet (.word w) ↔ w.quote = none ∧ w.isKeyword "SET" = true := by
  cases hk : w.keyword <;> simp [IsSet, IsBare, Word.isKeyword, hk]

theorem not_isBare {keywords : List String} (ht : t.word? = none) : ¬IsBare keywords t := by
  rintro ⟨w, rfl, -⟩
  cases ht

/-- What one token does to the state. -/
inductive AssignmentState.Step : AssignmentState → Token → AssignmentState → Prop where
  /-- Also where there was a `SET` before: the target of the last one counts. -/
  | set {s : AssignmentState} {t : Token} (hdepth : s.depth = 0) (ht : IsSet t) :
      Step s t { s with afterSet := true, assigned := false }
  | comma {s : AssignmentState} (hdepth : s.depth = 0) (hset : s.afterSet = true) :
      Step s (.symbol .comma) { s with assigned := false }
  | equal {s : AssignmentState} (hdepth : s.depth = 0) (hset : s.afterSet = true) :
      Step s (.symbol .equal) { s with assigned := true }
  /-- A token in parentheses, or one that has no meaning where it stands. -/
  | pass {s : AssignmentState} {t : Token}
      (h : s.depth = 0 → ¬IsSet t ∧ (s.afterSet = true →
        t ≠ .symbol .comma ∧ t ≠ .symbol .equal ∧ ¬EndsAssignments t)) :
      Step s t { s with depth := depthAfter t s.depth }

theorem AssignmentState.Step.depth_eq (h : s.Step t s') : s'.depth = depthAfter t s.depth := by
  cases h with
  | set _ ht =>
    obtain ⟨w, rfl, -⟩ := ht
    rfl
  | comma => rfl
  | equal => rfl
  | pass => rfl

/-- Inside parentheses a token only counts if it is a parenthesis itself. -/
theorem AssignmentState.Step.eq_of_depth_ne_zero (h : s.Step t s') (hdepth : s.depth ≠ 0) :
    s' = { s with depth := depthAfter t s.depth } := by
  cases h with
  | set hzero => exact absurd hzero hdepth
  | comma hzero => exact absurd hzero hdepth
  | equal hzero => exact absurd hzero hdepth
  | pass => rfl

/-- A word ends the pass, or the pass goes on from the state behind it. -/
theorem AssignmentState.step_or_ends_word (s : AssignmentState) (w : Word) :
    (s.depth = 0 ∧ s.afterSet = true ∧ EndsAssignments (.word w) ∧
      ∀ rest, inAssignmentTarget s (.word w :: rest) = false) ∨
    ∃ s', s.Step (.word w) s' ∧
      ∀ rest, inAssignmentTarget s (.word w :: rest) = inAssignmentTarget s' rest := by
  by_cases hset : s.depth = 0 ∧ IsSet (.word w)
  · refine Or.inr ⟨_, .set hset.1 hset.2, fun rest => ?_⟩
    obtain ⟨hdepth, hquote, hword⟩ := hset.imp_right isSet_word.mp
    simp [inAssignmentTarget, hdepth, hquote, hword]
  · have hnot : (decide (s.depth = 0) && w.quote.isNone && w.isKeyword "SET") = false := by
      rw [Bool.eq_false_iff]
      simpa [isSet_word, and_assoc] using hset
    by_cases hends : s.depth = 0 ∧ s.afterSet = true ∧ EndsAssignments (.word w)
    · refine Or.inl ⟨hends.1, hends.2.1, hends.2.2, fun rest => ?_⟩
      obtain ⟨hdepth, hafter, hquote, hword⟩ := hends.imp_right (And.imp_right isBare_word.mp)
      rw [inAssignmentTarget, hnot]
      simp [hdepth, hafter, hquote, hword]
    · refine Or.inr ⟨_, .pass ?_, fun rest => ?_⟩
      · intro hdepth
        refine ⟨fun h => hset ⟨hdepth, h⟩, fun hafter => ⟨nofun, nofun, fun h => ?_⟩⟩
        exact hends ⟨hdepth, hafter, h⟩
      · have hgoes : (decide (s.depth = 0) && s.afterSet && w.quote.isNone &&
            w.isOneOf ["WHERE", "FROM", "RETURNING"]) = false := by
          rw [Bool.eq_false_iff]
          simpa [EndsAssignments, isBare_word, and_assoc] using hends
        rw [inAssignmentTarget, hnot, hgoes]
        rfl

/-- A symbol never ends the pass. -/
theorem AssignmentState.exists_step_symbol (s : AssignmentState) (c : Symbol) :
    ∃ s', s.Step (.symbol c) s' ∧
      ∀ rest, inAssignmentTarget s (.symbol c :: rest) = inAssignmentTarget s' rest := by
  by_cases hmeans : (c = .comma ∨ c = .equal) ∧ s.depth = 0 ∧ s.afterSet = true
  · obtain ⟨rfl | rfl, hdepth, hafter⟩ := hmeans
    · refine ⟨_, .comma hdepth hafter, fun rest => ?_⟩
      rw [inAssignmentTarget, hdepth, hafter]
      rfl
    · refine ⟨_, .equal hdepth hafter, fun rest => ?_⟩
      rw [inAssignmentTarget, hdepth, hafter]
      rfl
  · have hpass : s.Step (.symbol c) { s with depth := depthAfter (.symbol c) s.depth } := by
      refine .pass fun hdepth => ⟨not_isBare rfl, fun hafter => ⟨?_, ?_, not_isBare rfl⟩⟩
      · rintro ⟨⟩
        exact hmeans ⟨Or.inl rfl, hdepth, hafter⟩
      · rintro ⟨⟩
        exact hmeans ⟨Or.inr rfl, hdepth, hafter⟩
    have hskip (hc : c = .comma ∨ c = .equal) : (decide (s.depth = 0) && s.afterSet) = false := by
      rw [Bool.eq_false_iff]
      simpa [hc] using hmeans
    refine ⟨_, hpass, fun rest => ?_⟩
    -- only the comma and the equals sign look at the state
    cases c with
    | comma =>
      rw [inAssignmentTarget, hskip (Or.inl rfl)]
      rfl
    | equal =>
      rw [inAssignmentTarget, hskip (Or.inr rfl)]
      rfl
    | _ => rfl

/-- **The token ends the pass, or the pass goes on from the state behind it.** -/
theorem AssignmentState.step_or_ends (s : AssignmentState) (t : Token) :
    (s.depth = 0 ∧ s.afterSet = true ∧ EndsAssignments t ∧
      ∀ rest, inAssignmentTarget s (t :: rest) = false) ∨
    ∃ s', s.Step t s' ∧
      ∀ rest, inAssignmentTarget s (t :: rest) = inAssignmentTarget s' rest := by
  cases t with
  | word w => exact s.step_or_ends_word w
  | symbol c => exact Or.inr (s.exists_step_symbol c)
  | _ =>
    exact Or.inr ⟨_, .pass fun _ => ⟨not_isBare rfl, fun _ => ⟨nofun, nofun, not_isBare rfl⟩⟩,
      fun _ => rfl⟩

/-! ## Targets and their equals signs -/

/-- The token at a place has a property and stands outside parentheses, behind a `SET` that stands
there as well. -/
def BehindSet (p : Token → Prop) (tokens : List Token) (i : Nat) : Prop :=
  OutsideAt p tokens i ∧ ∃ set < i, OutsideAt IsSet tokens set

/-- The token at a place starts a target: it is a `SET`, or a comma behind one. -/
def StartsTarget (tokens : List Token) (i : Nat) : Prop :=
  OutsideAt IsSet tokens i ∨ BehindSet (· = .symbol .comma) tokens i

/-- The tokens have an equals sign of an assignment, and no target starts behind it. -/
def Assigned (tokens : List Token) : Prop :=
  ∃ i, BehindSet (· = .symbol .equal) tokens i ∧ ∀ j > i, ¬StartsTarget tokens j

/-- The tokens end in the target of an assignment. -/
structure EndsInTarget (tokens : List Token) : Prop where
  hasSet : ∃ i, OutsideAt IsSet tokens i
  goesOn : ¬∃ i, BehindSet EndsAssignments tokens i
  unassigned : ¬Assigned tokens

theorem BehindSet.append (h : BehindSet p tokens i) : BehindSet p (tokens ++ rest) i := by
  obtain ⟨hi, set, hlt, hset⟩ := h
  exact ⟨hi.append, set, hlt, hset.append⟩

theorem behindSet_concat :
    BehindSet p (tokens ++ [t]) i ↔ BehindSet p tokens i ∨
      i = tokens.length ∧ openAfter 0 tokens = 0 ∧ p t ∧ ∃ set, OutsideAt IsSet tokens set := by
  constructor
  · rintro ⟨hi, set, hlt, hset⟩
    -- the last token has no tokens behind it, so it is not the `SET`
    have hbefore : OutsideAt IsSet tokens set := by
      refine (outsideAt_append_of_lt (hlt.trans_le ?_)).mp hset
      have hle := hi.lt_length
      rw [List.length_append] at hle
      exact Nat.le_of_lt_succ hle
    rcases outsideAt_concat.mp hi with hi | ⟨rfl, hdepth, ht⟩
    · exact Or.inl ⟨hi, set, hlt, hbefore⟩
    · exact Or.inr ⟨rfl, hdepth, ht, set, hbefore⟩
  · rintro (h | ⟨rfl, hdepth, ht, set, hset⟩)
    · exact h.append
    · exact ⟨outsideAt_length.mpr ⟨hdepth, ht⟩, set, hset.lt_length, hset.append⟩

theorem exists_outsideAt_concat :
    (∃ i, OutsideAt p (tokens ++ [t]) i) ↔
      (∃ i, OutsideAt p tokens i) ∨ openAfter 0 tokens = 0 ∧ p t := by
  simp only [outsideAt_concat, exists_or, exists_eq_left]

theorem exists_behindSet_concat :
    (∃ i, BehindSet p (tokens ++ [t]) i) ↔ (∃ i, BehindSet p tokens i) ∨
      openAfter 0 tokens = 0 ∧ p t ∧ ∃ set, OutsideAt IsSet tokens set := by
  simp only [behindSet_concat, exists_or, exists_eq_left]

theorem startsTarget_concat :
    StartsTarget (tokens ++ [t]) i ↔ StartsTarget tokens i ∨
      i = tokens.length ∧ openAfter 0 tokens = 0 ∧
        (IsSet t ∨ t = .symbol .comma ∧ ∃ set, OutsideAt IsSet tokens set) := by
  unfold StartsTarget
  rw [outsideAt_concat, behindSet_concat]
  tauto

theorem StartsTarget.lt_length (h : StartsTarget tokens i) : i < tokens.length := by
  rcases h with h | h
  · exact h.lt_length
  · exact h.1.lt_length

theorem StartsTarget.not_equal (h : StartsTarget tokens i) :
    ¬OutsideAt (· = .symbol .equal) tokens i := by
  intro hequal
  rcases h with h | ⟨h, -⟩
  · refine h.false_of_disjoint hequal ?_
    rintro t ht rfl
    exact not_isBare rfl ht
  · exact h.false_of_disjoint hequal (by rintro t rfl ⟨⟩)

/-! ## The assignment behind one more token -/

/-- Where a target starts, the equals signs before it are those of other assignments. -/
theorem not_assigned_concat (h : StartsTarget (tokens ++ [t]) tokens.length) :
    ¬Assigned (tokens ++ [t]) := by
  rintro ⟨i, hequal, hlast⟩
  rcases behindSet_concat.mp hequal with hbefore | ⟨rfl, -⟩
  · exact hlast _ hbefore.1.lt_length h
  · exact h.not_equal hequal.1

theorem assigned_concat_equal (h : BehindSet (· = .symbol .equal) (tokens ++ [t]) tokens.length) :
    Assigned (tokens ++ [t]) := by
  refine ⟨_, h, fun j hj hstart => ?_⟩
  rcases startsTarget_concat.mp hstart with hbefore | ⟨rfl, -⟩
  · exact hj.not_gt hbefore.lt_length
  · exact absurd hj (Nat.lt_irrefl _)

/-- A token that neither starts a target nor is an equals sign of an assignment plays no part. -/
theorem assigned_concat_iff (hstart : ¬StartsTarget (tokens ++ [t]) tokens.length)
    (hequal : ¬BehindSet (· = .symbol .equal) (tokens ++ [t]) tokens.length) :
    Assigned (tokens ++ [t]) ↔ Assigned tokens := by
  have hequals (i : Nat) : BehindSet (· = .symbol .equal) (tokens ++ [t]) i ↔
      BehindSet (· = .symbol .equal) tokens i := by
    refine ⟨fun h => (behindSet_concat.mp h).resolve_right ?_, BehindSet.append⟩
    rintro ⟨rfl, -⟩
    exact hequal h
  have hstarts (i : Nat) : StartsTarget (tokens ++ [t]) i ↔ StartsTarget tokens i := by
    refine ⟨fun h => (startsTarget_concat.mp h).resolve_right ?_,
      fun h => startsTarget_concat.mpr (Or.inl h)⟩
    rintro ⟨rfl, -⟩
    exact hstart h
  simp only [Assigned, hequals, hstarts]

/-! ## What the state says -/

/-- The state says of the tokens how many parentheses are open behind them, whether there was a
`SET` and whether the last assignment has its equals sign. -/
structure AssignmentState.Describes (s : AssignmentState) (tokens : List Token) : Prop where
  depth : s.depth = openAfter 0 tokens
  afterSet : s.afterSet = true ↔ ∃ i, OutsideAt IsSet tokens i
  goesOn : ¬∃ i, BehindSet EndsAssignments tokens i
  assigned : s.assigned = true ↔ Assigned tokens

theorem IsSet.not_endsAssignments (h : IsSet t) : ¬EndsAssignments t := by
  obtain ⟨w, rfl, -, k, hk, hw⟩ := h
  rintro ⟨v, hv, -, k', hk', hw'⟩
  obtain rfl : w = v := Token.word.inj hv
  obtain rfl : k = k' := Option.some.inj (hw.symm.trans hw')
  rw [List.mem_singleton] at hk
  subst hk
  exact absurd hk' (by decide)

namespace AssignmentState.Describes

theorem depth_concat (h : s.Describes tokens) (hstep : s.Step t s') :
    s'.depth = openAfter 0 (tokens ++ [t]) := by
  rw [hstep.depth_eq, openAfter_append, h.depth]
  rfl

theorem behindSet_length (h : s.Describes tokens) :
    BehindSet p (tokens ++ [t]) tokens.length ↔ s.depth = 0 ∧ p t ∧ s.afterSet = true := by
  rw [behindSet_concat, h.depth, h.afterSet]
  refine ⟨?_, fun hright => Or.inr ⟨rfl, hright⟩⟩
  rintro (hleft | ⟨-, hright⟩)
  · exact absurd hleft.1.lt_length (Nat.lt_irrefl _)
  · exact hright

theorem startsTarget_length (h : s.Describes tokens) :
    StartsTarget (tokens ++ [t]) tokens.length ↔
      s.depth = 0 ∧ (IsSet t ∨ t = .symbol .comma ∧ s.afterSet = true) := by
  rw [startsTarget_concat, h.depth, h.afterSet]
  refine ⟨?_, fun hright => Or.inr ⟨rfl, hright⟩⟩
  rintro (hleft | ⟨-, hright⟩)
  · exact absurd hleft.lt_length (Nat.lt_irrefl _)
  · exact hright

theorem goesOn_concat (h : s.Describes tokens)
    (ht : ¬(s.depth = 0 ∧ s.afterSet = true ∧ EndsAssignments t)) :
    ¬∃ i, BehindSet EndsAssignments (tokens ++ [t]) i := by
  rw [exists_behindSet_concat, ← h.depth, ← h.afterSet]
  rintro (hends | ⟨hdepth, hends, hafter⟩)
  · exact h.goesOn hends
  · exact ht ⟨hdepth, hafter, hends⟩

theorem exists_set_concat (h : s.Describes tokens) :
    (∃ i, OutsideAt IsSet (tokens ++ [t]) i) ↔ s.afterSet = true ∨ s.depth = 0 ∧ IsSet t := by
  rw [exists_outsideAt_concat, ← h.depth, ← h.afterSet]

/-- **What the state says stays true with one more token.** -/
theorem step (h : s.Describes tokens) (hstep : s.Step t s') : s'.Describes (tokens ++ [t]) := by
  have hdepth := h.depth_concat hstep
  cases hstep with
  | set hzero ht =>
    refine ⟨hdepth, ?_, h.goesOn_concat fun hends => ht.not_endsAssignments hends.2.2, ?_⟩
    · exact iff_of_true rfl (h.exists_set_concat.mpr (Or.inr ⟨hzero, ht⟩))
    · exact iff_of_false Bool.false_ne_true
        (not_assigned_concat (h.startsTarget_length.mpr ⟨hzero, Or.inl ht⟩))
  | comma hzero hafter =>
    refine ⟨hdepth, ?_, h.goesOn_concat fun hends => not_isBare rfl hends.2.2, ?_⟩
    · exact iff_of_true hafter (h.exists_set_concat.mpr (Or.inl hafter))
    · exact iff_of_false Bool.false_ne_true
        (not_assigned_concat (h.startsTarget_length.mpr ⟨hzero, Or.inr ⟨rfl, hafter⟩⟩))
  | equal hzero hafter =>
    refine ⟨hdepth, ?_, h.goesOn_concat fun hends => not_isBare rfl hends.2.2, ?_⟩
    · exact iff_of_true hafter (h.exists_set_concat.mpr (Or.inl hafter))
    · exact iff_of_true rfl
        (assigned_concat_equal (h.behindSet_length.mpr ⟨hzero, rfl, hafter⟩))
  | pass hpass =>
    refine ⟨hdepth, ?_, h.goesOn_concat ?_, ?_⟩
    · rw [h.exists_set_concat]
      exact (or_iff_left fun hset => (hpass hset.1).1 hset.2).symm
    · rintro ⟨hzero, hafter, hends⟩
      exact ((hpass hzero).2 hafter).2.2 hends
    · refine h.assigned.trans (assigned_concat_iff ?_ ?_).symm
      · rw [h.startsTarget_length]
        rintro ⟨hzero, hset | ⟨hcomma, hafter⟩⟩
        · exact (hpass hzero).1 hset
        · exact ((hpass hzero).2 hafter).1 hcomma
      · rw [h.behindSet_length]
        rintro ⟨hzero, hequal, hafter⟩
        exact ((hpass hzero).2 hafter).2.1 hequal

theorem nil : Describes {} [] where
  depth := rfl
  afterSet := iff_of_false Bool.false_ne_true fun ⟨_, h⟩ => not_outsideAt_nil h
  goesOn := fun ⟨_, h⟩ => not_outsideAt_nil h.1
  assigned := iff_of_false Bool.false_ne_true fun ⟨_, h, _⟩ => not_outsideAt_nil h.1

/-- **The whole pass:** from a state that describes the tokens before, it finds whether all tokens
end in a target. -/
theorem inAssignmentTarget_eq_true_iff (h : s.Describes before) :
    inAssignmentTarget s rest = true ↔ EndsInTarget (before ++ rest) := by
  -- the tokens before grow by those that the pass takes
  induction rest generalizing s before with
  | nil =>
    rw [inAssignmentTarget, List.append_nil, Bool.and_eq_true, Bool.not_eq_true', Bool.eq_false_iff,
      Ne, h.assigned, h.afterSet]
    exact ⟨fun ⟨hset, hassigned⟩ => ⟨hset, h.goesOn, hassigned⟩,
      fun hends => ⟨hends.hasSet, hends.unassigned⟩⟩
  | cons t rest ih =>
    rcases s.step_or_ends t with ⟨hdepth, hafter, hends, hfalse⟩ | ⟨s', hstep, hnext⟩
    · -- whatever follows, the token that ended the pass stands behind a `SET`
      rw [hfalse]
      refine iff_of_false Bool.false_ne_true fun htarget => htarget.goesOn ⟨before.length, ?_⟩
      rw [List.append_cons]
      exact (h.behindSet_length.mpr ⟨hdepth, hends, hafter⟩).append
    · rw [hnext, ih (h.step hstep), List.append_cons before t rest]

end AssignmentState.Describes

/-! ## The first `SET` and the last start of a target -/

theorem behindSet_iff {first : Nat} (hfirst : IsLeast {i | OutsideAt IsSet tokens i} first) :
    BehindSet p tokens i ↔ first < i ∧ OutsideAt p tokens i := by
  constructor
  · rintro ⟨hi, set, hlt, hset⟩
    exact ⟨(hfirst.2 hset).trans_lt hlt, hi⟩
  · rintro ⟨hlt, hi⟩
    exact ⟨hi, first, hlt, hfirst.1⟩

theorem StartsTarget.exists_set_le (h : StartsTarget tokens i) :
    ∃ set ≤ i, OutsideAt IsSet tokens set := by
  rcases h with h | ⟨-, set, hlt, hset⟩
  · exact ⟨i, le_rfl, h⟩
  · exact ⟨set, hlt.le, hset⟩

theorem not_assigned_iff {last : Nat} (hlast : IsGreatest {i | StartsTarget tokens i} last) :
    ¬Assigned tokens ↔ ∀ i > last, ¬OutsideAt (· = .symbol .equal) tokens i := by
  obtain ⟨hstart, hgreatest⟩ := hlast
  constructor
  · intro hassigned i hi hequal
    obtain ⟨set, hle, hset⟩ := hstart.exists_set_le
    refine hassigned ⟨i, ⟨hequal, set, hle.trans_lt hi, hset⟩, fun j hj hj' => ?_⟩
    exact (hgreatest hj').not_gt (hi.trans hj)
  · rintro hnone ⟨i, hequal, hnext⟩
    rcases lt_trichotomy i last with hlt | rfl | hgt
    · exact hnext last hlt hstart
    · exact hstart.not_equal hequal.1
    · exact hnone i hgt hequal.1

theorem exists_isGreatest_startsTarget (h : ∃ i, OutsideAt IsSet tokens i) :
    ∃ last, IsGreatest {i | StartsTarget tokens i} last := by
  have hbounded : BddAbove {i | StartsTarget tokens i} :=
    ⟨tokens.length, fun i hi => hi.lt_length.le⟩
  exact hbounded.exists_isGreatest_of_nonempty (h.imp fun _ => Or.inl)

theorem endsInTarget_iff :
    EndsInTarget tokens ↔ ∃ first last, IsLeast {i | OutsideAt IsSet tokens i} first ∧
      (∀ i > first, ¬OutsideAt EndsAssignments tokens i) ∧
      IsGreatest {i | OutsideAt IsSet tokens i ∨
        first < i ∧ OutsideAt (· = .symbol .comma) tokens i} last ∧
      ∀ i > last, ¬OutsideAt (· = .symbol .equal) tokens i := by
  have hstarts {first : Nat} (hfirst : IsLeast {i | OutsideAt IsSet tokens i} first) :
      {i | OutsideAt IsSet tokens i ∨ first < i ∧ OutsideAt (· = .symbol .comma) tokens i} =
        {i | StartsTarget tokens i} := by
    simp only [StartsTarget, behindSet_iff hfirst]
  constructor
  · rintro ⟨hset, hgoesOn, hassigned⟩
    obtain ⟨first, hfirst⟩ : ∃ first, IsLeast {i | OutsideAt IsSet tokens i} first :=
      (OrderBot.bddBelow _).exists_isLeast_of_nonempty hset
    obtain ⟨last, hlast⟩ := exists_isGreatest_startsTarget hset
    refine ⟨first, last, hfirst, fun i hi hends => ?_, (hstarts hfirst).symm ▸ hlast,
      (not_assigned_iff hlast).mp hassigned⟩
    exact hgoesOn ⟨i, (behindSet_iff hfirst).mpr ⟨hi, hends⟩⟩
  · rintro ⟨first, last, hfirst, hgoesOn, hlast, hequal⟩
    rw [hstarts hfirst] at hlast
    refine ⟨⟨first, hfirst.1⟩, ?_, (not_assigned_iff hlast).mpr hequal⟩
    rintro ⟨i, hends⟩
    obtain ⟨hi, hends⟩ := (behindSet_iff hfirst).mp hends
    exact hgoesOn i hi hends

/-! ## Groups -/

theorem inAssignmentTarget_of_depth_ne_zero (hdepth : s.depth ≠ 0) :
    inAssignmentTarget s (t :: rest) =
      inAssignmentTarget { s with depth := depthAfter t s.depth } rest := by
  rcases s.step_or_ends t with ⟨hzero, -⟩ | ⟨s', hstep, hnext⟩
  · exact absurd hzero hdepth
  · rw [hnext, hstep.eq_of_depth_ne_zero hdepth]

/-- What passes over the inside of a group passes over the group. -/
theorem inAssignmentTarget_parens
    (hinside : ∀ s rest, s.depth ≠ 0 →
      inAssignmentTarget s (inside ++ rest) = inAssignmentTarget s rest) :
    inAssignmentTarget s (.symbol .leftParen :: (inside ++ .symbol .rightParen :: rest)) =
      inAssignmentTarget s rest :=
  calc inAssignmentTarget s (.symbol .leftParen :: (inside ++ .symbol .rightParen :: rest))
      = inAssignmentTarget { s with depth := s.depth + 1 }
          (inside ++ .symbol .rightParen :: rest) := rfl
    _ = inAssignmentTarget { s with depth := s.depth + 1 } (.symbol .rightParen :: rest) :=
      hinside _ _ (Nat.succ_ne_zero _)
    _ = inAssignmentTarget s rest := rfl

theorem Paired.inAssignmentTarget_append (h : Paired inside) (hdepth : s.depth ≠ 0) :
    inAssignmentTarget s (inside ++ rest) = inAssignmentTarget s rest := by
  induction h generalizing s rest with
  | nil => rfl
  | token hopen hclose _ ih =>
    rw [List.cons_append, inAssignmentTarget_of_depth_ne_zero hdepth,
      depthAfter_of_ne hopen hclose]
    exact ih hdepth
  | group _ _ ihinside ihrest =>
    rw [List.cons_append, List.append_assoc, List.cons_append,
      inAssignmentTarget_parens fun _ _ hne => ihinside hne, ihrest hdepth]

theorem inAssignmentTarget_append_congr {tokens' : List Token}
    (h : ∀ s, inAssignmentTarget s tokens = inAssignmentTarget s tokens') :
    inAssignmentTarget s (before ++ tokens) = inAssignmentTarget s (before ++ tokens') := by
  induction before generalizing s with
  | nil => exact h s
  | cons t before ih =>
    rcases s.step_or_ends t with ⟨-, -, -, hfalse⟩ | ⟨s', -, hnext⟩
    · exact (hfalse _).trans (hfalse _).symm
    · exact (hnext _).trans (ih.trans (hnext _).symm)

/-! ## The target of an assignment -/

/-- **Where the text of an UPDATE ends in the target of an assignment.** Outside parentheses there
is a `SET`, nothing behind the first one ends the assignments, and there is no equals sign behind
the last `SET` or comma among the assignments. A group of parentheses that is put in or taken out
anywhere changes nothing. -/
theorem inAssignmentTarget_iff :
    (∀ tokens, inAssignmentTarget {} tokens = true ↔
      ∃ first last, IsLeast {i | OutsideAt IsSet tokens i} first ∧
        (∀ i > first, ¬OutsideAt EndsAssignments tokens i) ∧
        IsGreatest {i | OutsideAt IsSet tokens i ∨
          first < i ∧ OutsideAt (· = .symbol .comma) tokens i} last ∧
        ∀ i > last, ¬OutsideAt (· = .symbol .equal) tokens i) ∧
    ∀ before inside rest, Paired inside →
      inAssignmentTarget {}
          (before ++ .symbol .leftParen :: (inside ++ .symbol .rightParen :: rest)) =
        inAssignmentTarget {} (before ++ rest) := by
  refine ⟨fun tokens => ?_, fun before inside rest hpaired => ?_⟩
  · have hpass : inAssignmentTarget {} tokens = true ↔ EndsInTarget tokens :=
      AssignmentState.Describes.nil.inAssignmentTarget_eq_true_iff
    exact hpass.trans endsInTarget_iff
  · exact inAssignmentTarget_append_congr fun s =>
      inAssignmentTarget_parens fun _ _ => hpaired.inAssignmentTarget_append

/-- Behind a parenthesis that closes nothing, a subquery with a filter of its own is taken out. -/
theorem inAssignmentTarget_iff_subquery :
    ∃ before inside rest,
      tokensOf .generic "UPDATE t) SET a = (SELECT b FROM u WHERE c = (1)), d" =
        before ++ .symbol .leftParen :: (inside ++ .symbol .rightParen :: rest) ∧
      Paired inside ∧
      inAssignmentTarget {}
          (before ++ .symbol .leftParen :: (inside ++ .symbol .rightParen :: rest)) =
        inAssignmentTarget {} (before ++ rest) ∧
      inAssignmentTarget {} (before ++ rest) = true := by
  let name (value : String) : Token := .word ⟨value, none, none⟩
  let keyword (value : String) : Token := .word ⟨value, none, some value⟩
  let before : List Token := [keyword "UPDATE", name "t", .symbol .rightParen, keyword "SET",
    name "a", .symbol .equal]
  let inside : List Token := [keyword "SELECT", name "b", keyword "FROM", name "u",
    keyword "WHERE", name "c", .symbol .equal, .symbol .leftParen, .number "1" false,
    .symbol .rightParen]
  let rest : List Token := [.symbol .comma, name "d"]
  have hnumber : Paired [.number "1" false] := .token nofun nofun .nil
  have hpaired : Paired inside :=
    .token nofun nofun <| .token nofun nofun <| .token nofun nofun <| .token nofun nofun <|
      .token nofun nofun <| .token nofun nofun <| .token nofun nofun <| .group hnumber .nil
  refine ⟨before, inside, rest, by decide +kernel, hpaired, ?_, by decide⟩
  exact inAssignmentTarget_iff.2 before inside rest hpaired

end SqlCompletion.Sql
