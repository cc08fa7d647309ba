import Mathlib.Data.List.Infix
import SqlCompletion.Sql.Parser

/-!
# Parentheses that stay open

How many parentheses are open after some tokens is counted without asking which one a closing
parenthesis belongs to; one that closes nothing does not count.

* `Paired.openAfter_eq`: parentheses in pairs leave the count as it was.
* `zero_lt_openParens_iff`: the count is positive if one of the parentheses stays open.
-/

namespace SqlCompletion.Sql

open FromClause (depthAfter)

/-! ## Parentheses in pairs -/

/-- The parentheses among the tokens are in pairs. -/
inductive Paired : List Token → Prop where
  | nil : Paired []
  | token {t : Token} {rest : List Token} (hopen : t ≠ .symbol .leftParen)
      (hclose : t ≠ .symbol .rightParen) (h : Paired rest) : Paired (t :: rest)
  | group {inside rest : List Token} (hinside : Paired inside) (hrest : Paired rest) :
      Paired (.symbol .leftParen :: (inside ++ .symbol .rightParen :: rest))

/-- A parenthesis right before the tokens is closed among them, and `later` follows. -/
def ClosesBefore (tokens later : List Token) : Prop :=
  ∃ inside, Paired inside ∧ tokens = inside ++ .symbol .rightParen :: later

/-- A parenthesis right before the tokens stays open. -/
def StaysOpen (tokens : List Token) : Prop := ∀ later, ¬ClosesBefore tokens later

/-- One of the tokens is a parenthesis that stays open. -/
def LeavesOpen (tokens : List Token) : Prop :=
  ∃ before rest, tokens = before ++ .symbol .leftParen :: rest ∧ StaysOpen rest

variable {t : Token} {tokens inside rest later : List Token} {depth : Nat}

theorem staysOpen_or_exists (tokens : List Token) :
    StaysOpen tokens ∨ ∃ later, ClosesBefore tokens later := by
  by_cases h : ∃ later, ClosesBefore tokens later
  · exact Or.inr h
  · exact Or.inl (not_exists.mp h)

theorem StaysOpen.ne_rightParen (h : StaysOpen (t :: rest)) : t ≠ .symbol .rightParen := by
  rintro rfl
  exact h rest ⟨[], .nil, rfl⟩

theorem StaysOpen.of_cons (hopen : t ≠ .symbol .leftParen) (h : StaysOpen (t :: rest)) :
    StaysOpen rest := by
  rintro later ⟨inside, hinside, rfl⟩
  exact h later ⟨t :: inside, .token hopen h.ne_rightParen hinside, rfl⟩

theorem StaysOpen.of_group (h : StaysOpen (.symbol .leftParen :: rest))
    (hclose : ClosesBefore rest later) : StaysOpen later := by
  obtain ⟨inside, hinside, rfl⟩ := hclose
  rintro end' ⟨inside', hinside', rfl⟩
  exact h end' ⟨_, .group hinside hinside', by simp⟩

/-! ## Counting -/

/-- How many parentheses are open after the tokens, where `depth` are open before them. -/
def openAfter (depth : Nat) (tokens : List Token) : Nat :=
  tokens.foldl (fun depth t => depthAfter t depth) depth

theorem openParens_eq : openParens tokens = openAfter 0 tokens := rfl

@[simp] theorem openAfter_nil : openAfter depth [] = depth := rfl

@[simp] theorem openAfter_cons :
    openAfter depth (t :: rest) = openAfter (depthAfter t depth) rest := rfl

theorem openAfter_append :
    openAfter depth (inside ++ rest) = openAfter (openAfter depth inside) rest :=
  List.foldl_append

theorem depthAfter_of_ne (hopen : t ≠ .symbol .leftParen) (hclose : t ≠ .symbol .rightParen) :
    depthAfter t depth = depth := by
  unfold depthAfter
  split
  · exact absurd rfl hopen
  · exact absurd rfl hclose
  · rfl

/-- Pairs leave the count as it was. -/
theorem Paired.openAfter_eq (h : Paired tokens) : openAfter depth tokens = depth := by
  induction h generalizing depth with
  | nil => rfl
  | token hopen hclose _ ih => rw [openAfter_cons, depthAfter_of_ne hopen hclose, ih]
  | group _ _ ihinside ihrest =>
    rw [openAfter_cons, openAfter_append, ihinside, openAfter_cons]
    exact ihrest

theorem ClosesBefore.openAfter_eq (h : ClosesBefore rest later) :
    openAfter (depth + 1) rest = openAfter depth later := by
  obtain ⟨inside, hinside, rfl⟩ := h
  rw [openAfter_append, hinside.openAfter_eq, openAfter_cons]
  rfl

theorem ClosesBefore.length_lt (h : ClosesBefore rest later) : later.length < rest.length := by
  obtain ⟨inside, -, rfl⟩ := h
  rw [List.length_append, List.length_cons]
  omega

/-- A parenthesis that stays open is counted, whatever follows it. -/
theorem StaysOpen.lt_openAfter (h : StaysOpen tokens) : depth < openAfter (depth + 1) tokens := by
  -- a group is passed over as a whole, so the induction is on the number of tokens
  induction hn : tokens.length using Nat.strongRecOn generalizing tokens depth with
  | _ n ih =>
    cases tokens with
    | nil => exact Nat.lt_succ_self depth
    | cons t rest =>
      have hrest : rest.length < n := by
        rw [← hn]
        exact Nat.lt_succ_self _
      rw [openAfter_cons]
      by_cases hopen : t = .symbol .leftParen
      · subst hopen
        rcases staysOpen_or_exists rest with hstays | ⟨later, hclose⟩
        · exact (Nat.lt_succ_self depth).trans (ih _ hrest hstays rfl)
        · have hlater : depth < openAfter (depth + 1) later :=
            ih _ (hclose.length_lt.trans hrest) (h.of_group hclose) rfl
          exact hlater.trans_eq hclose.openAfter_eq.symm
      · rw [depthAfter_of_ne hopen h.ne_rightParen]
        exact ih _ hrest (h.of_cons hopen) rfl

/-- Where all parentheses are closed, no more are open after the tokens than before them. -/
theorem openAfter_le (h : ¬LeavesOpen tokens) : openAfter depth tokens ≤ depth := by
  induction hn : tokens.length using Nat.strongRecOn generalizing tokens depth with
  | _ n ih =>
    cases tokens with
    | nil => exact Nat.le_refl depth
    | cons t rest =>
      have hrest : rest.length < n := by
        rw [← hn]
        exact Nat.lt_succ_self _
      have hopens : ¬LeavesOpen rest := by
        rintro ⟨before, more, rfl, hstays⟩
        exact h ⟨t :: before, more, rfl, hstays⟩
      by_cases hopen : t = .symbol .leftParen
      · subst hopen
        obtain ⟨later, hclose⟩ :=
          (staysOpen_or_exists rest).resolve_left fun hstays => h ⟨[], rest, rfl, hstays⟩
        have hlater : ¬LeavesOpen later := by
          obtain ⟨inside, -, rfl⟩ := hclose
          rintro ⟨before, more, rfl, hstays⟩
          exact hopens ⟨inside ++ .symbol .rightParen :: before, more, by simp, hstays⟩
        calc openAfter depth (.symbol .leftParen :: rest)
            = openAfter depth later := hclose.openAfter_eq
          _ ≤ depth := ih _ (hclose.length_lt.trans hrest) hlater rfl
      · rw [openAfter_cons]
        refine (ih _ hrest hopens rfl).trans ?_
        unfold depthAfter
        split
        · exact absurd rfl hopen
        · exact Nat.sub_le depth 1
        · exact Nat.le_refl depth

/-- **The count is positive if one of the parentheses stays open**, and otherwise zero. -/
theorem zero_lt_openParens_iff : 0 < openParens tokens ↔ LeavesOpen tokens := by
  rw [openParens_eq]
  constructor
  · intro hpos
    by_contra h
    exact absurd (openAfter_le h) (Nat.not_le_of_lt hpos)
  · rintro ⟨before, rest, rfl, hstays⟩
    rw [openAfter_append, openAfter_cons]
    exact (Nat.zero_le _).trans_lt hstays.lt_openAfter

/-- Behind a parenthesis that stays open the count is positive; behind one that is closed, what
follows the closing one decides. -/
theorem zero_lt_openParens_cons_iff :
    0 < openParens (.symbol .leftParen :: rest) ↔
      StaysOpen rest ∨ ∃ later, ClosesBefore rest later ∧ LeavesOpen later := by
  rw [openParens_eq, openAfter_cons]
  constructor
  · intro hpos
    rcases staysOpen_or_exists rest with hstays | ⟨later, hclose⟩
    · exact Or.inl hstays
    · refine Or.inr ⟨later, hclose, zero_lt_openParens_iff.mp ?_⟩
      rw [openParens_eq, ← hclose.openAfter_eq]
      exact hpos
  · rintro (hstays | ⟨later, hclose, hopens⟩)
    · exact hstays.lt_openAfter
    · have hlater := zero_lt_openParens_iff.mpr hopens
      rw [openParens_eq, ← hclose.openAfter_eq] at hlater
      exact hlater

end SqlCompletion.Sql
