import SqlCompletion.Sql.Token.Scan

/-!
# Every token takes a character

The scanner looks at the first character of what is left of a text and hands back a token and its
length. The length is never zero, whatever the dialect, so dividing a text into tokens comes to an
end. The proof goes through the scanner function by function; `advances_scan` puts them together.
-/

namespace SqlCompletion.Sql

/-- A token that is found takes at least one character. -/
def ScanResult.Advances (r : ScanResult) : Prop := ∀ token n, r = .ok (token, n) → 0 < n

@[simp] theorem advances_ok {token : Token} {n : Nat} :
    ScanResult.Advances (.ok (token, n)) ↔ 0 < n := by
  constructor
  · intro h
    exact h token n rfl
  · intro h _ _ he
    cases he
    exact h

@[simp] theorem advances_error {e : String × Nat} : ScanResult.Advances (.error e) := by
  intro _ _ he
  cases he

/-! ## Words and numbers -/

@[simp] theorem advances_scanWord (d : Dialect) (c : Char) (start rest : List Char) :
    (scanWord d (c :: start) rest).Advances := by
  simp [scanWord]

@[simp] theorem advances_scanWordOrNumber (d : Dialect) (c : Char) (start rest : List Char) :
    (scanWordOrNumber d (c :: start) rest).Advances := by
  simp only [scanWordOrNumber]
  split
  · exact advances_ok.mpr (Nat.add_pos_left (Nat.succ_pos _) _)
  · exact advances_ok.mpr (Nat.succ_pos _)

@[simp] theorem advances_scanQuotedWord (q : Char) (rest : List Char) :
    (scanQuotedWord q rest).Advances := by
  unfold scanQuotedWord
  split <;> simp

@[simp] theorem advances_scanBracketedQuotes (rest : List Char) :
    (scanBracketedQuotes rest).Advances := by
  simp only [scanBracketedQuotes]
  split
  · exact advances_error
  · split <;> simp

theorem advances_finishNumber (d : Dialect) (prev : Option Token) {chars : List Char}
    (h : 0 < chars.length) (rest : List Char) : (finishNumber d prev chars rest).Advances := by
  have hlonger (more : List Char) : 0 < (chars ++ more).length := by
    rw [List.length_append]
    exact Nat.add_pos_left h _
  simp only [finishNumber]
  split
  · exact advances_ok.mpr (Nat.add_pos_left h _)
  · split
    · exact advances_ok.mpr (hlonger _)
    · split
      · exact advances_ok.mpr (Nat.succ_pos _)
      · exact advances_ok.mpr (hlonger _)

theorem advances_scanNumber {d : Dialect} {c : Char} (h : (c.isDigit || c == '.') = true)
    (prev : Option Token) (rest : List Char) : (scanNumber d prev (c :: rest)).Advances := by
  simp only [scanNumber]
  split
  · split <;> simp
  · split
    · exact advances_ok.mpr (Nat.succ_pos _)
    · split
      · split
        · exact advances_ok.mpr Nat.one_pos
        · refine advances_finishNumber d prev ?_ _
          rw [List.length_append]
          exact Nat.add_pos_right _ (Nat.succ_pos _)
      · next hdot =>
        -- Without a dot after the digits there are digits.
        refine advances_finishNumber d prev ?_ _
        rcases (Bool.or_eq_true _ _).mp h with hdigit | hpoint
        · simp [digitRun, hdigit]
        · cases beq_iff_eq.mp hpoint
          have hnone : digitRun d Char.isDigit ('.' :: rest) = [] := by simp [digitRun]
          rw [hnone] at hdot
          exact absurd rfl (hdot rest)

/-! ## Strings -/

@[simp] theorem advances_scanString (d : Dialect) (escapes : Bool) (q : Char) (lead : String)
    (skip : Nat) (cs : List Char) : (scanString d escapes q lead skip cs).Advances := by
  unfold scanString
  split
  · exact advances_ok.mpr (by omega)
  · exact advances_error

@[simp] theorem advances_scanOneOrThree (d : Dialect) (escapes : Bool) (q : Char) (lead : String)
    (skip : Nat) (cs : List Char) : (scanOneOrThree d escapes q lead skip cs).Advances := by
  simp only [scanOneOrThree]
  split
  · exact advances_ok.mpr (Nat.succ_pos _)
  · split
    · exact advances_ok.mpr (by omega)
    · exact advances_error
  · split
    · exact advances_ok.mpr (by omega)
    · exact advances_error

@[simp] theorem advances_scanPlainString (d : Dialect) (q : Char) (cs : List Char) :
    (scanPlainString d q cs).Advances := by
  unfold scanPlainString
  split <;> simp

@[simp] theorem advances_scanDollar (d : Dialect) (cs : List Char) :
    (scanDollar d cs).Advances := by
  simp only [scanDollar]
  split
  · exact advances_ok.mpr (Nat.succ_pos _)
  · split
    · split
      · exact advances_ok.mpr (Nat.succ_pos _)
      · exact advances_error
    · split
      · split
        · exact advances_ok.mpr (Nat.add_pos_left (Nat.succ_pos _) _)
        · exact advances_error
      · exact advances_ok.mpr (Nat.succ_pos _)

/-! ## Comments -/

@[simp] theorem advances_scanLineComment (d : Dialect) (start : Nat) (c : Char) (cs : List Char) :
    (scanLineComment d start (c :: cs)).Advances := by
  simp only [scanLineComment, advances_ok, List.length_cons]
  omega

theorem le_of_blockComment? {nested : Bool} {depth n m : Nat} {cs : List Char}
    (h : blockComment? nested depth n cs = some m) : n ≤ m := by
  fun_induction blockComment? nested depth n cs with
  | case1 => cases h
  | case4 =>
    cases h
    exact Nat.le_add_right _ 2
  | case2 _ _ _ _ ih | case3 _ _ _ _ ih | case5 _ _ _ ih | case6 _ _ _ _ _ _ ih =>
    exact Nat.le_trans (Nat.le_add_right _ _) (ih h)

@[simp] theorem advances_scanBlockComment (d : Dialect) (cs : List Char) :
    (scanBlockComment d cs).Advances := by
  unfold scanBlockComment
  split
  · next h => exact advances_ok.mpr (Nat.lt_of_lt_of_le (by decide) (le_of_blockComment? h))
  · exact advances_error

/-! ## Operators -/

@[simp] theorem Symbol.text_length_pos (s : Symbol) : 0 < s.text.length := by
  cases s <;> decide

@[simp] theorem advances_plain (s : Symbol) : (plain s).Advances :=
  advances_ok.mpr s.text_length_pos

@[simp] theorem advances_extensibleAs (d : Dialect) (s : Symbol) {n : Nat} (hn : 0 < n)
    (rest : List Char) : (extensibleAs d s n rest).Advances := by
  simp only [extensibleAs]
  split
  · exact advances_ok.mpr hn
  · exact advances_ok.mpr (Nat.add_pos_left hn _)

@[simp] theorem advances_extensible (d : Dialect) (s : Symbol) (cs : List Char) :
    (extensible d s cs).Advances :=
  advances_extensibleAs d s s.text_length_pos _

@[simp] theorem advances_greedy (s : Symbol) (c : Char) (cs : List Char) :
    (greedy s (c :: cs)).Advances := by
  simp [greedy]

@[simp] theorem advances_unfinished (d : Dialect) (start : String) (cs : List Char) :
    (unfinished d start cs).Advances := by
  simp only [unfinished]
  split
  · exact advances_error
  · next h =>
    rw [List.isEmpty_iff] at h
    exact advances_ok.mpr (Nat.add_pos_right _ (List.length_pos_iff.mpr h))

@[simp] theorem advances_scanMinus (d : Dialect) (c : Char) (cs : List Char) :
    (scanMinus d (c :: cs)).Advances := by
  unfold scanMinus
  repeat' split
  all_goals simp

@[simp] theorem advances_scanSlash (d : Dialect) (c : Char) (cs : List Char) :
    (scanSlash d (c :: cs)).Advances := by
  unfold scanSlash
  repeat' split
  all_goals simp

@[simp] theorem advances_scanPipe (d : Dialect) (cs : List Char) : (scanPipe d cs).Advances := by
  unfold scanPipe
  repeat' split
  all_goals simp

@[simp] theorem advances_scanBang (cs : List Char) : (scanBang cs).Advances := by
  unfold scanBang
  split <;> exact advances_plain _

@[simp] theorem advances_scanLess (d : Dialect) (cs : List Char) : (scanLess d cs).Advances := by
  unfold scanLess
  repeat' split
  all_goals simp

@[simp] theorem advances_scanGreater (d : Dialect) (cs : List Char) :
    (scanGreater d cs).Advances := by
  unfold scanGreater
  repeat' split
  all_goals exact advances_extensible d _ _

@[simp] theorem advances_scanAmpersand (d : Dialect) (c : Char) (cs : List Char) :
    (scanAmpersand d (c :: cs)).Advances := by
  unfold scanAmpersand
  repeat' split
  all_goals simp

@[simp] theorem advances_scanTilde (d : Dialect) (cs : List Char) : (scanTilde d cs).Advances := by
  unfold scanTilde
  repeat' split
  all_goals exact advances_extensible d _ _

@[simp] theorem advances_scanHash (d : Dialect) (c : Char) (cs : List Char) :
    (scanHash d (c :: cs)).Advances := by
  unfold scanHash
  repeat' split
  all_goals simp

@[simp] theorem advances_scanAt (d : Dialect) (cs : List Char) : (scanAt d cs).Advances := by
  unfold scanAt
  repeat' split
  all_goals simp

@[simp] theorem advances_scanQuestion (d : Dialect) (c : Char) (cs : List Char) :
    (scanQuestion d (c :: cs)).Advances := by
  unfold scanQuestion
  repeat' split
  all_goals simp

@[simp] theorem advances_scanPercent (d : Dialect) (cs : List Char) :
    (scanPercent d cs).Advances := by
  unfold scanPercent
  repeat' split
  all_goals simp

/-! ## Tokens -/

section

variable {d : Dialect} {c : Char} {rest : List Char} {r : ScanResult}

theorem advances_scanSymbol? (h : scanSymbol? d (c :: rest) = some r) : r.Advances := by
  unfold scanSymbol? at h
  split at h
  all_goals cases h
  all_goals simp

theorem advances_scanLetter? (h : scanLetter? d c rest = some r) : r.Advances := by
  simp only [scanLetter?] at h
  repeat' split at h
  all_goals cases h
  all_goals simp

theorem advances_scanBlank? (h : scanBlank? (c :: rest) = some r) : r.Advances := by
  unfold scanBlank? at h
  split at h
  all_goals cases h
  all_goals simp

theorem advances_scanQuote? (h : scanQuote? d c rest = some r) : r.Advances := by
  unfold scanQuote? scanBrackets? at h
  repeat' split at h
  all_goals cases h
  all_goals simp

end

theorem advances_scanOther (d : Dialect) (c : Char) (rest : List Char) :
    (scanOther d c rest).Advances := by
  unfold scanOther
  repeat' split
  all_goals simp

/-- **Every token takes at least one character.** -/
theorem advances_scan (d : Dialect) (prev : Option Token) (c : Char) (rest : List Char) :
    (scan d prev c rest).Advances := by
  unfold scan
  split
  · next h => exact advances_scanBlank? h
  · split
    · next h => exact advances_scanLetter? h
    · split
      · next h => exact advances_scanQuote? h
      · split
        · next h => exact advances_scanNumber h prev rest
        · split
          · next h => exact advances_scanSymbol? h
          · exact advances_scanOther d c rest

end SqlCompletion.Sql
