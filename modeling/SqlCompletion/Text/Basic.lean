/-!
# Text as characters

A document is a `String`; every rule about it is stated on its list of characters. This module holds
the few operations that everything else shares: white space, ranges of characters, prefixes, byte
lengths, and the lines of a text.

## Lines

Only `\n` ends a line. A text always has one line more than it has `\n`, so the empty text has one
empty line. `dropLines?` leaves out whole lines from the front and fails when there are too few;
`firstLine` is what is left of the line at the front.
-/

namespace SqlCompletion.Text

/-- White space: the characters with the Unicode property `White_Space`. -/
def isBlank (c : Char) : Bool :=
  let n := c.toNat
  (0x09 ≤ n && n ≤ 0x0d) || n == 0x20 || n == 0x85 || n == 0xa0 || n == 0x1680 ||
    (0x2000 ≤ n && n ≤ 0x200a) || n == 0x2028 || n == 0x2029 || n == 0x202f || n == 0x205f ||
    n == 0x3000

/-- The text without white space at either end. -/
def trim (cs : List Char) : List Char :=
  ((cs.dropWhile isBlank).reverse.dropWhile isBlank).reverse

/-- The character lies in one of the given ranges of code points. -/
def inRanges (ranges : List (Nat × Nat)) (c : Char) : Bool :=
  ranges.any fun r => r.1 ≤ c.toNat && c.toNat ≤ r.2

/-! ## Prefixes -/

/-- What follows `pre` in a text that starts with it. -/
def dropPrefix? : (pre text : List Char) → Option (List Char)
  | [], text => some text
  | _ :: _, [] => none
  | p :: pre, c :: text => if p = c then dropPrefix? pre text else none

/-- Exactly the texts that start with `pre` have a remainder, and it is what follows. -/
theorem dropPrefix?_eq_some_iff {pre text rest : List Char} :
    dropPrefix? pre text = some rest ↔ text = pre ++ rest := by
  induction pre generalizing text with
  | nil => simp [dropPrefix?, eq_comm]
  | cons p pre ih =>
    cases text with
    | nil => simp [dropPrefix?]
    | cons c text =>
      by_cases h : p = c
      · simp [dropPrefix?, h, ih]
      · simp [dropPrefix?, h, eq_comm]

/-- The text starts with `pre`. -/
def startsWith (text pre : String) : Bool :=
  (dropPrefix? pre.toList text.toList).isSome

/-- What follows `pre` in a text that starts with it. -/
def afterPrefix? (text pre : String) : Option String :=
  (dropPrefix? pre.toList text.toList).map String.ofList

/-- The text contains `part`. -/
def contains (part : List Char) : List Char → Bool
  | [] => part.isEmpty
  | c :: text => (dropPrefix? part (c :: text)).isSome || contains part text

/-! ## Bytes -/

/-- The number of bytes of the text in UTF-8. -/
def byteLength (cs : List Char) : Nat :=
  cs.foldl (fun n c => n + c.utf8Size) 0

theorem foldl_utf8Size (cs : List Char) (n : Nat) :
    cs.foldl (fun n c => n + c.utf8Size) n = n + byteLength cs := by
  induction cs generalizing n with
  | nil => simp [byteLength]
  | cons c cs ih =>
    simp only [byteLength, List.foldl_cons]
    rw [ih, ih (0 + c.utf8Size)]
    omega

@[simp] theorem byteLength_nil : byteLength [] = 0 := rfl

@[simp] theorem byteLength_cons (c : Char) (cs : List Char) :
    byteLength (c :: cs) = c.utf8Size + byteLength cs := by
  simp only [byteLength, List.foldl_cons]
  rw [foldl_utf8Size, byteLength]
  omega

@[simp] theorem byteLength_append (as bs : List Char) :
    byteLength (as ++ bs) = byteLength as + byteLength bs := by
  induction as with
  | nil => simp
  | cons a as ih => simp [ih, Nat.add_assoc]

/-- The text from byte `n` on; a character that straddles the byte is left out. -/
def dropBytes : Nat → List Char → List Char
  | _, [] => []
  | n, c :: cs => if n = 0 then c :: cs else dropBytes (n - c.utf8Size) cs

/-- How many characters of the text end within its first `n` bytes, `count` being already known. -/
def charsWithin (count : Nat) : Nat → List Char → Nat
  | _, [] => count
  | n, c :: cs => if c.utf8Size ≤ n then charsWithin (count + 1) (n - c.utf8Size) cs else count

/-- The text between two byte offsets. -/
def slice (cs : List Char) (start stop : Nat) : List Char :=
  let rest := dropBytes start cs
  rest.take (charsWithin 0 (stop - start) rest)

/-! ## Lines -/

/-- The text after its first `n` lines; `none` when it has no more than `n` lines. -/
def dropLines? : Nat → List Char → Option (List Char)
  | 0, cs => some cs
  | _ + 1, [] => none
  | n + 1, c :: cs => if c = '\n' then dropLines? n cs else dropLines? (n + 1) cs

/-- The text up to its first `\n`. -/
def firstLine (cs : List Char) : List Char :=
  cs.takeWhile (· ≠ '\n')

/-- The number of lines of a text. -/
def lineCount (cs : List Char) : Nat :=
  cs.count '\n' + 1

/-- What is left after some lines stands at the end of the text. -/
theorem eq_append_of_dropLines? {n : Nat} {cs rest : List Char} (h : dropLines? n cs = some rest) :
    ∃ pre, cs = pre ++ rest := by
  induction cs generalizing n with
  | nil =>
    cases n with
    | zero => exact ⟨[], by simp_all [dropLines?]⟩
    | succ n => simp [dropLines?] at h
  | cons c cs ih =>
    cases n with
    | zero => exact ⟨[], by simp_all [dropLines?]⟩
    | succ n =>
      simp only [dropLines?] at h
      split at h
      · obtain ⟨pre, hp⟩ := ih h
        exact ⟨c :: pre, by simp [← hp]⟩
      · obtain ⟨pre, hp⟩ := ih h
        exact ⟨c :: pre, by simp [← hp]⟩

end SqlCompletion.Text
