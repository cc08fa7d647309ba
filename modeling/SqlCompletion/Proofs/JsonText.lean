import SqlCompletion.Json.Printer
import SqlCompletion.Json.Reader
import Mathlib.Data.List.Basic

/-!
# JSON read back

What is written as JSON is read back as it was. The two layouts differ in the white space between
the parts alone, so the arguments for arrays and objects leave it open (`reads_array`,
`reads_object`), and each layout is an instance.

* `reads_compact`, `reads_prettyAt`: the text of a value is read as the value, whatever follows that
  does not go on with it.
* `ReadBack.compact`, `ReadBack.pretty`: so for a whole text, with white space after it, by the
  reader that asks for every part and by the one that passes over what it cannot read.
-/

namespace SqlCompletion.Json

/-! ## Strings -/

theorem hexValue?_hexDigit {n : Nat} (h : n < 16) : hexValue? (hexDigit n) = some n := by
  revert n
  decide

/-- A control character is read back from its two digits. -/
theorem unicodeEscape?_control {c : Char} (h : c.toNat < 0x20) (cs : List Char) :
    unicodeEscape? ('0' :: '0' :: hexDigit (c.toNat / 16) :: hexDigit (c.toNat % 16) :: cs) =
      some (c, cs) := by
  have hhigh := hexValue?_hexDigit (n := c.toNat / 16) (by omega)
  have hlow := hexValue?_hexDigit (n := c.toNat % 16) (by omega)
  have hzero : hexValue? '0' = some 0 := by decide
  have hvalue : c.toNat / 16 * 16 + c.toNat % 16 = c.toNat := Nat.div_add_mod' _ _
  have hhalf : ¬(0xd800 ≤ c.toNat ∧ c.toNat ≤ 0xdbff) := by omega
  have hother : ¬(0xdc00 ≤ c.toNat ∧ c.toNat ≤ 0xdfff) := by omega
  simp [unicodeEscape?, hexQuad?, hhigh, hlow, hzero, hvalue, hhalf, hother, Char.ofNat_toNat]

/-- Each character of a string takes one step of its reader. -/
theorem stringRest?_escapeChar (fuel : Nat) (read : List Char) (c : Char) (cs : List Char) :
    stringRest? (fuel + 1) (some read) (escapeChar c ++ cs) =
      stringRest? fuel (some (c :: read)) cs := by
  unfold escapeChar
  split_ifs with hquote hbackslash hn hr ht hb hf hcontrol
  · subst hquote; rfl
  · subst hbackslash; rfl
  · subst hn; rfl
  · subst hr; rfl
  · subst ht; rfl
  · subst hb; rfl
  · subst hf; rfl
  · simp [stringRest?, escape?, unicodeEscape?_control hcontrol]
  · rw [List.singleton_append, stringRest?]
    · simp [hcontrol]
    · exact hquote
    · exact hbackslash

theorem stringRest?_flatMap {fuel : Nat} (read cs : List Char) (h : cs.length < fuel)
    (rest : List Char) :
    stringRest? fuel (some read) (cs.flatMap escapeChar ++ '"' :: rest) =
      some (some (String.ofList (read.reverse ++ cs)), rest) := by
  induction cs generalizing fuel read with
  | nil =>
    obtain ⟨fuel, rfl⟩ := Nat.exists_eq_add_of_lt h
    simp [stringRest?]
  | cons c cs ih =>
    obtain ⟨fuel, rfl⟩ : ∃ n, fuel = n + 1 := ⟨fuel - 1, by omega⟩
    rw [List.flatMap_cons, List.append_assoc, stringRest?_escapeChar,
      ih (c :: read) (by simpa using h)]
    simp

theorem length_le_flatMap_escapeChar (cs : List Char) :
    cs.length ≤ (cs.flatMap escapeChar).length := by
  induction cs with
  | nil => exact Nat.le_refl 0
  | cons c cs ih =>
    have hc : 1 ≤ (escapeChar c).length := by
      unfold escapeChar
      split_ifs <;> simp
    rw [List.flatMap_cons, List.length_append, List.length_cons]
    omega

theorem toList_quote (s : String) :
    (quote s).toList = '"' :: s.toList.flatMap escapeChar ++ ['"'] := by
  simp [quote]

/-- **A string is read back from its quotes.** -/
theorem stringRest?_quote (s : String) (rest : List Char) :
    let cs := s.toList.flatMap escapeChar ++ '"' :: rest
    stringRest? (cs.length + 1) (some []) cs = some (some s, rest) := by
  intro cs
  have hlong : s.toList.length < cs.length + 1 := by
    have := length_le_flatMap_escapeChar s.toList
    simp only [cs, List.length_append]
    omega
  rw [stringRest?_flatMap [] s.toList hlong rest, List.reverse_nil, List.nil_append,
    String.ofList_toList]

/-! ## Numbers -/

/-- What follows does not go on with a number. -/
def Follows (rest : List Char) : Prop :=
  ∀ c ∈ rest.head?, c.isDigit = false ∧ c ≠ '.' ∧ c ≠ 'e' ∧ c ≠ 'E'

theorem follows_nil : Follows [] := by
  intro c hc
  cases hc

theorem follows_cons {c : Char} (h : c.isDigit = false ∧ c ≠ '.' ∧ c ≠ 'e' ∧ c ≠ 'E')
    (rest : List Char) : Follows (c :: rest) := by
  intro d hd
  cases hd
  exact h

theorem digits_append {ds rest : List Char} (hds : ∀ c ∈ ds, c.isDigit = true)
    (h : Follows rest) : digits (ds ++ rest) = (ds, rest) := by
  rw [digits, List.takeWhile_append_of_pos hds, List.dropWhile_append_of_pos hds]
  cases rest with
  | nil => simp
  | cons c rest => simp [(h c rfl).1]

theorem fraction?_of_follows {rest : List Char} (h : Follows rest) :
    fraction? rest = some ([], rest) := by
  unfold fraction?
  split
  · exact absurd rfl (h '.' rfl).2.1
  · rfl

theorem exponent?_of_follows {rest : List Char} (h : Follows rest) :
    exponent? rest = some ([], rest) := by
  unfold exponent?
  split
  · next c rest =>
    obtain ⟨-, -, he, hE⟩ := h c rfl
    rw [if_neg (by simp [he, hE])]
  · rfl

/-- The digits of a number start with a zero only if there is no other. -/
theorem head?_toDigits {n : Nat} (h : 0 < n) : (Nat.toDigits 10 n).head? ≠ some '0' := by
  induction n using Nat.strongRecOn with
  | ind n ih =>
    rw [Nat.toDigits_eq_if (by decide)]
    split
    · next hlt =>
      have hdigit : ∀ d < 10, 0 < d → [d.digitChar].head? ≠ some '0' := by decide
      exact hdigit n hlt h
    · have hne : Nat.toDigits 10 (n / 10) ≠ [] := Nat.toDigits_ne_nil
      rw [List.head?_append_of_ne_nil _ hne]
      exact ih (n / 10) (by omega) (by omega)

theorem isDigit_of_mem_toDigits {n : Nat} : ∀ c ∈ Nat.toDigits 10 n, c.isDigit = true :=
  fun _ hc => Nat.isDigit_of_mem_toDigits (by decide) (by decide) hc

/-- **A number is read back from its digits.** A negative one is not zero. -/
theorem number?_toDigits (negative : Bool) {n : Nat} (hn : negative = true → 0 < n)
    {rest : List Char} (h : Follows rest) :
    number? negative (Nat.toDigits 10 n ++ rest) =
      some (.int (if negative then -n else n), rest) := by
  have hdigits := digits_append (isDigit_of_mem_toDigits (n := n)) h
  have hvalue := Text.natOfDigits_toDigits n
  have hzero : negative = true → ¬n = 0 := fun hnegative => Nat.ne_of_gt (hn hnegative)
  unfold number?
  rw [hdigits]
  cases hds : Nat.toDigits 10 n with
  | nil => exact absurd hds Nat.toDigits_ne_nil
  | cons d ds =>
    rw [hds] at hvalue
    cases ds with
    | nil => simpa [fraction?_of_follows h, exponent?_of_follows h, hvalue] using hzero
    | cons d' ds =>
      -- A number with a second digit is not zero, so its digits do not start with one.
      have hd : d ≠ '0' := by
        rintro rfl
        rcases Nat.eq_zero_or_pos n with rfl | hpos
        · cases hds
        · exact head?_toDigits hpos (by rw [hds]; rfl)
      simpa [hd, fraction?_of_follows h, exponent?_of_follows h, hvalue] using hzero

/-! ## White space -/

/-- Nothing but white space. -/
def Blank (cs : List Char) : Prop := ∀ c ∈ cs, isSpace c = true

theorem skipSpace_append {gap : List Char} (h : Blank gap) (cs : List Char) :
    skipSpace (gap ++ cs) = skipSpace cs :=
  List.dropWhile_append_of_pos h

theorem skipSpace_cons {c : Char} (h : isSpace c = false) (cs : List Char) :
    skipSpace (c :: cs) = c :: cs := by
  simp [skipSpace, h]

theorem follows_append {gap cs : List Char} (hgap : Blank gap) (h : Follows cs) :
    Follows (gap ++ cs) := by
  cases gap with
  | nil => exact h
  | cons c gap =>
    refine follows_cons ?_ (gap ++ cs)
    have hc := hgap c (List.mem_cons_self ..)
    simp only [isSpace, Bool.or_eq_true, beq_iff_eq] at hc
    rcases hc with ((rfl | rfl) | rfl) | rfl <;> decide

/-! ## Values -/

/-- The value holds nothing that cannot be read, and nests at most `depth` deep. -/
inductive Readable : (depth : Nat) → Json → Prop where
  | null {depth : Nat} : Readable depth .null
  | bool {depth : Nat} {b : Bool} : Readable depth (.bool b)
  | int {depth : Nat} {n : Int} : Readable depth (.int n)
  | string {depth : Nat} {s : String} : Readable depth (.string s)
  | array {depth : Nat} {items : List Json} (h : ∀ j ∈ items, Readable depth j) :
    Readable (depth + 1) (.array items)
  | object {depth : Nat} {members : List (String × Json)} (h : ∀ m ∈ members, Readable depth m.2) :
    Readable (depth + 1) (.object members)

theorem Readable.of_le {depth depth' : Nat} {j : Json} (h : Readable depth j)
    (hle : depth ≤ depth') : Readable depth' j := by
  induction h generalizing depth' with
  | null => exact .null
  | bool => exact .bool
  | int => exact .int
  | string => exact .string
  | array _ ih =>
    obtain ⟨n, rfl⟩ : ∃ n, depth' = n + 1 := ⟨depth' - 1, by omega⟩
    exact .array fun j hj => ih j hj (Nat.le_of_succ_le_succ hle)
  | object _ ih =>
    obtain ⟨n, rfl⟩ : ∃ n, depth' = n + 1 := ⟨depth' - 1, by omega⟩
    exact .object fun m hm => ih m hm (Nat.le_of_succ_le_succ hle)

/-- The text is read as the value, whatever follows that does not go on with it. It starts neither
with white space nor like the end of an array, and does not nest deeper than it is long. -/
structure Reads (strict : Bool) (depth : Nat) (j : Json) (cs : List Char) : Prop where
  exists_cons : ∃ c rest, cs = c :: rest ∧ isSpace c = false ∧ c ≠ ']'
  readable : Readable cs.length j
  value?_append : ∀ rest, Follows rest → value? strict depth (cs ++ rest) = some (j, rest)

variable {strict : Bool} {depth : Nat}

theorem Reads.skipSpace_append {j : Json} {cs : List Char} (h : Reads strict depth j cs)
    {gap : List Char} (hgap : Blank gap) (rest : List Char) :
    skipSpace (gap ++ (cs ++ rest)) = cs ++ rest := by
  obtain ⟨c, more, rfl, hc, -⟩ := h.exists_cons
  rw [Json.skipSpace_append hgap, List.cons_append, skipSpace_cons hc]

/-- Where neither an array nor an object starts, there is a value without others in it. -/
theorem value?_eq_scalar? {c : Char} (harray : c ≠ '[') (hobject : c ≠ '\x7b') (cs : List Char) :
    value? strict depth (c :: cs) = scalar? strict (c :: cs) := by
  cases depth <;> simp [value?, harray, hobject]

theorem scalar?_of_isDigit {c : Char} (h : c.isDigit = true) (cs : List Char) :
    scalar? strict (c :: cs) = number? false (c :: cs) := by
  have hne (d : Char) (hd : d.isDigit = false) : c ≠ d := by
    rintro rfl
    rw [h] at hd
    cases hd
  simp [scalar?, hne 'n' rfl, hne 't' rfl, hne 'f' rfl, hne '"' rfl, hne '-' rfl]

theorem reads_int (n : Int) : Reads strict depth (.int n) (atom (.int n)).toList := by
  simp only [atom, Int.toString_eq_repr, Int.repr_eq_if]
  split
  · next hn =>
    obtain ⟨d, ds, hds⟩ := List.exists_cons_of_ne_nil (Nat.toDigits_ne_nil (b := 10) (n := n.toNat))
    have hmem : d ∈ Nat.toDigits 10 n.toNat := by
      rw [hds]
      exact List.mem_cons_self ..
    have hd : d.isDigit = true := isDigit_of_mem_toDigits d hmem
    have hne (c : Char) (hc : c.isDigit = false) : d ≠ c := by
      rintro rfl
      rw [hd] at hc
      cases hc
    rw [Nat.toList_repr]
    refine ⟨⟨d, ds, hds, ?_, hne ']' rfl⟩, .int, fun rest hrest => ?_⟩
    · simp [isSpace, hne ' ' rfl, hne '\n' rfl, hne '\t' rfl, hne '\r' rfl]
    · have hnumber := number?_toDigits false (n := n.toNat) nofun hrest
      rw [hds] at hnumber ⊢
      rw [List.cons_append, value?_eq_scalar? (hne '[' rfl) (hne '\x7b' rfl),
        scalar?_of_isDigit hd, ← List.cons_append, hnumber]
      simp [Int.toNat_of_nonneg hn]
  · next hn =>
    have htext : ("-" ++ (-n).toNat.repr).toList = '-' :: Nat.toDigits 10 (-n).toNat := by
      rw [String.toList_append, Nat.toList_repr]
      rfl
    rw [htext]
    refine ⟨⟨'-', _, rfl, rfl, by decide⟩, .int, fun rest hrest => ?_⟩
    rw [List.cons_append, value?_eq_scalar? (by decide) (by decide)]
    have hnumber := number?_toDigits true (n := (-n).toNat) (fun _ => by omega) hrest
    rw [scalar?, hnumber]
    simp only [if_true, Option.some.injEq, Prod.mk.injEq, int.injEq, and_true]
    omega

theorem reads_string (s : String) : Reads strict depth (.string s) (atom (.string s)).toList := by
  rw [atom, toList_quote]
  refine ⟨⟨'"', _, rfl, rfl, by decide⟩, .string, fun rest _ => ?_⟩
  rw [List.cons_append, List.cons_append, value?_eq_scalar? (by decide) (by decide)]
  have hstring := stringRest?_quote s rest
  simp only [List.append_assoc, List.singleton_append, scalar?]
  simp only [hstring]
  rfl

theorem reads_null : Reads strict depth .null (atom .null).toList :=
  ⟨⟨'n', _, rfl, rfl, by decide⟩, .null,
    fun _ _ => value?_eq_scalar? (by decide) (by decide) _⟩

theorem reads_bool (b : Bool) : Reads strict depth (.bool b) (atom (.bool b)).toList := by
  cases b with
  | true =>
    exact ⟨⟨'t', _, rfl, rfl, by decide⟩, .bool,
      fun _ _ => value?_eq_scalar? (by decide) (by decide) _⟩
  | false =>
    exact ⟨⟨'f', _, rfl, rfl, by decide⟩, .bool,
      fun _ _ => value?_eq_scalar? (by decide) (by decide) _⟩

/-! ## Arrays and objects -/

/-- Parts with a comma before each, and white space after the comma. -/
def afterCommas {α : Type} (gap : List Char) (write : α → List Char) (parts : List α) : List Char :=
  parts.flatMap fun x => ',' :: (gap ++ write x)

theorem length_le_afterCommas {α : Type} (gap : List Char) (write : α → List Char)
    (parts : List α) : parts.length ≤ (afterCommas gap write parts).length := by
  induction parts with
  | nil => exact Nat.le_refl 0
  | cons x parts ih =>
    rw [afterCommas, List.flatMap_cons, ← afterCommas]
    simp only [List.length_append, List.length_cons]
    omega

theorem length_write_le {α : Type} (gap : List Char) (write : α → List Char) {x y : α}
    {parts : List α} (h : y ∈ x :: parts) :
    (write y).length ≤ (write x).length + (afterCommas gap write parts).length := by
  rcases List.mem_cons.mp h with rfl | h
  · exact Nat.le_add_right _ _
  · obtain ⟨front, back, rfl⟩ := List.append_of_mem h
    simp only [afterCommas, List.flatMap_append, List.flatMap_cons, List.length_append,
      List.length_cons]
    omega

theorem follows_afterCommas {α : Type} (gap : List Char) (write : α → List Char) (parts : List α)
    {rest : List Char} (h : Follows rest) : Follows (afterCommas gap write parts ++ rest) := by
  cases parts with
  | nil => exact h
  | cons x parts => exact follows_cons (by decide) _

section

variable {gap last : List Char} (hgap : Blank gap) (hlast : Blank last)

include hlast in
theorem follows_close {c : Char} (hc : c = ']' ∨ c = '\x7d') (rest : List Char) :
    Follows (last ++ c :: rest) := by
  refine follows_append hlast (follows_cons ?_ rest)
  rcases hc with rfl | rfl <;> decide

include hgap hlast in
/-- The elements after the first one are read one by one. -/
theorem arrayRest?_afterCommas {write : Json → List Char} {items : List Json}
    (h : ∀ j ∈ items, Reads strict depth j (write j)) {fuel : Nat} (hfuel : items.length < fuel)
    (read : List Json) (rest : List Char) :
    arrayRest? (value? strict depth) fuel read
        (afterCommas gap write items ++ (last ++ ']' :: rest)) =
      some (.array (read.reverse ++ items), rest) := by
  induction items generalizing fuel read with
  | nil =>
    obtain ⟨fuel, rfl⟩ : ∃ n, fuel = n + 1 := ⟨fuel - 1, by omega⟩
    rw [afterCommas, List.flatMap_nil, List.nil_append, arrayRest?, skipSpace_append hlast,
      skipSpace_cons rfl, List.append_nil]
    rfl
  | cons j items ih =>
    obtain ⟨fuel, rfl⟩ : ∃ n, fuel = n + 1 := ⟨fuel - 1, by omega⟩
    have hj := h j (List.mem_cons_self ..)
    have hrest := follows_afterCommas gap write items (follows_close hlast (.inl rfl) rest)
    have hitems := ih (fun j hj => h j (List.mem_cons_of_mem _ hj)) (Nat.lt_of_succ_lt_succ hfuel)
      (j :: read)
    rw [afterCommas, List.flatMap_cons, ← afterCommas, List.append_assoc, List.cons_append,
      arrayRest?, skipSpace_cons rfl]
    simp only [List.append_assoc, hj.skipSpace_append hgap, hj.value?_append _ hrest, hitems,
      Option.bind_eq_bind, Option.bind_some]
    simp

include hgap hlast in
/-- **An array is read back from the texts of its elements, whatever white space stands between
them.** -/
theorem reads_array {write : Json → List Char} {j : Json} {items : List Json}
    (h : ∀ x ∈ j :: items, Reads strict depth x (write x)) :
    Reads strict (depth + 1) (.array (j :: items))
      ('[' :: (gap ++ (write j ++ (afterCommas gap write items ++ (last ++ [']']))))) := by
  refine ⟨⟨'[', _, rfl, rfl, by decide⟩, .array fun x hx => (h x hx).readable.of_le ?_,
    fun rest _ => ?_⟩
  · have := length_write_le gap write hx
    simp only [List.length_append]
    omega
  have hj := h j (List.mem_cons_self ..)
  have hrest := follows_afterCommas gap write items (follows_close hlast (.inl rfl) rest)
  obtain ⟨c, more, hc, -, hne⟩ := hj.exists_cons
  have hlong : items.length <
      (afterCommas gap write items ++ (last ++ ']' :: rest)).length + 1 := by
    have hcommas := length_le_afterCommas gap write items
    rw [List.length_append]
    omega
  have hitems := arrayRest?_afterCommas hgap hlast (fun x hx => h x (List.mem_cons_of_mem _ hx))
    hlong [j] rest
  have hvalue := hj.value?_append _ hrest
  have hskip := hj.skipSpace_append hgap (afterCommas gap write items ++ (last ++ ']' :: rest))
  rw [hc, List.cons_append] at hvalue hskip
  simp only [List.cons_append, List.append_assoc, List.nil_append, value?, hc, hskip]
  simpa [hne, hvalue, Nat.add_assoc] using hitems

/-- A member of an object, with white space after the colon. -/
def memberText (space : List Char) (write : Json → List Char) (m : String × Json) : List Char :=
  (quote m.1).toList ++ ':' :: (space ++ write m.2)

variable {space : List Char} (hspace : Blank space) (write : Json → List Char)

include hspace in
theorem member?_memberText {m : String × Json} (h : Reads strict depth m.2 (write m.2))
    {rest : List Char} (hrest : Follows rest) :
    member? (value? strict depth) (memberText space write m ++ rest) = some (some m, rest) := by
  have hkey := stringRest?_quote m.1 (':' :: (space ++ (write m.2 ++ rest)))
  simp only [memberText, toList_quote, List.cons_append, List.append_assoc, List.nil_append,
    member?]
  simp only [hkey, Option.bind_eq_bind, Option.bind_some, skipSpace_cons (c := ':') rfl,
    h.skipSpace_append hspace, h.value?_append rest hrest]
  rfl

theorem skipSpace_memberText (hgap : Blank gap) (space : List Char) (write : Json → List Char)
    (m : String × Json) (rest : List Char) :
    skipSpace (gap ++ (memberText space write m ++ rest)) = memberText space write m ++ rest := by
  rw [skipSpace_append hgap, memberText, toList_quote]
  exact skipSpace_cons rfl _

include hgap hlast hspace in
/-- The members after the first one are read one by one. -/
theorem objectRest?_afterCommas {members : List (String × Json)}
    (h : ∀ m ∈ members, Reads strict depth m.2 (write m.2)) {fuel : Nat}
    (hfuel : members.length < fuel) (read : List (String × Json)) (rest : List Char) :
    objectRest? (value? strict depth) fuel (some read)
        (afterCommas gap (memberText space write) members ++ (last ++ '\x7d' :: rest)) =
      some (some (read.reverse ++ members), rest) := by
  induction members generalizing fuel read with
  | nil =>
    obtain ⟨fuel, rfl⟩ : ∃ n, fuel = n + 1 := ⟨fuel - 1, by omega⟩
    rw [afterCommas, List.flatMap_nil, List.nil_append, objectRest?, skipSpace_append hlast,
      skipSpace_cons rfl, List.append_nil]
    rfl
  | cons m members ih =>
    obtain ⟨fuel, rfl⟩ : ∃ n, fuel = n + 1 := ⟨fuel - 1, by omega⟩
    have hrest := follows_afterCommas gap (memberText space write) members
      (follows_close hlast (.inr rfl) rest)
    have hm := member?_memberText hspace write (h m (List.mem_cons_self ..)) hrest
    have hmembers := ih (fun m hm => h m (List.mem_cons_of_mem _ hm))
      (Nat.lt_of_succ_lt_succ hfuel) (m :: read)
    rw [afterCommas, List.flatMap_cons, ← afterCommas, List.append_assoc, List.cons_append,
      objectRest?, skipSpace_cons rfl]
    simp only [List.append_assoc, skipSpace_memberText hgap, hm, Option.bind_eq_bind,
      Option.bind_some]
    simpa using hmembers

include hgap hlast hspace in
/-- **An object is read back from the texts of its members, whatever white space stands between
them.** -/
theorem reads_object {m : String × Json} {members : List (String × Json)}
    (h : ∀ x ∈ m :: members, Reads strict depth x.2 (write x.2)) :
    Reads strict (depth + 1) (.object (m :: members))
      ('\x7b' :: (gap ++ (memberText space write m ++
        (afterCommas gap (memberText space write) members ++ (last ++ ['\x7d']))))) := by
  refine ⟨⟨'\x7b', _, rfl, rfl, by decide⟩, .object fun x hx => (h x hx).readable.of_le ?_,
    fun rest _ => ?_⟩
  · have hmember := length_write_le gap (memberText space write) hx
    have hvalue : (write x.2).length ≤ (memberText space write x).length := by
      simp only [memberText, List.length_append, List.length_cons]
      omega
    simp only [List.length_append]
    omega
  have hrest := follows_afterCommas gap (memberText space write) members
    (follows_close hlast (.inr rfl) rest)
  have hm := member?_memberText hspace write (h m (List.mem_cons_self ..)) hrest
  have hlong : members.length <
      (afterCommas gap (memberText space write) members ++ (last ++ '\x7d' :: rest)).length + 1 := by
    have hcommas := length_le_afterCommas gap (memberText space write) members
    rw [List.length_append]
    omega
  have hmembers := objectRest?_afterCommas hgap hlast hspace write
    (fun x hx => h x (List.mem_cons_of_mem _ hx)) hlong [m] rest
  have hskip := skipSpace_memberText hgap space write m
    (afterCommas gap (memberText space write) members ++ (last ++ '\x7d' :: rest))
  obtain ⟨key, hquote⟩ : ∃ key, memberText space write m = '"' :: key := by
    rw [memberText, toList_quote]
    exact ⟨_, rfl⟩
  rw [hquote, List.cons_append] at hm hskip
  simp only [List.cons_append, List.append_assoc, List.nil_append, value?, hquote, hskip]
  split
  · next hclose => simp at hclose
  · simp only [hm, Option.bind_eq_bind, Option.bind_some, Option.map_some, hmembers]
    rfl

end

theorem reads_empty_array : Reads strict (depth + 1) (.array []) ['[', ']'] :=
  ⟨⟨'[', _, rfl, rfl, by decide⟩, .array nofun, fun _ _ => rfl⟩

theorem reads_empty_object : Reads strict (depth + 1) (.object []) ['\x7b', '\x7d'] :=
  ⟨⟨'\x7b', _, rfl, rfl, by decide⟩, .object nofun, fun _ _ => rfl⟩

/-! ## One line -/

theorem toList_compactItems (items : List Json) :
    (compactItems false items).toList = afterCommas [] (fun j => (compact j).toList) items := by
  induction items with
  | nil => simp [compactItems, afterCommas]
  | cons j items ih =>
    rw [afterCommas, List.flatMap_cons, ← afterCommas, ← ih, compactItems]
    simp

theorem toList_compactMembers (members : List (String × Json)) :
    (compactMembers false members).toList =
      afterCommas [] (memberText [] fun j => (compact j).toList) members := by
  induction members with
  | nil => simp [compactMembers, afterCommas]
  | cons m members ih =>
    rw [afterCommas, List.flatMap_cons, ← afterCommas, ← ih, compactMembers]
    simp [memberText]

/-- **A value on one line is read back.** -/
theorem reads_compact {j : Json} (h : Readable depth j) :
    Reads strict depth j (compact j).toList := by
  have hblank : Blank [] := nofun
  induction h with
  | null => simpa only [compact] using reads_null
  | bool => simpa only [compact] using reads_bool _
  | int => simpa only [compact] using reads_int _
  | string => simpa only [compact] using reads_string _
  | @array depth items _ ih =>
    cases items with
    | nil => simpa [compact, compactItems] using reads_empty_array
    | cons j items =>
      have hitems := reads_array hblank hblank ih
      simpa [compact, compactItems, toList_compactItems] using hitems
  | @object depth members _ ih =>
    cases members with
    | nil => simpa [compact, compactMembers] using reads_empty_object
    | cons m members =>
      have hmembers := reads_object hblank hblank hblank (fun j => (compact j).toList) ih
      simpa [compact, compactMembers, toList_compactMembers, memberText] using hmembers

/-! ## One part a line -/

theorem blank_newline (level : Nat) : Blank (newline level).toList := by
  intro c hc
  simp only [newline, String.toList_append, String.toList_ofList, List.mem_append,
    List.mem_replicate] at hc
  rcases hc with hc | ⟨-, rfl⟩
  · rw [List.mem_singleton.mp hc]
    rfl
  · rfl

theorem toList_prettyItems (level : Nat) (items : List Json) :
    (prettyItems level false items).toList =
      afterCommas (newline level).toList (fun j => (prettyAt level j).toList) items := by
  induction items with
  | nil => simp [prettyItems, afterCommas]
  | cons j items ih =>
    rw [afterCommas, List.flatMap_cons, ← afterCommas, ← ih, prettyItems]
    simp

theorem toList_prettyMembers (level : Nat) (members : List (String × Json)) :
    (prettyMembers level false members).toList =
      afterCommas (newline level).toList (memberText [' '] fun j => (prettyAt level j).toList)
        members := by
  induction members with
  | nil => simp [prettyMembers, afterCommas]
  | cons m members ih =>
    rw [afterCommas, List.flatMap_cons, ← afterCommas, ← ih, prettyMembers]
    simp [memberText]

/-- **A value with one part a line is read back, however far it is indented.** -/
theorem reads_prettyAt {j : Json} (h : Readable depth j) (level : Nat) :
    Reads strict depth j (prettyAt level j).toList := by
  have hspace : Blank [' '] := by simp [Blank, isSpace]
  induction h generalizing level with
  | null => simpa only [prettyAt] using reads_null
  | bool => simpa only [prettyAt] using reads_bool _
  | int => simpa only [prettyAt] using reads_int _
  | string => simpa only [prettyAt] using reads_string _
  | @array depth items _ ih =>
    cases items with
    | nil => simpa [prettyAt] using reads_empty_array
    | cons j items =>
      have hitems := reads_array (blank_newline (level + 1)) (blank_newline level)
        fun x hx => ih x hx (level + 1)
      simpa [prettyAt, prettyItems, toList_prettyItems] using hitems
  | @object depth members _ ih =>
    cases members with
    | nil => simpa [prettyAt] using reads_empty_object
    | cons m members =>
      have hmembers := reads_object (blank_newline (level + 1)) (blank_newline level) hspace
        (fun j => (prettyAt (level + 1) j).toList) fun x hx => ih x hx (level + 1)
      simpa [prettyAt, prettyMembers, toList_prettyMembers, memberText] using hmembers

/-! ## Whole texts -/

theorem Reads.parseWithin? {j : Json} {cs gap : List Char} (h : Reads strict depth j cs)
    (hgap : Blank gap) : parseWithin? strict depth (cs ++ gap) = some j := by
  have hvalue := h.value?_append gap (by simpa using follows_append hgap follows_nil)
  have hnil : Blank [] := nofun
  have hstart := h.skipSpace_append hnil gap
  have hend : skipSpace gap = [] := by simpa [skipSpace] using Json.skipSpace_append hgap []
  rw [List.nil_append] at hstart
  simp [Json.parseWithin?, hstart, hvalue, hend]

/-- The text is the value, for the reader that asks for every part and for the one that passes over
what it cannot read. -/
def ReadBack (text : String) (j : Json) : Prop :=
  parse? text = some j ∧ parseLoosely? text = some j

/-- What is read wherever it may stand is read as a whole text, with white space after it. -/
theorem ReadBack.of_reads {text gap : String} {j : Json}
    (h : ∀ strict depth, Readable depth j → Reads strict depth j text.toList)
    (hreadable : Readable maxNesting j) (hgap : Blank gap.toList) : ReadBack (text ++ gap) j := by
  have hdeep : Readable (text ++ gap).length j := by
    refine (h true maxNesting hreadable).readable.of_le ?_
    rw [String.length_append, String.length_toList]
    exact Nat.le_add_right _ _
  constructor
  · rw [parse?, String.toList_append]
    exact (h true maxNesting hreadable).parseWithin? hgap
  · rw [parseLoosely?, String.toList_append]
    exact (h false _ hdeep).parseWithin? hgap

/-- **A text on one line is read back as the value that was written**, also with white space after
it. -/
theorem ReadBack.compact {j : Json} (h : Readable maxNesting j) {gap : String}
    (hgap : Blank gap.toList) : ReadBack (j.compact ++ gap) j :=
  .of_reads (fun _ _ => reads_compact) h hgap

/-- **So is a text with one part a line.** -/
theorem ReadBack.pretty {j : Json} (h : Readable maxNesting j) {gap : String}
    (hgap : Blank gap.toList) : ReadBack (j.pretty ++ gap) j :=
  .of_reads (fun _ _ hdepth => reads_prettyAt hdepth 0) h hgap

end SqlCompletion.Json
