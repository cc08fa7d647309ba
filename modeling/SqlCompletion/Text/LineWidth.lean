import SqlCompletion.Text.Emoji
import SqlCompletion.Text.Width

/-!
# Width of a line

A line takes the columns of its characters, but some characters are drawn together with what follows
them and take fewer or more columns than by themselves: a pictograph with a skin tone, pictographs
that are joined into one, the letters that some scripts draw as one. A line is read from its end,
and what follows a character is kept only as far as it decides the character's width.
-/

namespace SqlCompletion.Text

/-! ## What follows a character -/

/-- What stands after a character. -/
inductive Follower where
  | other
  | lineFeed
  | pictograph
  | skinTone
  /-- A joiner and a pictograph. -/
  | joinedPictograph
  /-- The frame of a key, a joiner and a pictograph. -/
  | joinedKey
  /-- A regional indicator, or more than one: two of them are a flag. -/
  | indicator | indicators
  /-- Regional indicators before a joiner and a pictograph: one, an even number, an odd number. -/
  | joinedIndicator | evenIndicators | oddIndicators
  /-- The last letters or digits of a flag that is written with tags, before a joiner and a
  pictograph. -/
  | tagLetters (count : Nat) | tagDigits (count : Nat)
  /-- An Arabic alef. -/
  | alef
  /-- A Hebrew lamed. -/
  | lamed
  /-- A Khmer letter that can be written below another. -/
  | khmer
  /-- The letter ya of Buginese, alone or after a vowel sign. -/
  | ya | vowelYa
  /-- A Tifinagh consonant, alone or after the sign that joins two. -/
  | consonant | joinedConsonant
  /-- The second part of a Lisu tone. -/
  | tone
  /-- The Old Turkic letter i. -/
  | turkicI
  /-- Vowel signs of Kirat Rai, which are written with one or more characters. -/
  | vowelE | vowelAi
  deriving DecidableEq

/-- How the character before a mark asks to be drawn. -/
inductive Style where
  | plain
  | text
  | picture
  | full
  deriving DecidableEq

/-- What follows a character: a follower, whether a joiner stands in between, and the mark right
after the character. -/
structure Context where
  follower : Follower := .other
  joined : Bool := false
  style : Style := .plain
  deriving DecidableEq

/-- Letters that marks and joiners do not keep from being drawn together with what stands before
them. -/
def Follower.isLetter : Follower → Bool
  | .lamed | .khmer | .ya | .vowelYa | .consonant | .joinedConsonant | .tone | .turkicI => true
  | _ => false

/-- Followers that a mark does not make irrelevant. -/
def Follower.outlastsMarks (f : Follower) : Bool :=
  f.isLetter || f = .alef

/-- Pictographs that wait for one to join them. -/
def Follower.isJoined (f : Follower) : Bool :=
  f = .joinedPictograph || f = .joinedKey

/-- The context before a mark. -/
def Context.marked (x : Context) (style : Style) : Context :=
  if x.follower.outlastsMarks || (style = .picture && x.follower.isJoined) then { x with style }
  else { style }

/-- The context without its mark. -/
def Context.unmarked (x : Context) : Context :=
  if x.style = .plain then x
  else if x.follower.outlastsMarks then { x with style := .plain }
  else {}

/-! ## Characters -/

/-- The ranges of characters without a width that interrupt an Arabic word, in increasing order. -/
def interruptingRanges : List (Nat × Nat) :=
  [
    (0x605, 0x605), (0x890, 0x891), (0x8e2, 0x8e2), (0x9be, 0x9be), (0x9d7, 0x9d7), (0xb3e, 0xb3e),
    (0xb57, 0xb57), (0xbbe, 0xbbe), (0xbd7, 0xbd7), (0xcc0, 0xcc0), (0xcc2, 0xcc2), (0xcc7, 0xcc8),
    (0xcca, 0xccb), (0xcd5, 0xcd6), (0xd3e, 0xd3e), (0xd4e, 0xd4e), (0xd57, 0xd57), (0xdcf, 0xdcf),
    (0xddf, 0xddf), (0x1160, 0x11ff), (0x1715, 0x1715), (0x1734, 0x1734), (0x180e, 0x180e),
    (0x1b35, 0x1b35), (0x1b3b, 0x1b3b), (0x1b3d, 0x1b3d), (0x1b43, 0x1b44), (0x1baa, 0x1baa),
    (0x1bf2, 0x1bf3), (0x200c, 0x200d), (0x2065, 0x2069), (0x302e, 0x302f), (0x3164, 0x3164),
    (0xa8fa, 0xa8fa), (0xa953, 0xa953), (0xa9c0, 0xa9c0), (0xd7b0, 0xd7c6), (0xd7cb, 0xd7fb),
    (0xffa0, 0xffa0), (0xfff0, 0xfff8), (0x111c0, 0x111c0), (0x111c2, 0x111c3), (0x11235, 0x11235),
    (0x1133e, 0x1133e), (0x1134d, 0x1134d), (0x11357, 0x11357), (0x113b8, 0x113b8),
    (0x113c2, 0x113c2), (0x113c5, 0x113c5), (0x113c7, 0x113c9), (0x113cf, 0x113cf),
    (0x113d1, 0x113d1), (0x114b0, 0x114b0), (0x114bd, 0x114bd), (0x115af, 0x115af),
    (0x116b6, 0x116b6), (0x11930, 0x11930), (0x1193d, 0x1193d), (0x1193f, 0x1193f),
    (0x11941, 0x11941), (0x11a3a, 0x11a3a), (0x11a84, 0x11a89), (0x11d46, 0x11d46),
    (0x11f02, 0x11f02), (0x11f41, 0x11f41), (0x16ff0, 0x16ff1), (0x1d165, 0x1d166),
    (0x1d16d, 0x1d172), (0xe0000, 0xe0000), (0xe0002, 0xe001f), (0xe0080, 0xe00ff),
    (0xe01f0, 0xe0fff)
  ]

/-- The Khmer letters that can be written below another. -/
def khmerRanges : List (Nat × Nat) :=
  [(0x1780, 0x1782), (0x1784, 0x1787), (0x1789, 0x178c), (0x178e, 0x1793), (0x1795, 0x1798),
    (0x179b, 0x179d), (0x17a0, 0x17a0), (0x17a2, 0x17a2), (0x17a7, 0x17a7), (0x17ab, 0x17ac),
    (0x17af, 0x17af)]

/-- The forms of the Arabic alef. -/
def alefRanges : List (Nat × Nat) :=
  [(0x622, 0x623), (0x625, 0x625), (0x627, 0x627), (0x671, 0x673), (0x675, 0x675),
    (0x773, 0x774), (0x870, 0x882)]

/-- The forms of the Arabic lam. -/
def lamRanges : List (Nat × Nat) :=
  [(0x644, 0x644), (0x6b5, 0x6b8), (0x76a, 0x76a), (0x8a6, 0x8a6), (0x8c7, 0x8c7)]

/-- Marks that are never drawn and do not part letters. -/
def hiddenMarkRanges : List (Nat × Nat) :=
  [(0x34f, 0x34f), (0x17b4, 0x17b5), (0x180b, 0x180d), (0x180f, 0x180f), (0x200d, 0x200d),
    (0xfe00, 0xfe0f), (0xe0100, 0xe01ef)]

/-- A regional indicator. -/
def isIndicator (c : Char) : Bool :=
  0x1f1e6 ≤ c.toNat && c.toNat ≤ 0x1f1ff

/-- A letter as a tag. -/
def isTagLetter (c : Char) : Bool :=
  0xe0061 ≤ c.toNat && c.toNat ≤ 0xe007a

/-- A digit as a tag. -/
def isTagDigit (c : Char) : Bool :=
  0xe0030 ≤ c.toNat && c.toNat ≤ 0xe0039

/-- The black flag, which tags turn into the flag of a region. -/
def isBlackFlag (c : Char) : Bool :=
  c.toNat = 0x1f3f4

/-- A Tifinagh consonant. -/
def isTifinagh (c : Char) : Bool :=
  (0x2d31 ≤ c.toNat && c.toNat ≤ 0x2d65) || c.toNat = 0x2d6f

/-- What a character is to the one before it. -/
def Follower.of (c : Char) : Follower :=
  if isPictograph c then .pictograph
  else if isSkinTone c then .skinTone
  else if isIndicator c then .indicator
  else if inRanges alefRanges c then .alef
  else if inRanges khmerRanges c then .khmer
  else if isTifinagh c then .consonant
  else
    match c.toNat with
    | 0x0a => .lineFeed
    | 0x5dc => .lamed
    | 0x1a10 => .ya
    | 0xa4fc | 0xa4fd => .tone
    | 0x10c03 => .turkicI
    | 0x16d67 => .vowelE
    | 0x16d68 => .vowelAi
    | _ => .other

/-! ## Widths -/

/-- The width of a character that is drawn together with a letter after it, and what the two are to
the character before them. -/
def letterWidth? (f : Follower) (joined : Bool) (c : Char) : Option (Int × Follower) :=
  match f with
  | .alef =>
    if inRanges lamRanges c then some (0, .other)
    else if isZeroWidth c && !inRanges interruptingRanges c then some (0, .alef)
    else none
  | .lamed => if joined && c.toNat = 0x5d0 then some (0, .other) else none
  | .khmer => if c.toNat = 0x17d2 then some (-1, .other) else none
  | .ya => if joined && c.toNat = 0x1a17 then some (0, .vowelYa) else none
  | .vowelYa => if c.toNat = 0x1a15 then some (0, .other) else none
  | .consonant =>
    if c.toNat = 0x2d7f then some (1, .joinedConsonant)
    else if joined && isTifinagh c then some (0, .other)
    else none
  | .joinedConsonant => if isTifinagh c then some (-1, .other) else none
  | .tone => if 0xa4f8 ≤ c.toNat && c.toNat ≤ 0xa4fb then some (0, .other) else none
  | .turkicI => if joined && c.toNat = 0x10c32 then some (0, .other) else none
  | .vowelE =>
    match c.toNat with
    | 0x16d63 | 0x16d69 => some (0, .other)
    | 0x16d67 => some (0, .vowelAi)
    | 0x16d68 => some (1, .vowelE)
    | _ => none
  | .vowelAi => if c.toNat = 0x16d63 then some (0, .other) else none
  | _ => none

/-- The width of a regional indicator before others, and what they are to the character before
them. -/
def flagWidth? (f : Follower) (c : Char) : Option (Int × Follower) :=
  if isIndicator c then
    match f with
    | .indicator | .indicators => some (1, .indicators)
    | .joinedPictograph => some (1, .joinedIndicator)
    | .joinedIndicator | .oddIndicators => some (-1, .evenIndicators)
    | .evenIndicators => some (3, .oddIndicators)
    | _ => none
  else none

/-- What a tag and the tags after it are to the character before them. The tags of a flag are three
to six letters, or some letters and three digits. -/
def tagFollower? (f : Follower) (c : Char) : Option Follower :=
  match f with
  | .joinedPictograph => if c.toNat = 0xe007f then some (.tagLetters 0) else none
  | .tagLetters n =>
    if n < 6 && isTagLetter c then some (.tagLetters (n + 1))
    else if n < 5 && isTagDigit c then some (.tagDigits 1)
    else if 3 ≤ n && isBlackFlag c then some .pictograph
    else none
  | .tagDigits n =>
    if n < 3 && isTagDigit c then some (.tagDigits (n + 1))
    else if n = 3 && isBlackFlag c then some .pictograph
    else none
  | _ => none

/-- What a character and the pictograph after it, which are drawn as one, are to the character
before them. -/
def pictureFollower? (f : Follower) (c : Char) : Option Follower :=
  match f with
  | .skinTone =>
    if takesSkinTone c then some .pictograph
    else if c = '\u200d' then some .joinedPictograph
    else none
  | .pictograph | .indicators | .evenIndicators | .oddIndicators =>
    if c = '\u200d' then some .joinedPictograph else none
  | .joinedPictograph =>
    if c = '\u20e3' then some .joinedKey
    else if isSkinTone c then some .skinTone
    else if isPictograph c then some .pictograph
    else none
  | _ => none

/-- The width of a character that is drawn together with what follows it, and what the two are to
the character before them. -/
def joinedWidth? (x : Context) (c : Char) : Option (Int × Follower) :=
  letterWidth? x.follower x.joined c <|> flagWidth? x.follower c <|>
    ((tagFollower? x.follower c <|> pictureFollower? x.follower c).map fun f => (0, f))

/-- The width of a character and what it is to the character before it, where no mark follows. -/
def plainWidth (x : Context) (c : Char) : Int × Context :=
  if x.follower.isLetter && c = '\u200d' then (0, { x with joined := true })
  else if x.follower.isLetter && inRanges hiddenMarkRanges c then (0, x)
  else
    match joinedWidth? x c with
    | some (n, follower) => (n, { follower })
    | none =>
      if c = '\r' && x.follower = .lineFeed then (0, {})
      else (charWidth c, { follower := .of c })

/-- A quotation mark that can be drawn with the width of an ideograph. -/
def isQuotationMark (c : Char) : Bool :=
  [0x2018, 0x2019, 0x201c, 0x201d].contains c.toNat

/-- The width of a character before the given context, and the context of the character before
it. -/
def step (x : Context) (c : Char) : Int × Context :=
  if x.style = .picture && takesStyle c then
    (if x.follower.isJoined then 0 else 2, { follower := .pictograph })
  else if c = '\ufe0f' then (0, x.unmarked.marked .picture)
  else if c = '\ufe0e' then (0, x.unmarked.marked .text)
  else if c = '\ufe01' then (0, x.unmarked.marked .full)
  else if x.style = .text && isNarrowAsText c then (1, {})
  else if x.style = .full && isQuotationMark c then (2, {})
  else plainWidth x.unmarked c

/-- The number of terminal columns a line takes. -/
def width (line : List Char) : Nat :=
  let (n, _) := line.foldr
    (fun c (n, x) =>
      let (k, x) := step x c
      (n + k, x))
    ((0 : Int), ({} : Context))
  n.toNat

end SqlCompletion.Text
