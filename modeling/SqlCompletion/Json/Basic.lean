/-!
# JSON values

Requests, schemas and answers are exchanged as JSON. Members of an object keep the order in which
they are written, repetitions included: whether a repeated key is an error is for the reader of the
value to say. Whole numbers are kept apart from numbers with a fraction or an exponent, which
nothing here accepts, and so are texts with an escape that stands for no character.
-/

namespace SqlCompletion

/-- A JSON value. -/
inductive Json where
  | null
  | bool (b : Bool)
  | int (n : Int)
  /-- A value that nothing here accepts, as it is written: a number with a fraction or an exponent,
  a negative zero, or a string or an object whose text cannot be read. -/
  | other (text : String)
  | string (s : String)
  | array (items : List Json)
  | object (members : List (String × Json))
  deriving Inhabited

namespace Json

/-- A whole number that is not negative. -/
def nat (n : Nat) : Json := .int n

/-- The members under a key, in order. -/
def valuesAt (members : List (String × Json)) (key : String) : List Json :=
  (members.filter (·.1 == key)).map (·.2)

/-- The last member under a key of an object. Nothing else has members. -/
def get? (key : String) : Json → Option Json
  | .object members => (valuesAt members key).getLast?
  | _ => none

/-- The text of a string. -/
def string? : Json → Option String
  | .string s => some s
  | _ => none

/-- The elements of an array. -/
def array? : Json → Option (List Json)
  | .array items => some items
  | _ => none

/-- The value of a boolean. -/
def bool? : Json → Option Bool
  | .bool b => some b
  | _ => none

/-- A whole number that fits in a 64-bit word without sign. -/
def word? : Json → Option Nat
  | .int n => if 0 ≤ n ∧ n < UInt64.size then some n.toNat else none
  | _ => none

theorem word?_nat {n : Nat} (h : n < UInt64.size) : (nat n).word? = some n := by
  have : (n : Int) < 18446744073709551616 := by
    simp only [UInt64.size] at h
    omega
  simp [nat, word?, this]

/-- Every element read by `f`, in order; one that cannot be read spoils the list. -/
def list? {α : Type} (f : Json → Option α) (j : Json) : Option (List α) :=
  j.array?.bind (·.mapM f)

/-! ## Repeated keys -/

mutual

/-- The value in which of members with equal keys only the last is left, at every depth. -/
def lastWins : Json → Json
  | .array items => .array (lastWinsItems items)
  | .object members => .object (lastWinsMembers members)
  | j => j

/-- The rule of `lastWins` for the elements of an array. -/
def lastWinsItems : List Json → List Json
  | [] => []
  | j :: rest => lastWins j :: lastWinsItems rest

/-- The rule of `lastWins` for the members of an object. -/
def lastWinsMembers : List (String × Json) → List (String × Json)
  | [] => []
  | (k, j) :: rest =>
    if rest.any (·.1 == k) then lastWinsMembers rest
    else (k, lastWins j) :: lastWinsMembers rest

end

/-! ## Records -/

/-- How the fields of a record are written: by name, or in order. -/
inductive Fields where
  | named (members : List (String × Json))
  | ordered (items : List (String × Json))

/-- The fields of a record with the given names. It is written as an object, in which unknown keys
are skipped and a known key stands once, or as an array of the fields in order, in which fields may
be left off at the end. -/
def record? (names : List String) : Json → Option Fields
  | .object members =>
    if names.all fun n => (valuesAt members n).length ≤ 1 then some (.named members) else none
  | .array items =>
    if items.length ≤ names.length then some (.ordered (names.zip items)) else none
  | _ => none

/-- The value of a field, if it is given. -/
def Fields.find? (fields : Fields) (name : String) : Option Json :=
  match fields with
  | .named members => (valuesAt members name).head?
  | .ordered items => (valuesAt items name).head?

/-- A field that must be given, read by `f`. -/
def Fields.required {α : Type} (fields : Fields) (name : String) (f : Json → Option α) : Option α :=
  (fields.find? name).bind f

/-- A field that has a default, read by `f` when it is given. -/
def Fields.withDefault {α : Type} (fields : Fields) (name : String) (default : α)
    (f : Json → Option α) : Option α :=
  match fields.find? name with
  | some j => f j
  | none => some default

/-- Reads `null` as an absent value. -/
def nullable {α : Type} (f : Json → Option α) : Json → Option (Option α)
  | .null => some none
  | j => (f j).map some

end Json

end SqlCompletion
