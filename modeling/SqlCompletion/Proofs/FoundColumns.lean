import Mathlib.Data.List.Forall2
import SqlCompletion.Sql.Expr

/-!
# The columns that are found in an expression

A name in an expression has a path: the numbers of the operands or arguments on the way to it. The
columns of an expression are the names at certain paths, from left to right, each of them once.
Which paths these are depends on the expressions above: a name below a form that is not searched is
passed over.

* `mem_foundPaths_iff`: the paths at which a column is found.
* `pairwise_foundPaths`: they are listed from left to right.
* `columnRefs_toExpression`: the columns of an expression are those at these paths.
-/

namespace SqlCompletion.Sql.Expr

/-! ## Paths -/

/-- The expressions right below an expression. -/
def children : Expr → List Expr
  | .name _ => []
  | .call _ arguments _ => arguments
  | .compound _ operands _ => operands

/-- Columns are looked for in the expressions right below an expression. -/
def isSearched : Expr → Bool
  | .compound form _ _ => form.isSearched
  | _ => true

/-- The expression at a path. -/
def at? : Expr → List Nat → Option Expr
  | e, [] => some e
  | e, i :: path => e.children[i]?.bind fun child => child.at? path

/-- A name stands at the path. -/
def NamedAt (e : Expr) (path : List Nat) : Prop :=
  ∃ parts, parts ≠ [] ∧ e.at? path = some (.name parts)

/-- Columns are looked for below every expression on the way to the path. -/
def Reaches (e : Expr) (path : List Nat) : Prop :=
  ∀ above, above <+: path → above ≠ path → ∀ e', e.at? above = some e' → e'.isSearched = true

/-- The name at the path refers to the column. -/
def RefersAt (e : Expr) (path : List Nat) (r : ColumnRef) : Prop :=
  ∃ parts, e.at? path = some (.name parts) ∧ columnRef? parts = some r

@[simp] theorem at?_nil (e : Expr) : e.at? [] = some e := by
  cases e <;> rfl

@[simp] theorem at?_cons (e : Expr) (i : Nat) (path : List Nat) :
    e.at? (i :: path) = e.children[i]?.bind fun child => child.at? path := by
  cases e <;> rfl

theorem reaches_nil (e : Expr) : e.Reaches [] :=
  fun _ habove hne => absurd (List.prefix_nil.mp habove) hne

theorem reaches_cons {e child : Expr} {i : Nat} {path : List Nat}
    (hchild : e.children[i]? = some child) :
    e.Reaches (i :: path) ↔ e.isSearched = true ∧ child.Reaches path := by
  constructor
  · intro h
    refine ⟨h [] List.nil_prefix (by simp) e (at?_nil e), fun above habove hne e' he' => ?_⟩
    refine h (i :: above) ((List.prefix_cons_inj i).mpr habove) (by simpa using hne) e' ?_
    rw [at?_cons, hchild]
    exact he'
  · rintro ⟨hsearched, h⟩ above habove hne e' he'
    cases above with
    | nil =>
      rw [at?_nil] at he'
      cases he'
      exact hsearched
    | cons j above =>
      obtain ⟨rfl, hprefix⟩ := List.cons_prefix_cons.mp habove
      rw [at?_cons, hchild] at he'
      exact h above hprefix (by simpa using hne) e' he'

/-! ## The paths to the columns -/

mutual

/-- The paths at which a column is found. -/
def foundPaths : Expr → List (List Nat)
  | .name parts => if parts.isEmpty then [] else [[]]
  | .call _ arguments _ => foundPathsFrom 0 arguments
  | .compound form operands _ => if form.isSearched then foundPathsFrom 0 operands else []

/-- The paths at which a column is found in expressions, the first of which has the number `i`. -/
def foundPathsFrom (i : Nat) : List Expr → List (List Nat)
  | [] => []
  | e :: rest => e.foundPaths.map (i :: ·) ++ foundPathsFrom (i + 1) rest

end

theorem sizeOf_lt_of_mem_children {e child : Expr} (h : child ∈ e.children) :
    sizeOf child < sizeOf e := by
  cases e with
  | name parts => cases h
  | call f arguments rest =>
    have hlt : sizeOf child < sizeOf arguments := List.sizeOf_lt_of_mem h
    simp only [call.sizeOf_spec]
    omega
  | compound form operands extent =>
    have hlt : sizeOf child < sizeOf operands := List.sizeOf_lt_of_mem h
    simp only [compound.sizeOf_spec]
    omega

/-- Induction on an expression: a name, or another expression with all that is right below it. -/
@[elab_as_elim]
theorem children_induction {motive : Expr → Prop} (name : ∀ parts, motive (.name parts))
    (parent : ∀ e, (∀ parts, e ≠ .name parts) → (∀ child ∈ e.children, motive child) → motive e) :
    ∀ e, motive e
  | .name parts => name parts
  | .call _ _ _ =>
    parent _ (fun _ h => by cases h) fun child _ => children_induction name parent child
  | .compound _ _ _ =>
    parent _ (fun _ h => by cases h) fun child _ => children_induction name parent child
  termination_by e => sizeOf e
  decreasing_by all_goals exact sizeOf_lt_of_mem_children ‹_›

theorem foundPaths_eq {e : Expr} (h : ∀ parts, e ≠ .name parts) :
    e.foundPaths = if e.isSearched then foundPathsFrom 0 e.children else [] := by
  cases e with
  | name parts => exact absurd rfl (h parts)
  | call f arguments rest => rw [foundPaths]; rfl
  | compound form operands extent => rw [foundPaths]; rfl

theorem columnRefs_eq {e : Expr} (h : ∀ parts, e ≠ .name parts) :
    e.columnRefs = if e.isSearched then columnRefsAll e.children else [] := by
  cases e with
  | name parts => exact absurd rfl (h parts)
  | call f arguments rest => rw [columnRefs]; rfl
  | compound form operands extent => rw [columnRefs]; rfl

theorem mem_foundPathsFrom_iff {i : Nat} {es : List Expr} {path : List Nat} :
    path ∈ foundPathsFrom i es ↔
      ∃ k child rest, path = (i + k) :: rest ∧ es[k]? = some child ∧ rest ∈ child.foundPaths := by
  induction es generalizing i with
  | nil => simp [foundPathsFrom]
  | cons e es ih =>
    rw [foundPathsFrom, List.mem_append, List.mem_map, ih]
    constructor
    · rintro (⟨rest, hrest, rfl⟩ | ⟨k, child, rest, rfl, hchild, hrest⟩)
      · exact ⟨0, e, rest, rfl, rfl, hrest⟩
      · exact ⟨k + 1, child, rest, by rw [Nat.add_right_comm, Nat.add_assoc], hchild, hrest⟩
    · rintro ⟨k, child, rest, rfl, hchild, hrest⟩
      cases k with
      | zero =>
        obtain rfl : e = child := by simpa using hchild
        exact Or.inl ⟨rest, hrest, rfl⟩
      | succ k =>
        refine Or.inr ⟨k, child, rest, ?_, by simpa using hchild, hrest⟩
        rw [Nat.add_right_comm, Nat.add_assoc]

/-- **A column is found at a path if a name stands there and every expression above is
searched.** -/
theorem mem_foundPaths_iff {e : Expr} {path : List Nat} :
    path ∈ e.foundPaths ↔ e.NamedAt path ∧ e.Reaches path := by
  induction e using children_induction generalizing path with
  | name parts =>
    cases path with
    | nil => simp [foundPaths, NamedAt, reaches_nil]
    | cons i path => simp [foundPaths, NamedAt, children]
  | parent e hname ih =>
    cases path with
    | nil =>
      -- the expression is no name, and no path in the list is empty
      have hnot : ¬e.NamedAt [] := fun ⟨parts, _, h⟩ => hname parts (Option.some.inj h)
      rw [foundPaths_eq hname]
      split
      · simp [mem_foundPathsFrom_iff, hnot]
      · simp [hnot]
    | cons i path =>
      cases hchild : e.children[i]? with
      | none =>
        have hnot : ¬e.NamedAt (i :: path) := by
          rintro ⟨parts, _, h⟩
          rw [at?_cons, hchild] at h
          cases h
        rw [foundPaths_eq hname]
        split
        · simp [mem_foundPathsFrom_iff, hchild, hnot]
        · simp [hnot]
      | some child =>
        have hnamed : e.NamedAt (i :: path) ↔ child.NamedAt path := by
          simp [NamedAt, hchild]
        rw [foundPaths_eq hname, hnamed, reaches_cons hchild, and_left_comm,
          ← ih child (List.mem_of_getElem? hchild)]
        split
        · next hsearched => simp [mem_foundPathsFrom_iff, hchild, hsearched]
        · next hsearched => simp [hsearched]

theorem pairwise_foundPathsFrom {i : Nat} {es : List Expr}
    (h : ∀ e ∈ es, e.foundPaths.Pairwise (· < ·)) : (foundPathsFrom i es).Pairwise (· < ·) := by
  induction es generalizing i with
  | nil => exact List.Pairwise.nil
  | cons e es ih =>
    obtain ⟨he, hes⟩ := List.forall_mem_cons.mp h
    rw [foundPathsFrom, List.pairwise_append]
    refine ⟨?_, ih hes, ?_⟩
    · rw [List.pairwise_map]
      exact he.imp fun hlt => List.cons_lt_cons_iff.mpr (Or.inr ⟨rfl, hlt⟩)
    · rintro path hpath later hlater
      obtain ⟨rest, -, rfl⟩ := List.mem_map.mp hpath
      obtain ⟨k, -, rest', rfl, -⟩ := mem_foundPathsFrom_iff.mp hlater
      exact List.cons_lt_cons_iff.mpr (Or.inl (by omega))

/-- **The paths are listed from left to right, each of them once.** -/
theorem pairwise_foundPaths (e : Expr) : e.foundPaths.Pairwise (· < ·) := by
  induction e using children_induction with
  | name parts =>
    rw [foundPaths]
    split
    · exact List.Pairwise.nil
    · exact List.pairwise_singleton _ _
  | parent e hname ih =>
    rw [foundPaths_eq hname]
    split
    · exact pairwise_foundPathsFrom ih
    · exact List.Pairwise.nil

theorem forall₂_foundPathsFrom {i : Nat} {es : List Expr}
    (h : ∀ e ∈ es, List.Forall₂ e.RefersAt e.foundPaths e.columnRefs) :
    List.Forall₂
      (fun path r => ∃ k child rest, path = (i + k) :: rest ∧ es[k]? = some child ∧
        child.RefersAt rest r)
      (foundPathsFrom i es) (columnRefsAll es) := by
  induction es generalizing i with
  | nil => exact List.Forall₂.nil
  | cons e es ih =>
    obtain ⟨he, hes⟩ := List.forall_mem_cons.mp h
    rw [foundPathsFrom, columnRefsAll]
    refine List.rel_append ?_ ?_
    · rw [List.forall₂_map_left_iff]
      exact he.imp fun rest r hr => ⟨0, e, rest, rfl, rfl, hr⟩
    · refine (ih hes).imp ?_
      rintro path r ⟨k, child, rest, rfl, hchild, hr⟩
      exact ⟨k + 1, child, rest, by rw [Nat.add_right_comm, Nat.add_assoc], hchild, hr⟩

theorem exists_columnRef? {parts : List Ident} (h : parts ≠ []) :
    ∃ r, columnRef? parts = some r := by
  unfold columnRef?
  split
  · next hnil => exact absurd (List.reverse_eq_nil_iff.mp hnil) h
  · exact ⟨_, rfl⟩

/-- The columns of an expression are those that the names at the paths refer to. -/
theorem forall₂_foundPaths (e : Expr) :
    List.Forall₂ e.RefersAt e.foundPaths e.columnRefs := by
  induction e using children_induction with
  | name parts =>
    by_cases hparts : parts = []
    · subst hparts
      exact List.Forall₂.nil
    · obtain ⟨r, hr⟩ := exists_columnRef? hparts
      rw [foundPaths, columnRefs, if_neg (by simpa using hparts), hr]
      exact List.Forall₂.cons ⟨parts, at?_nil _, hr⟩ List.Forall₂.nil
  | parent e hname ih =>
    rw [foundPaths_eq hname, columnRefs_eq hname]
    split
    · refine (forall₂_foundPathsFrom ih).imp ?_
      rintro path r ⟨k, child, rest, rfl, hchild, parts, hat, hr⟩
      refine ⟨parts, ?_, hr⟩
      rw [Nat.zero_add, at?_cons, hchild]
      exact hat
    · exact List.Forall₂.nil

theorem columnRefs_toExpression_eq (e : Expr) : e.toExpression.columnRefs = e.columnRefs := by
  cases e with
  | name parts =>
    rw [toExpression, columnRefs]
    cases hr : columnRef? parts with
    | none => rfl
    | some r => rfl
  | call f arguments rest => rfl
  | compound form operands extent => rfl

/-- **The columns of an expression are the names that every expression above is searched for.** Each
is listed once, from left to right. -/
theorem columnRefs_toExpression (e : Expr) :
    ∃ paths : List (List Nat), paths.Pairwise (· < ·) ∧
      (∀ path, path ∈ paths ↔ e.NamedAt path ∧ e.Reaches path) ∧
      List.Forall₂ e.RefersAt paths e.toExpression.columnRefs := by
  refine ⟨e.foundPaths, pairwise_foundPaths e, fun path => mem_foundPaths_iff, ?_⟩
  rw [columnRefs_toExpression_eq]
  exact forall₂_foundPaths e

/-- A name below `IS TRUE` is found; below `IS NOT TRUE`, which is not searched, it is passed over. -/
theorem columnRefs_toExpression_is_not_true :
    let tested : Expr := .name [⟨"b", none, .none⟩]
    (of .isTrue [tested]).toExpression.columnRefs = [⟨none, "b", .none⟩] ∧
      (of .isNotTrue [tested]).NamedAt [0] ∧
      (of .isNotTrue [tested]).toExpression.columnRefs = [] := by
  intro tested
  refine ⟨by decide, ⟨_, by decide, rfl⟩, ?_⟩
  obtain ⟨paths, -, hmem, hrefs⟩ := columnRefs_toExpression (of .isNotTrue [tested])
  have hnone : paths = [] := by
    refine List.eq_nil_iff_forall_not_mem.mpr fun path hpath => ?_
    obtain ⟨⟨parts, -, hat⟩, hreaches⟩ := (hmem path).mp hpath
    cases path with
    | nil => cases hat
    | cons i path =>
      have hsearched := hreaches [] List.nil_prefix (by simp) _ (at?_nil _)
      exact absurd hsearched (by decide)
  rw [hnone] at hrefs
  exact List.forall₂_nil_left_iff.mp hrefs

end SqlCompletion.Sql.Expr
