import AccessControl.Text.Surrogate

/-!
# Sets of resource names

A finite set of names, held as its members in strictly rising order, so that two sets are equal
exactly when they have the same members. Names are ordered by code points.
-/
namespace AccessControl

/-- A name goes before another in the order of code points. -/
abbrev NameBefore (a b : String) : Prop :=
  Text.codePoints a.toList < Text.codePoints b.toList

theorem NameBefore.trans {a b c : String} (h : NameBefore a b) (h' : NameBefore b c) :
    NameBefore a c := List.lt_trans h h'

theorem NameBefore.irrefl (a : String) : ¬ NameBefore a a := List.lt_irrefl _

theorem NameBefore.of_not {a b : String} (h : ¬ NameBefore a b) (ne : a ≠ b) : NameBefore b a :=
  (List.le_iff_lt_or_eq.mp (List.not_lt.mp h)).resolve_right fun same =>
    ne (String.toList_inj.mp (Text.codePoints_injective same.symm))

/-- A finite set of resource names. -/
structure ResourceSet where
  names : List String
  rising : names.Pairwise NameBefore
  deriving DecidableEq

namespace ResourceSet

instance : Repr ResourceSet := ⟨fun s p => reprPrec s.names p⟩

/-- A name put at its place in a rising list. -/
def place (name : String) : List String → List String
  | [] => [name]
  | other :: rest =>
    if NameBefore name other then name :: other :: rest
    else if name = other then other :: rest
    else other :: place name rest

theorem mem_place {name x : String} {names : List String} :
    x ∈ place name names ↔ x = name ∨ x ∈ names := by
  induction names with
  | nil => simp [place]
  | cons other rest ih => grind [place]

theorem rising_place (name : String) {names : List String} (h : names.Pairwise NameBefore) :
    (place name names).Pairwise NameBefore := by
  induction names with
  | nil => simp [place]
  | cons other rest ih =>
    rw [List.pairwise_cons] at h
    rw [place]
    split
    · rename_i before
      refine List.pairwise_cons.mpr ⟨fun x hx => ?_, List.pairwise_cons.mpr h⟩
      rcases List.mem_cons.mp hx with rfl | hx
      · exact before
      · exact before.trans (h.1 x hx)
    · rename_i notBefore
      split
      · exact List.pairwise_cons.mpr h
      · rename_i ne
        refine List.pairwise_cons.mpr ⟨fun x hx => ?_, ih h.2⟩
        rcases mem_place.mp hx with rfl | hx
        · exact .of_not notBefore ne
        · exact h.1 x hx

def empty : ResourceSet := ⟨[], .nil⟩

def insert (name : String) (s : ResourceSet) : ResourceSet :=
  ⟨place name s.names, rising_place name s.rising⟩

def ofList (names : List String) : ResourceSet :=
  names.foldr insert empty

def union (s t : ResourceSet) : ResourceSet :=
  s.names.foldr insert t

def contains (s : ResourceSet) (name : String) : Bool :=
  s.names.contains name

def subset (s t : ResourceSet) : Bool :=
  s.names.all t.contains

def isEmpty (s : ResourceSet) : Bool :=
  s.names.isEmpty

instance : Membership String ResourceSet := ⟨fun s name => name ∈ s.names⟩

theorem mem_names {s : ResourceSet} {x : String} : x ∈ s.names ↔ x ∈ s := Iff.rfl

@[simp] theorem not_mem_empty (x : String) : ¬ x ∈ empty := List.not_mem_nil

@[simp] theorem mem_insert {name x : String} {s : ResourceSet} :
    x ∈ s.insert name ↔ x = name ∨ x ∈ s := mem_place

@[simp] theorem mem_ofList {names : List String} {x : String} : x ∈ ofList names ↔ x ∈ names := by
  induction names with
  | nil => simp [ofList]
  | cons name rest ih =>
    have step : ofList (name :: rest) = (ofList rest).insert name := rfl
    rw [step, mem_insert, ih, List.mem_cons]

@[simp] theorem mem_union {s t : ResourceSet} {x : String} : x ∈ s.union t ↔ x ∈ s ∨ x ∈ t := by
  have general : ∀ names : List String, x ∈ names.foldr insert t ↔ x ∈ names ∨ x ∈ t := by
    intro names
    induction names with
    | nil => simp
    | cons name rest ih => rw [List.foldr_cons, mem_insert, ih, List.mem_cons, or_assoc]
  exact general s.names

@[simp] theorem contains_iff {s : ResourceSet} {x : String} : s.contains x = true ↔ x ∈ s :=
  List.contains_iff_mem

theorem subset_iff {s t : ResourceSet} : s.subset t = true ↔ ∀ x ∈ s, x ∈ t := by
  simp [subset, List.all_eq_true, mem_names]

theorem isEmpty_iff {s : ResourceSet} : s.isEmpty = true ↔ ∀ x, x ∉ s :=
  List.isEmpty_iff.trans List.eq_nil_iff_forall_not_mem

/-- Sets with the same members are equal. -/
theorem ext {s t : ResourceSet} (h : ∀ x, x ∈ s ↔ x ∈ t) : s = t := by
  obtain ⟨xs, hx⟩ := s
  obtain ⟨ys, hy⟩ := t
  have same : ∀ x, x ∈ xs ↔ x ∈ ys := h
  congr
  clear h
  induction xs generalizing ys with
  | nil =>
    cases ys with
    | nil => rfl
    | cons y ys => exact absurd ((same y).mpr (by simp)) (by simp)
  | cons x xs ih =>
    cases ys with
    | nil => exact absurd ((same x).mp (by simp)) (by simp)
    | cons y ys =>
      rw [List.pairwise_cons] at hx hy
      have head : x = y := by
        have hxy := (same x).mp (by simp)
        have hyx := (same y).mpr (by simp)
        rcases List.mem_cons.mp hxy with e | hx'
        · exact e
        · rcases List.mem_cons.mp hyx with e | hy'
          · exact e.symm
          · exact absurd ((hx.1 y hy').trans (hy.1 x hx')) (NameBefore.irrefl _)
      subst head
      congr
      refine ih hx.2 ys hy.2 fun z => ⟨fun hz => ?_, fun hz => ?_⟩
      · rcases List.mem_cons.mp ((same z).mp (List.mem_cons_of_mem _ hz)) with rfl | hz'
        · exact absurd (hx.1 _ hz) (NameBefore.irrefl _)
        · exact hz'
      · rcases List.mem_cons.mp ((same z).mpr (List.mem_cons_of_mem _ hz)) with rfl | hz'
        · exact absurd (hy.1 _ hz) (NameBefore.irrefl _)
        · exact hz'

end ResourceSet

end AccessControl
