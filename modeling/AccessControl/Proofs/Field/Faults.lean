import AccessControl.Proofs.Field.Checked
import AccessControl.Proofs.Steps

/-!
# Faults of fields

A check that refuses a value names a fault, so a value without faults fits. `Checked.Tells` says so of
one checked value; every way of putting checked values together keeps it, and every check of a field
has it.
-/
namespace AccessControl

namespace Checked

variable {α β : Type}

/-- The value fits, or there is a fault. -/
def Tells (x : Checked α) : Prop := x ≠ .error []

theorem Tells.errors_eq_nil_iff {x : Checked α} (tells : x.Tells) :
    x.errors = [] ↔ ∃ a, x = .ok a := by
  cases x with
  | ok a => exact iff_of_true rfl ⟨a, rfl⟩
  | error es =>
    refine iff_of_false (fun silent => tells (congrArg Except.error silent)) ?_
    rintro ⟨a, fits⟩
    cases fits

theorem tells_ok (a : α) : Tells (.ok a) := nofun

theorem tells_fault (f : FieldFault) : Tells (fault f : Checked α) := nofun

theorem Tells.under {x : Checked α} (tells : x.Tells) (step : PlaceStep) : (x.under step).Tells := by
  cases x with
  | ok a => exact tells_ok a
  | error es =>
    intro silent
    rw [Checked.under, Except.error.injEq, List.map_eq_nil_iff] at silent
    exact tells (congrArg Except.error silent)

theorem head?_place_of_mem_under {x : Checked α} {step : PlaceStep} {e : FieldError}
    (listed : e ∈ (x.under step).errors) : e.place.head? = some step := by
  cases x with
  | ok a => exact absurd listed List.not_mem_nil
  | error es =>
    obtain ⟨inner, -, rfl⟩ := List.mem_map.mp listed
    rfl

theorem Tells.bind {x : Checked α} {next : α → Checked β} (tells : x.Tells)
    (later : ∀ a, (next a).Tells) : Tells (x >>= next) := by
  intro silent
  obtain refused | ⟨a, -, refused⟩ := bind_eq_error_iff.mp silent
  · exact tells refused
  · exact later a refused

theorem Tells.both {x : Checked α} {y : Checked β} (tells : x.Tells) (others : y.Tells) :
    (x.both y).Tells := by
  cases x with
  | ok a =>
    cases y with
    | ok b => exact tells_ok (a, b)
    | error es => exact fun silent => others (congrArg Except.error (Except.error.inj silent))
  | error es =>
    intro silent
    exact tells (congrArg Except.error (List.append_eq_nil_iff.mp (Except.error.inj silent)).1)

theorem tells_all {xs : List (Checked α)} (tells : ∀ x ∈ xs, x.Tells) : Tells (all xs) := by
  induction xs with
  | nil => exact tells_ok []
  | cons x rest ih =>
    obtain ⟨first, others⟩ := List.forall_mem_cons.mp tells
    have both := first.both (ih others)
    rw [all]
    cases pair : x.both (all rest) with
    | ok values => exact tells_ok _
    | error es =>
      rw [pair] at both
      exact fun silent => both (congrArg Except.error (Except.error.inj silent))

end Checked

namespace Field

open Checked

variable {α : Type}

theorem tells_text (value : Json) : Tells (text value) := by
  cases value with
  | str s => exact tells_ok s
  | _ => exact tells_fault _

theorem tells_attempt (outcome : Except FieldFault α) : Tells (attempt outcome) := by
  cases outcome with
  | ok a => exact tells_ok a
  | error f => exact tells_fault f

theorem tells_spelled {read : String → Checked α} (tells : ∀ s, (read s).Tells) (s : String) :
    Tells (spelled read s) := by
  rw [spelled]
  split
  · exact tells s
  · exact tells_fault _

theorem tells_whole (value : Json) : Tells (whole value) := by
  cases value with
  | int n => exact tells_ok n
  | bool b => exact tells_ok _
  | float x => exact tells_attempt _
  | str s => exact tells_spelled (fun s => tells_attempt _) s
  | _ => exact tells_fault _

theorem tells_truthOfNumber (n : Int) : Tells (truthOfNumber n) := by
  unfold truthOfNumber
  split_ifs
  · exact tells_ok _
  · exact tells_ok _
  · exact tells_fault _
  · exact tells_fault _

theorem tells_truthOfWord (s : String) : Tells (truthOfWord s) := by
  unfold truthOfWord
  dsimp only
  split_ifs
  · exact tells_ok _
  · exact tells_ok _
  · exact tells_fault _

theorem tells_truth (value : Json) : Tells (truth value) := by
  cases value with
  | bool b => exact tells_ok b
  | int n => exact tells_truthOfNumber n
  | float x =>
    rw [truth]
    cases wholeOfFloat x with
    | ok n => exact tells_truthOfNumber n
    | error f => exact tells_fault _
  | str s => exact tells_spelled tells_truthOfWord s
  | _ => exact tells_fault _

theorem tells_word (find? : String → Option α) (value : Json) : Tells (word find? value) := by
  cases value with
  | str s =>
    rw [word]
    refine tells_spelled (fun s => ?_) s
    cases find? s with
    | some a => exact tells_ok a
    | none => exact tells_fault _
  | _ => exact tells_fault _

theorem tells_of_mem_itemsFrom {item : Json → Checked α} (tells : ∀ value, (item value).Tells)
    {index : Nat} {values : List Json} {x : Checked α} (listed : x ∈ itemsFrom item index values) :
    x.Tells := by
  induction values generalizing index with
  | nil => exact absurd listed List.not_mem_nil
  | cons value rest ih =>
    rw [itemsFrom, List.mem_cons] at listed
    obtain rfl | later := listed
    · exact (tells value).under _
    · exact ih later

theorem tells_list {item : Json → Checked α} (tells : ∀ value, (item value).Tells) (value : Json) :
    Tells (list item value) := by
  cases value with
  | arr values => exact tells_all fun x listed => tells_of_mem_itemsFrom tells listed
  | _ => exact tells_fault _

end Field

end AccessControl
