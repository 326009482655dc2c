import AccessControl.Proofs.Permission.Spelling
import AccessControl.Report.Object

/-!
# Fields that fit

When checked values are there, for each way of putting them together, and when a check is the
inverse of a writer. `Field.Reads check write value` says so at one value: the check takes it exactly
as what it was written from, and refuses it when there is no such thing.

* `Checked.both_eq_ok_iff`, `Checked.all_cons_eq_ok_iff`, `Checked.under_eq_ok_iff`: values put
  together are there when all of them are;
* `Field.reads_text`, `Field.reads_list`, `Field.reads_nullable`, `Field.reads_word`: what the
  checks of texts, lists, values or null, and words read.
-/
namespace AccessControl

namespace Checked

variable {α β : Type}

theorem map_eq_ok_iff {x : Checked α} {f : α → β} {b : β} :
    x.map f = .ok b ↔ ∃ a, x = .ok a ∧ f a = b := by
  cases x <;> simp [Except.map]

/-- A value that is only put into another form. -/
theorem map_eq_ok_iff_of_inverse {x : Checked α} {f : α → β} (g : β → α) (back : ∀ a, g (f a) = a)
    (forth : ∀ b, f (g b) = b) {b : β} : x.map f = .ok b ↔ x = .ok (g b) := by
  rw [map_eq_ok_iff]
  constructor
  · rintro ⟨a, rfl, rfl⟩
    rw [back]
  · intro found
    exact ⟨g b, found, forth b⟩

theorem both_eq_ok_iff {x : Checked α} {y : Checked β} {a : α} {b : β} :
    x.both y = .ok (a, b) ↔ x = .ok a ∧ y = .ok b := by
  cases x <;> cases y <;> simp [both]

theorem under_eq_ok_iff {step : PlaceStep} {x : Checked α} {a : α} :
    x.under step = .ok a ↔ x = .ok a := by
  cases x <;> simp [under]

theorem all_cons_eq_ok_iff {x : Checked α} {rest : List (Checked α)} {values : List α} :
    all (x :: rest) = .ok values ↔
      ∃ value later, x = .ok value ∧ all rest = .ok later ∧ value :: later = values := by
  rw [all]
  cases x <;> cases all rest <;> simp [both]

end Checked

namespace Field

variable {α : Type}

/-- At the value the check is the inverse of the writer. -/
def Reads (check : Json → Checked α) (write : α → Json) (value : Json) : Prop :=
  ∀ a, check value = .ok a ↔ value = write a

theorem Reads.eq_ok_iff {check : Json → Checked α} {write : α → Json} {value : Json}
    (reads : Reads check write value) {a : α} : check value = .ok a ↔ value = write a :=
  reads a

/-- A check that reads back what is written reads written values and no others for them. -/
theorem reads_of_back {check : Json → Checked α} {write : α → Json}
    (back : ∀ a, check (write a) = .ok a) (a : α) : Reads check write (write a) := by
  intro b
  constructor
  · intro read
    rw [back, Except.ok.injEq] at read
    rw [read]
  · intro same
    rw [same, back]

theorem reads_text (value : Json) : Reads text .str value := by
  intro s
  cases value <;> simp [text, Checked.fault]

/-- A word that is found and has octets is read as what it stands for. -/
theorem reads_word {find? : String → Option α} {spell : α → String}
    (found : ∀ {word a}, find? word = some a ↔ word = spell a)
    (octets : ∀ a, Text.isEncodable (spell a) = true) (value : Json) :
    Reads (word find?) (fun a => .str (spell a)) value := by
  intro a
  cases value with
  | str s =>
    rw [word, spelled, Json.str.injEq, ← found]
    split
    · cases find? s <;> simp [Checked.fault]
    · rename_i broken
      refine iff_of_false (by simp [Checked.fault]) fun known => broken ?_
      rw [found.mp known]
      exact octets a
  | _ => simp [word, Checked.fault]

/-- Items that are read one by one are read as a list. -/
theorem all_itemsFrom_eq_ok_iff {check : Json → Checked α} {write : α → Json} {items : List Json}
    (reads : ∀ item ∈ items, Reads check write item) (index : Nat) (values : List α) :
    Checked.all (itemsFrom check index items) = .ok values ↔ items = values.map write := by
  -- over every number that the first item may have
  induction items generalizing index values with
  | nil => simp [itemsFrom, Checked.all, eq_comm]
  | cons item rest ih =>
    obtain ⟨here, later⟩ := List.forall_mem_cons.mp reads
    simp only [itemsFrom, Checked.all_cons_eq_ok_iff, Checked.under_eq_ok_iff, here _, ih later]
    cases values with
    | nil => simp
    | cons value values => simp

theorem reads_list {check : Json → Checked α} {write : α → Json} {items : List Json}
    (reads : ∀ item ∈ items, Reads check write item) :
    Reads (list check) (fun values => .arr (values.map write)) (.arr items) := by
  intro values
  rw [list, all_itemsFrom_eq_ok_iff reads, Json.arr.injEq]

theorem reads_texts (value : Json) : Reads texts .ofTexts value := by
  cases value with
  | arr items => exact reads_list fun item _ => reads_text item
  | _ => simp [Reads, texts, list, Checked.fault, Json.ofTexts]

/-- Null stands for nothing where no value is written as null. -/
theorem reads_nullable {check : Json → Checked α} {write : α → Json}
    (apart : ∀ a, write a ≠ .null) {value : Json} (reads : Reads check write value) :
    Reads (nullable check) (fun a? => (a?.map write).getD .null) value := by
  intro a?
  by_cases absent : value = .null
  · subst absent
    cases a? with
    | none => simp [nullable]
    | some a => simpa [nullable] using (apart a).symm
  · have present : nullable check value = (check value).map some := by
      cases value with
      | null => exact absurd rfl absent
      | _ => rfl
    rw [present, Checked.map_eq_ok_iff]
    cases a? with
    | none => simpa using absent
    | some a => simpa using reads a

end Field

/-- A context is read from its word. -/
theorem Context.reads_word (value : Json) :
    Field.Reads (Field.word ofText?) (fun c => .str c.text) value := by
  refine Field.reads_word ofText?_eq_some_iff (fun c => ?_) value
  cases c <;> decide

end AccessControl
