import AccessControl.Proofs.Steps
import AccessControl.Token.Validate

/-!
# Taking headers and tokens apart

What a header and its token look like when they can be taken apart: each cut is stated by what it
was put together from.
-/
namespace AccessControl

namespace Token

/-- The characters up to the first of a kind, and from it on. -/
theorem span_eq_iff {mark : Char} {cs before behind : List Char} :
    (cs.takeWhile (· ≠ mark) = before ∧ cs.dropWhile (· ≠ mark) = mark :: behind) ↔
      cs = before ++ mark :: behind ∧ mark ∉ before := by
  constructor
  · rintro ⟨taken, dropped⟩
    have parts := List.takeWhile_append_dropWhile (p := fun c => decide (c ≠ mark)) (l := cs)
    rw [taken, dropped] at parts
    refine ⟨parts.symm, fun member => ?_⟩
    rw [← taken] at member
    have kept := List.all_eq_true.mp (List.all_takeWhile (p := fun c => decide (c ≠ mark)) (l := cs))
      mark member
    simp at kept
  · rintro ⟨rfl, plain⟩
    have kept : ∀ c ∈ before, decide (c ≠ mark) = true := by
      intro c member
      rw [decide_eq_true_iff]
      rintro rfl
      exact plain member
    rw [List.takeWhile_append_of_pos kept, List.dropWhile_append_of_pos kept]
    simp

theorem head_of_dropWhile {mark c : Char} {cs rest : List Char}
    (dropped : cs.dropWhile (· ≠ mark) = c :: rest) : c = mark := by
  have first := List.head?_dropWhile_not (fun c => decide (c ≠ mark)) cs
  rw [dropped] at first
  simpa using first

theorem cutFirst_eq_some_iff {cs before behind : List Char} :
    cutFirst cs = some (before, behind) ↔ cs = before ++ '.' :: behind ∧ '.' ∉ before := by
  rw [← span_eq_iff, cutFirst]
  constructor
  · intro found
    split at found
    · cases found
    · rename_i c rest dropped
      obtain rfl := head_of_dropWhile dropped
      cases found
      exact ⟨rfl, dropped⟩
  · rintro ⟨rfl, dropped⟩
    rw [dropped]

theorem cutLast_eq_some_iff {cs before behind : List Char} :
    cutLast cs = some (before, behind) ↔ cs = before ++ '.' :: behind ∧ '.' ∉ behind := by
  have turned : cs = before ++ '.' :: behind ↔ cs.reverse = behind.reverse ++ '.' :: before.reverse := by
    rw [← List.reverse_inj]
    simp
  rw [turned, ← List.mem_reverse, ← cutFirst_eq_some_iff, cutLast, Option.map_eq_some_iff]
  constructor
  · rintro ⟨⟨late, early⟩, found, same⟩
    cases same
    rw [found, List.reverse_reverse, List.reverse_reverse]
  · intro found
    refine ⟨_, found, ?_⟩
    simp only [List.reverse_reverse]

/-- A token that can be cut is a signed text and a signature, and the signed text a header and a
payload. -/
theorem cut_eq_ok_iff {token : List Char} {w : Written} :
    cut token = .ok w ↔
      (token = w.input ++ '.' :: w.signature ∧ '.' ∉ w.signature) ∧
        w.input = w.header ++ '.' :: w.payload ∧ '.' ∉ w.header := by
  rw [← cutLast_eq_some_iff, ← cutFirst_eq_some_iff]
  unfold cut
  constructor
  · intro succeeds
    split at succeeds
    · rename_i input signature last
      split at succeeds
      · rename_i header payload first
        cases succeeds
        exact ⟨last, first⟩
      · cases succeeds
    · cases succeeds
  · rintro ⟨last, first⟩
    simp only [last, first]
    rfl

/-- A header that holds a token is the scheme, one space and the token. -/
theorem ofHeader_eq_ok_iff {header : Option String} {token : List Char} :
    ofHeader header = .ok token ↔
      token ≠ [] ∧ ∃ text, header = some text ∧ text.toList = scheme.toList ++ ' ' :: token := by
  have plain : ' ' ∉ scheme.toList := by decide
  constructor
  · intro succeeds
    cases header with
    | none => cases succeeds
    | some text =>
      rw [ofHeader, Option.getD_some] at succeeds
      split at succeeds
      · cases succeeds
      · split at succeeds
        · rename_i named
          cases dropped : text.toList.dropWhile (· ≠ ' ') with
          | nil =>
            rw [dropped] at succeeds
            cases succeeds
          | cons c rest =>
            obtain rfl := head_of_dropWhile dropped
            rw [dropped, List.drop_one, List.tail_cons] at succeeds
            split at succeeds
            · cases succeeds
            · rename_i more
              cases succeeds
              exact ⟨more, text, rfl, (span_eq_iff.mp ⟨named, dropped⟩).1⟩
        · cases succeeds
  · rintro ⟨more, text, rfl, written⟩
    obtain ⟨taken, dropped⟩ := span_eq_iff.mpr ⟨written, plain⟩
    have given : text.toList ≠ [] := by
      rw [written]
      simp
    rw [ofHeader, Option.getD_some]
    split
    · rename_i nothing
      exact absurd nothing given
    · rw [if_pos taken, dropped, List.drop_one, List.tail_cons]
      split
      · exact absurd rfl more
      · rfl

end Token

end AccessControl
