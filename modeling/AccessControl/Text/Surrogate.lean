/-!
# Halves of surrogate pairs

Some formats spell a character beyond the first plane as a pair of units, and a text may hold half
of such a pair alone. That is no character, so it is spelled with two: a mark that texts rarely
need, and a private character for the half. The mark itself is spelled twice. The code points that a
text spells tell all texts apart, and texts are written and ordered by them.
-/
namespace AccessControl.Text

def isSurrogate (n : Nat) : Bool := 0xD800 ≤ n && n ≤ 0xDFFF

/-- The character in front of those that spell something else than themselves. -/
def mark : Char := Char.ofNat 0x10FFFF

/-- What is added to half a pair for the private character that spells it. -/
def privateOffset : Nat := 0x100000

/-- The number that a mark stands for where it spells nothing. -/
def looseMark : Nat := 0x110000

def spelled (n : Nat) : List Char :=
  if isSurrogate n then [mark, Char.ofNat (n + privateOffset)]
  else if n = mark.toNat then [mark, mark]
  else if n = looseMark then [mark]
  else [Char.ofNat n]

def codePoints : List Char → List Nat
  | [] => []
  | [c] => [if c = mark then looseMark else c.toNat]
  | c :: d :: rest =>
    if c = mark then
      if d = mark then mark.toNat :: codePoints rest
      else if isSurrogate (d.toNat - privateOffset) then
        (d.toNat - privateOffset) :: codePoints rest
      else looseMark :: codePoints (d :: rest)
    else c.toNat :: codePoints (d :: rest)

/-- A text cut into its code points, each as it is spelled. -/
def letters (cs : List Char) : List (List Char) :=
  (codePoints cs).map spelled

def isEncodable (s : String) : Bool :=
  (codePoints s.toList).all fun n => !isSurrogate n

/-- A text with three replacement characters in place of every half, one for each octet that a half
would have. -/
def lossy (s : String) : String :=
  String.ofList ((codePoints s.toList).flatMap fun n =>
    if isSurrogate n then ['\uFFFD', '\uFFFD', '\uFFFD'] else spelled n)

theorem isSurrogate_iff {n : Nat} : isSurrogate n = true ↔ 0xD800 ≤ n ∧ n ≤ 0xDFFF := by
  rw [isSurrogate, Bool.and_eq_true, decide_eq_true_iff, decide_eq_true_iff]

theorem not_isSurrogate_toNat (c : Char) : ¬ isSurrogate c.toNat = true := by
  have valid : c.toNat < 0xD800 ∨ 0xDFFF < c.toNat ∧ c.toNat < 0x110000 := c.valid
  rw [isSurrogate_iff]
  omega

theorem spelled_toNat {c : Char} (h : c ≠ mark) : spelled c.toNat = [c] := by
  have tight : c.toNat ≠ looseMark := by
    have valid : c.toNat < 0xD800 ∨ 0xDFFF < c.toNat ∧ c.toNat < 0x110000 := c.valid
    unfold looseMark
    omega
  rw [spelled, if_neg (not_isSurrogate_toNat c), if_neg fun same => h (Char.toNat_inj.mp same),
    if_neg tight, Char.ofNat_toNat]

theorem spelled_mark : spelled mark.toNat = [mark, mark] := by
  rw [spelled, if_neg (not_isSurrogate_toNat mark), if_pos rfl]

theorem spelled_looseMark : spelled looseMark = [mark] := by
  decide

theorem spelled_half {d : Char} (h : isSurrogate (d.toNat - privateOffset) = true) :
    spelled (d.toNat - privateOffset) = [mark, d] := by
  have bounds := isSurrogate_iff.mp h
  rw [spelled, if_pos h, Nat.sub_add_cancel (by omega), Char.ofNat_toNat]

/-- The code points of a text spell it. -/
theorem flatMap_spelled_codePoints (cs : List Char) : (codePoints cs).flatMap spelled = cs := by
  fun_induction codePoints cs with
  | case1 => rfl
  | case2 c =>
    rw [List.flatMap_singleton]
    split
    · rename_i same
      rw [same]
      exact spelled_looseMark
    · rename_i other
      exact spelled_toNat other
  | case3 rest ih =>
    rw [List.flatMap_cons, ih, spelled_mark, List.cons_append, List.singleton_append]
  | case4 d rest _ half ih =>
    rw [List.flatMap_cons, ih, spelled_half half, List.cons_append, List.singleton_append]
  | case5 d rest _ _ ih => rw [List.flatMap_cons, ih, spelled_looseMark, List.singleton_append]
  | case6 c d rest other ih =>
    rw [List.flatMap_cons, ih, spelled_toNat other, List.singleton_append]

/-- Texts that spell the same code points are equal. -/
theorem codePoints_injective {cs ds : List Char} (h : codePoints cs = codePoints ds) : cs = ds := by
  rw [← flatMap_spelled_codePoints cs, h, flatMap_spelled_codePoints]

theorem toNat_ofNat {n : Nat} (h : n.isValidChar) : (Char.ofNat n).toNat = n := by
  rw [Char.ofNat, dif_pos h]
  rfl

theorem codePoints_cons {c : Char} (h : c ≠ mark) (cs : List Char) :
    codePoints (c :: cs) = c.toNat :: codePoints cs := by
  cases cs with
  | nil =>
    change [if c = mark then looseMark else c.toNat] = [c.toNat]
    rw [if_neg h]
  | cons d rest => rw [codePoints, if_neg h]

end AccessControl.Text
