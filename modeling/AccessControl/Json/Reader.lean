import AccessControl.Binary64.Decimal
import AccessControl.Json.Basic
import AccessControl.Text.Numeral
import AccessControl.Text.Utf16

/-!
# Reading JSON

The value of a JSON text, or the first fault with its place. The reader takes one value from the
front of the characters and hands on the rest, which is always shorter; so every loop ends. `NaN`,
`Infinity` and `-Infinity` are read as numbers. Whole numbers of very many digits and very deep
nesting are refused.
-/
namespace AccessControl.Json

open Utf16

inductive Fault
  | expectingValue
  | expectingName
  | expectingColon
  | expectingComma
  | unterminated
  | controlCharacter
  | badEscape
  | badUnitEscape
  | extraData
  deriving DecidableEq, Repr

def Fault.text : Fault → String
  | .expectingValue => "Expecting value"
  | .expectingName => "Expecting property name enclosed in double quotes"
  | .expectingColon => "Expecting ':' delimiter"
  | .expectingComma => "Expecting ',' delimiter"
  | .unterminated => "Unterminated string starting at"
  | .controlCharacter => "Invalid control character at"
  | .badEscape => "Invalid \\escape"
  | .badUnitEscape => "Invalid \\uXXXX escape"
  | .extraData => "Extra data"

inductive Container
  | array
  | object
  deriving DecidableEq, Repr

def Container.text : Container → String
  | .array => "array"
  | .object => "object"

/-- Why a text is not read: a fault and the number of characters from its place to the end of the
text, the digits of a whole number that has too many, or the container that is nested too deep. -/
inductive ReadError
  | malformed (fault : Fault) (left : Nat)
  | tooLong (digits : Nat)
  | tooDeep (container : Container)
  deriving DecidableEq, Repr

/-- The line, column and offset of the place in front of the last `left` characters of a text, in
code points. -/
def placeText (text : List Char) (left : Nat) : String :=
  let offset := text.length - left
  let before := Text.codePoints (text.take offset)
  let line := before.count '\n'.toNat + 1
  let column := (before.reverse.takeWhile (· ≠ '\n'.toNat)).length + 1
  "line " ++ line.repr ++ " column " ++ column.repr ++ " (char " ++ before.length.repr ++ ")"

def ReadError.message (text : List Char) : ReadError → String
  | .malformed fault left => fault.text ++ ": " ++ placeText text left
  | .tooLong digits =>
    "Exceeds the limit (" ++ Text.maxDigits.repr ++
      " digits) for integer string conversion: value has " ++ digits.repr ++
      " digits; use sys.set_int_max_str_digits() to increase the limit"
  | .tooDeep container =>
    "maximum recursion depth exceeded while decoding a JSON " ++ container.text ++
      " from a unicode string"

/-- How deep values may be nested in a text that is read or written on its own. -/
def maxDepth : Nat := 985

/-- What is read from the front of a text, and what is left of it. -/
structure Reading (α : Type) (text : List Char) where
  value : α
  rest : List Char
  shorter : rest.length < text.length

def isGap (c : Char) : Bool :=
  c = ' ' || c = '\t' || c = '\n' || c = '\r'

def skipGap (s : List Char) : List Char :=
  s.dropWhile isGap

theorem length_skipGap_le (s : List Char) : (skipGap s).length ≤ s.length :=
  (List.dropWhile_sublist _).length_le

def hexValue? (c : Char) : Option Nat :=
  if '0' ≤ c ∧ c ≤ '9' then some (c.toNat - '0'.toNat)
  else if 'a' ≤ c ∧ c ≤ 'f' then some (c.toNat - 'a'.toNat + 10)
  else if 'A' ≤ c ∧ c ≤ 'F' then some (c.toNat - 'A'.toNat + 10)
  else none

/-- The UTF-16 unit of four hexadecimal digits. -/
def unit? (a b c d : Char) : Option Nat := do
  return (((← hexValue? a) * 16 + (← hexValue? b)) * 16 + (← hexValue? c)) * 16 + (← hexValue? d)

def shortEscape? : Char → Option Char
  | '"' => some '"'
  | '\\' => some '\\'
  | '/' => some '/'
  | 'b' => some '\x08'
  | 'f' => some '\x0c'
  | 'n' => some '\n'
  | 'r' => some '\r'
  | 't' => some '\t'
  | _ => none

/-- The next part of a text in front of its closing quote, or that quote. -/
inductive TextStep (s : List Char)
  | close (rest : List Char) (shorter : rest.length < s.length)
  | part (cs : List Char) (rest : List Char) (shorter : rest.length < s.length)
  | fail (e : ReadError)

/-- The next step inside a quoted text; `opened` is the number of characters from the opening quote
to the end. -/
def textStep (opened : Nat) : (s : List Char) → TextStep s
  | [] => .fail (.malformed .unterminated opened)
  | '"' :: r => .close r (by simp)
  | '\\' :: 'u' :: a :: b :: c :: d :: r =>
    match unit? a b c d, r with
    | none, _ => .fail (.malformed .badUnitEscape (r.length + 5))
    | some _, [] => .fail (.malformed .badUnitEscape (r.length + 5))
    | some high, '\\' :: 'u' :: a' :: b' :: c' :: d' :: e :: r' =>
      if isHighSurrogate high then
        match unit? a' b' c' d' with
        | none => .fail (.malformed .badUnitEscape (r'.length + 6))
        | some low =>
          if isLowSurrogate low then
            .part (Text.spelled (pairPoint high low)) (e :: r')
              (by simp only [List.length_cons]; omega)
          else
            .part (Text.spelled high) ('\\' :: 'u' :: a' :: b' :: c' :: d' :: e :: r')
              (by simp only [List.length_cons]; omega)
      else
        .part (Text.spelled high) ('\\' :: 'u' :: a' :: b' :: c' :: d' :: e :: r')
          (by simp only [List.length_cons]; omega)
    | some high, r => .part (Text.spelled high) r (by simp only [List.length_cons]; omega)
  | '\\' :: 'u' :: r => .fail (.malformed .badUnitEscape (r.length + 1))
  | '\\' :: e :: r =>
    match shortEscape? e with
    | some c => .part [c] r (by simp only [List.length_cons]; omega)
    | none => .fail (.malformed .badEscape (r.length + 2))
  | '\\' :: [] => .fail (.malformed .unterminated opened)
  | c :: r =>
    if c.toNat < 0x20 then .fail (.malformed .controlCharacter (r.length + 1))
    else .part [c] r (by simp)

/-- The characters of a text up to its closing quote. -/
def readText (opened : Nat) (s : List Char) : Except ReadError (Reading (List Char) s) :=
  match textStep opened s with
  | .fail e => .error e
  | .close rest shorter => .ok ⟨[], rest, shorter⟩
  | .part cs rest shorter =>
    match readText opened rest with
    | .error e => .error e
    | .ok tail => .ok ⟨cs ++ tail.value, tail.rest, by have := tail.shorter; omega⟩
termination_by s.length

def digitsValue (digits : List Char) : Nat :=
  digits.foldl (fun value c => 10 * value + (c.toNat - '0'.toNat)) 0

theorem length_dropWhile_lt {p : Char → Bool} {s : List Char} (h : s.takeWhile p ≠ []) :
    (s.dropWhile p).length < s.length := by
  have parts := congrArg List.length (List.takeWhile_append_dropWhile (p := p) (l := s))
  have := List.length_pos_iff.2 h
  simp only [List.length_append] at parts
  omega

def digits? (s : List Char) : Option (Reading (List Char) s) :=
  if h : s.takeWhile Char.isDigit ≠ [] then
    some ⟨s.takeWhile Char.isDigit, s.dropWhile Char.isDigit, length_dropWhile_lt h⟩
  else none

/-- The whole digits of a number: a lone zero, or digits that do not start with one. -/
def whole? : (s : List Char) → Option (Reading (List Char) s)
  | '0' :: r => some ⟨['0'], r, by simp⟩
  | s => digits? s

def places? : (s : List Char) → Option (Reading (List Char) s)
  | '.' :: r =>
    (digits? r).map fun t => ⟨t.value, t.rest, by
      have := t.shorter; simp only [List.length_cons]; omega⟩
  | _ => none

/-- A whole number of either sign, as an exponent spells it. -/
def signed? : (s : List Char) → Option (Reading Int s)
  | '-' :: r =>
    (digits? r).map fun t => ⟨-(digitsValue t.value : Int), t.rest, by
      have := t.shorter; simp only [List.length_cons]; omega⟩
  | '+' :: r =>
    (digits? r).map fun t => ⟨digitsValue t.value, t.rest, by
      have := t.shorter; simp only [List.length_cons]; omega⟩
  | s => (digits? s).map fun t => ⟨digitsValue t.value, t.rest, t.shorter⟩

def exponent? : (s : List Char) → Option (Reading Int s)
  | 'e' :: r | 'E' :: r =>
    (signed? r).map fun t => ⟨t.value, t.rest, by
      have := t.shorter; simp only [List.length_cons]; omega⟩
  | _ => none

/-- A number without its sign: whole unless it has places or an exponent. -/
def number? (negative : Bool) (s : List Char) : Option (Reading Json s) :=
  match whole? s with
  | none => none
  | some whole =>
    match places? whole.rest with
    | none =>
      let digits := digitsValue whole.value
      match exponent? whole.rest with
      | none =>
        some ⟨.int (if negative then -(digits : Int) else digits), whole.rest, whole.shorter⟩
      | some power =>
        some ⟨.float (.ofDecimal negative digits power.value), power.rest, by
          have := whole.shorter; have := power.shorter; omega⟩
    | some places =>
      let digits := digitsValue (whole.value ++ places.value)
      match exponent? places.rest with
      | none =>
        some ⟨.float (.ofDecimal negative digits (-places.value.length)), places.rest, by
          have := whole.shorter; have := places.shorter; omega⟩
      | some power =>
        some ⟨.float (.ofDecimal negative digits (power.value - places.value.length)),
          power.rest, by
            have := whole.shorter; have := places.shorter; have := power.shorter; omega⟩

/-- A literal word or a number at the front of a text. -/
def scalar? : (s : List Char) → Option (Reading Json s)
  | 'n' :: 'u' :: 'l' :: 'l' :: r => some ⟨.null, r, by simp only [List.length_cons]; omega⟩
  | 't' :: 'r' :: 'u' :: 'e' :: r => some ⟨.bool true, r, by simp only [List.length_cons]; omega⟩
  | 'f' :: 'a' :: 'l' :: 's' :: 'e' :: r =>
    some ⟨.bool false, r, by simp only [List.length_cons]; omega⟩
  | 'N' :: 'a' :: 'N' :: r => some ⟨.float .nan, r, by simp only [List.length_cons]; omega⟩
  | 'I' :: 'n' :: 'f' :: 'i' :: 'n' :: 'i' :: 't' :: 'y' :: r =>
    some ⟨.float (.infinite false), r, by simp only [List.length_cons]; omega⟩
  | '-' :: 'I' :: 'n' :: 'f' :: 'i' :: 'n' :: 'i' :: 't' :: 'y' :: r =>
    some ⟨.float (.infinite true), r, by simp only [List.length_cons]; omega⟩
  | '-' :: r =>
    (number? true r).map fun t => ⟨t.value, t.rest, by
      have := t.shorter; simp only [List.length_cons]; omega⟩
  | s => number? false s

def nextMark (s : List Char) : Option (Reading Char s) :=
  match h : skipGap s with
  | [] => none
  | c :: rest => some ⟨c, rest, by have := length_skipGap_le s; rw [h] at this; exact this⟩

def closes (mark : Char) (s : List Char) : Option (Reading Char s) :=
  (nextMark s).filter (·.value = mark)

/-- The key of a member and the colon behind it. -/
def readKey (s : List Char) : Except ReadError (Reading String s) :=
  match s with
  | '"' :: r =>
    match readText (r.length + 1) r with
    | .error e => .error e
    | .ok key =>
      match nextMark key.rest with
      | none => .error (.malformed .expectingColon 0)
      | some mark =>
        if mark.value = ':' then
          .ok ⟨String.ofList key.value, mark.rest, by
            have := key.shorter; have := mark.shorter; simp only [List.length_cons]; omega⟩
        else .error (.malformed .expectingColon (mark.rest.length + 1))
  | s => .error (.malformed .expectingName s.length)

/-- A literal word or a number at the front of a text; a whole number must not have more than
`most` digits. -/
def readScalar (most : Nat) (s : List Char) : Except ReadError (Reading Json s) :=
  match scalar? s with
  | none => .error (.malformed .expectingValue s.length)
  | some t =>
    let digits := match t.value with
      | .int n => (Nat.toDigits 10 n.natAbs).length
      | _ => 0
    if most < digits then .error (.tooLong digits) else .ok t

mutual

/-- The value at the front of a text, which may be nested `room` deep and hold whole numbers of up
to `most` digits. -/
def readValue (most room : Nat) (s : List Char) : Except ReadError (Reading Json s) :=
  match s with
  | '"' :: r =>
    match readText (r.length + 1) r with
    | .error e => .error e
    | .ok t =>
      .ok ⟨.str (String.ofList t.value), t.rest, by
        have := t.shorter; simp only [List.length_cons]; omega⟩
  | '[' :: r =>
    if room = 0 then .error (.tooDeep .array)
    else match closes ']' r with
    | some mark =>
      .ok ⟨.arr [], mark.rest, by
        have := mark.shorter; simp only [List.length_cons]; omega⟩
    | none =>
      match readItems most (room - 1) (skipGap r) with
      | .error e => .error e
      | .ok t =>
        .ok ⟨.arr t.value, t.rest, by
          have := length_skipGap_le r; have := t.shorter; simp only [List.length_cons]; omega⟩
  | '\x7b' :: r =>
    if room = 0 then .error (.tooDeep .object)
    else match closes '\x7d' r with
    | some mark =>
      .ok ⟨.obj [], mark.rest, by
        have := mark.shorter; simp only [List.length_cons]; omega⟩
    | none =>
      match readMembers most (room - 1) [] (skipGap r) with
      | .error e => .error e
      | .ok t =>
        .ok ⟨.obj t.value, t.rest, by
          have := length_skipGap_le r; have := t.shorter; simp only [List.length_cons]; omega⟩
  | s => readScalar most s
termination_by 2 * s.length
decreasing_by all_goals
  have := length_skipGap_le r
  simp only [List.length_cons]
  omega

/-- The items of a list from a value on, with the closing bracket. -/
def readItems (most room : Nat) (s : List Char) : Except ReadError (Reading (List Json) s) :=
  match readValue most room s with
  | .error e => .error e
  | .ok item =>
    match nextMark item.rest with
    | none => .error (.malformed .expectingComma 0)
    | some mark =>
      if mark.value = ']' then
        .ok ⟨[item.value], mark.rest, by have := item.shorter; have := mark.shorter; omega⟩
      else if mark.value = ',' then
        match readItems most room (skipGap mark.rest) with
        | .error e => .error e
        | .ok tail =>
          .ok ⟨item.value :: tail.value, tail.rest, by
            have := item.shorter; have := mark.shorter
            have := length_skipGap_le mark.rest; have := tail.shorter; omega⟩
      else .error (.malformed .expectingComma (mark.rest.length + 1))
termination_by 2 * s.length + 1
decreasing_by
  · omega
  · have := item.shorter
    have := mark.shorter
    have := length_skipGap_le mark.rest
    omega

/-- The members of an object from a key on, with the closing brace; `known` are those before. -/
def readMembers (most room : Nat) (known : List (String × Json)) (s : List Char) :
    Except ReadError (Reading (List (String × Json)) s) :=
  match readKey s with
  | .error e => .error e
  | .ok key =>
    match readValue most room (skipGap key.rest) with
    | .error e => .error e
    | .ok value =>
      match nextMark value.rest with
      | none => .error (.malformed .expectingComma 0)
      | some mark =>
        if mark.value = '\x7d' then
          .ok ⟨assign known key.value value.value, mark.rest, by
            have := key.shorter; have := length_skipGap_le key.rest
            have := value.shorter; have := mark.shorter; omega⟩
        else if mark.value = ',' then
          match readMembers most room (assign known key.value value.value) (skipGap mark.rest) with
          | .error e => .error e
          | .ok tail =>
            .ok ⟨tail.value, tail.rest, by
              have := key.shorter; have := length_skipGap_le key.rest
              have := value.shorter; have := mark.shorter
              have := length_skipGap_le mark.rest; have := tail.shorter; omega⟩
        else .error (.malformed .expectingComma (mark.rest.length + 1))
termination_by 2 * s.length + 1
decreasing_by
  · have := key.shorter
    have := length_skipGap_le key.rest
    omega
  · have := key.shorter
    have := length_skipGap_le key.rest
    have := value.shorter
    have := mark.shorter
    have := length_skipGap_le mark.rest
    omega

end

/-- The value of a whole text, blanks around it allowed. It is nested up to `room` deep, and its
whole numbers have up to `most` digits. -/
def readWithin (most room : Nat) (text : List Char) : Except ReadError Json :=
  match readValue most room (skipGap text) with
  | .error e => .error e
  | .ok reading =>
    match skipGap reading.rest with
    | [] => .ok reading.value
    | extra => .error (.malformed .extraData extra.length)

/-- The value of a whole text, the usual limits holding. -/
def read (text : List Char) : Except ReadError Json :=
  readWithin Text.maxDigits maxDepth text

end AccessControl.Json
