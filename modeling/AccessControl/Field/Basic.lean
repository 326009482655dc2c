import AccessControl.Json.Basic
import AccessControl.Text.Numeral
import AccessControl.Text.Surrogate

/-!
# Fields

Typed values from JSON. Numbers and truth values are also taken from texts and from each other
where nothing is lost; texts, lists and objects are not. A value that does not fit is reported with
the place where it stands and the kind of fault, and the faults of several fields add up.
-/
namespace AccessControl

inductive PlaceStep
  | member (key : String)
  | item (index : Nat)
  deriving DecidableEq, Repr

/-- Why a value does not fit a field. -/
inductive FieldFault
  | missing
  | notText
  | notEncodable
  | notWhole
  | notNumeral
  | tooLarge
  | fractional
  | notFinite
  | notTruth
  | notTruthWord
  | notList
  | notObject
  | unknownWord
  | rule (message : String)
  deriving DecidableEq, Repr

def FieldFault.code : FieldFault → String
  | .missing => "missing"
  | .notText => "string_type"
  | .notEncodable => "string_unicode"
  | .notWhole => "int_type"
  | .notNumeral => "int_parsing"
  | .tooLarge => "int_parsing_size"
  | .fractional => "int_from_float"
  | .notFinite => "finite_number"
  | .notTruth => "bool_type"
  | .notTruthWord => "bool_parsing"
  | .notList => "list_type"
  | .notObject => "model_type"
  | .unknownWord => "enum"
  | .rule _ => "value_error"

structure FieldError where
  place : List PlaceStep
  fault : FieldFault
  deriving DecidableEq, Repr

/-- A value that fits, or the faults in order. -/
abbrev Checked := Except (List FieldError)

namespace Checked

def errors {α : Type} : Checked α → List FieldError
  | .ok _ => []
  | .error es => es

/-- A value with one fault at the place itself. -/
def fault {α : Type} (f : FieldFault) : Checked α := .error [⟨[], f⟩]

/-- The value with its faults seen from one step above. -/
def under {α : Type} (step : PlaceStep) : Checked α → Checked α
  | .ok value => .ok value
  | .error es => .error (es.map fun e => { e with place := step :: e.place })

def both {α β : Type} : Checked α → Checked β → Checked (α × β)
  | .ok a, .ok b => .ok (a, b)
  | x, y => .error (x.errors ++ y.errors)

def all {α : Type} : List (Checked α) → Checked (List α)
  | [] => .ok []
  | x :: rest =>
    match x.both (all rest) with
    | .ok (value, values) => .ok (value :: values)
    | .error es => .error es

end Checked

namespace Field

def text : Json → Checked String
  | .str text => .ok text
  | _ => .fault .notText

/-- The whole number of a plain numeral: digits without leading zeros, a minus sign in front of
them or not. -/
def plainNumeral (cs : List Char) : Except FieldFault Int :=
  let (negative, digits) := match cs with
    | '-' :: rest => (true, rest)
    | cs => (false, cs)
  let leading := digits.takeWhile Char.isDigit
  if leading.isEmpty || leading.head? = some '0' && leading.length ≠ 1 then .error .notNumeral
  else if Text.maxDigits < leading.length then .error .tooLarge
  else if leading.length ≠ digits.length then .error .notNumeral
  else
    let value : Int := digits.foldl (fun value c => 10 * value + (c.toNat - '0'.toNat)) 0
    .ok (if negative then -value else value)

/-- What is left of a numeral behind zeros and underscores, the last of which is given. That one
stays in front of a point and at the end. A minus sign may follow them. -/
def behindZeros (last : Char) : List Char → Option (List Char)
  | [] => some [last]
  | '.' :: rest => some (last :: '.' :: rest)
  | c :: rest =>
    if c = '0' || c = '_' then behindZeros c rest
    else if c.isDigit || c = '-' then some (c :: rest)
    else none

def dropZeros : List Char → Option (List Char)
  | [] => none
  | '0' :: rest => behindZeros '0' rest
  | c :: rest => if c.isDigit then some (c :: rest) else none

/-- A numeral without its point where nothing but zeros, at least one, is behind that. -/
def dropPlaces (cs : List Char) : List Char :=
  match cs.dropWhile (· ≠ '.') with
  | _ :: '0' :: places => if places.all (· = '0') then cs.takeWhile (· ≠ '.') else cs
  | _ => cs

/-- A numeral without the underscores that single out its digits. -/
def dropUnderscores : List Char → List Char
  | c :: '_' :: d :: rest =>
    if c = '_' || d = '_' then c :: '_' :: d :: rest else c :: dropUnderscores (d :: rest)
  | c :: rest => c :: dropUnderscores rest
  | [] => []

/-- The plain numeral that is meant by one with blanks around it, a plus sign, leading zeros, single
underscores between its digits or nothing but zeros behind a point. -/
def plainForm (cs : List Char) : Option (List Char) :=
  let tidied := fun cs => (dropZeros cs).map fun cs => dropUnderscores (dropPlaces cs)
  match Text.trim cs with
  | '-' :: rest => (tidied rest).map ('-' :: ·)
  | '+' :: rest => tidied rest
  | cs => tidied cs

/-- The whole number of a numeral, which is plain or means a plain one. Only a plain one is told to
be too large. -/
def numeral (s : String) : Except FieldFault Int :=
  match plainNumeral s.toList, plainForm s.toList with
  | .error .notNumeral, some cs => (plainNumeral cs).mapError fun _ => .notNumeral
  | outcome, _ => outcome

/-- The bound of the numbers that a machine word holds with their sign. -/
def wordBound : Int := 9223372036854775808

/-- The whole number of a floating-point one. It has to lie inside the bounds of a word. -/
def wholeOfFloat (value : Binary64) : Except FieldFault Int :=
  match value with
  | .finite .. =>
    match value.integer? with
    | none => .error .fractional
    | some n => if -wordBound < n ∧ n < wordBound then .ok n else .error .tooLarge
  | _ => .error .notFinite

/-- A value with the fault of an attempt at the place itself. -/
def attempt {α : Type} : Except FieldFault α → Checked α
  | .ok value => .ok value
  | .error f => .fault f

/-- The value that a text spells, which is looked at octet by octet. -/
def spelled {α : Type} (read : String → Checked α) (text : String) : Checked α :=
  if Text.isEncodable text then read text else .fault .notEncodable

def whole : Json → Checked Int
  | .int value => .ok value
  | .bool value => .ok (if value then 1 else 0)
  | .float value => attempt (wholeOfFloat value)
  | .str text => spelled (fun text => attempt (numeral text)) text
  | _ => .fault .notWhole

def trueWords : List String := ["1", "on", "t", "true", "y", "yes"]

def falseWords : List String := ["0", "off", "f", "false", "n", "no"]

/-- The truth value of a number: one and zero. A number that is not whole or does not fit in a word
is no attempt at one. -/
def truthOfNumber (n : Int) : Checked Bool :=
  if n = 0 then .ok false
  else if n = 1 then .ok true
  else if -wordBound ≤ n ∧ n < wordBound then .fault .notTruthWord
  else .fault .notTruth

def truthOfWord (text : String) : Checked Bool :=
  let word := String.ofList (text.toList.map Char.toLower)
  if trueWords.contains word then .ok true
  else if falseWords.contains word then .ok false
  else .fault .notTruthWord

def truth : Json → Checked Bool
  | .bool value => .ok value
  | .int value => truthOfNumber value
  | .float value =>
    match wholeOfFloat value with
    | .ok n => truthOfNumber n
    | .error _ => .fault .notTruth
  | .str text => spelled truthOfWord text
  | _ => .fault .notTruth

/-- A word of a list, spelled exactly. -/
def word {α : Type} (find? : String → Option α) : Json → Checked α
  | .str text =>
    spelled (fun text =>
      match find? text with
      | some found => .ok found
      | none => .fault .unknownWord) text
  | _ => .fault .unknownWord

/-- Items checked one by one, each fault with the number of its item. -/
def itemsFrom {α : Type} (item : Json → Checked α) (index : Nat) : List Json → List (Checked α)
  | [] => []
  | value :: rest => (item value).under (.item index) :: itemsFrom item (index + 1) rest

def list {α : Type} (item : Json → Checked α) : Json → Checked (List α)
  | .arr items => .all (itemsFrom item 0 items)
  | _ => .fault .notList

def texts : Json → Checked (List String) := list text

end Field

end AccessControl
