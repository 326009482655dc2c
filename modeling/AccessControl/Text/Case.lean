import AccessControl.Text.CaseTable

/-!
# Letter case

Capital and small forms of whole texts. A character may grow into several, and a capital sigma
becomes the final small sigma exactly at the end of a word.
-/
namespace AccessControl.Text

/-- A letter with a case, as the search around a sigma sees it. -/
def isCased (c : Char) : Bool :=
  casedRanges.any fun (low, high) => low ≤ c.toNat && c.toNat ≤ high

/-- A character that the search around a sigma passes over. -/
def isCaseIgnorable (c : Char) : Bool :=
  caseIgnorableRanges.any fun (low, high) => low ≤ c.toNat && c.toNat ≤ high

private def mapped (sequences : List (Nat × List Nat)) (runs : List CaseRun) (c : Char) :
    List Char :=
  match sequences.lookup c.toNat with
  | some codes => codes.map Char.ofNat
  | none =>
    match runs.findSome? (·.map? c.toNat) with
    | some code => [Char.ofNat code]
    | none => [c]

def capital (c : Char) : List Char :=
  if c.toNat < 0x80 then [c.toUpper] else mapped capitalSequences capitalRuns c

/-- The small form of one character, the sigma's two forms apart. -/
def small (c : Char) : List Char :=
  if c.toNat < 0x80 then [c.toLower] else mapped smallSequences smallRuns c

def upper (s : String) : String :=
  String.ofList (s.toList.flatMap capital)

/-- The first character that the search does not pass over has a case. -/
def startsCased (cs : List Char) : Bool :=
  match cs.dropWhile isCaseIgnorable with
  | [] => false
  | c :: _ => isCased c

/-- Small forms from left to right; `inWord` says that the nearest character before, marks passed
over, has a case. -/
def lowerFrom (inWord : Bool) : List Char → List Char
  | [] => []
  | c :: rest =>
    let here :=
      if c = 'Σ' then (if inWord && !startsCased rest then ['ς'] else ['σ']) else small c
    here ++ lowerFrom (if isCaseIgnorable c then inWord else isCased c) rest

def lower (s : String) : String :=
  String.ofList (lowerFrom false s.toList)

end AccessControl.Text
