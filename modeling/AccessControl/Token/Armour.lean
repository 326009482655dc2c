/-!
# Armoured key files

Key files in their printable form stand between an opening and a closing line with the same label.
A text holds such a file when some closing line has characters between itself and the last opening
line of its label that begins before it.
-/
namespace AccessControl.Armour

def labels : List String :=
  ["CERTIFICATE", "TRUSTED CERTIFICATE", "PRIVATE KEY", "PUBLIC KEY", "ENCRYPTED PRIVATE KEY",
    "OPENSSH PRIVATE KEY", "DSA PRIVATE KEY", "RSA PRIVATE KEY", "RSA PUBLIC KEY",
    "EC PRIVATE KEY", "DH PARAMETERS", "NEW CERTIFICATE REQUEST", "CERTIFICATE REQUEST",
    "SSH2 PUBLIC KEY", "SSH2 ENCRYPTED PRIVATE KEY", "X509 CRL"]

def after? (start : String) (cs : List Char) : Option (List Char) :=
  if start.toList.isPrefixOf cs then some (cs.drop start.toList.length) else none

def afterDash? : List Char → Option (List Char)
  | '-' :: rest | ' ' :: rest => some rest
  | _ => none

/-- The characters behind a line such as `-----BEGIN LABEL-----`. -/
def afterLine? (keyword label : String) (cs : List Char) : Option (List Char) := do
  let cs ← after? "----" cs
  let cs ← afterDash? cs
  let cs ← after? keyword cs
  let cs ← after? label cs
  let cs ← afterDash? cs
  after? "----" cs

def openingLength (label : String) : Nat :=
  "-----BEGIN -----".length + label.length

/-- A file is closed somewhere from here on; `walked` is the number of characters since the last
opening line began. -/
def closesFrom (label : String) (walked : Option Nat) : List Char → Bool
  | [] => false
  | c :: rest =>
    let walked := if (afterLine? "BEGIN " label (c :: rest)).isSome then some 0 else walked
    ((afterLine? "END " label (c :: rest)).isSome && walked.any (openingLength label < ·)) ||
      closesFrom label (walked.map (· + 1)) rest

def isIn (cs : List Char) : Bool :=
  labels.any fun label => closesFrom label none cs

end AccessControl.Armour
