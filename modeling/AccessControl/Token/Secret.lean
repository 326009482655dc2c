import AccessControl.Json.Document
import AccessControl.Token.Armour

/-!
# Signing secrets

A secret that looks like a key pair's file is refused, so that a public key is never taken for a
shared secret. Such a file is armoured, starts with the name of a key format, or is a JSON document
that holds a key.
-/
namespace AccessControl

namespace SecretShape

/-- The names of key formats in one-line key files. -/
def lineFormats : List String :=
  ["ssh-ed25519", "ssh-rsa", "ssh-dss", "ecdsa-sha2-nistp256", "ecdsa-sha2-nistp384",
    "ecdsa-sha2-nistp521"]

def isKeyLine (cs : List Char) : Bool :=
  lineFormats.any fun format => format.toList.isPrefixOf cs

/-- The member of an object that says which type of key it is. -/
def keyTypeMember : String := "kty"

mutual

/-- The value is a key or holds one: an object with a key type, however deep. -/
def holdsKey : Json → Bool
  | .arr items => itemsHoldKey items
  | .obj members => membersHoldKey members
  | _ => false

def itemsHoldKey : List Json → Bool
  | [] => false
  | item :: rest => holdsKey item || itemsHoldKey rest

def membersHoldKey : List (String × Json) → Bool
  | [] => false
  | (key, value) :: rest => key = keyTypeMember || holdsKey value || membersHoldKey rest

end

/-- What is behind the closing quote of a text, whatever stands inside it. A backslash is taken
together with the character behind it. -/
def behindText : (s : List Char) → Option (Json.Reading Unit s)
  | [] => none
  | '"' :: rest => some ⟨(), rest, by simp⟩
  | '\\' :: _ :: rest =>
    (behindText rest).map fun r => ⟨(), r.rest, by
      have := r.shorter; simp only [List.length_cons]; omega⟩
  | _ :: rest =>
    (behindText rest).map fun r => ⟨(), r.rest, by
      have := r.shorter; simp only [List.length_cons]; omega⟩

def isKeyTypeName (s : List Char) : Bool :=
  match Json.readText (s.length + 1) s with
  | .ok name => String.ofList name.value = keyTypeMember
  | .error _ => false

/-- Some member that a text spells is a key type, whether the rest of it is JSON or not. -/
def spellsKeyType (s : List Char) : Bool :=
  match s with
  | [] => false
  | '"' :: rest =>
    match behindText rest with
    | none => false
    | some name =>
      (isKeyTypeName rest && (Json.closes ':' name.rest).isSome) || spellsKeyType name.rest
  | _ :: rest => spellsKeyType rest
termination_by s.length
decreasing_by
  · have := name.shorter
    simp only [List.length_cons]
    omega
  · simp

/-- A text that is nested too deep to be read may be a key: it starts an object, or it spells a key
type. -/
def mayHoldKey (text : List Char) : Bool :=
  (Json.nextMark text).any (·.value = '\x7b') || spellsKeyType text

/-- The secret is a JSON document that holds a key, or may hold one that is nested too deep. Its
whole numbers may have any number of digits. -/
def isKeyDocument (bytes : Bytes) : Bool :=
  match Json.documentText bytes with
  | .error _ => false
  | .ok text =>
    match Json.readWithin text.length Json.maxDepth text with
    | .ok value => holdsKey value
    | .error (.tooDeep _) => mayHoldKey text
    | .error _ => false

end SecretShape

/-- Why a secret is no key of a keyed hash: it looks like a key file, or it is no text that has
octets. -/
inductive SecretFault
  | keyFile
  | unencodable
  deriving DecidableEq, Repr

def checkSecret (secret : String) : Except SecretFault Unit :=
  let cs := secret.toList
  if !Text.isEncodable secret then .error .unencodable
  else if Armour.isIn cs || SecretShape.isKeyLine cs || SecretShape.isKeyDocument (Utf8.encode cs)
  then .error .keyFile
  else .ok ()

end AccessControl
