import AccessControl.Token.Refusal

/-!
# Token headers

The parameters of a header besides the algorithm. A key identifier has to be a text. A list of
critical extensions has to name extensions that are known and present, and the only one known is the
payload's encoding. A header may say that the payload is sent apart from the token and unencoded;
such tokens are taken apart but never accepted.
-/
namespace AccessControl.Token

/-- The parameter that says whether the payload is encoded. -/
def encodingParameter : String := "b64"

def isUnencoded (header : List (String × Json)) : Bool :=
  header.lookup encodingParameter = some (.bool false)

/-- A key identifier, where there is one, is a text. -/
def checkKeyId (header : List (String × Json)) : Except TokenFault Unit :=
  match header.lookup "kid" with
  | none | some (.str _) => .ok ()
  | some _ => .error .keyIdNotText

def checkExtension (header : List (String × Json)) : Json → Except TokenFault Unit
  | .str name =>
    if name ≠ encodingParameter then .error (.unknownCritical name)
    else if (header.lookup name).isNone then .error (.absentCritical name)
    else .ok ()
  | _ => .error .criticalNotText

/-- The critical extensions, where they are listed, are known and present. -/
def checkCritical (header : List (String × Json)) : Except TokenFault Unit :=
  match header.lookup "crit" with
  | none => .ok ()
  | some (.arr (name :: names)) => (name :: names).forM (checkExtension header)
  | some _ => .error .criticalNotList

def checkEncoding (header : List (String × Json)) : Except TokenFault Unit :=
  if isUnencoded header then
    if (header.lookup "crit").isNone then .error .encodingNotCritical else .error .payloadDetached
  else .ok ()

def checkHeader (header : List (String × Json)) : Except TokenFault Unit := do
  checkKeyId header
  checkCritical header
  checkEncoding header

end AccessControl.Token
