import AccessControl.Text.Case

/-!
# Kinds of requests

A request is identified by its method in capitals and its path in small letters, so that the two
can be compared without regard to letter case.
-/
namespace AccessControl

/-- The identity of a request: method and path without regard to letter case. -/
def requestKind (method path : String) : String :=
  Text.upper method ++ " " ++ Text.lower path

end AccessControl
