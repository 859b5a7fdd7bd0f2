import BearerLogin.Token

/-! Principals: who a connection acts as after a login. -/

namespace BearerLogin

/-- The types of principals. -/
inductive PrincipalType where
  | user
  deriving DecidableEq, Repr

/-- The name of a type of principal. -/
def PrincipalType.name : PrincipalType → String
  | .user => "User"

/-- A principal: its name, and the validated token that it was made from. -/
structure Principal where
  type : PrincipalType
  name : String
  token : Token
  deriving Repr

namespace Principal

/-- The user that a validated token was issued for. -/
def user (token : Token) : Principal :=
  ⟨.user, token.principalName, token⟩

/-- A principal as text: its type and its name. -/
def display (principal : Principal) : String :=
  principal.type.name ++ ":" ++ principal.name

end Principal

end BearerLogin
