/-! Identifiers of failed logins.  The peer is told nothing but the identifier, under which the
cause stands in the log. -/

namespace BearerLogin

/-- The identifier of a failed login. -/
structure ErrorId where
  value : UInt32
  deriving DecidableEq, Repr, Inhabited

/-- The identifier as eight lower-case hexadecimal digits. -/
def ErrorId.render (id : ErrorId) : String :=
  let digits := Nat.toDigits 16 id.value.toNat
  String.ofList (List.replicate (8 - digits.length) '0' ++ digits)

end BearerLogin
