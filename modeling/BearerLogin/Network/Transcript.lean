import BearerLogin.Network

/-! A network made of replies that are known already.  It answers requests with these replies in
order and notes the first request for which there is none; whoever can really send that request adds
the reply and asks the whole question again, until no request is left open. -/

namespace BearerLogin

/-- The replies that are still to be given, and the first request that found none. -/
structure Transcript where
  replies : List Reply := []
  open? : Option Request := none
  deriving DecidableEq, Repr

namespace Transcript

/-- Answers a request.  Behind an open request nothing is answered any more. -/
def answer (request : Request) (transcript : Transcript) : Reply × Transcript :=
  match transcript.open?, transcript.replies with
  | some _, _ => (.lost, transcript)
  | none, reply :: rest => (reply, { transcript with replies := rest })
  | none, [] => (.lost, { transcript with open? := some request })

/-- The network of known replies. -/
def network : Network Transcript where
  send := answer

end Transcript

end BearerLogin
