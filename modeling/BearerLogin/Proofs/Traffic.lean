import BearerLogin.Network

/-! What passes over a network: the requests in their order, each together with its reply. -/

namespace BearerLogin

/-- The network that answers everything in the same way. -/
def Network.constant (reply : Reply) : Network Unit where
  send _ _ := (reply, ())

/-- A request together with its reply. -/
abbrev Traffic := List (Request × Reply)

/-- Whether a host is refused, by the list of the characters that it is written with. -/
theorem Request.hostRefused_eq (host : Url.Host) :
    hostRefused host = host.render.toList.any fun c =>
      c == '"' || c.toNat == 96 || c == '\x7b' || c == '\x7d' :=
  String.contains_bool_eq

/-- A draft as it is sent to a URL. -/
def Request.sentTo (draft : Request) (url : Url) : Request :=
  { draft with
    url := url.withoutUser.withoutFragment
    authorization := urlAuthorization url ++ draft.authorization }

/-- What a reply comes to, for a request that is reported under a URL. -/
def Reply.result (url : String) : Reply → Except HttpFault Response
  | .lost => .error (.unsent url)
  | .answered status body complete => .ok ⟨status, if complete then some body else none⟩

namespace Network

theorem exchange_eq (network : Network ν) (url : Url) (draft : Request) (state : ν) :
    network.exchange url draft state =
      if Request.canRequest (Request.reported url) then
        let sent := network.send (draft.sentTo url) state
        (sent.1.result (Request.reported url).render, sent.2)
      else (.error (.unbuildable (Request.reported url).render), state) := by
  unfold exchange Request.sentTo
  by_cases buildable : Request.canRequest (Request.reported url)
  · simp only [buildable, if_true]
    rcases network.send _ state with ⟨_ | ⟨status, body, complete⟩, next⟩ <;> rfl
  · simp [buildable]

/-- A network together with a note of all requests and their replies. -/
def noting (network : Network ν) : Network (ν × Traffic) where
  send request state :=
    let sent := network.send request state.1
    (sent.1, sent.2, state.2 ++ [(request, sent.1)])

/-- What a request to a URL puts on the network. -/
def traffic (network : Network ν) (url : Url) (draft : Request) (state : ν) : Traffic :=
  if Request.canRequest (Request.reported url) then
    let request := { draft with
      url := url.withoutUser.withoutFragment
      authorization := Request.urlAuthorization url ++ draft.authorization }
    [(request, (network.send request state).1)]
  else []

theorem exchange_noting (network : Network ν) (url : Url) (draft : Request) (state : ν)
    (earlier : Traffic) :
    network.noting.exchange url draft (state, earlier) =
      ((network.exchange url draft state).1, (network.exchange url draft state).2,
        earlier ++ network.traffic url draft state) := by
  unfold exchange traffic
  by_cases buildable : Request.canRequest (Request.reported url)
  · simp only [buildable, if_true, noting]
    rcases network.send _ state with ⟨_ | ⟨status, body, complete⟩, next⟩ <;> rfl
  · simp [buildable]

/-- A request to a URL is the draft as it is sent there. -/
theorem fst_of_mem_traffic {network : Network ν} {url : Url} {draft : Request} {state : ν}
    {passed : Request × Reply} (member : passed ∈ network.traffic url draft state) :
    passed.1 = draft.sentTo url := by
  unfold traffic at member
  split at member
  · rw [List.mem_singleton] at member
    rw [member]
    rfl
  · cases member

theorem traffic_eq_nil_iff {network : Network ν} {url : Url} {draft : Request} {state : ν} :
    network.traffic url draft state = [] ↔
      Request.canRequest (Request.reported url) = false := by
  unfold traffic
  split
  · next buildable => simp [buildable]
  · next unbuildable => simpa using unbuildable

end Network

end BearerLogin
