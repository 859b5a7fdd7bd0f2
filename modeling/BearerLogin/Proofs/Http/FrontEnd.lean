import BearerLogin.Proofs.Base64
import BearerLogin.Proofs.Exchange.Turns
import BearerLogin.Proofs.Http.Lookup

/-! The service over HTTP in front of exchanges.  A request to log in is one message to a new
exchange, in Base64; what the exchange settles is answered, and operators read it under the name
until the next login under it.  The run lemmas are by induction on the requests, and the store after
a run is the one at the start with all bindings of the run put into it in order. -/

namespace BearerLogin

namespace Store

/-- Stores principals under names, one after the other. -/
def putAll (store : Store) (bindings : List (String × Principal)) : Store :=
  bindings.foldl (fun store binding => store.put binding.1 binding.2) store

/-- The principal that was bound to a name last. -/
def lastBound (bindings : List (String × Principal)) (key : String) : Option Principal :=
  (bindings.reverse.find? (·.1 == key)).map (·.2)

theorem get?_putAll (store : Store) (bindings : List (String × Principal)) (key : String) :
    (store.putAll bindings).get? key = (lastBound bindings key).or (store.get? key) := by
  induction bindings generalizing store with
  | nil => rfl
  | cons first rest ih =>
    show ((store.put first.1 first.2).putAll rest).get? key = _
    -- Read backwards, `first` counts only where no later binding has the name.
    rw [ih, lastBound, lastBound, List.reverse_cons, List.find?_append]
    rcases found : rest.reverse.find? (·.1 == key) with _ | later
    · by_cases same : first.1 = key
      · simp [← same]
      · simp [found, same, get?_put_of_ne store first.2 (Ne.symm same)]
    · simp [found]

theorem exists_lastBound {bindings : List (String × Principal)} {key : String} :
    (∃ principal, lastBound bindings key = some principal) ↔ key ∈ bindings.map (·.1) := by
  rw [lastBound, ← Option.isSome_iff_exists, Option.isSome_map, List.find?_isSome]
  simp

/-- A store that began empty counts the names that were bound. -/
theorem size_putAll (bindings : List (String × Principal)) :
    (empty.putAll bindings).size = (bindings.map (·.1)).dedup.length := by
  refine size_eq_length (List.nodup_dedup _) fun key => ?_
  rw [List.mem_dedup, ← exists_lastBound]
  simp only [get?_putAll, get?_empty, Option.or_none]

end Store

/-- The name that an exchange authorized, with the principal. -/
def Exchange.settled? (exchange : Exchange) : Option (String × Principal) :=
  exchange.authorizationId.bind fun name => exchange.principal.map fun principal =>
    (name, principal)

namespace Http

/-! ### Messages in requests -/

/-- A text is a message in Base64, with blanks around it or without. -/
def Encodes (text : String) (message : List UInt8) : Prop :=
  ∃ before inner after, text = before ++ inner ++ after ∧ Text.Blank before.toList ∧
    Text.Blank after.toList ∧ Text.utf8 inner = Base64.encode Base64.standard message

/-- Neither a symbol of Base64 nor its padding is blank. -/
theorem solid_of_mem_encode {message : List UInt8} {b : UInt8}
    (member : b ∈ Base64.encode Base64.standard message) :
    Text.isBlank (Char.ofNat b.toNat) = false := by
  have symbols :
      ∀ n < 64, Text.isBlank (Char.ofNat (Base64.symbol Base64.standard n).toNat) = false := by
    decide
  rcases Base64.mem_encode member with ⟨n, small, rfl⟩ | rfl
  · exact symbols n small
  · decide

theorem encodes_iff {text : String} {message : List UInt8} :
    Encodes text message ↔
      Text.utf8 (Text.trim text) = Base64.encode Base64.standard message := by
  constructor
  · rintro ⟨before, inner, after, rfl, blankBefore, blankAfter, written⟩
    have ascii : ∀ b ∈ Text.utf8 inner, b < 128 := by
      rw [written]
      exact fun b member => Base64.lt_of_mem_encode member
    have inner_eq : inner = Text.ofAscii (Text.utf8 inner) :=
      Text.utf8_injective (Text.utf8_ofAscii ascii).symm
    have solid : ∀ c ∈ inner.toList, Text.isBlank c = false := by
      rw [inner_eq, written, Text.ofAscii, String.toList_ofList]
      intro c member
      obtain ⟨b, written, rfl⟩ := List.mem_map.mp member
      exact solid_of_mem_encode written
    rw [Text.trim, String.toList_append, String.toList_append,
      Text.trimChars_around blankBefore blankAfter solid, String.ofList_toList, written]
  · intro written
    obtain ⟨before, after, split, blankBefore, blankAfter⟩ := Text.trimChars_decomposes text.toList
    refine ⟨String.ofList before, Text.trim text, String.ofList after, ?_, ?_, ?_, written⟩
    · rw [Text.trim, ← String.ofList_append, ← String.ofList_append, ← split,
        String.ofList_toList]
    · rwa [String.toList_ofList]
    · rwa [String.toList_ofList]

/-- A request to log in has this text in its body. -/
def Incoming.Submits (request : Incoming) (text : String) : Prop :=
  request.method = "POST" ∧ App.Route.ofPath request.path = .login ∧
    App.authText request = .ok text

namespace App

theorem saslMessage_eq_ok {text : String} {message : List UInt8} :
    saslMessage text = .ok message ↔ Encodes text message := by
  rw [saslMessage, mapError_eq_ok, Base64.decode_eq_ok, encodes_iff]

/-- The message that a request logs in with, if it has one. -/
def message? (request : Incoming) : Option (List UInt8) :=
  if request.method = "POST" ∧ Route.ofPath request.path = .login then
    (authText request).toOption.bind fun text => (saslMessage text).toOption
  else none

theorem message?_of_submits {request : Incoming} {text : String}
    (submits : request.Submits text) : message? request = (saslMessage text).toOption := by
  obtain ⟨post, route, read⟩ := submits
  rw [message?, if_pos ⟨post, route⟩, read]
  rfl

theorem message?_eq_some {request : Incoming} {message : List UInt8} :
    message? request = some message ↔ ∃ text, request.Submits text ∧ Encodes text message := by
  constructor
  · intro given
    unfold message? at given
    split at given
    · next login =>
      obtain ⟨text, read, decoded⟩ := Option.bind_eq_some_iff.mp given
      exact ⟨text, ⟨login.1, login.2, eq_ok_of_toOption read⟩,
        saslMessage_eq_ok.mp (eq_ok_of_toOption decoded)⟩
    · cases given
  · rintro ⟨text, submits, encoded⟩
    rw [message?_of_submits submits, saslMessage_eq_ok.mpr encoded]
    rfl

/-! ### Single requests -/

variable (app : App σ) (now : Instant) (id : ErrorId) {request : Incoming} (world : World σ)
  {text : String} {message : List UInt8}

/-- What is answered and reported when an exchange took a message. -/
def reply : Except ExchangeError Unit × Exchange → Outgoing × List Event
  | (.error error, _) => ((Refusal.ofExchange error).response, [])
  | (.ok _, exchange) =>
    match exchange.settled? with
    | some (identity, principal) =>
      (admission identity principal, [.admitted identity principal.display])
    | none => ((Refusal.internal "exchange did not complete").response, [])

/-- A request with a message is answered as a new exchange takes the message. -/
theorem serve_of_message (given : message? request = some message) :
    (app.serve now id request).run world =
      let taken := (({} : Exchange).respond app.service id message).run world
      ((reply taken.1).1, taken.2.noting (reply taken.1).2) := by
  obtain ⟨text, ⟨post, route, read⟩, encoded⟩ := message?_eq_some.mp given
  have decoded := saslMessage_eq_ok.mpr encoded
  simp only [serve, route, post, if_true, logIn, read, decoded, runExchange, StateT.run_bind]
  generalize (({} : Exchange).respond app.service id message).run world = taken
  have nothing : taken.2.noting [] = taken.2 := taken.2.noting_nil
  -- Nothing is reported but where the exchange tells both the name and the principal.
  rcases taken with ⟨⟨error | _, ⟨_ | identity, _ | principal⟩⟩, after⟩
  case ok.some.some => rfl
  all_goals exact Prod.ext rfl nothing.symm

/-- A text that is not in Base64 gets no further. -/
theorem serve_of_undecoded (submits : request.Submits text)
    (undecoded : ∀ message, ¬Encodes text message) :
    ∃ response, response.status = 400 ∧
      (app.serve now id request).run world = (response, world) := by
  obtain ⟨post, route, read⟩ := submits
  rcases decoded : saslMessage text with refusal | message
  · refine ⟨refusal.response, ?_, ?_⟩
    · rw [saslMessage, mapError_eq_error] at decoded
      obtain ⟨fault, -, rfl⟩ := decoded
      rfl
    · simp only [serve, route, post, if_true, logIn, read, decoded]
      rfl
  · exact absurd (saslMessage_eq_ok.mp decoded) (undecoded message)

theorem status_of_authText {response : Outgoing} (h : authText request = .error response) :
    response.status ≠ 500 := by
  unfold authText at h
  split at h
  · cases h
    simp [plain]
  · split at h
    · cases h
      simp [plain]
    · split at h
      · cases h
      · split at h
        · cases h
          simp [plain]
        · cases h
          simp [plain]

/-- An action adds to the log alone, and nothing goes wrong inside. -/
def Harmless (action : StateM (World σ) Outgoing) (world : World σ) : Prop :=
  (∃ events, (action.run world).2 = world.noting events) ∧ (action.run world).1.status ≠ 500

theorem harmless_pure {response : Outgoing} (sound : response.status ≠ 500) :
    Harmless (pure response) world :=
  ⟨⟨[], world.noting_nil.symm⟩, sound⟩

theorem harmless_read (route : Route) : Harmless (app.read now request route) world := by
  refine ⟨app.read_run request world now route, ?_⟩
  cases route with
  | health => exact (by decide : (200 : Nat) ≠ 500)
  | ready => exact (by decide : (200 : Nat) ≠ 500)
  | login => exact (by decide : (404 : Nat) ≠ 500)
  | unknown => exact (by decide : (404 : Nat) ≠ 500)
  | principal segment =>
    rcases named : username? segment with _ | username
    · simp only [read, named]
      exact (by decide : (400 : Nat) ≠ 500)
    · simp only [read, named]
      by_cases admitted : app.Admits request
      · rw [app.lookUp_of_admits request world now username admitted]
        rcases status_entryOf now username (world.store.get? username) with found | missing
        · simp [found]
        · simp [missing]
      · rw [app.lookUp_of_not_admits request world now username admitted, status_refusal]
        split <;> decide

theorem harmless_reading (route : Route) :
    Harmless (if request.method = "GET" then app.read now request route
      else if request.method = "HEAD" then do
        return { (← app.read now request route) with headOnly := true }
      else return notAllowed "GET,HEAD") world := by
  have reading : Harmless (app.read now request route) world := app.harmless_read now world route
  split
  · exact reading
  · split
    · exact ⟨reading.1, reading.2⟩
    · exact harmless_pure world (by decide : (405 : Nat) ≠ 500)

theorem harmless_logIn (unread : ∀ text, authText request = .ok text →
    ∀ message, saslMessage text ≠ .ok message) : Harmless (app.logIn id request) world := by
  unfold logIn
  rcases read : authText request with response | text
  · exact harmless_pure world (status_of_authText read)
  · dsimp only
    rcases decoded : saslMessage text with refusal | message
    · rw [saslMessage, mapError_eq_error] at decoded
      obtain ⟨fault, -, rfl⟩ := decoded
      refine harmless_pure world ?_
      exact (by decide : (400 : Nat) ≠ 500)
    · exact absurd decoded (unread text read message)

/-- A request without a message is harmless. -/
theorem harmless_serve (no_message : message? request = none) :
    Harmless (app.serve now id request) world := by
  unfold serve
  rcases route : Route.ofPath request.path with _ | _ | _ | segment | _
  case unknown => exact harmless_pure world (by decide : (404 : Nat) ≠ 500)
  case login =>
    by_cases post : request.method = "POST"
    · simp only [post, if_true]
      refine app.harmless_logIn id world fun text read message decoded => ?_
      rw [message?_of_submits ⟨post, route, read⟩, decoded] at no_message
      cases no_message
    · simp only [post, if_false]
      exact harmless_pure world (by decide : (405 : Nat) ≠ 500)
  all_goals exact app.harmless_reading now world _

end App

/-! ### Runs of requests -/

/-- A request as it comes: when, and under which identifier its failure would be reported. -/
structure Arrival where
  now : Instant
  id : ErrorId
  request : Incoming

/-- A request with what came of it. -/
structure Answered (σ : Type) where
  arrival : Arrival
  response : Outgoing
  /-- What the peers were asked, and what they answered. -/
  calls : List PeerCall
  before : World σ
  after : World σ

namespace App

/-- The app whose peers note what they are asked. -/
def noting (app : App σ) : App (σ × List PeerCall) :=
  ⟨app.service.noting, app.adminToken⟩

variable (app : App σ)

/-- Answers a request, and writes down what comes of it. -/
def answer (arrival : Arrival) (world : World σ) : Answered σ :=
  let (response, after) := (app.serve arrival.now arrival.id arrival.request).run world
  let (_, noted) := (app.noting.serve arrival.now arrival.id arrival.request).run world.unnoted
  { arrival, response, calls := noted.peers.2, before := world, after }

/-- Answers requests, one after the other. -/
def answers : List Arrival → World σ → List (Answered σ) × World σ
  | [], world => ([], world)
  | arrival :: rest, world =>
    let answered := app.answer arrival world
    let (others, last) := answers rest answered.after
    (answered :: others, last)

/-- The name and the principal that a new exchange settles on when it takes the message of a
request. -/
def binding? (answered : Answered σ) : Option (String × Principal) :=
  (message? answered.arrival.request).bind fun message =>
    (app.service.turn answered.arrival.id message ({}, answered.before)).after.1.settled?

/-- What requests bound, in order. -/
def bindings (answers : List (Answered σ)) : List (String × Principal) :=
  answers.filterMap app.binding?

variable (arrival : Arrival) (world : World σ) {message : List UInt8}

theorem answer_response :
    (app.answer arrival world).response =
      ((app.serve arrival.now arrival.id arrival.request).run world).1 := rfl

theorem answer_after :
    (app.answer arrival world).after =
      ((app.serve arrival.now arrival.id arrival.request).run world).2 := rfl

theorem answer_calls :
    (app.answer arrival world).calls =
      ((app.noting.serve arrival.now arrival.id arrival.request).run world.unnoted).2.peers.2 := rfl

theorem status_ofExchange {error : ExchangeError} (other : error ≠ .alreadyComplete) :
    (Refusal.ofExchange error).response.status = 401 := by
  cases error with
  | invalidResponse detail => rfl
  | authentication failure => rfl
  | alreadyComplete => exact absurd rfl other

/-- A request with a message does to the world what the message does to it through a new exchange,
and is answered by what the exchange settles. -/
theorem answer_of_message (given : message? arrival.request = some message) :
    let turn := app.service.turn arrival.id message ({}, world)
    let answered := app.answer arrival world
    answered.calls = turn.calls ∧ answered.after.peers = turn.after.2.peers ∧
      answered.after.store = turn.after.2.store ∧
      (¬turn.LoggedIn ∧ answered.response.status = 401 ∧ app.binding? answered = none ∧
          turn.after.2.store = world.store ∨
        turn.LoggedIn ∧ ∃ credentials principal, Credentials.ofMessage message = .ok credentials ∧
          answered.response = admission credentials.username principal ∧
          app.binding? answered = some (credentials.username, principal) ∧
          turn.after.2.store = world.store.put credentials.username principal) := by
  intro turn answered
  have binding : app.binding? answered = turn.after.1.settled? := by
    unfold binding?
    rw [show answered.arrival = arrival from rfl, given]
    rfl
  -- The notes of the app are those of an exchange with the noting service.
  have asked : answered.calls = turn.calls := by
    have noted := Exchange.respond_noting app.service arrival.id {} message world
    rw [answer_calls, app.noting.serve_of_message arrival.now arrival.id world.unnoted given,
      app.service.turn_calls]
    exact congrArg (fun taken => taken.2.peers.2) noted
  have response : answered.response = (reply (turn.result, turn.after.1)).1 := by
    rw [answer_response, app.serve_of_message arrival.now arrival.id world given]
    rfl
  have after : ∃ events, answered.after = turn.after.2.noting events := by
    rw [answer_after, app.serve_of_message arrival.now arrival.id world given]
    exact ⟨_, rfl⟩
  obtain ⟨events, after⟩ := after
  refine ⟨asked, by rw [after]; rfl, by rw [after]; rfl, ?_⟩
  obtain ⟨error, failed, other, same⟩ | ⟨credentials, principal, read, ended, stored⟩ :=
    Exchange.respond_of_open app.service arrival.id {} message world rfl
  · have result : turn.result = .error error := congrArg Prod.fst failed
    have unsettled : turn.after.1 = {} := congrArg Prod.snd failed
    refine .inl ⟨?_, ?_, ?_, same⟩
    · rw [Turn.LoggedIn, result]
      intro loggedIn
      cases loggedIn
    · rw [response, result]
      exact status_ofExchange other
    · rw [binding, unsettled]
      rfl
  · have result : turn.result = .ok () := congrArg Prod.fst ended
    have settled : turn.after.1 = ⟨some credentials.username, some principal⟩ :=
      congrArg Prod.snd ended
    refine .inr ⟨result, credentials, principal, read, ?_, ?_, stored⟩
    · rw [response, result, settled]
      rfl
    · rw [binding, settled]
      rfl

/-- A request without a message leaves nothing but reports, and binds nothing. -/
theorem answer_of_no_message (no_message : message? arrival.request = none) :
    (∃ events, (app.answer arrival world).after = world.noting events) ∧
      (app.answer arrival world).response.status ≠ 500 ∧
      app.binding? (app.answer arrival world) = none := by
  obtain ⟨quiet, sound⟩ := app.harmless_serve arrival.now arrival.id world no_message
  refine ⟨quiet, sound, ?_⟩
  unfold binding?
  rw [show (app.answer arrival world).arrival = arrival from rfl, no_message]
  rfl

/-- A request puts into the store what it binds. -/
theorem answer_store :
    (app.answer arrival world).after.store =
      world.store.putAll (app.binding? (app.answer arrival world)).toList := by
  rcases given : message? arrival.request with _ | message
  · obtain ⟨⟨events, after⟩, -, unbound⟩ := app.answer_of_no_message arrival world given
    rw [after, unbound]
    rfl
  · obtain ⟨-, -, store, ⟨-, -, unbound, same⟩ | ⟨-, credentials, principal, -, -, bound, put⟩⟩ :=
      app.answer_of_message arrival world given
    · rw [store, unbound, same]
      rfl
    · rw [store, bound, put]
      rfl

theorem answer_status : (app.answer arrival world).response.status ≠ 500 := by
  rcases given : message? arrival.request with _ | message
  · exact (app.answer_of_no_message arrival world given).2.1
  · obtain ⟨-, -, -, ⟨-, status, -⟩ | ⟨-, credentials, principal, -, response, -⟩⟩ :=
      app.answer_of_message arrival world given
    · simp [status]
    · rw [response]
      exact (by decide : (200 : Nat) ≠ 500)

variable {answered : Answered σ} (arrivals : List Arrival)

theorem answers_arrivals :
    (app.answers arrivals world).1.map (·.arrival) = arrivals := by
  induction arrivals generalizing world with
  | nil => rfl
  | cons first rest ih =>
    rw [answers, List.map_cons, ih]
    rfl

/-- Each request of a run is answered by itself, in the world that those before it left. -/
theorem mem_answers (member : answered ∈ (app.answers arrivals world).1) :
    answered = app.answer answered.arrival answered.before := by
  induction arrivals generalizing world with
  | nil => cases member
  | cons first rest ih =>
    rcases List.mem_cons.mp member with rfl | later
    · rfl
    · exact ih _ later

/-- A run puts into the store what its requests bind, in their order. -/
theorem answers_store :
    (app.answers arrivals world).2.store =
      world.store.putAll (app.bindings (app.answers arrivals world).1) := by
  induction arrivals generalizing world with
  | nil => rfl
  | cons first rest ih =>
    show (app.answers rest (app.answer first world).after).2.store = _
    rw [ih, answer_store, answers, bindings, bindings, List.filterMap_cons]
    rcases app.binding? (app.answer first world) with _ | binding
    · rfl
    · rfl

/-- How a request that gives a text to log in is answered. -/
structure Refines (answered : Answered σ) (text : String) : Prop where
  /-- A text that encodes a message has the effect of that message on a new exchange.  If it logs
  the client in, the answer is what is stored under its name then. -/
  encoded : ∀ message, Encodes text message →
    let turn := app.service.turn answered.arrival.id message ({}, answered.before)
    answered.calls = turn.calls ∧ answered.after.peers = turn.after.2.peers ∧
      answered.after.store = turn.after.2.store ∧
      (answered.response.status = 200 ↔ turn.LoggedIn) ∧
      (turn.LoggedIn → ∃ credentials principal, Credentials.ofMessage message = .ok credentials ∧
        answered.after.store.get? credentials.username = some principal ∧
        app.binding? answered = some (credentials.username, principal) ∧
        answered.response = ok
          [("authorization_id", .str credentials.username), ("principal", .str principal.name),
            ("principal_type", .str principal.type.name),
            ("expires_at", .str principal.token.expiresAt.rfc3339)]) ∧
      (¬turn.LoggedIn → answered.response.status = 401 ∧ app.binding? answered = none)
  /-- A text that is not in Base64 once it is trimmed asks nobody and changes nothing. -/
  undecoded : (∀ message,
      Text.utf8 (Text.trim text) ≠ Base64.encode Base64.standard message) →
    answered.response.status = 400 ∧ answered.calls = [] ∧ answered.after = answered.before ∧
      app.binding? answered = none

theorem refines_answer {text : String} (submits : arrival.request.Submits text) :
    app.Refines (app.answer arrival world) text := by
  refine ⟨fun message encoded => ?_, fun undecoded => ?_⟩
  · have given : message? arrival.request = some message :=
      message?_eq_some.mpr ⟨text, submits, encoded⟩
    obtain ⟨calls, peers, store, outcome⟩ := app.answer_of_message arrival world given
    refine ⟨calls, peers, store, ?_⟩
    obtain ⟨failed, status, unbound, -⟩ |
      ⟨loggedIn, credentials, principal, read, response, bound, put⟩ := outcome
    · refine ⟨⟨?_, fun loggedIn => absurd loggedIn failed⟩,
        fun loggedIn => absurd loggedIn failed, fun _ => ⟨status, unbound⟩⟩
      rw [status]
      intro accepted
      cases accepted
    · refine ⟨⟨fun _ => loggedIn, fun _ => ?_⟩, fun _ => ?_, fun failed => absurd loggedIn failed⟩
      · rw [response]
        rfl
      · refine ⟨credentials, principal, read, ?_, bound, response⟩
        rw [store, put, Store.get?_put_self]
  · have undecoded : ∀ message, ¬Encodes text message :=
      fun message encoded => undecoded message (encodes_iff.mp encoded)
    obtain ⟨response, status, run⟩ :=
      app.serve_of_undecoded arrival.now arrival.id world submits undecoded
    obtain ⟨noted, -, run'⟩ :=
      app.noting.serve_of_undecoded arrival.now arrival.id world.unnoted submits undecoded
    have no_message : message? arrival.request = none := by
      rw [Option.eq_none_iff_forall_ne_some]
      intro message given
      obtain ⟨text', submits', encoded⟩ := message?_eq_some.mp given
      obtain rfl : text' = text := by
        have same := submits'.2.2.symm.trans submits.2.2
        exact Except.ok.inj same
      exact undecoded message encoded
    refine ⟨?_, ?_, ?_, (app.answer_of_no_message arrival world no_message).2.2⟩
    · rw [answer_response, run]
      exact status
    · rw [answer_calls, run']
      rfl
    · rw [answer_after, run]
      rfl

/-- How requests to a server that began with an empty store are answered, and what it publishes
behind them. -/
structure Publishes (answers : List (Answered σ)) (last : World σ) : Prop where
  refines : ∀ answered ∈ answers, ∀ text, answered.arrival.request.Submits text →
    app.Refines answered text
  /-- No request fails for a reason inside the server. -/
  sound : ∀ answered ∈ answers, answered.response.status ≠ 500
  /-- The administrator is told the principal that was bound to a name last, or that there is
  none. -/
  lookedUp : ∀ (now : Instant) (id : ErrorId) (request : Incoming) (segment : List Char)
    (username : String), request.method = "GET" →
      Route.ofPath request.path = .principal segment → username? segment = some username →
      app.Admits request →
      ((app.serve now id request).run last).1 =
        entryOf now username (Store.lastBound (app.bindings answers) username)
  /-- The names that were bound are counted. -/
  counted : ∀ (now : Instant) (id : ErrorId) (request : Incoming), request.method = "GET" →
    Route.ofPath request.path = .ready →
    ((app.serve now id request).run last).1 = ok
      [("ready", .bool true), ("client_credentials_enabled", .bool app.service.hasEndpoint),
        ("bound_principals", .int ((app.bindings answers).map (·.1)).dedup.length)]

/-- A request to log in as `a` with the client secret `a`. -/
def secretLogin : Incoming where
  method := "POST"
  target := "/v1/sasl/plain"
  headers := [("Content-Type", Text.utf8 "application/json")]
  body := Text.utf8 "\x7b\"auth_bytes\":\" AGEAYQ== \"\x7d"

/-- A request of the administrator for the principal of `a`. -/
def keyLookup : Incoming where
  method := "GET"
  target := "/v1/principals/a"
  headers := [("Authorization", Text.utf8 "Bearer key")]

end App

end Http

end BearerLogin
