import BearerLogin.Proofs.Http.Comparison
import BearerLogin.Proofs.Login.Handling

/-! The guard of the principals.  A request for a principal is answered from the store only if it
bears the administrator's token; any other is refused in a way that depends on nothing but the token
that is set and the headers.  No request to read changes the store. -/

namespace BearerLogin.Http

/-! ### Tokens in headers -/

namespace Incoming

variable {request : Incoming} {name : String} {value : List UInt8} {token : String}

/-- A value is that of the first header with a name. -/
def First (request : Incoming) (name : String) (value : List UInt8) : Prop :=
  ∃ earlier key later, request.headers = earlier ++ (key, value) :: later ∧ lower key = name ∧
    ∀ header ∈ earlier, lower header.1 ≠ name

theorem header?_eq_some : request.header? name = some value ↔ request.First name value := by
  unfold header? First
  simp only [Option.map_eq_some_iff, List.find?_eq_some_iff_append, beq_iff_eq,
    Bool.not_eq_true', beq_eq_false_iff_ne]
  constructor
  · rintro ⟨⟨key, _⟩, ⟨named, earlier, later, split, others⟩, rfl⟩
    exact ⟨earlier, key, later, split, named, others⟩
  · rintro ⟨earlier, key, later, split, named, others⟩
    exact ⟨(key, value), ⟨named, earlier, later, split, others⟩, rfl⟩

/-- Bytes of which a header may consist to be read as text. -/
def Printable (value : List UInt8) : Prop :=
  ∀ b ∈ value, b = 9 ∨ 32 ≤ b ∧ b < 127

theorem headerText?_eq_some {text : String} :
    request.headerText? name = some text ↔
      ∃ value, request.First name value ∧ Printable value ∧ value = Text.utf8 text := by
  have ascii : ∀ value, Printable value → Text.utf8 (Text.ofAscii value) = value := by
    intro value printable
    refine Text.utf8_ofAscii fun b member => ?_
    rcases printable b member with rfl | ⟨-, small⟩
    · decide
    · exact UInt8.lt_trans small (by decide)
  unfold headerText?
  simp only [Option.bind_eq_some_iff, header?_eq_some]
  constructor
  · rintro ⟨value, first, read⟩
    split at read
    · next printable =>
      have printable : Printable value := by simpa [Printable] using printable
      cases read
      exact ⟨value, first, printable, (ascii value printable).symm⟩
    · cases read
  · rintro ⟨value, first, printable, written⟩
    have same : Text.ofAscii value = text :=
      Text.utf8_injective ((ascii value printable).trans written)
    refine ⟨value, first, ?_⟩
    rw [if_pos (by simpa [Printable] using printable)]
    exact congrArg some same

/-- The first authorization header of a request is printable text that gives a token behind the name
of the scheme, with blanks around it or without. -/
def Bears (request : Incoming) (token : String) : Prop :=
  ∃ value rest, request.First "authorization" value ∧ Printable value ∧
    value = Text.utf8 ("Bearer " ++ rest) ∧ Text.trim rest = token

theorem bearerToken?_eq_some : App.bearerToken? request = some token ↔ request.Bears token := by
  unfold App.bearerToken? Bears
  simp only [Option.map_eq_some_iff, Option.bind_eq_some_iff, headerText?_eq_some,
    dropFront?_eq_some]
  constructor
  · rintro ⟨rest, ⟨text, ⟨value, first, printable, written⟩, split⟩, rfl⟩
    have text_eq : text = "Bearer " ++ String.ofList rest := by
      rw [← String.ofList_toList (s := text), split, String.ofList_append, String.ofList_toList]
    refine ⟨value, String.ofList rest, first, printable, written.trans (by rw [text_eq]), ?_⟩
    rw [Text.trim, String.toList_ofList]
  · rintro ⟨value, rest, first, printable, written, rfl⟩
    exact ⟨rest.toList, ⟨_, ⟨value, first, printable, written⟩, String.toList_append⟩, rfl⟩

end Incoming

namespace App

/-! ### The administrator -/

/-- An administrator's token is set, and a request bears it. -/
def Admits (app : App σ) (request : Incoming) : Prop :=
  ∃ token, app.adminToken = some token ∧ request.Bears token

/-- Why a request that is not admitted is refused. -/
def refusal (app : App σ) : Refusal :=
  match app.adminToken with
  | none => .forbidden "principal lookup is disabled"
  | some _ => .unauthorized "admin token required"

/-- What is reported of a request that is not admitted. -/
def refusalEvents (app : App σ) (request : Incoming) : List Event :=
  match app.adminToken with
  | none => []
  | some _ => [.lookupRejected (bearerToken? request).isSome]

variable (app : App σ) (request : Incoming) (world : World σ)

theorem requireAdmin_of_admits (admitted : app.Admits request) :
    (app.requireAdmin request).run world = (.ok (), world) := by
  obtain ⟨token, set, bears⟩ := admitted
  have presented := Incoming.bearerToken?_eq_some.mpr bears
  simp only [requireAdmin, set, presented, Option.any_some, tokensMatch_eq_true.mpr rfl]
  rfl

theorem requireAdmin_of_not_admits (refused : ¬app.Admits request) :
    (app.requireAdmin request).run world =
      (.error app.refusal, world.noting (app.refusalEvents request)) := by
  unfold requireAdmin refusal refusalEvents
  rcases set : app.adminToken with _ | expected
  · simp only [World.noting, List.append_nil]
    rfl
  · have other : (bearerToken? request).any (fun token => tokensMatch token expected) = false := by
      rw [Option.any_eq_false]
      intro token presented
      rw [Bool.eq_false_iff]
      intro matched
      rw [tokensMatch_eq_true.mp matched] at presented
      exact refused ⟨expected, set, Incoming.bearerToken?_eq_some.mp presented⟩
    simp only [other]
    rfl

/-- What is answered to an administrator who asks for a name with this entry in the store. -/
def entryOf (now : Instant) (username : String) : Option Principal → Outgoing
  | some principal => description now username principal
  | none => (Refusal.notFound s!"No principal bound to '{username}'").response

theorem lookUp_of_admits (now : Instant) (username : String) (admitted : app.Admits request) :
    (app.lookUp now username request).run world =
      (entryOf now username (world.store.get? username), world) := by
  have admission := app.requireAdmin_of_admits request world admitted
  simp only [lookUp, StateT.run_bind, admission]
  show (match world.store.get? username with
    | some principal => (pure (description now username principal) : StateM (World σ) Outgoing)
    | none => pure _).run world = _
  rcases world.store.get? username with _ | principal
  · rfl
  · rfl

theorem lookUp_of_not_admits (now : Instant) (username : String) (refused : ¬app.Admits request) :
    (app.lookUp now username request).run world =
      (app.refusal.response, world.noting (app.refusalEvents request)) := by
  have refusal := app.requireAdmin_of_not_admits request world refused
  simp only [lookUp, StateT.run_bind, refusal]
  rfl

/-- What a refused request is told and what is reported of it depend on nothing but the token that
is set and the headers. -/
theorem lookUp_refused_congr {other : App τ} {request' : Incoming} {world' : World τ}
    (now now' : Instant) (username username' : String)
    (sameToken : other.adminToken = app.adminToken)
    (sameHeaders : request'.headers = request.headers) (refused : ¬app.Admits request) :
    ((other.lookUp now' username' request').run world').1 =
        ((app.lookUp now username request).run world).1 ∧
      ∃ events, ((app.lookUp now username request).run world).2 = world.noting events ∧
        ((other.lookUp now' username' request').run world').2 = world'.noting events := by
  have presented : bearerToken? request' = bearerToken? request := by
    simp only [bearerToken?, Incoming.headerText?, Incoming.header?, sameHeaders]
  have refused' : ¬other.Admits request' := by
    rintro ⟨token, set, bears⟩
    have bears := Incoming.bearerToken?_eq_some.mpr bears
    rw [sameToken] at set
    rw [presented] at bears
    exact refused ⟨token, set, Incoming.bearerToken?_eq_some.mp bears⟩
  have sameRefusal : other.refusal = app.refusal := by
    simp only [refusal, sameToken]
  have sameEvents : other.refusalEvents request' = app.refusalEvents request := by
    simp only [refusalEvents, sameToken, presented]
  rw [app.lookUp_of_not_admits request world now username refused,
    other.lookUp_of_not_admits request' world' now' username' refused', sameRefusal, sameEvents]
  exact ⟨rfl, app.refusalEvents request, rfl, rfl⟩

/-! ### Requests to read -/

theorem read_run (now : Instant) (route : Route) :
    ∃ events, ((app.read now request route).run world).2 = world.noting events := by
  have nothing : world = world.noting [] := world.noting_nil.symm
  cases route with
  | health => exact ⟨[], nothing⟩
  | ready => exact ⟨[], nothing⟩
  | login => exact ⟨[], nothing⟩
  | unknown => exact ⟨[], nothing⟩
  | principal segment =>
    rcases named : username? segment with _ | username
    · simp only [read, named]
      exact ⟨[], nothing⟩
    · simp only [read, named]
      by_cases admitted : app.Admits request
      · rw [app.lookUp_of_admits request world now username admitted]
        exact ⟨[], nothing⟩
      · rw [app.lookUp_of_not_admits request world now username admitted]
        exact ⟨_, rfl⟩

/-- A request to read leaves nothing but reports. -/
theorem serve_get (now : Instant) (id : ErrorId) (get : request.method = "GET") :
    ∃ events, ((app.serve now id request).run world).2 = world.noting events := by
  have nothing : world = world.noting [] := world.noting_nil.symm
  unfold serve
  rcases route : Route.ofPath request.path with _ | _ | _ | segment | _
  · simpa [get] using app.read_run request world now .health
  · simpa [get] using app.read_run request world now .ready
  · simp only [get]
    exact ⟨[], nothing⟩
  · simpa [get] using app.read_run request world now (.principal segment)
  · exact ⟨[], nothing⟩

theorem status_entryOf (now : Instant) (username : String) (entry : Option Principal) :
    (entryOf now username entry).status = 200 ∨ (entryOf now username entry).status = 404 := by
  rcases entry with _ | principal
  · exact .inr rfl
  · exact .inl rfl

theorem status_refusal :
    app.refusal.response.status = if app.adminToken = none then 403 else 401 := by
  unfold refusal
  rcases app.adminToken with _ | token <;> rfl

/-- The store is reached exactly by requests that bear the administrator's token.  All others are
refused, and neither the answer nor the report depends on the store, the service or the name asked
for.  No request to read changes the store. -/
theorem lookup_guarded (app : App σ) (now : Instant) (username : String) (request : Incoming)
    (world : World σ) :
    ((((app.lookUp now username request).run world).1.status = 200 ∨
        ((app.lookUp now username request).run world).1.status = 404) ↔ app.Admits request) ∧
      (¬app.Admits request →
        ((app.lookUp now username request).run world).1.status =
            (if app.adminToken = none then 403 else 401) ∧
          ∀ (τ : Type) (other : App τ) (now' : Instant) (username' : String) (request' : Incoming)
            (world' : World τ), other.adminToken = app.adminToken →
            request'.headers = request.headers →
              ((other.lookUp now' username' request').run world').1 =
                  ((app.lookUp now username request).run world).1 ∧
                ∃ events, ((app.lookUp now username request).run world).2 = world.noting events ∧
                  ((other.lookUp now' username' request').run world').2 = world'.noting events) ∧
      ∀ (now' : Instant) (id : ErrorId) (get : Incoming), get.method = "GET" →
        ((app.serve now' id get).run world).2.store = world.store := by
  refine ⟨⟨?_, ?_⟩, ?_, ?_⟩
  · intro reached
    by_contra refused
    rw [app.lookUp_of_not_admits request world now username refused, app.status_refusal] at reached
    split at reached <;> simp at reached
  · intro admitted
    rw [app.lookUp_of_admits request world now username admitted]
    exact status_entryOf now username _
  · intro refused
    refine ⟨?_, ?_⟩
    · rw [app.lookUp_of_not_admits request world now username refused]
      exact app.status_refusal
    · intro τ other now' username' request' world' sameToken sameHeaders
      exact app.lookUp_refused_congr request world now now' username username' sameToken
        sameHeaders refused
  · intro now' id get reading
    obtain ⟨events, after⟩ := app.serve_get get world now' id reading
    rw [after]
    rfl

/-- An app with trusting peers whose administrator's token is `key`. -/
def trusting : App Unit where
  service := .trusting
  adminToken := some "key"

/-- A request for the principal of `a` without any header. -/
def bareLookup : Incoming where
  method := "GET"
  target := "/v1/principals/a"

theorem lookup_guarded_bare :
    ¬trusting.Admits bareLookup ∧
      ((trusting.lookUp ⟨0, 0⟩ "a" bareLookup).run { peers := () }).1.status = 401 ∧
      ((trusting.lookUp ⟨0, 0⟩ "b" bareLookup).run
          { peers := (), store := Store.empty.put "b" (.user ⟨"b", ⟨0, 0⟩, none, [], .null⟩) }).1 =
        ((trusting.lookUp ⟨0, 0⟩ "a" bareLookup).run { peers := () }).1 ∧
      ((trusting.serve ⟨0, 0⟩ ⟨0⟩ bareLookup).run { peers := () }).2.store = Store.empty := by
  have refused : ¬trusting.Admits bareLookup := by
    rintro ⟨token, -, bears⟩
    have presented : bearerToken? bareLookup = none := rfl
    rw [Incoming.bearerToken?_eq_some.mpr bears] at presented
    cases presented
  obtain ⟨-, guarded, kept⟩ := trusting.lookup_guarded ⟨0, 0⟩ "a" bareLookup { peers := () }
  obtain ⟨status, same⟩ := guarded refused
  exact ⟨refused, status, (same Unit trusting ⟨0, 0⟩ "b" bareLookup _ rfl rfl).1,
    kept ⟨0, 0⟩ ⟨0⟩ bareLookup rfl⟩

end App

end BearerLogin.Http
