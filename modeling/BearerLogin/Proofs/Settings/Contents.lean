import BearerLogin.Proofs.Settings.Refusal

/-! What settings hold.  They are made of the texts of the known keys and of nothing else
(`ofSources_congr`), each from the text of its own key (`ofSources_eq_ok`).  A value among the
options and one in the environment do the same, so that all sources can be written as options
(`ofSources_flattened`). -/

namespace BearerLogin

namespace SettingKey

theorem mem_all (key : SettingKey) : key ∈ all := by
  cases key <;> decide

/-- No two keys have the same name. -/
theorem name_injective : Function.Injective name := by
  have once : (all.map name).Nodup := by decide
  intro one other same
  exact List.inj_on_of_nodup_map once one.mem_all other.mem_all same

end SettingKey

namespace Sources

variable {sources other : Sources} {key : SettingKey}

/-! ### Texts -/

/-- Two sources give every key the same text, up to blanks around it; a blank text is as good as
none. -/
def Alike (sources other : Sources) : Prop :=
  ∀ key, Text.trim ((sources.raw? key).getD "") = Text.trim ((other.raw? key).getD "")

theorem text?_eq (sources : Sources) (key : SettingKey) :
    sources.text? key = (some (Text.trim ((sources.raw? key).getD ""))).filter (· ≠ "") := by
  unfold text?
  rcases sources.raw? key with _ | value
  · rfl
  · rfl

theorem Alike.text? (alike : Alike sources other) (key : SettingKey) :
    sources.text? key = other.text? key := by
  rw [text?_eq, text?_eq, alike key]

theorem url_congr (same : sources.text? key = other.text? key) :
    sources.url key = other.url key := by
  simp only [url, same]

theorem number_congr (limit : Nat) (same : sources.text? key = other.text? key) :
    sources.number limit key = other.number limit key := by
  simp only [number, same]

theorem flag_congr (same : sources.text? key = other.text? key) :
    sources.flag key = other.flag key := by
  simp only [flag, same]

/-! ### Sources without an environment -/

/-- The sources with all values that count written as options: those of the options, even where they
are blank, and for the other keys those of the environment. -/
def flattened (sources : Sources) : Sources where
  options := SettingKey.all.filterMap fun key =>
    (sources.raw? key).map fun value => (key.name, value)

theorem valueOf?_filterMap (value? : SettingKey → Option String) (keys : List SettingKey) :
    valueOf? key.name (keys.filterMap fun key => (value? key).map fun value => (key.name, value)) =
      if key ∈ keys then value? key else none := by
  induction keys with
  | nil => rfl
  | cons first rest ih =>
    rcases found : value? first with _ | value
    · rw [List.filterMap_cons_none (by rw [found]; rfl), ih]
      by_cases same : key = first
      · subst same
        simp [found]
      · simp [same]
    · rw [List.filterMap_cons_some (by rw [found]; rfl)]
      by_cases same : key = first
      · subst same
        simp [valueOf?, found]
      · have apart : first.name ≠ key.name := fun named =>
          same (SettingKey.name_injective named).symm
        have behind : ∀ entries, valueOf? key.name ((first.name, value) :: entries) =
            valueOf? key.name entries := by
          intro entries
          simp [valueOf?, apart]
        rw [behind, ih]
        simp [same]

theorem raw?_flattened (sources : Sources) (key : SettingKey) :
    sources.flattened.raw? key = sources.raw? key := by
  have written : valueOf? key.name sources.flattened.options = sources.raw? key := by
    rw [flattened, valueOf?_filterMap, if_pos key.mem_all]
  rw [raw?, written]
  rcases sources.raw? key with _ | value
  · rfl
  · rfl

/-! ### Values -/

/-- A value is read from the text of a key, and is the default where the key has none. -/
def Gives (sources : Sources) (key : SettingKey) (reads : String → α → Prop) (default value : α) :
    Prop :=
  match sources.text? key with
  | none => value = default
  | some text => reads text value

/-- A text is read as a URL, which is there. -/
def ReadsUrl (text : String) (value : Option Url) : Prop :=
  ∃ url, Url.ofText text = .ok url ∧ value = some url

/-- A text is read as a number up to a limit. -/
def ReadsNumber (limit : Nat) (text : String) (value : Nat) : Prop :=
  Text.Decimal.Writes text value ∧ value ≤ limit

theorem url_eq_ok {value : Option Url} :
    sources.url key = .ok value ↔ sources.Gives key ReadsUrl none value := by
  unfold url Gives ReadsUrl
  rcases sources.text? key with _ | text
  · simp [eq_comm]
  · dsimp only
    rcases Url.ofText text with reason | url
    · simp
    · simp [eq_comm]

theorem number_eq_ok {limit default value : Nat} :
    (∃ found, sources.number limit key = .ok found ∧ found.getD default = value) ↔
      sources.Gives key (ReadsNumber limit) default value := by
  unfold number Gives ReadsNumber
  rcases sources.text? key with _ | text
  · simp [eq_comm]
  · dsimp only
    rw [← Text.Decimal.read?_eq_some]
    rcases Text.Decimal.read? limit text with _ | n
    · simp
    · simp

theorem flag_eq_ok {value : Bool} :
    (∃ found, sources.flag key = .ok found ∧ found.getD false = value) ↔
      sources.Gives key Text.WritesFlag false value := by
  rcases given : sources.text? key with _ | text
  · have unset : sources.flag key = .ok none := by rw [flag, given]
    rw [unset, Gives, given]
    simp [eq_comm]
  · rw [Gives, given]
    obtain ⟨written, writes, read⟩ | ⟨unreadable, read⟩ := flag_cases given
    · simp only [read, Except.ok.injEq, exists_eq_left', Option.getD_some]
      constructor
      · rintro rfl
        exact writes
      · exact writesFlag_unique writes
    · simp [read, unreadable]

theorem text?_getD {default value : String} :
    (sources.text? key).getD default = value ↔
      sources.Gives key (fun text value => value = text) default value := by
  unfold Gives
  rcases sources.text? key with _ | text
  · exact eq_comm
  · exact eq_comm

/-- How requests are made, as the keys for it say. -/
structure TellTransport (sources : Sources) (transport : TransportSettings) : Prop where
  connectTimeout : sources.Gives .connectTimeout (ReadsNumber (2 ^ 64 - 1)) 60
    transport.connectTimeoutSeconds
  readTimeout : sources.Gives .readTimeout (ReadsNumber (2 ^ 64 - 1)) 60
    transport.readTimeoutSeconds
  retries : sources.Gives .retries (ReadsNumber (2 ^ 32 - 1)) 0 transport.retries
  retryPause : sources.Gives .retryPause (ReadsNumber (2 ^ 64 - 1)) 0 transport.retryPauseMillis
  trustedCertificates : transport.trustedCertificates = sources.text? .trustedCertificates

/-- The audience that tokens have to be for, as the keys for it say: there is one exactly if tokens
are checked for it, and it is the client. -/
def TellAudience (sources : Sources) (audience : Option String) : Prop :=
  ∃ checks, sources.Gives .checkAudience Text.WritesFlag false checks ∧
    audience.isSome = checks ∧ ∀ client ∈ audience, sources.text? .clientId = some client

/-- How signed tokens are validated, as the keys for it say. -/
structure TellSigned (sources : Sources) (jwt : JwtSettings) : Prop where
  issuer : sources.text? .issuer = some jwt.issuer
  keysUrl : sources.Gives .keysEndpoint ReadsUrl none (some jwt.keysUrl)
  audience : sources.TellAudience jwt.audience
  usernameClaim : sources.Gives .usernameClaim (fun text value => value = text) "sub"
    jwt.usernameClaim
  algorithms : jwt.algorithms = ["RS256", "ES256"]
  expiry : sources.Gives .keysExpiry (ReadsNumber (2 ^ 64 - 1)) 360 jwt.expirySeconds
  refreshPause : sources.Gives .keysRefreshPause (ReadsNumber (2 ^ 64 - 1)) 1
    jwt.refreshPauseSeconds

/-- The settings are what the keys say, each its own one.  Signed tokens are validated exactly if
an issuer and published keys are set, which are set both or not at all. -/
structure Tell (sources : Sources) (settings : Settings) : Prop where
  tokenEndpoint : sources.Gives .tokenEndpoint ReadsUrl none settings.tokenEndpoint
  paired : sources.Given .issuer ↔ sources.Given .keysEndpoint
  signed : settings.jwt.isSome = true ↔ sources.Given .issuer ∧ sources.Given .keysEndpoint
  jwt : ∀ jwt ∈ settings.jwt, sources.TellSigned jwt
  scope : settings.scope = sources.text? .scope
  audience : settings.audience = sources.text? .audience
  transport : sources.TellTransport settings.transport

end Sources

namespace Settings

variable {sources other : Sources}

open Sources

theorem transportSettings_eq_ok {transport : TransportSettings} :
    transportSettings sources = .ok transport ↔ sources.TellTransport transport := by
  unfold transportSettings
  simp only [bind_eq_ok]
  constructor
  · rintro ⟨connect, connectRead, read, readRead, retries, retriesRead, pause, pauseRead, made⟩
    cases made
    exact {
      connectTimeout := number_eq_ok.mp ⟨connect, connectRead, rfl⟩
      readTimeout := number_eq_ok.mp ⟨read, readRead, rfl⟩
      retries := number_eq_ok.mp ⟨retries, retriesRead, rfl⟩
      retryPause := number_eq_ok.mp ⟨pause, pauseRead, rfl⟩
      trustedCertificates := rfl }
  · rintro ⟨connectTimeout, readTimeout, retries, retryPause, certificates⟩
    obtain ⟨connect, connectRead, connect_eq⟩ := number_eq_ok.mpr connectTimeout
    obtain ⟨read, readRead, read_eq⟩ := number_eq_ok.mpr readTimeout
    obtain ⟨retry, retryRead, retry_eq⟩ := number_eq_ok.mpr retries
    obtain ⟨pause, pauseRead, pause_eq⟩ := number_eq_ok.mpr retryPause
    refine ⟨connect, connectRead, read, readRead, retry, retryRead, pause, pauseRead, ?_⟩
    rw [connect_eq, read_eq, retry_eq, pause_eq, ← certificates]
    rfl

theorem checkedAudience_eq_ok {audience : Option String} :
    checkedAudience sources = .ok audience ↔ sources.TellAudience audience := by
  unfold checkedAudience TellAudience
  simp only [bind_eq_ok, ← flag_eq_ok]
  constructor
  · rintro ⟨found, read, made⟩
    refine ⟨found.getD false, ⟨found, read, rfl⟩, ?_⟩
    split at made
    · split at made
      · next client given =>
        cases made
        exact ⟨rfl, fun _ same => by cases same; exact given⟩
      · cases made
    · next unchecked =>
      cases made
      rcases found with _ | _ | _
      · exact ⟨rfl, by simp⟩
      · exact ⟨rfl, by simp⟩
      · exact absurd rfl unchecked
  · rintro ⟨checks, ⟨found, read, rfl⟩, checked, client⟩
    refine ⟨found, read, ?_⟩
    rcases audience with _ | name
    · rcases found with _ | _ | _
      · rfl
      · rfl
      · cases checked
    · rcases found with _ | _ | _
      · cases checked
      · cases checked
      · rw [client name rfl]
        rfl

theorem jwtSettings_eq_ok {issuer : String} {keysUrl : Url} {jwt : JwtSettings}
    (issued : sources.text? .issuer = some issuer)
    (published : sources.url .keysEndpoint = .ok (some keysUrl)) :
    jwtSettings sources issuer keysUrl = .ok jwt ↔ sources.TellSigned jwt := by
  unfold jwtSettings
  simp only [bind_eq_ok]
  constructor
  · rintro ⟨expiry, expiryRead, pause, pauseRead, audience, audienceRead, made⟩
    cases made
    exact {
      issuer := issued
      keysUrl := url_eq_ok.mp published
      audience := checkedAudience_eq_ok.mp audienceRead
      usernameClaim := text?_getD.mp rfl
      algorithms := rfl
      expiry := number_eq_ok.mp ⟨expiry, expiryRead, rfl⟩
      refreshPause := number_eq_ok.mp ⟨pause, pauseRead, rfl⟩ }
  · rintro ⟨issuer_eq, keys, audience, claim, algorithms, expiry, refreshPause⟩
    obtain ⟨held, heldRead, held_eq⟩ := number_eq_ok.mpr expiry
    obtain ⟨pause, pauseRead, pause_eq⟩ := number_eq_ok.mpr refreshPause
    refine ⟨held, heldRead, pause, pauseRead, _, checkedAudience_eq_ok.mpr audience, ?_⟩
    obtain rfl : issuer = jwt.issuer := by
      rw [issued] at issuer_eq
      exact Option.some.inj issuer_eq
    obtain rfl : keysUrl = jwt.keysUrl := by
      have read := url_eq_ok.mpr keys
      rw [published] at read
      cases read
      rfl
    rw [held_eq, pause_eq, text?_getD.mpr claim, ← algorithms]
    rfl

theorem optionalJwtSettings_eq_ok {keysUrl : Option Url} {jwt : Option JwtSettings}
    (published : sources.url .keysEndpoint = .ok keysUrl) :
    optionalJwtSettings sources keysUrl = .ok jwt ↔
      (sources.Given .issuer ↔ sources.Given .keysEndpoint) ∧
        (jwt.isSome = true ↔ sources.Given .issuer ∧ sources.Given .keysEndpoint) ∧
          ∀ settings ∈ jwt, sources.TellSigned settings := by
  rw [← isSome_of_url published]
  unfold optionalJwtSettings Given
  rcases issued : sources.text? .issuer with _ | issuer
  · rcases keysUrl with _ | keysUrl
    · rcases jwt with _ | jwt <;> simp
    · simp
  · rcases keysUrl with _ | keysUrl
    · simp
    · have made : (some <$> jwtSettings sources issuer keysUrl) = .ok jwt ↔
          ∃ settings, jwt = some settings ∧ sources.TellSigned settings := by
        simp only [← jwtSettings_eq_ok issued published]
        rcases jwtSettings sources issuer keysUrl with fault | settings
        · simp [Functor.map, Except.map]
        · simp [Functor.map, Except.map, eq_comm]
      rw [made]
      rcases jwt with _ | jwt
      · simp
      · simp

/-- Settings are made of sources exactly if they are what the keys say. -/
theorem ofSources_eq_ok {settings : Settings} :
    ofSources sources = .ok settings ↔ sources.Tell settings := by
  unfold ofSources
  simp only [bind_eq_ok]
  constructor
  · rintro ⟨endpoint, endpointRead, keysUrl, keysRead, jwt, jwtRead, transport, transportRead, made⟩
    cases made
    obtain ⟨paired, signed, told⟩ := (optionalJwtSettings_eq_ok keysRead).mp jwtRead
    exact {
      tokenEndpoint := url_eq_ok.mp endpointRead
      paired, signed
      jwt := told
      scope := rfl
      audience := rfl
      transport := transportSettings_eq_ok.mp transportRead }
  · rintro ⟨tokenEndpoint, paired, signed, told, scope, audience, transport⟩
    -- The URL of the keys is there exactly if the settings of the validator are.
    obtain ⟨keysUrl, keysRead⟩ : ∃ keysUrl, sources.url .keysEndpoint = .ok keysUrl := by
      rcases jwt_eq : settings.jwt with _ | jwt
      · have unset : ¬sources.Given .keysEndpoint := fun given => by
          have both := signed.mpr ⟨paired.mpr given, given⟩
          rw [jwt_eq] at both
          cases both
        refine ⟨none, ?_⟩
        unfold Sources.url
        rcases given : sources.text? .keysEndpoint with _ | text
        · rfl
        · exact absurd ⟨text, given⟩ unset
      · exact ⟨_, url_eq_ok.mpr (told jwt jwt_eq).keysUrl⟩
    refine ⟨_, url_eq_ok.mpr tokenEndpoint, keysUrl, keysRead, _,
      (optionalJwtSettings_eq_ok keysRead).mpr ⟨paired, signed, told⟩, _,
      transportSettings_eq_ok.mpr transport, ?_⟩
    rw [← scope, ← audience]
    rfl

/-- Sources that give the same texts make the same settings, or fail alike. -/
theorem ofSources_congr (alike : sources.Alike other) : ofSources sources = ofSources other := by
  have checked : checkedAudience sources = checkedAudience other := by
    simp only [checkedAudience, flag_congr (alike.text? _), alike.text?]
  have signed (issuer : String) (keysUrl : Url) :
      jwtSettings sources issuer keysUrl = jwtSettings other issuer keysUrl := by
    simp only [jwtSettings, number_congr _ (alike.text? _), alike.text?, checked]
  have optional (keysUrl : Option Url) :
      optionalJwtSettings sources keysUrl = optionalJwtSettings other keysUrl := by
    simp only [optionalJwtSettings, alike.text?, signed]
  have transport : transportSettings sources = transportSettings other := by
    simp only [transportSettings, number_congr _ (alike.text? _), alike.text?]
  simp only [ofSources, url_congr (alike.text? _), alike.text?, optional, transport]

/-- A time with blanks around it, a blank scope, and an option that is none. -/
def spacedTime : Sources where
  options := [("oauth.connect.timeout.seconds", " 5\t"), ("oauth.scope", " "), ("oauth", "7")]

/-- The same time alone. -/
def plainTime : Sources where
  options := [("oauth.connect.timeout.seconds", "5")]

end Settings

end BearerLogin
