import BearerLogin.Proofs.Steps
import BearerLogin.Settings

/-! Which settings are refused.  A value that cannot be read as what its key stands for is refused
where it is looked at (`refused_iff`).  The issuer is taken as it is written, and what concerns
signed tokens alone is looked at only where an issuer or published keys are set, so that other
values are taken that cannot be read (`malformed_accepted`). -/

namespace BearerLogin

/-- A result is a failure. -/
def Refused (result : Except ε α) : Prop :=
  ∃ error, result = .error error

namespace Refused

theorem error (cause : ε) : Refused (.error cause : Except ε α) :=
  ⟨cause, rfl⟩

theorem not_ok (a : α) : ¬Refused (.ok a : Except ε α) := by
  rintro ⟨cause, failed⟩
  cases failed

end Refused

/-- A result that goes on fails where it fails itself or where the rest does. -/
theorem refused_bind {result : Except ε α} {f : α → Except ε β} {first rest : Prop}
    (one : Refused result ↔ first)
    (other : ∀ a, result = .ok a → (Refused (f a) ↔ rest)) :
    Refused (result >>= f) ↔ first ∨ rest := by
  rw [← one]
  rcases result with cause | a
  · exact iff_of_true (Refused.error cause) (.inl (Refused.error cause))
  · rw [or_iff_right (Refused.not_ok a)]
    exact other a rfl

theorem refused_map {result : Except ε α} (f : α → β) {fails : Prop}
    (one : Refused result ↔ fails) : Refused (f <$> result) ↔ fails := by
  rw [← one]
  rcases result with cause | a
  · exact iff_of_true (Refused.error cause) (Refused.error cause)
  · exact iff_of_false (Refused.not_ok (f a)) (Refused.not_ok a)

/-! ### Values -/

namespace Text.Decimal

/-- A text is a number written with digits, with or without a plus in front. -/
structure Writes (text : String) (n : Nat) : Prop where
  written : ∃ digits, (text.toList = digits ∨ text.toList = '+' :: digits) ∧ digits ≠ [] ∧
    (∀ c ∈ digits, c.isDigit = true) ∧
    digits.foldl (fun value c => 10 * value + (c.toNat - '0'.toNat)) 0 = n

theorem digitsFrom_eq_some {start n : Nat} {digits : List Char} :
    digitsFrom start digits = some n ↔ (∀ c ∈ digits, c.isDigit = true) ∧
      digits.foldl (fun value c => 10 * value + (c.toNat - '0'.toNat)) start = n := by
  induction digits generalizing start with
  | nil => simp [digitsFrom]
  | cons c rest ih =>
    rw [digitsFrom]
    by_cases digit : c.isDigit
    · rw [if_pos digit, ih]
      simp [digit]
    · rw [if_neg digit]
      simp [digit]

theorem withoutPlus_of_isDigit {digits : List Char} (all : ∀ c ∈ digits, c.isDigit = true) :
    withoutPlus digits = digits := by
  unfold withoutPlus
  split
  · next rest => exact absurd (all '+' List.mem_cons_self) (by decide)
  · rfl

theorem read?_eq_some {limit n : Nat} {text : String} :
    read? limit text = some n ↔ Writes text n ∧ n ≤ limit := by
  have signed : text.toList = withoutPlus text.toList ∨
      text.toList = '+' :: withoutPlus text.toList := by
    unfold withoutPlus
    split
    · exact .inr ‹_›
    · exact .inl rfl
  have read : read? limit text = some n ↔ withoutPlus text.toList ≠ [] ∧
      digitsFrom 0 (withoutPlus text.toList) = some n ∧ n ≤ limit := by
    unfold read?
    rcases withoutPlus text.toList with _ | ⟨c, rest⟩
    · simp
    · simp [Option.filter_eq_some_iff]
  rw [read, digitsFrom_eq_some]
  constructor
  · rintro ⟨nonempty, ⟨all, value⟩, small⟩
    exact ⟨⟨_, signed, nonempty, all, value⟩, small⟩
  · rintro ⟨⟨digits, written, nonempty, all, value⟩, small⟩
    have same : withoutPlus text.toList = digits := by
      rcases written with plain | plus
      · rw [plain, withoutPlus_of_isDigit all]
      · rw [plus]
        rfl
    rw [same]
    exact ⟨nonempty, ⟨all, value⟩, small⟩

end Text.Decimal

/-- What the value of a setting stands for. -/
inductive SettingForm where
  | text
  | uri
  | number (limit : Nat)
  | flag

/-- A text is the written form of a truth value, in any case. -/
def Text.WritesFlag (text : String) (value : Bool) : Prop :=
  String.ofList (text.toList.map Char.toLower) = if value then "true" else "false"

/-- A text can be read as a value of a form. -/
def SettingForm.Reads (text : String) : SettingForm → Prop
  | .text => True
  | .uri => ∃ url, Url.ofText text = .ok url
  | .number limit => ∃ n ≤ limit, Text.Decimal.Writes text n
  | .flag => ∃ value, Text.WritesFlag text value

namespace SettingKey

open Text.Decimal

/-- What the value of a key stands for. -/
def form : SettingKey → SettingForm
  | tokenEndpoint | issuer | keysEndpoint => .uri
  | keysExpiry | keysRefreshPause | connectTimeout | readTimeout | retryPause => .number max64
  | retries => .number max32
  | checkAudience => .flag
  | usernameClaim | clientId | scope | audience | trustedCertificates => .text

/-- Keys whose values concern signed tokens alone. -/
def ForSigned (key : SettingKey) : Prop :=
  key = keysExpiry ∨ key = keysRefreshPause ∨ key = checkAudience

instance (key : SettingKey) : Decidable key.ForSigned :=
  inferInstanceAs (Decidable (_ ∨ _ ∨ _))

end SettingKey

namespace Sources

variable (sources : Sources)

/-- A key has a value that is not blank. -/
def Given (key : SettingKey) : Prop :=
  ∃ value, sources.text? key = some value

/-- The value of a key cannot be read as what it stands for. -/
def Malformed (key : SettingKey) : Prop :=
  ∃ value, sources.text? key = some value ∧ ¬key.form.Reads value

/-- The value of a key is looked at: not that of the issuer, and what concerns signed tokens alone
only where an issuer or published keys are set. -/
def Examined (key : SettingKey) : Prop :=
  key ≠ .issuer ∧ (key.ForSigned → sources.Given .issuer ∨ sources.Given .keysEndpoint)

/-- Tokens are to be checked for their audience. -/
def ChecksAudience : Prop :=
  ∃ value, sources.text? .checkAudience = some value ∧ Text.WritesFlag value true

variable {sources} {key : SettingKey}

theorem refused_url (form : key.form = .uri) :
    Refused (sources.url key) ↔ sources.Malformed key := by
  unfold url Malformed
  rw [form]
  rcases sources.text? key with _ | value
  · simp [Refused]
  · simp only [Option.some.injEq, exists_eq_left', SettingForm.Reads]
    rcases Url.ofText value with reason | url <;> simp [Refused]

theorem refused_number {limit : Nat} (form : key.form = .number limit) :
    Refused (sources.number limit key) ↔ sources.Malformed key := by
  unfold number Malformed
  rw [form]
  rcases sources.text? key with _ | value
  · simp [Refused]
  · have reads : (∃ n ≤ limit, Text.Decimal.Writes value n) ↔
        ∃ n, Text.Decimal.read? limit value = some n :=
      exists_congr fun n => by rw [Text.Decimal.read?_eq_some, and_comm]
    simp only [Option.some.injEq, exists_eq_left', SettingForm.Reads, reads]
    rcases Text.Decimal.read? limit value with _ | n <;> simp [Refused]

/-- A flag is read, or its text stands for neither truth value. -/
theorem flag_cases {value : String} (given : sources.text? key = some value) :
    (∃ flag, Text.WritesFlag value flag ∧ sources.flag key = .ok (some flag)) ∨
      (∀ flag, ¬Text.WritesFlag value flag) ∧
        sources.flag key = .error (.invalidValue key value) := by
  unfold flag Text.WritesFlag
  rw [given]
  dsimp only
  split
  · next lower => exact .inl ⟨true, lower, rfl⟩
  · next lower => exact .inl ⟨false, lower, rfl⟩
  · next no_true no_false =>
    refine .inr ⟨fun flag => ?_, rfl⟩
    cases flag
    · exact no_false
    · exact no_true

theorem writesFlag_unique {value : String} {one other : Bool} (first : Text.WritesFlag value one)
    (second : Text.WritesFlag value other) : one = other := by
  unfold Text.WritesFlag at first second
  rw [first] at second
  revert second
  cases one <;> cases other <;> decide

theorem refused_checkedAudience :
    Refused (Settings.checkedAudience sources) ↔
      sources.Malformed .checkAudience ∨
        sources.ChecksAudience ∧ ¬sources.Given .clientId := by
  unfold Settings.checkedAudience Malformed ChecksAudience Given
  rcases flagged : sources.text? .checkAudience with _ | value
  · have unset : sources.flag .checkAudience = .ok none := by rw [flag, flagged]
    rw [unset]
    simp only [reduceCtorEq, false_and, exists_false, or_self, iff_false]
    exact Refused.not_ok none
  · simp only [Option.some.injEq, exists_eq_left']
    obtain ⟨written, writes, read⟩ | ⟨unreadable, read⟩ := sources.flag_cases flagged
    · rw [read]
      have wellFormed : SettingKey.checkAudience.form.Reads value := ⟨written, writes⟩
      simp only [wellFormed, not_true_eq_false, false_or]
      cases written with
      | false =>
        have unchecked : ¬Text.WritesFlag value true := fun asked =>
          absurd (writesFlag_unique writes asked) (by decide)
        exact iff_of_false (Refused.not_ok none) fun asked => unchecked asked.1
      | true =>
        rcases client : sources.text? .clientId with _ | clientId
        · exact iff_of_true (Refused.error _) ⟨writes, by simp⟩
        · exact iff_of_false (Refused.not_ok _) fun missing => missing.2 ⟨clientId, rfl⟩
    · rw [read]
      refine iff_of_true (Refused.error _) (.inl ?_)
      rintro ⟨written, writes⟩
      exact unreadable written writes

theorem refused_jwtSettings (issuer : String) (keysUrl : Url) :
    Refused (Settings.jwtSettings sources issuer keysUrl) ↔
      sources.Malformed .keysExpiry ∨ sources.Malformed .keysRefreshPause ∨
        sources.Malformed .checkAudience ∨
          sources.ChecksAudience ∧ ¬sources.Given .clientId :=
  refused_bind (refused_number rfl) fun _ _ => refused_bind (refused_number rfl) fun _ _ =>
    refused_map _ refused_checkedAudience

theorem refused_transportSettings :
    Refused (Settings.transportSettings sources) ↔
      sources.Malformed .connectTimeout ∨ sources.Malformed .readTimeout ∨
        sources.Malformed .retries ∨ sources.Malformed .retryPause :=
  refused_bind (refused_number rfl) fun _ _ => refused_bind (refused_number rfl) fun _ _ =>
    refused_bind (refused_number rfl) fun _ _ => refused_map _ (refused_number rfl)

/-- A URL that is read is there exactly if its key has a value. -/
theorem isSome_of_url {url : Option Url} (read : sources.url key = .ok url) :
    url.isSome = true ↔ sources.Given key := by
  unfold Sources.url at read
  unfold Given
  rcases given : sources.text? key with _ | value
  · rw [given] at read
    cases read
    simp
  · rw [given] at read
    dsimp only at read
    rcases parsed : Url.ofText value with reason | other
    · rw [parsed] at read
      cases read
    · rw [parsed] at read
      cases read
      simp

theorem refused_optionalJwtSettings {keysUrl : Option Url}
    (read : sources.url .keysEndpoint = .ok keysUrl) :
    Refused (Settings.optionalJwtSettings sources keysUrl) ↔
      ¬(sources.Given .issuer ↔ sources.Given .keysEndpoint) ∨
        (sources.Given .issuer ∧ sources.Given .keysEndpoint) ∧
          (sources.Malformed .keysExpiry ∨ sources.Malformed .keysRefreshPause ∨
            sources.Malformed .checkAudience ∨
              sources.ChecksAudience ∧ ¬sources.Given .clientId) := by
  rw [← isSome_of_url read]
  unfold Settings.optionalJwtSettings
  rcases issued : sources.text? .issuer with _ | issuer
  · have unset : ¬sources.Given .issuer := by simp [Given, issued]
    rcases keysUrl with _ | keysUrl
    · simp [unset, Refused]
    · simp [unset, Refused]
  · have set : sources.Given .issuer := ⟨issuer, issued⟩
    rcases keysUrl with _ | keysUrl
    · simp [set, Refused]
    · simp only [set, Option.isSome_some, not_true_eq_false, false_or, true_and]
      exact refused_map _ (refused_jwtSettings issuer keysUrl)

theorem examined_of_general (other : key ≠ .issuer) (general : ¬key.ForSigned) :
    sources.Examined key :=
  ⟨other, fun signed => absurd signed general⟩

theorem not_malformed_text (form : key.form = .text) : ¬sources.Malformed key := by
  rintro ⟨value, -, unread⟩
  rw [form] at unread
  exact unread trivial

/-- The values that are looked at, key by key. -/
theorem exists_examined :
    (∃ key, sources.Examined key ∧ sources.Malformed key) ↔
      (sources.Malformed .tokenEndpoint ∨ sources.Malformed .keysEndpoint) ∨
        (sources.Given .issuer ∨ sources.Given .keysEndpoint) ∧
          (sources.Malformed .keysExpiry ∨ sources.Malformed .keysRefreshPause ∨
            sources.Malformed .checkAudience) ∨
        sources.Malformed .connectTimeout ∨ sources.Malformed .readTimeout ∨
          sources.Malformed .retries ∨ sources.Malformed .retryPause := by
  constructor
  · rintro ⟨key, ⟨looked, signed⟩, malformed⟩
    cases key with
    | issuer => exact absurd rfl looked
    | usernameClaim => exact absurd malformed (not_malformed_text rfl)
    | clientId => exact absurd malformed (not_malformed_text rfl)
    | scope => exact absurd malformed (not_malformed_text rfl)
    | audience => exact absurd malformed (not_malformed_text rfl)
    | trustedCertificates => exact absurd malformed (not_malformed_text rfl)
    | keysExpiry => exact .inr (.inl ⟨signed (by decide), .inl malformed⟩)
    | keysRefreshPause => exact .inr (.inl ⟨signed (by decide), .inr (.inl malformed)⟩)
    | checkAudience => exact .inr (.inl ⟨signed (by decide), .inr (.inr malformed)⟩)
    | tokenEndpoint => exact .inl (.inl malformed)
    | keysEndpoint => exact .inl (.inr malformed)
    | connectTimeout => exact .inr (.inr (.inl malformed))
    | readTimeout => exact .inr (.inr (.inr (.inl malformed)))
    | retries => exact .inr (.inr (.inr (.inr (.inl malformed))))
    | retryPause => exact .inr (.inr (.inr (.inr (.inr malformed))))
  · rintro ((malformed | malformed) | ⟨signed, malformed⟩ | malformed)
    · exact ⟨_, examined_of_general (by decide) (by decide), malformed⟩
    · exact ⟨_, examined_of_general (by decide) (by decide), malformed⟩
    · rcases malformed with malformed | malformed | malformed
      all_goals exact ⟨_, ⟨by decide, fun _ => signed⟩, malformed⟩
    · rcases malformed with malformed | malformed | malformed | malformed
      all_goals exact ⟨_, examined_of_general (by decide) (by decide), malformed⟩

end Sources

namespace Settings

/-- Settings are refused exactly if a value that is looked at cannot be read, if an issuer is set
without published keys or these without an issuer, or if tokens are to be checked for an audience
that is not set. -/
theorem refused_iff (sources : Sources) :
    (∃ fault, ofSources sources = .error fault) ↔
      (∃ key, sources.Examined key ∧ sources.Malformed key) ∨
        ¬(sources.Given .issuer ↔ sources.Given .keysEndpoint) ∨
        (sources.Given .issuer ∧ sources.ChecksAudience ∧ ¬sources.Given .clientId) := by
  have parts : Refused (ofSources sources) ↔ _ :=
    refused_bind (Sources.refused_url rfl) fun _ _ =>
      refused_bind (Sources.refused_url rfl) fun _ read =>
        refused_bind (Sources.refused_optionalJwtSettings read) fun _ _ =>
          refused_map _ Sources.refused_transportSettings
  rw [Sources.exists_examined]
  refine parts.trans ?_
  -- What is left is a matter of whether an issuer and published keys are set.
  grind

/-! ### Values that are not looked at -/

/-- An expiry that is no number, where no keys are published. -/
def unusedExpiry : Sources where
  options := [("oauth.jwks.expiry.seconds", "soon")]

/-- An issuer that is no URI. -/
def plainIssuer : Sources where
  options := [("oauth.valid.issuer.uri", "not a uri"), ("oauth.jwks.endpoint.uri", "a:b")]

/-- Where no signed tokens are taken, a time that cannot be read is as good as none, and an issuer
is taken that is no URI. -/
theorem malformed_accepted :
    unusedExpiry.Malformed .keysExpiry ∧ ofSources unusedExpiry = .ok {} ∧
      plainIssuer.Malformed .issuer ∧ ∃ settings, ofSources plainIssuer = .ok settings := by
  refine ⟨⟨"soon", by decide +kernel, ?_⟩, by decide +kernel,
    ⟨"not a uri", by decide +kernel, ?_⟩, ?_⟩
  · rintro ⟨n, small, written⟩
    have read := Text.Decimal.read?_eq_some.mpr ⟨written, small⟩
    have unread : Text.Decimal.read? Text.Decimal.max64 "soon" = none := by decide +kernel
    rw [unread] at read
    cases read
  · rintro ⟨url, read⟩
    have unread : Url.ofText "not a uri" = .error .relative := by decide +kernel
    rw [unread] at read
    cases read
  · refine ⟨{
      jwt := some {
        issuer := "not a uri"
        keysUrl := { scheme := "a", authority := none, path := .rootless "b" } } }, ?_⟩
    decide +kernel

end Settings

end BearerLogin
