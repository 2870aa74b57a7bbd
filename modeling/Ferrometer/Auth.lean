import Ferrometer.Config.Connections
import Ferrometer.Foundation.Base64
import Ferrometer.Log.CursorFile

/-!
Contract: the `Authorization` header of an HTTP client.

Owns: `resolveHeader` with the files that it reads, the methods that an accepted
configuration can choose from, and the credentials that a server reads in the header.

Does not own: how a header gets into a request. `disk` stands for `tokio::fs::read`.
-/

set_option autoImplicit false

namespace Ferrometer

open Ferrometer.Foundation Ferrometer.Config

/-- The files as `tokio::fs::read` finds them. -/
abbrev Disk := Path → Except IoError (List UInt8)

namespace Disk

def readToString (disk : Disk) (path : Path) : Except IoError String := do
  let content ← disk path
  match Text.ofUtf8 content with
  | some text => .ok text
  | none => .error .invalidData

end Disk

namespace Auth

/-! ## Model -/

def readTrimmed (disk : Disk) (path : PathBuf) : Except Error String := do
  let content ← (disk.readToString (Path.ofString path)).mapError
    (.fileRead (Path.ofString path))
  .ok (Log.trim content)

/-- `base64::engine::general_purpose::STANDARD.encode`. -/
def encodeStandard (text : String) : String :=
  String.ofList (Base64.standard.encode (Text.utf8Bytes text))

/-- `none` is a panic: one of the two `unreachable!`. -/
def resolveHeader (disk : Disk) (config : AuthConfig) :
    Option (Except Error (Option String)) :=
  if let some value := config.authorization then
    some (.ok (some value))
  else if config.bearerToken.isSome || config.bearerTokenFile.isSome then do
    let token ←
      match config.bearerToken, config.bearerTokenFile with
      | some token, _ => some (.ok token)
      | none, some path => some (readTrimmed disk path)
      | none, none => none
    some (token.map fun token => some ("Bearer " ++ token))
  else if let some username := config.username then do
    let password ←
      match config.password, config.passwordFile with
      | some password, _ => some (.ok password)
      | none, some path => some (readTrimmed disk path)
      | none, none => none
    some (password.map fun password =>
      some ("Basic " ++ encodeStandard (username ++ ":" ++ password)))
  else some (.ok none)

/-! ## Methods -/

/-- A secret stands in the configuration, or in a file that it names. -/
inductive Secret where
  | given (text : String)
  | file (path : PathBuf)
deriving DecidableEq

/-- What an operator can choose: one method, with everything that it needs. -/
inductive Method where
  | anonymous
  | header (value : String)
  | bearer (token : Secret)
  | basic (username : String) (password : Secret)
deriving DecidableEq

namespace Secret

def text? : Secret → Option String
  | given text => some text
  | file _ => none

def path? : Secret → Option PathBuf
  | given _ => none
  | file path => some path

/-- The secret, when it is needed. -/
def read (disk : Disk) : Secret → Except Error String
  | given text => .ok text
  | file path => readTrimmed disk path

def expand (environment : Environment) (instanceName : String) : Secret → Except Error Secret
  | given text => (expandPlaceholders environment instanceName text).map given
  | file path => (expandPath environment instanceName path).map file

end Secret

namespace Method

/-- How a method is written down. -/
def config : Method → AuthConfig
  | anonymous => {}
  | header value => { authorization := some value }
  | bearer token => { bearerToken := token.text?, bearerTokenFile := token.path? }
  | basic username password =>
      { username := some username, password := password.text?, passwordFile := password.path? }

/-- A section is written down for one method at most. -/
theorem config_injective : Function.Injective config := by
  have secret : ∀ {first second : Secret}, first.text? = second.text? →
      first.path? = second.path? → first = second := by
    intro first second text path
    cases first <;> cases second <;> simp_all [Secret.text?, Secret.path?]
  have given : ∀ secret : Secret, secret.text? = none → secret.path? ≠ none := by
    intro secret text
    cases secret <;> simp_all [Secret.text?, Secret.path?]
  intro first second same
  cases first <;> cases second <;> simp only [config, AuthConfig.mk.injEq] at same
  all_goals grind

def expand (environment : Environment) (instanceName : String) : Method → Except Error Method
  | anonymous => .ok anonymous
  | header value => (expandPlaceholders environment instanceName value).map header
  | bearer token => (token.expand environment instanceName).map bearer
  | basic username password => do
      let username ← expandPlaceholders environment instanceName username
      let password ← password.expand environment instanceName
      .ok (basic username password)

/-- The header that the method is there for. -/
def present (disk : Disk) : Method → Except Error (Option String)
  | anonymous => .ok none
  | header value => .ok (some value)
  | bearer token => (token.read disk).map fun token => some ("Bearer " ++ token)
  | basic username password => (password.read disk).map fun password =>
      some ("Basic " ++ encodeStandard (username ++ ":" ++ password))

end Method

/-- What `validate` accepts are the configurations that are written down for a method. -/
theorem validate_eq_ok_iff (config : AuthConfig) (ctx : String) :
    config.validate ctx = .ok () ↔ ∃ method : Method, config = method.config := by
  constructor
  · intro accepted
    rcases config with
      ⟨username, password, passwordFile, bearerToken, bearerTokenFile, authorization⟩
    simp only [AuthConfig.validate, check_eq_ok, ensure_eq_ok] at accepted
    rcases accepted with ⟨single, onePassword, oneToken, hasPassword, hasUser⟩
    cases authorization with
    | some value =>
        have others : username = none ∧ password = none ∧ passwordFile = none ∧
            bearerToken = none ∧ bearerTokenFile = none := by
          cases username <;> cases password <;> cases passwordFile <;> cases bearerToken <;>
            cases bearerTokenFile <;> simp at single ⊢
        rcases others with ⟨rfl, rfl, rfl, rfl, rfl⟩
        exact ⟨.header value, rfl⟩
    | none =>
        by_cases bearer : bearerToken.isSome || bearerTokenFile.isSome
        · have others : username = none ∧ password = none ∧ passwordFile = none := by
            rw [bearer] at single
            cases username <;> cases password <;> cases passwordFile <;> simp at single ⊢
          rcases others with ⟨rfl, rfl, rfl⟩
          cases bearerToken with
          | some token =>
              obtain rfl : bearerTokenFile = none := by simpa using oneToken
              exact ⟨.bearer (.given token), rfl⟩
          | none =>
              rcases Option.isSome_iff_exists.mp (by simpa using bearer) with ⟨path, rfl⟩
              exact ⟨.bearer (.file path), rfl⟩
        · obtain ⟨rfl, rfl⟩ : bearerToken = none ∧ bearerTokenFile = none := by simpa using bearer
          cases username with
          | none =>
              obtain ⟨rfl, rfl⟩ : password = none ∧ passwordFile = none := by simpa using hasUser
              exact ⟨.anonymous, rfl⟩
          | some username =>
              cases password with
              | some password =>
                  obtain rfl : passwordFile = none := by simpa using onePassword
                  exact ⟨.basic username (.given password), rfl⟩
              | none =>
                  rcases Option.isSome_iff_exists.mp (by simpa using hasPassword) with ⟨path, rfl⟩
                  exact ⟨.basic username (.file path), rfl⟩
  · rintro ⟨method, rfl⟩
    cases method with
    | anonymous => rfl
    | header value => rfl
    | bearer token => cases token <;> rfl
    | basic username password => cases password <;> rfl

/-! ## From a method to the header -/

namespace Secret

private theorem expand_eq_ok {environment : Environment} {instanceName : String}
    {secret : Secret} {text : Option String} {path : Option PathBuf}
    (texts : mapOption (expandPlaceholders environment instanceName) secret.text? = .ok text)
    (paths : mapOption (expandPath environment instanceName) secret.path? = .ok path) :
    ∃ expanded : Secret, secret.expand environment instanceName = .ok expanded ∧
      expanded.text? = text ∧ expanded.path? = path := by
  cases secret with
  | given value =>
      cases paths
      rcases mapOption_some_eq_ok texts with ⟨expanded, computed, rfl⟩
      exact ⟨given expanded, by rw [expand, computed]; rfl, rfl, rfl⟩
  | file value =>
      cases texts
      rcases mapOption_some_eq_ok paths with ⟨expanded, computed, rfl⟩
      exact ⟨file expanded, by rw [expand, computed]; rfl, rfl, rfl⟩

private theorem readTrimmed_eq_error_iff {disk : Disk} {path : PathBuf} {failure : Error} :
    readTrimmed disk path = .error failure ↔ ∃ source,
      disk.readToString (Path.ofString path) = .error source ∧
      failure = .fileRead (Path.ofString path) source := by
  unfold readTrimmed
  cases disk.readToString (Path.ofString path) with
  | error source => simp [Except.mapError, bind, Except.bind, eq_comm]
  | ok content => simp [Except.mapError, bind, Except.bind]

theorem read_eq_error_iff {disk : Disk} {secret : Secret} {failure : Error} :
    secret.read disk = .error failure ↔ ∃ path source, secret.path? = some path ∧
      disk.readToString (Path.ofString path) = .error source ∧
      failure = .fileRead (Path.ofString path) source := by
  cases secret with
  | given text => simp [read, path?]
  | file path =>
      show readTrimmed disk path = _ ↔ _
      simp [readTrimmed_eq_error_iff, path?]

end Secret

namespace Method

variable {environment : Environment} {instanceName : String}

/-- Resolving the placeholders of a configuration expands the method that it is written
down for. -/
theorem expand_of_resolvePlaceholders {method : Method} {loaded : AuthConfig}
    (resolved : method.config.resolvePlaceholders environment instanceName = .ok loaded) :
    ∃ expanded : Method, method.expand environment instanceName = .ok expanded ∧
      loaded = expanded.config := by
  rcases bind_eq_ok.mp resolved with ⟨username, ofUsername, rest⟩
  rcases bind_eq_ok.mp rest with ⟨password, ofPassword, rest⟩
  rcases bind_eq_ok.mp rest with ⟨passwordFile, ofPasswordFile, rest⟩
  rcases bind_eq_ok.mp rest with ⟨bearerToken, ofBearerToken, rest⟩
  rcases bind_eq_ok.mp rest with ⟨bearerTokenFile, ofBearerTokenFile, rest⟩
  rcases bind_eq_ok.mp rest with ⟨authorization, ofAuthorization, equal⟩
  cases equal
  cases method with
  | anonymous =>
      cases ofUsername
      cases ofPassword
      cases ofPasswordFile
      cases ofBearerToken
      cases ofBearerTokenFile
      cases ofAuthorization
      exact ⟨anonymous, rfl, rfl⟩
  | header value =>
      cases ofUsername
      cases ofPassword
      cases ofPasswordFile
      cases ofBearerToken
      cases ofBearerTokenFile
      rcases mapOption_some_eq_ok ofAuthorization with ⟨expanded, computed, rfl⟩
      exact ⟨header expanded, by rw [expand, computed]; rfl, rfl⟩
  | bearer token =>
      cases ofUsername
      cases ofPassword
      cases ofPasswordFile
      cases ofAuthorization
      rcases Secret.expand_eq_ok ofBearerToken ofBearerTokenFile with
        ⟨expanded, computed, rfl, rfl⟩
      exact ⟨bearer expanded, by rw [expand, computed]; rfl, rfl⟩
  | basic user secret =>
      cases ofBearerToken
      cases ofBearerTokenFile
      cases ofAuthorization
      rcases mapOption_some_eq_ok ofUsername with ⟨expandedUser, computedUser, rfl⟩
      rcases Secret.expand_eq_ok ofPassword ofPasswordFile with
        ⟨expandedSecret, computedSecret, rfl, rfl⟩
      refine ⟨basic expandedUser expandedSecret, ?_, rfl⟩
      exact bind_eq_ok.mpr ⟨_, computedUser, bind_eq_ok.mpr ⟨_, computedSecret, rfl⟩⟩

/-- Neither `unreachable!` is reached. -/
theorem resolveHeader_config (disk : Disk) (method : Method) :
    resolveHeader disk method.config = some (method.present disk) := by
  cases method with
  | anonymous => rfl
  | header value => rfl
  | bearer token => cases token <;> rfl
  | basic username password => cases password <;> rfl

/-- The file that a method needs. -/
def file? : Method → Option PathBuf
  | anonymous => none
  | header _ => none
  | bearer token => token.path?
  | basic _ password => password.path?

/-- It is the only file that the configuration of the method names. -/
theorem mem_config_iff {method : Method} {path : PathBuf} :
    path ∈ method.config.passwordFile.toList ++ method.config.bearerTokenFile.toList ↔
      method.file? = some path := by
  cases method with
  | anonymous => simp [config, file?]
  | header value => simp [config, file?]
  | bearer token => simp [config, file?]
  | basic username password => simp [config, file?]

/-- Only a file that cannot be read fails, and the failure names it. -/
theorem present_eq_error_iff {disk : Disk} {method : Method} {failure : Error} :
    method.present disk = .error failure ↔ ∃ path source, method.file? = some path ∧
      disk.readToString (Path.ofString path) = .error source ∧
      failure = .fileRead (Path.ofString path) source := by
  have mapped : ∀ (secret : Secret) (header : String → Option String),
      (secret.read disk).map header = .error failure ↔ secret.read disk = .error failure := by
    intro secret header
    cases secret.read disk <;> simp [Except.map]
  cases method with
  | anonymous => simp [present, file?]
  | header value => simp [present, file?]
  | bearer token => exact (mapped token _).trans Secret.read_eq_error_iff
  | basic username password => exact (mapped password _).trans Secret.read_eq_error_iff

end Method

/-! ## What a server reads -/

/-- The credentials in a header of the scheme `Basic`. -/
def readBasic (value : String) : Option (String × String) := do
  let encoded ← stripPrefix "Basic ".toList value.toList
  let bytes ← Base64.standard.decode encoded
  let text ← Text.ofUtf8 bytes
  let (username, password) ← Text.splitOnce [':'] text.toList
  some (String.ofList username, String.ofList password)

theorem readBasic_encodeStandard (username password : String) :
    readBasic ("Basic " ++ encodeStandard (username ++ ":" ++ password)) =
        some (username, password) ↔ ':' ∉ username.toList := by
  have text : (username ++ ":" ++ password).toList =
      username.toList ++ ':' :: password.toList := by
    simp [String.toList_append]
  have reads : readBasic ("Basic " ++ encodeStandard (username ++ ":" ++ password)) =
      (Text.splitOnce [':'] (username.toList ++ ':' :: password.toList)).map fun cut =>
        (String.ofList cut.1, String.ofList cut.2) := by
    have header : ("Basic " ++ encodeStandard (username ++ ":" ++ password)).toList =
        "Basic ".toList ++
          Base64.standard.encode (Text.utf8Bytes (username ++ ":" ++ password)) := by
      rw [String.toList_append, encodeStandard]
      exact congrArg _ String.toList_ofList
    have stripped : ∀ rest : List Char,
        stripPrefix "Basic ".toList ("Basic ".toList ++ rest) = some rest := by
      intro rest
      rw [stripPrefix, if_pos (List.prefix_append _ _), List.drop_left]
    unfold readBasic
    rw [header, stripped]
    simp only [Option.bind_eq_bind, Option.bind_some, Base64.Alphabet.decode_encode,
      Text.ofUtf8_utf8Bytes, text]
    exact Option.map_eq_bind.symm
  have cut : Text.splitOnce [':'] (username.toList ++ ':' :: password.toList) =
      some (username.toList, password.toList) ↔ ':' ∉ username.toList :=
    Text.splitOnce_single_iff
  rw [reads, ← cut, Option.map_eq_some_iff]
  constructor
  · rintro ⟨⟨front, back⟩, found, same⟩
    rcases Prod.mk.inj same with ⟨rfl, rfl⟩
    simpa using found
  · intro found
    exact ⟨_, found, by simp⟩

/-- Whatever the credentials are, the header has no character that a header cannot have. -/
theorem encodeStandard_visible {text : String} {symbol : Char}
    (member : symbol ∈ ("Basic " ++ encodeStandard text).toList) :
    32 ≤ symbol.toNat ∧ symbol.toNat ≤ 126 := by
  rw [String.toList_append, List.mem_append] at member
  rcases member with scheme | encoded
  · have visible : "Basic ".toList.all
        (fun symbol => decide (32 ≤ symbol.toNat ∧ symbol.toNat ≤ 126)) = true := by
      decide +kernel
    exact of_decide_eq_true (List.all_eq_true.mp visible symbol scheme)
  · rw [encodeStandard] at encoded
    have visible := Base64.standard_visible (String.toList_ofList ▸ encoded)
    omega

/-! ## Loaded configurations -/

/-- What the header of a component is, for a method. -/
structure Presents (disk : Disk) (config : AuthConfig) (method : Method) : Prop where
  written : config = method.config
  header : resolveHeader disk config = some (method.present disk)
  /-- Nothing fails but the one file that the method may need. -/
  fails : ∀ failure, resolveHeader disk config = some (.error failure) ↔
    ∃ path source, method.file? = some path ∧
      disk.readToString (Path.ofString path) = .error source ∧
      failure = .fileRead (Path.ofString path) source
  /-- A user name without a colon is read back with its password, and no other one. -/
  basic : ∀ username secret password, method = .basic username secret →
    secret.read disk = .ok password →
    ∃ header, resolveHeader disk config = some (.ok (some header)) ∧
      (∀ symbol ∈ header.toList, 32 ≤ symbol.toNat ∧ symbol.toNat ≤ 126) ∧
      (readBasic header = some (username, password) ↔ ':' ∉ username.toList)

theorem presents_config (disk : Disk) (method : Method) :
    Presents disk method.config method where
  written := rfl
  header := method.resolveHeader_config disk
  fails failure := by
    rw [method.resolveHeader_config, Option.some_inj]
    exact Method.present_eq_error_iff
  basic := by
    intro username secret password isBasic read
    subst isBasic
    refine ⟨"Basic " ++ encodeStandard (username ++ ":" ++ password), ?_, ?_, ?_⟩
    · rw [Method.resolveHeader_config, Method.present, read]
      rfl
    · exact fun symbol member => encodeStandard_visible member
    · exact readBasic_encodeStandard username password

/-- The section in the file is that of one method, and the component's is that of its
expansion. -/
structure FromMethod (environment : Environment) (instanceName : String)
    (file loaded : AuthConfig) (source method : Method) : Prop where
  written : file = source.config
  only : ∀ other : Method, file = other.config → other = source
  expanded : source.expand environment instanceName = .ok method
  presents : ∀ disk, Presents disk loaded method

/-- In a configuration that loads, every component has the header of one method: the
expansion of the one that stands in the file in its place. No panic is reached, and a server
that reads the header gets the credentials if the user name has no colon. -/
theorem load_presents {host : Host} {path : PathBuf} {config : Config}
    (loaded : load host path = .ok config) :
    ∃ file, loadUnresolved host path = .ok file ∧
      List.Forall₂ (fun source connection => source.1 = connection.1 ∧
          ∃ written method, FromMethod host.environment config.instanceConfig.name
            source.2.auth connection.2.auth written method)
        (placedConnections file) (placedConnections config) := by
  rcases load_placedConnections loaded with ⟨file, unresolved, fromFile⟩
  refine ⟨file, unresolved, fromFile.imp ?_⟩
  rintro source connection ⟨⟨ctx, valid⟩, samePlace, resolved⟩
  refine ⟨samePlace, ?_⟩
  rcases (validate_eq_ok_iff source.2.auth ctx).mp (check_eq_ok.mp valid).1 with
    ⟨written, isWritten⟩
  rcases bind_eq_ok.mp resolved with ⟨auth, ofAuth, rest⟩
  rcases bind_eq_ok.mp rest with ⟨tls, -, equal⟩
  obtain rfl : auth = connection.2.auth := congrArg Connection.auth (Except.ok.inj equal)
  rw [isWritten] at ofAuth
  rcases Method.expand_of_resolvePlaceholders ofAuth with ⟨method, expanded, isMethod⟩
  exact ⟨written, method, {
    written := isWritten
    only := fun other same => Method.config_injective (same.symm.trans isWritten)
    expanded := expanded
    presents := fun disk => isMethod ▸ presents_config disk method }⟩

/-- A user and a password. -/
def signedAuth : AuthConfig where
  username := some "probe"
  password := some "secret"

theorem load_presents_signed :
    load (sampleHost (connectionConfig ⟨signedAuth, {}⟩)) samplePath =
        .ok (connectionConfig ⟨signedAuth, {}⟩) ∧
      (∀ disk, resolveHeader disk signedAuth = some (.ok (some "Basic cHJvYmU6c2VjcmV0"))) ∧
      ∃ file, loadUnresolved (sampleHost (connectionConfig ⟨signedAuth, {}⟩)) samplePath =
          .ok file ∧
        List.Forall₂ (fun source connection => source.1 = connection.1 ∧
            ∃ written method, FromMethod (fun _ => none) "myhost" source.2.auth
              connection.2.auth written method)
          (placedConnections file) (placedConnections (connectionConfig ⟨signedAuth, {}⟩)) := by
  have literal : ∀ value : String, ¬ opening <:+: value.toList →
      expandPlaceholders (fun _ => none) "myhost" value = .ok value :=
    fun _ literal => expandPlaceholders_of_literal _ _ literal
  have auth : signedAuth.resolvePlaceholders (fun _ => none) "myhost" = .ok signedAuth := by
    simp only [AuthConfig.resolvePlaceholders, signedAuth, mapOption,
      literal "probe" (by decide +kernel), literal "secret" (by decide +kernel)]
    rfl
  have loaded : load (sampleHost (connectionConfig ⟨signedAuth, {}⟩)) samplePath =
      .ok (connectionConfig ⟨signedAuth, {}⟩) :=
    load_connectionConfig rfl (bind_eq_ok.mpr ⟨_, auth, rfl⟩)
  have encoded : "Basic " ++ encodeStandard ("probe" ++ ":" ++ "secret") =
      "Basic cHJvYmU6c2VjcmV0" := by decide +kernel
  refine ⟨loaded, fun disk => ?_, load_presents loaded⟩
  show some (Except.ok (some ("Basic " ++ encodeStandard ("probe" ++ ":" ++ "secret")))) = _
  rw [encoded]

end Auth

end Ferrometer
