import Ferrometer.Config.Validate

/-!
Contract: loading a configuration.

Owns: the walk of `resolvePlaceholders` over the fields it lists, `load` with its
errors, and which strings of a loaded configuration are expansions of what the
file has.

Does not own: how a file becomes a configuration record.
-/

set_option autoImplicit false

namespace Ferrometer.Config

open Ferrometer.Foundation

/-- The parts of the host and of other crates that loading calls. -/
structure Host where
  /-- `std::env::var`. -/
  environment : Environment
  /-- `std::fs::read_to_string`, with the text of its error. -/
  readToString : PathBuf → Except String String
  /-- `toml::from_str` with the derived deserializers. -/
  fromStr : String → Except String Config
  /-- `regex::Regex::new`. -/
  regexNew : String → Except String Unit

/-! ## Resolving -/

section Resolve

variable (environment : Environment) (instanceName : String)

def TlsConfig.resolvePlaceholders (tls : TlsConfig) : Except Error TlsConfig := do
  let clientCertFile ← mapOption (expandPath environment instanceName) tls.clientCertFile
  let clientKeyFile ← mapOption (expandPath environment instanceName) tls.clientKeyFile
  let caCertFile ← mapOption (expandPath environment instanceName) tls.caCertFile
  .ok { clientCertFile, clientKeyFile, caCertFile }

def AuthConfig.resolvePlaceholders (auth : AuthConfig) : Except Error AuthConfig := do
  let username ← mapOption (expandPlaceholders environment instanceName) auth.username
  let password ← mapOption (expandPlaceholders environment instanceName) auth.password
  let passwordFile ← mapOption (expandPath environment instanceName) auth.passwordFile
  let bearerToken ← mapOption (expandPlaceholders environment instanceName) auth.bearerToken
  let bearerTokenFile ← mapOption (expandPath environment instanceName) auth.bearerTokenFile
  let authorization ← mapOption (expandPlaceholders environment instanceName) auth.authorization
  .ok { username, password, passwordFile, bearerToken, bearerTokenFile, authorization }

/-- What `resolve_placeholders` does to one collector. -/
def resolveCollector : CollectorConfig → Except Error CollectorConfig
  | .unix config => .ok (.unix config)
  | .prometheus config => do
      let auth ← config.auth.resolvePlaceholders environment instanceName
      let tls ← config.tls.resolvePlaceholders environment instanceName
      .ok (.prometheus { config with auth, tls })

/-- What `resolve_placeholders` does to one forwarder. -/
def resolveForwarder : ForwarderConfig → Except Error ForwarderConfig
  | .otlphttp config => do
      let auth ← config.auth.resolvePlaceholders environment instanceName
      let tls ← config.tls.resolvePlaceholders environment instanceName
      let resourceAttributes ←
        config.resourceAttributes.mapValuesM (expandPlaceholders environment instanceName)
      .ok (.otlphttp { config with auth, tls, resourceAttributes })

/-- What `resolve_placeholders` does to the source of a shipper. -/
def resolveSource : LogSourceConfig → Except Error LogSourceConfig
  | .journald config => do
      let cursorFile ← expandPath environment instanceName config.cursorFile
      .ok (.journald { config with cursorFile })

/-- What `resolve_placeholders` does to the sink of a shipper. -/
def resolveSink : LogSinkConfig → Except Error LogSinkConfig
  | .loki config => do
      let auth ← config.auth.resolvePlaceholders environment instanceName
      let tls ← config.tls.resolvePlaceholders environment instanceName
      .ok (.loki { config with auth, tls })

def resolveShipper (shipper : ShipperConfig) : Except Error ShipperConfig := do
  let source ← resolveSource environment instanceName shipper.source
  let sink ← resolveSink environment instanceName shipper.sink
  .ok { shipper with source, sink }

end Resolve

/-- `for component in map.values_mut()`. -/
def HashMap.mapValuesM {Value : Type} (change : Value → Except Error Value)
    (map : HashMap Value) : Except Error (HashMap Value) :=
  (mapEntries change map.entries).map fun results => {
    entries := results.1
    distinct := by
      rw [results.2]
      exact map.distinct }

def resolvePlaceholders (environment : Environment) (config : Config) : Except Error Config := do
  let instanceName := config.instanceConfig.name
  let collectors ←
    config.metrics.collectors.mapValuesM (resolveCollector environment instanceName)
  let forwarders ←
    config.metrics.forwarders.mapValuesM (resolveForwarder environment instanceName)
  let shippers ← config.logs.shippers.mapValuesM (resolveShipper environment instanceName)
  .ok { config with metrics := { collectors, forwarders }, logs := { shippers } }

def loadUnresolved (host : Host) (path : PathBuf) : Except Error Config := do
  let content ← (host.readToString path).mapError fun message =>
    .config ("failed to read " ++ path ++ ": " ++ message)
  let config ← (host.fromStr content).mapError fun message =>
    .config ("failed to parse config: " ++ message)
  validate host.regexNew config
  .ok config

def load (host : Host) (path : PathBuf) : Except Error Config := do
  let config ← loadUnresolved host path
  resolvePlaceholders host.environment config

/-! ## The strings of a configuration -/

/-- A string or path below `[metrics]` or `[logs]`, with where it stands. -/
structure StringField where
  path : List String
  value : String
deriving DecidableEq

def optionField (path : List String) (key : String) (value : Option String) : List StringField :=
  value.toList.map fun value => ⟨path ++ [key], value⟩

def mapFields (path : List String) (map : Labels) : List StringField :=
  map.entries.map fun entry => ⟨path ++ [entry.1], entry.2⟩

def TlsConfig.stringFields (path : List String) (tls : TlsConfig) : List StringField :=
  optionField path "client-cert-file" tls.clientCertFile ++
  optionField path "client-key-file" tls.clientKeyFile ++
  optionField path "ca-cert-file" tls.caCertFile

def AuthConfig.stringFields (path : List String) (auth : AuthConfig) : List StringField :=
  optionField path "username" auth.username ++
  optionField path "password" auth.password ++
  optionField path "password-file" auth.passwordFile ++
  optionField path "bearer-token" auth.bearerToken ++
  optionField path "bearer-token-file" auth.bearerTokenFile ++
  optionField path "authorization" auth.authorization

/-- The strings of a component that `resolvePlaceholders` visits. -/
def CollectorConfig.visitedFields (path : List String) : CollectorConfig → List StringField
  | .unix _ => []
  | .prometheus config => config.auth.stringFields path ++ config.tls.stringFields path

/-- The strings of a component that it does not visit. -/
def CollectorConfig.literalFields (path : List String) : CollectorConfig → List StringField
  | .unix config =>
      [⟨path ++ ["disk-devices"], config.diskDevices⟩,
        ⟨path ++ ["net-devices"], config.netDevices⟩,
        ⟨path ++ ["filesystem-mount-points"], config.filesystemMountPoints⟩,
        ⟨path ++ ["filesystem-fs-types"], config.filesystemFsTypes⟩,
        ⟨path ++ ["hwmon-chips"], config.hwmonChips⟩] ++
      (config.collectors.map fun collector => ⟨path ++ ["collectors"], collector⟩) ++
      mapFields (path ++ ["static-labels"]) config.staticLabels
  | .prometheus config =>
      ⟨path ++ ["url"], config.url⟩ :: mapFields (path ++ ["static-labels"]) config.staticLabels

def ForwarderConfig.visitedFields (path : List String) : ForwarderConfig → List StringField
  | .otlphttp config =>
      config.auth.stringFields path ++ config.tls.stringFields path ++
      mapFields (path ++ ["resource-attributes"]) config.resourceAttributes

def ForwarderConfig.literalFields (path : List String) : ForwarderConfig → List StringField
  | .otlphttp config => [⟨path ++ ["endpoint"], config.endpoint⟩]

def LogSourceConfig.visitedFields (path : List String) : LogSourceConfig → List StringField
  | .journald config => [⟨path ++ ["cursor-file"], config.cursorFile⟩]

def LogSourceConfig.literalFields (path : List String) : LogSourceConfig → List StringField
  | .journald config =>
      mapFields (path ++ ["labels"]) config.labels ++
      mapFields (path ++ ["static-labels"]) config.staticLabels ++
      mapFields (path ++ ["metadata"]) config.metadata

def LogSinkConfig.visitedFields (path : List String) : LogSinkConfig → List StringField
  | .loki config => config.auth.stringFields path ++ config.tls.stringFields path

def LogSinkConfig.literalFields (path : List String) : LogSinkConfig → List StringField
  | .loki config => [⟨path ++ ["endpoint"], config.endpoint⟩]

def ShipperConfig.visitedFields (path : List String) (shipper : ShipperConfig) :
    List StringField :=
  shipper.source.visitedFields (path ++ ["source"]) ++
  shipper.sink.visitedFields (path ++ ["sink"])

def ShipperConfig.literalFields (path : List String) (shipper : ShipperConfig) :
    List StringField :=
  shipper.source.literalFields (path ++ ["source"]) ++
  shipper.sink.literalFields (path ++ ["sink"])

/-- The fields of every component of a map, each under the component's name. -/
def HashMap.fieldsOf {Value : Type} (path : List String)
    (fields : List String → Value → List StringField) (map : HashMap Value) : List StringField :=
  map.entries.flatMap fun entry => fields (path ++ [entry.1]) entry.2

def visitedFields (config : Config) : List StringField :=
  config.metrics.collectors.fieldsOf ["metrics", "collectors"] CollectorConfig.visitedFields ++
  config.metrics.forwarders.fieldsOf ["metrics", "forwarders"] ForwarderConfig.visitedFields ++
  config.logs.shippers.fieldsOf ["logs", "shippers"] ShipperConfig.visitedFields

def literalFields (config : Config) : List StringField :=
  config.metrics.collectors.fieldsOf ["metrics", "collectors"] CollectorConfig.literalFields ++
  config.metrics.forwarders.fieldsOf ["metrics", "forwarders"] ForwarderConfig.literalFields ++
  config.logs.shippers.fieldsOf ["logs", "shippers"] ShipperConfig.literalFields

/-- Every string and path below `[metrics]` and `[logs]`. -/
def stringFields (config : Config) : List StringField :=
  visitedFields config ++ literalFields config

/-- The loaded field is the expansion of the same field of the file. -/
def Expands (environment : Environment) (instanceName : String) (file loaded : StringField) :
    Prop :=
  file.path = loaded.path ∧
    expandPlaceholders environment instanceName file.value = .ok loaded.value

/-! ## Visited fields are expanded -/

section Visited

variable {environment : Environment} {instanceName : String}

private theorem optionField_expands {path : List String} {key : String}
    {file loaded : Option String}
    (changed : mapOption (expandPlaceholders environment instanceName) file = .ok loaded) :
    List.Forall₂ (Expands environment instanceName)
      (optionField path key file) (optionField path key loaded) := by
  rw [optionField, optionField, List.forall₂_map_left_iff, List.forall₂_map_right_iff]
  exact (mapOption_eq_ok changed).imp fun _ _ expanded => ⟨rfl, expanded⟩

private theorem mapFields_expands {path : List String} {file loaded : Labels}
    (changed : file.mapValuesM (expandPlaceholders environment instanceName) = .ok loaded) :
    List.Forall₂ (Expands environment instanceName)
      (mapFields path file) (mapFields path loaded) := by
  rw [mapFields, mapFields, List.forall₂_map_left_iff, List.forall₂_map_right_iff]
  exact (SortedMap.mapValuesM_eq_ok changed).imp fun _ _ entry =>
    ⟨congrArg (fun key => path ++ [key]) entry.1, entry.2⟩

private theorem tls_expands {path : List String} {file loaded : TlsConfig}
    (resolved : file.resolvePlaceholders environment instanceName = .ok loaded) :
    List.Forall₂ (Expands environment instanceName)
      (file.stringFields path) (loaded.stringFields path) := by
  obtain ⟨clientCertFile, first, rest⟩ := bind_eq_ok.mp resolved
  obtain ⟨clientKeyFile, second, rest⟩ := bind_eq_ok.mp rest
  obtain ⟨caCertFile, third, equal⟩ := bind_eq_ok.mp rest
  obtain rfl := Except.ok.inj equal
  exact List.rel_append (List.rel_append (optionField_expands first)
    (optionField_expands second)) (optionField_expands third)

private theorem auth_expands {path : List String} {file loaded : AuthConfig}
    (resolved : file.resolvePlaceholders environment instanceName = .ok loaded) :
    List.Forall₂ (Expands environment instanceName)
      (file.stringFields path) (loaded.stringFields path) := by
  obtain ⟨username, first, rest⟩ := bind_eq_ok.mp resolved
  obtain ⟨password, second, rest⟩ := bind_eq_ok.mp rest
  obtain ⟨passwordFile, third, rest⟩ := bind_eq_ok.mp rest
  obtain ⟨bearerToken, fourth, rest⟩ := bind_eq_ok.mp rest
  obtain ⟨bearerTokenFile, fifth, rest⟩ := bind_eq_ok.mp rest
  obtain ⟨authorization, sixth, equal⟩ := bind_eq_ok.mp rest
  obtain rfl := Except.ok.inj equal
  exact List.rel_append (List.rel_append (List.rel_append (List.rel_append (List.rel_append
    (optionField_expands first) (optionField_expands second)) (optionField_expands third))
    (optionField_expands fourth)) (optionField_expands fifth)) (optionField_expands sixth)

/-- What resolving one component owes to its strings. -/
structure Resolves {Component : Type} (environment : Environment) (instanceName : String)
    (visited literal : List String → Component → List StringField) (path : List String)
    (file loaded : Component) : Prop where
  expanded : List.Forall₂ (Expands environment instanceName)
    (visited path file) (visited path loaded)
  untouched : literal path loaded = literal path file

private theorem collector_resolves (path : List String) {file loaded : CollectorConfig}
    (resolved : resolveCollector environment instanceName file = .ok loaded) :
    Resolves environment instanceName CollectorConfig.visitedFields
      CollectorConfig.literalFields path file loaded := by
  cases file with
  | unix config =>
      obtain rfl := Except.ok.inj resolved
      exact ⟨List.Forall₂.nil, rfl⟩
  | prometheus config =>
      obtain ⟨auth, first, rest⟩ := bind_eq_ok.mp resolved
      obtain ⟨tls, second, equal⟩ := bind_eq_ok.mp rest
      obtain rfl := Except.ok.inj equal
      exact ⟨List.rel_append (auth_expands first) (tls_expands second), rfl⟩

private theorem forwarder_resolves (path : List String) {file loaded : ForwarderConfig}
    (resolved : resolveForwarder environment instanceName file = .ok loaded) :
    Resolves environment instanceName ForwarderConfig.visitedFields
      ForwarderConfig.literalFields path file loaded := by
  cases file with
  | otlphttp config =>
      obtain ⟨auth, first, rest⟩ := bind_eq_ok.mp resolved
      obtain ⟨tls, second, rest⟩ := bind_eq_ok.mp rest
      obtain ⟨resourceAttributes, third, equal⟩ := bind_eq_ok.mp rest
      obtain rfl := Except.ok.inj equal
      exact ⟨List.rel_append (List.rel_append (auth_expands first) (tls_expands second))
        (mapFields_expands third), rfl⟩

private theorem source_resolves (path : List String) {file loaded : LogSourceConfig}
    (resolved : resolveSource environment instanceName file = .ok loaded) :
    Resolves environment instanceName LogSourceConfig.visitedFields
      LogSourceConfig.literalFields path file loaded := by
  cases file with
  | journald config =>
      obtain ⟨cursorFile, expanded, equal⟩ := bind_eq_ok.mp resolved
      obtain rfl := Except.ok.inj equal
      exact ⟨List.Forall₂.cons ⟨rfl, expanded⟩ List.Forall₂.nil, rfl⟩

private theorem sink_resolves (path : List String) {file loaded : LogSinkConfig}
    (resolved : resolveSink environment instanceName file = .ok loaded) :
    Resolves environment instanceName LogSinkConfig.visitedFields
      LogSinkConfig.literalFields path file loaded := by
  cases file with
  | loki config =>
      obtain ⟨auth, first, rest⟩ := bind_eq_ok.mp resolved
      obtain ⟨tls, second, equal⟩ := bind_eq_ok.mp rest
      obtain rfl := Except.ok.inj equal
      exact ⟨List.rel_append (auth_expands first) (tls_expands second), rfl⟩

private theorem shipper_resolves (path : List String) {file loaded : ShipperConfig}
    (resolved : resolveShipper environment instanceName file = .ok loaded) :
    Resolves environment instanceName ShipperConfig.visitedFields
      ShipperConfig.literalFields path file loaded := by
  obtain ⟨source, first, rest⟩ := bind_eq_ok.mp resolved
  obtain ⟨sink, second, equal⟩ := bind_eq_ok.mp rest
  obtain rfl := Except.ok.inj equal
  have ofSource := source_resolves (path ++ ["source"]) first
  have ofSink := sink_resolves (path ++ ["sink"]) second
  exact ⟨List.rel_append ofSource.expanded ofSink.expanded,
    congrArg₂ (· ++ ·) ofSource.untouched ofSink.untouched⟩

private theorem entries_resolve {Component : Type}
    {visited literal : List String → Component → List StringField}
    {resolve : Component → Except Error Component}
    (resolves : ∀ path {file loaded}, resolve file = .ok loaded →
      Resolves environment instanceName visited literal path file loaded)
    (path : List String) {file loaded : List (String × Component)}
    (resolved : List.Forall₂
      (fun entry result => entry.1 = result.1 ∧ resolve entry.2 = .ok result.2) file loaded) :
    List.Forall₂ (Expands environment instanceName)
        (file.flatMap fun entry => visited (path ++ [entry.1]) entry.2)
        (loaded.flatMap fun entry => visited (path ++ [entry.1]) entry.2) ∧
      (loaded.flatMap fun entry => literal (path ++ [entry.1]) entry.2) =
        file.flatMap fun entry => literal (path ++ [entry.1]) entry.2 := by
  induction resolved with
  | nil => exact ⟨List.Forall₂.nil, rfl⟩
  | @cons entry result _ _ both _ inductionHypothesis =>
      have one := resolves (path ++ [entry.1]) both.2
      rw [List.flatMap_cons, List.flatMap_cons, List.flatMap_cons, List.flatMap_cons, ← both.1]
      exact ⟨List.rel_append one.expanded inductionHypothesis.1,
        congrArg₂ (· ++ ·) one.untouched inductionHypothesis.2⟩

/-- Resolving every component of a map resolves the fields of the map. -/
private theorem fieldsOf_resolves {Component : Type}
    {visited literal : List String → Component → List StringField}
    {resolve : Component → Except Error Component}
    (resolves : ∀ path {file loaded}, resolve file = .ok loaded →
      Resolves environment instanceName visited literal path file loaded)
    (path : List String) {file loaded : HashMap Component}
    (resolved : file.mapValuesM resolve = .ok loaded) :
    List.Forall₂ (Expands environment instanceName)
        (file.fieldsOf path visited) (loaded.fieldsOf path visited) ∧
      loaded.fieldsOf path literal = file.fieldsOf path literal := by
  cases computed : mapEntries resolve file.entries with
  | error failure => simp [HashMap.mapValuesM, computed, Except.map] at resolved
  | ok results =>
      rw [HashMap.mapValuesM, computed] at resolved
      obtain rfl := Except.ok.inj resolved
      exact entries_resolve resolves path (mapEntries_eq_ok computed)

end Visited

theorem resolvePlaceholders_expands {environment : Environment} {file loaded : Config}
    (resolved : resolvePlaceholders environment file = .ok loaded) :
    List.Forall₂ (Expands environment file.instanceConfig.name)
        (visitedFields file) (visitedFields loaded) ∧
      literalFields loaded = literalFields file := by
  obtain ⟨collectors, first, rest⟩ := bind_eq_ok.mp resolved
  obtain ⟨forwarders, second, rest⟩ := bind_eq_ok.mp rest
  obtain ⟨shippers, third, equal⟩ := bind_eq_ok.mp rest
  obtain rfl := Except.ok.inj equal
  have ofCollectors := fieldsOf_resolves collector_resolves ["metrics", "collectors"] first
  have ofForwarders := fieldsOf_resolves forwarder_resolves ["metrics", "forwarders"] second
  have ofShippers := fieldsOf_resolves shipper_resolves ["logs", "shippers"] third
  refine ⟨List.rel_append (List.rel_append ofCollectors.1 ofForwarders.1) ofShippers.1, ?_⟩
  show _ ++ _ ++ _ = _ ++ _ ++ _
  rw [ofCollectors.2, ofForwarders.2, ofShippers.2]

/-- A configuration that loads has every string expanded exactly when the strings
that the walk leaves out are their own expansions. -/
theorem load_expands_iff (host : Host) (path : PathBuf) {file loaded : Config}
    (read : loadUnresolved host path = .ok file) (loads : load host path = .ok loaded) :
    List.Forall₂ (Expands host.environment file.instanceConfig.name)
        (stringFields file) (stringFields loaded) ↔
      ∀ field ∈ literalFields file,
        expandPlaceholders host.environment file.instanceConfig.name field.value =
          .ok field.value := by
  have resolved : resolvePlaceholders host.environment file = .ok loaded := by
    rw [load, read] at loads
    exact loads
  obtain ⟨visited, untouched⟩ := resolvePlaceholders_expands resolved
  rw [stringFields, stringFields, untouched]
  constructor
  · intro all field member
    have dropped := List.forall₂_drop (visitedFields file).length all
    rw [List.drop_left, visited.length_eq, List.drop_left] at dropped
    exact (List.forall₂_same.mp dropped field member).2
  · intro literal
    exact List.rel_append visited
      (List.forall₂_same.mpr fun field member => ⟨rfl, literal field member⟩)

/-! ## Checks and placeholders -/

section Checks

variable {environment : Environment} {instanceName : String}

private theorem auth_validate {file loaded : AuthConfig}
    (resolved : file.resolvePlaceholders environment instanceName = .ok loaded) (ctx : String) :
    loaded.validate ctx = file.validate ctx := by
  rcases bind_eq_ok.mp resolved with ⟨username, ofUsername, rest⟩
  rcases bind_eq_ok.mp rest with ⟨password, ofPassword, rest⟩
  rcases bind_eq_ok.mp rest with ⟨passwordFile, ofPasswordFile, rest⟩
  rcases bind_eq_ok.mp rest with ⟨bearerToken, ofBearerToken, rest⟩
  rcases bind_eq_ok.mp rest with ⟨bearerTokenFile, ofBearerTokenFile, rest⟩
  rcases bind_eq_ok.mp rest with ⟨authorization, ofAuthorization, equal⟩
  cases equal
  simp only [AuthConfig.validate, isSome_of_mapOption ofUsername,
    isSome_of_mapOption ofPassword, isSome_of_mapOption ofPasswordFile,
    isSome_of_mapOption ofBearerToken, isSome_of_mapOption ofBearerTokenFile,
    isSome_of_mapOption ofAuthorization, isNone_of_mapOption ofUsername,
    isNone_of_mapOption ofPassword, isNone_of_mapOption ofPasswordFile]

private theorem tls_validate {file loaded : TlsConfig}
    (resolved : file.resolvePlaceholders environment instanceName = .ok loaded) (ctx : String) :
    loaded.validate ctx = file.validate ctx := by
  rcases bind_eq_ok.mp resolved with ⟨clientCertFile, ofCert, rest⟩
  rcases bind_eq_ok.mp rest with ⟨clientKeyFile, ofKey, rest⟩
  rcases bind_eq_ok.mp rest with ⟨caCertFile, -, equal⟩
  cases equal
  simp only [TlsConfig.validate, isSome_of_mapOption ofKey, isNone_of_mapOption ofCert]

/-- What `validate` checks of one collector, in its loop over `collectors`. -/
private def validateCollector (regexNew : String → Except String Unit) (name : String) :
    CollectorConfig → Except Error Unit
  | .unix unix => validateUnixCollector regexNew name unix
  | .prometheus prom => validatePrometheusCollector name prom

/-- What it checks of one forwarder. -/
private def validateForwarder (name : String) : ForwarderConfig → Except Error Unit
  | .otlphttp otlp => validateOtlphttpForwarder name otlp

private theorem collector_validate (regexNew : String → Except String Unit) (name : String)
    {file loaded : CollectorConfig}
    (resolved : resolveCollector environment instanceName file = .ok loaded) :
    validateCollector regexNew name loaded = validateCollector regexNew name file := by
  cases file with
  | unix config =>
      cases resolved
      rfl
  | prometheus config =>
      rcases bind_eq_ok.mp resolved with ⟨auth, ofAuth, rest⟩
      rcases bind_eq_ok.mp rest with ⟨tls, ofTls, equal⟩
      cases equal
      simp only [validateCollector, validatePrometheusCollector, auth_validate ofAuth,
        tls_validate ofTls]

private theorem forwarder_validate (name : String) {file loaded : ForwarderConfig}
    (resolved : resolveForwarder environment instanceName file = .ok loaded) :
    validateForwarder name loaded = validateForwarder name file := by
  cases file with
  | otlphttp config =>
      rcases bind_eq_ok.mp resolved with ⟨auth, ofAuth, rest⟩
      rcases bind_eq_ok.mp rest with ⟨tls, ofTls, rest⟩
      rcases bind_eq_ok.mp rest with ⟨resourceAttributes, -, equal⟩
      cases equal
      simp only [validateForwarder, validateOtlphttpForwarder, auth_validate ofAuth,
        tls_validate ofTls]

private theorem shipper_validate (name : String) {file loaded : ShipperConfig}
    (resolved : resolveShipper environment instanceName file = .ok loaded) :
    validateShipper name loaded = validateShipper name file := by
  rcases bind_eq_ok.mp resolved with ⟨source, -, rest⟩
  rcases bind_eq_ok.mp rest with ⟨sink, ofSink, equal⟩
  cases equal
  rcases file with ⟨fileSource, ⟨config⟩⟩
  rcases bind_eq_ok.mp ofSink with ⟨auth, ofAuth, rest⟩
  rcases bind_eq_ok.mp rest with ⟨tls, ofTls, equal⟩
  cases equal
  simp only [validateShipper, auth_validate ofAuth, tls_validate ofTls]

/-- If a check of one component comes to the same after resolving it, so does the check of
all components of a map. -/
private theorem entries_validate {Component : Type} {resolve : Component → Except Error Component}
    {check : String → Component → Except Error Unit}
    (one : ∀ name {file loaded}, resolve file = .ok loaded → check name loaded = check name file)
    {file loaded : HashMap Component} (resolved : file.mapValuesM resolve = .ok loaded) :
    loaded.entries.forM (fun entry => check entry.1 entry.2) =
      file.entries.forM fun entry => check entry.1 entry.2 := by
  cases computed : mapEntries resolve file.entries with
  | error failure => simp [HashMap.mapValuesM, computed, Except.map] at resolved
  | ok results =>
      rw [HashMap.mapValuesM, computed] at resolved
      cases resolved
      apply (forM_congr _).symm
      apply (mapEntries_eq_ok computed).imp
      rintro ⟨name, file⟩ ⟨_, loaded⟩ ⟨rfl, same⟩
      exact (one name same).symm

private theorem isEmpty_of_mapValuesM {Component : Type}
    {resolve : Component → Except Error Component} {file loaded : HashMap Component}
    (resolved : file.mapValuesM resolve = .ok loaded) :
    loaded.entries.isEmpty = file.entries.isEmpty := by
  cases computed : mapEntries resolve file.entries with
  | error failure => simp [HashMap.mapValuesM, computed, Except.map] at resolved
  | ok results =>
      rw [HashMap.mapValuesM, computed] at resolved
      cases resolved
      rw [← List.isEmpty_map, results.2, List.isEmpty_map]

/-- The checks of a configuration come to the same after its placeholders are resolved, down
to the first failure. -/
theorem resolvePlaceholders_validate (regexNew : String → Except String Unit)
    {file loaded : Config} (resolved : resolvePlaceholders environment file = .ok loaded) :
    validate regexNew loaded = validate regexNew file := by
  rcases bind_eq_ok.mp resolved with ⟨collectors, ofCollectors, rest⟩
  rcases bind_eq_ok.mp rest with ⟨forwarders, ofForwarders, rest⟩
  rcases bind_eq_ok.mp rest with ⟨shippers, ofShippers, equal⟩
  cases equal
  have loops : ∀ config : Config, validate regexNew config = (do
      ensure (config.instanceConfig.name ≠ "") "instance.name must not be empty"
      ensure (!config.metrics.collectors.entries.isEmpty)
        "at least one collector must be configured"
      ensure (!config.metrics.forwarders.entries.isEmpty)
        "at least one forwarder must be configured"
      config.metrics.collectors.entries.forM fun entry =>
        validateCollector regexNew entry.1 entry.2
      config.metrics.forwarders.entries.forM fun entry => validateForwarder entry.1 entry.2
      config.logs.shippers.entries.forM fun entry => validateShipper entry.1 entry.2) :=
    fun _ => rfl
  rw [loops, loops, isEmpty_of_mapValuesM ofCollectors, isEmpty_of_mapValuesM ofForwarders,
    entries_validate (collector_validate regexNew) ofCollectors,
    entries_validate forwarder_validate ofForwarders,
    entries_validate shipper_validate ofShippers]

/-- So a configuration that loads passes its checks still. -/
theorem load_validate {host : Host} {path : PathBuf} {config : Config}
    (loaded : load host path = .ok config) : validate host.regexNew config = .ok () := by
  rcases bind_eq_ok.mp loaded with ⟨file, unresolved, resolved⟩
  rcases bind_eq_ok.mp unresolved with ⟨content, -, rest⟩
  rcases bind_eq_ok.mp rest with ⟨parsed, -, checked⟩
  rcases bind_eq_ok.mp checked with ⟨⟨⟩, accepted, same⟩
  cases same
  rw [resolvePlaceholders_validate host.regexNew resolved, accepted]

end Checks

/-! ## Two configurations -/

/-- A host whose one file is the given configuration, and without variables. -/
def sampleHost (file : Config) : Host where
  environment := fun _ => none
  readToString := fun _ => .ok ""
  fromStr := fun _ => .ok file
  regexNew := fun _ => .ok ()

def samplePath : PathBuf := "/etc/ferrometer/config.toml"

/-- One collector with a static label, and one forwarder. -/
def sampleConfig (label endpoint : String) : Config where
  instanceConfig := ⟨"myhost"⟩
  metrics := {
    collectors := {
      entries := [("system", .unix { staticLabels := .ofList [("host", label)] })] }
    forwarders := { entries := [("vm", .otlphttp { endpoint })] } }

def literalConfig : Config := sampleConfig "myhost" "http://localhost:8428"

theorem load_expands_iff_literalConfig :
    List.Forall₂ (Expands (sampleHost literalConfig).environment "myhost")
      (stringFields literalConfig) (stringFields literalConfig) := by
  have literal : ∀ field ∈ literalFields literalConfig, ¬ opening <:+: field.value.toList := by
    decide
  have read : loadUnresolved (sampleHost literalConfig) samplePath = .ok literalConfig := rfl
  have loads : load (sampleHost literalConfig) samplePath = .ok literalConfig := rfl
  exact (load_expands_iff (sampleHost literalConfig) samplePath read loads).mpr
    fun field member => expandPlaceholders_of_literal _ _ (literal field member)

def placeholderConfig : Config :=
  sampleConfig "$\x7binstance.name\x7d" "http://$\x7benv:VM_HOST\x7d:8428"

/-- The label stays as it is in the file, and the unset variable goes unnoticed. -/
theorem load_leaves_placeholders :
    load (sampleHost placeholderConfig) samplePath = .ok placeholderConfig ∧
    expandPlaceholders (sampleHost placeholderConfig).environment "myhost"
      "$\x7binstance.name\x7d" = .ok "myhost" ∧
    expandPlaceholders (sampleHost placeholderConfig).environment "myhost"
      "http://$\x7benv:VM_HOST\x7d:8428" = .error (.config
        ("in config value 'http://$\x7benv:VM_HOST\x7d:8428': $\x7benv:VM_HOST\x7d referenced " ++
          "but environment variable 'VM_HOST' is not set")) ∧
    ¬ ∀ (host : Host) (path : PathBuf) (file loaded : Config),
      loadUnresolved host path = .ok file → load host path = .ok loaded →
      List.Forall₂ (Expands host.environment file.instanceConfig.name)
        (stringFields file) (stringFields loaded) := by
  have expanded : expandPlaceholders (sampleHost placeholderConfig).environment "myhost"
      "$\x7binstance.name\x7d" = .ok "myhost" := by
    rw [expandPlaceholders, expandLoop_placeholder [] "instance.name".toList [] rfl rfl]
    show (expandLoop _ _ _ _ []).map String.ofList = _
    rw [expandLoop_end rfl]
    rfl
  refine ⟨rfl, expanded, ?_, fun everyString => ?_⟩
  · rw [expandPlaceholders, expandLoop_placeholder "http://".toList "env:VM_HOST".toList
      ":8428".toList rfl rfl]
    rfl
  · have fields := everyString (sampleHost placeholderConfig) samplePath placeholderConfig
      placeholderConfig rfl rfl
    have label := (List.forall₂_same.mp fields
      ⟨["metrics", "collectors", "system", "static-labels", "host"],
        "$\x7binstance.name\x7d"⟩ (by decide)).2
    exact absurd (expanded.symm.trans label) (by decide)

end Ferrometer.Config
