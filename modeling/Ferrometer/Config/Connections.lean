import Ferrometer.Config.Load

/-!
Contract: the parts of a configuration that an HTTP client is built from.

Owns: where these parts stand in a configuration, and that those of a loaded
configuration are those of the file, place by place: checked first, and then with their
placeholders resolved.

Does not own: what a client makes of them.
-/

set_option autoImplicit false

namespace Ferrometer.Config

open Ferrometer.Foundation

/-- The flattened `auth` and `tls` of a component that talks to an HTTP backend. -/
structure Connection where
  auth : AuthConfig
  tls : TlsConfig
deriving DecidableEq

namespace Connection

def validate (connection : Connection) (ctx : String) : Except Error Unit := do
  connection.auth.validate ctx
  connection.tls.validate ctx

def resolvePlaceholders (environment : Environment) (instanceName : String)
    (connection : Connection) : Except Error Connection := do
  let auth ← connection.auth.resolvePlaceholders environment instanceName
  let tls ← connection.tls.resolvePlaceholders environment instanceName
  .ok { auth, tls }

end Connection

def CollectorConfig.connections : CollectorConfig → List Connection
  | .unix _ => []
  | .prometheus config => [⟨config.auth, config.tls⟩]

def ForwarderConfig.connections : ForwarderConfig → List Connection
  | .otlphttp config => [⟨config.auth, config.tls⟩]

def LogSinkConfig.connections : LogSinkConfig → List Connection
  | .loki config => [⟨config.auth, config.tls⟩]

def connections (config : Config) : List Connection :=
  (config.metrics.collectors.entries.flatMap fun entry => entry.2.connections) ++
  (config.metrics.forwarders.entries.flatMap fun entry => entry.2.connections) ++
  (config.logs.shippers.entries.flatMap fun entry => entry.2.sink.connections)

/-- Whose connection it is. -/
inductive Place where
  | collector (name : String)
  | forwarder (name : String)
  | shipper (name : String)
deriving DecidableEq

def placedConnections (config : Config) : List (Place × Connection) :=
  (config.metrics.collectors.entries.flatMap fun entry =>
    entry.2.connections.map (Prod.mk (.collector entry.1))) ++
  (config.metrics.forwarders.entries.flatMap fun entry =>
    entry.2.connections.map (Prod.mk (.forwarder entry.1))) ++
  (config.logs.shippers.entries.flatMap fun entry =>
    entry.2.sink.connections.map (Prod.mk (.shipper entry.1)))

theorem map_placedConnections (config : Config) :
    (placedConnections config).map Prod.snd = connections config := by
  simp [placedConnections, connections, List.map_flatMap]

section Resolve

variable {environment : Environment} {instanceName : String}

/-- The connections of a component, each one resolved. -/
def FromFile (environment : Environment) (instanceName : String) :
    List Connection → List Connection → Prop :=
  List.Forall₂ fun source connection =>
    source.resolvePlaceholders environment instanceName = .ok connection

private theorem fromFile_single {auth loadedAuth : AuthConfig} {tls loadedTls : TlsConfig}
    (first : auth.resolvePlaceholders environment instanceName = .ok loadedAuth)
    (second : tls.resolvePlaceholders environment instanceName = .ok loadedTls) :
    FromFile environment instanceName [⟨auth, tls⟩] [⟨loadedAuth, loadedTls⟩] := by
  apply List.Forall₂.cons _ List.Forall₂.nil
  exact bind_eq_ok.mpr ⟨loadedAuth, first, bind_eq_ok.mpr ⟨loadedTls, second, rfl⟩⟩

private theorem collector_fromFile {file loaded : CollectorConfig}
    (resolved : resolveCollector environment instanceName file = .ok loaded) :
    FromFile environment instanceName file.connections loaded.connections := by
  cases file with
  | unix config =>
      cases resolved
      exact List.Forall₂.nil
  | prometheus config =>
      rcases bind_eq_ok.mp resolved with ⟨auth, first, rest⟩
      rcases bind_eq_ok.mp rest with ⟨tls, second, equal⟩
      cases equal
      exact fromFile_single first second

private theorem forwarder_fromFile {file loaded : ForwarderConfig}
    (resolved : resolveForwarder environment instanceName file = .ok loaded) :
    FromFile environment instanceName file.connections loaded.connections := by
  cases file with
  | otlphttp config =>
      rcases bind_eq_ok.mp resolved with ⟨auth, first, rest⟩
      rcases bind_eq_ok.mp rest with ⟨tls, second, rest⟩
      rcases bind_eq_ok.mp rest with ⟨resourceAttributes, -, equal⟩
      cases equal
      exact fromFile_single first second

private theorem sink_fromFile {file loaded : ShipperConfig}
    (resolved : resolveShipper environment instanceName file = .ok loaded) :
    FromFile environment instanceName file.sink.connections loaded.sink.connections := by
  rcases bind_eq_ok.mp resolved with ⟨source, -, rest⟩
  rcases bind_eq_ok.mp rest with ⟨sink, ofSink, equal⟩
  cases equal
  rcases file with ⟨fileSource, ⟨config⟩⟩
  rcases bind_eq_ok.mp ofSink with ⟨auth, first, rest⟩
  rcases bind_eq_ok.mp rest with ⟨tls, second, equal⟩
  cases equal
  exact fromFile_single first second

/-- In the same place, and resolved. -/
def PlacedFromFile (environment : Environment) (instanceName : String) :
    List (Place × Connection) → List (Place × Connection) → Prop :=
  List.Forall₂ fun source connection => source.1 = connection.1 ∧
    source.2.resolvePlaceholders environment instanceName = .ok connection.2

/-- The connections of all components of a map. -/
private theorem entries_fromFile {Component : Type} (place : String → Place)
    {parts : Component → List Connection} {resolve : Component → Except Error Component}
    (one : ∀ {file loaded}, resolve file = .ok loaded →
      FromFile environment instanceName (parts file) (parts loaded))
    {file loaded : HashMap Component} (resolved : file.mapValuesM resolve = .ok loaded) :
    PlacedFromFile environment instanceName
      (file.entries.flatMap fun entry => (parts entry.2).map (Prod.mk (place entry.1)))
      (loaded.entries.flatMap fun entry => (parts entry.2).map (Prod.mk (place entry.1))) := by
  cases computed : mapEntries resolve file.entries with
  | error failure => simp [HashMap.mapValuesM, computed, Except.map] at resolved
  | ok results =>
      rw [HashMap.mapValuesM, computed] at resolved
      cases resolved
      apply List.rel_flatMap (mapEntries_eq_ok computed)
      rintro ⟨name, file⟩ ⟨_, loaded⟩ ⟨rfl, changed⟩
      rw [List.forall₂_map_left_iff, List.forall₂_map_right_iff]
      exact (one changed).imp fun _ _ result => ⟨rfl, result⟩

theorem resolvePlaceholders_fromFile {file loaded : Config}
    (resolved : resolvePlaceholders environment file = .ok loaded) :
    PlacedFromFile environment file.instanceConfig.name (placedConnections file)
      (placedConnections loaded) := by
  rcases bind_eq_ok.mp resolved with ⟨collectors, first, rest⟩
  rcases bind_eq_ok.mp rest with ⟨forwarders, second, rest⟩
  rcases bind_eq_ok.mp rest with ⟨shippers, third, equal⟩
  cases equal
  apply List.rel_append
  · apply List.rel_append
    · exact entries_fromFile .collector collector_fromFile first
    · exact entries_fromFile .forwarder forwarder_fromFile second
  · exact entries_fromFile .shipper sink_fromFile third

end Resolve

/-- What `validate` accepts has been checked connection by connection. -/
theorem connections_validated {regexNew : String → Except String Unit} {config : Config}
    (accepted : validate regexNew config = .ok ()) {connection : Connection}
    (member : connection ∈ connections config) : ∃ ctx, connection.validate ctx = .ok () := by
  simp only [validate, check_eq_ok, forM_eq_ok] at accepted
  rcases accepted with ⟨-, -, -, collectors, forwarders, shippers⟩
  rcases List.mem_append.mp member with member | ofShipper
  · rcases List.mem_append.mp member with ofCollector | ofForwarder
    · rcases List.mem_flatMap.mp ofCollector with ⟨⟨name, collector⟩, isEntry, part⟩
      have checked := collectors _ isEntry
      cases collector with
      | unix config => exact absurd part List.not_mem_nil
      | prometheus config =>
          cases List.mem_singleton.mp part
          simp only [validatePrometheusCollector, check_eq_ok] at checked
          exact ⟨_, check_eq_ok.mpr ⟨checked.2.1, checked.2.2⟩⟩
    · rcases List.mem_flatMap.mp ofForwarder with ⟨⟨name, ⟨config⟩⟩, isEntry, part⟩
      have checked := forwarders _ isEntry
      cases List.mem_singleton.mp part
      simp only [validateOtlphttpForwarder, check_eq_ok] at checked
      exact ⟨_, check_eq_ok.mpr ⟨checked.2.1, checked.2.2.1⟩⟩
  · rcases List.mem_flatMap.mp ofShipper with ⟨⟨name, shipper⟩, isEntry, part⟩
    have checked := shippers _ isEntry
    rcases shipper with ⟨source, ⟨config⟩⟩
    cases List.mem_singleton.mp part
    simp only [validateShipper, check_eq_ok] at checked
    exact ⟨_, check_eq_ok.mpr ⟨checked.2.1, checked.2.2⟩⟩

/-- The connections of a loaded configuration are those of the file, place by place, which have
passed their checks. -/
theorem load_placedConnections {host : Host} {path : PathBuf} {config : Config}
    (loaded : load host path = .ok config) :
    ∃ file, loadUnresolved host path = .ok file ∧
      List.Forall₂ (fun source connection => (∃ ctx, source.2.validate ctx = .ok ()) ∧
          source.1 = connection.1 ∧ source.2.resolvePlaceholders host.environment
            config.instanceConfig.name = .ok connection.2)
        (placedConnections file) (placedConnections config) := by
  rcases bind_eq_ok.mp loaded with ⟨file, unresolved, resolved⟩
  have fromFile := resolvePlaceholders_fromFile resolved
  have sameInstance : config.instanceConfig = file.instanceConfig := by
    rcases bind_eq_ok.mp resolved with ⟨collectors, -, rest⟩
    rcases bind_eq_ok.mp rest with ⟨forwarders, -, rest⟩
    rcases bind_eq_ok.mp rest with ⟨shippers, -, equal⟩
    cases equal
    rfl
  rw [← sameInstance] at fromFile
  refine ⟨file, unresolved, (List.forall₂_and_left _ _).mpr ⟨?_, fromFile⟩⟩
  rcases bind_eq_ok.mp unresolved with ⟨content, -, rest⟩
  rcases bind_eq_ok.mp rest with ⟨parsed, -, checked⟩
  rcases bind_eq_ok.mp checked with ⟨⟨⟩, accepted, same⟩
  cases same
  intro placed member
  apply connections_validated accepted
  rw [← map_placedConnections]
  exact List.mem_map_of_mem member

/-- So each of them comes from one that has been checked. -/
theorem load_connections {host : Host} {path : PathBuf} {config : Config}
    (loaded : load host path = .ok config) {connection : Connection}
    (member : connection ∈ connections config) :
    ∃ (file : Connection) (ctx : String), file.validate ctx = .ok () ∧
      file.resolvePlaceholders host.environment config.instanceConfig.name = .ok connection := by
  rcases load_placedConnections loaded with ⟨file, -, fromFile⟩
  rw [← map_placedConnections] at member
  rcases List.mem_map.mp member with ⟨placed, isPlaced, rfl⟩
  rcases exists_of_mem_right fromFile isPlaced with ⟨source, -, ⟨ctx, valid⟩, -, result⟩
  exact ⟨source.2, ctx, valid, result⟩

/-! ## One connection -/

/-- One collector, and one forwarder with this connection. -/
def connectionConfig (connection : Connection) : Config where
  instanceConfig := ⟨"myhost"⟩
  metrics := {
    collectors := .single "system" (.unix {})
    forwarders := .single "vm" (.otlphttp {
      endpoint := "http://localhost:8428"
      auth := connection.auth
      tls := connection.tls }) }
  logs := { shippers := .new }

theorem load_connectionConfig {connection : Connection}
    (valid : validate (fun _ => .ok ()) (connectionConfig connection) = .ok ())
    (resolved : connection.resolvePlaceholders (fun _ => none) "myhost" = .ok connection) :
    load (sampleHost (connectionConfig connection)) samplePath =
      .ok (connectionConfig connection) := by
  rcases bind_eq_ok.mp resolved with ⟨auth, ofAuth, rest⟩
  rcases bind_eq_ok.mp rest with ⟨tls, ofTls, equal⟩
  cases equal
  have forwarder : resolveForwarder (fun _ => none) "myhost"
      (.otlphttp { endpoint := "http://localhost:8428", auth, tls }) =
        .ok (.otlphttp { endpoint := "http://localhost:8428", auth, tls }) :=
    bind_eq_ok.mpr ⟨auth, ofAuth, bind_eq_ok.mpr ⟨tls, ofTls, rfl⟩⟩
  have forwarders : (connectionConfig ⟨auth, tls⟩).metrics.forwarders.mapValuesM
      (resolveForwarder (fun _ => none) "myhost") =
        .ok (connectionConfig ⟨auth, tls⟩).metrics.forwarders := by
    simp only [HashMap.mapValuesM, connectionConfig, HashMap.single, mapEntries, forwarder]
    rfl
  exact bind_eq_ok.mpr ⟨_, bind_eq_ok.mpr ⟨_, rfl, bind_eq_ok.mpr ⟨_, rfl, bind_eq_ok.mpr
    ⟨(), valid, rfl⟩⟩⟩, bind_eq_ok.mpr ⟨_, rfl, bind_eq_ok.mpr ⟨_, forwarders, rfl⟩⟩⟩

end Ferrometer.Config
