import Ferrometer.Collector.Prometheus
import Ferrometer.Collector.Unix.UnixCollector
import Ferrometer.Connect
import Ferrometer.Forwarder.Otlphttp.Request
import Ferrometer.Pipeline.Agent

/-!
Contract: how `run` starts, from a configuration to the collectors and the forwarders.

Owns: `build_collector` and `build_forwarder`, the order in which `run` calls them, and what
can still fail once a configuration has been loaded.

Does not own: the HTTP library. A client whose parts are in order is taken to be built.
-/

set_option autoImplicit false

namespace Ferrometer.Pipeline

open Ferrometer.Collector Ferrometer.Collector.Unix
open Ferrometer.Config Ferrometer.Foundation Ferrometer.Forwarder.Otlphttp

/-! ## Model -/

inductive BuiltCollector (Certificate Identity : Type) where
  | unix (collector : UnixCollector)
  | prometheus (scraper : PrometheusScraper) (client : Client Certificate Identity)
      (authHeader : Option String)

section Model

variable {Certificate Identity : Type} (regexNew : String → Except String (String → Bool))
  (pem : Tls.Pem Certificate Identity) (disk : Disk)

def buildCollector (entry : String × CollectorConfig) :
    Build Error (BuiltCollector Certificate Identity) :=
  match entry.2 with
  | .unix config => some ((UnixCollector.new regexNew entry.1 config).map .unix)
  | .prometheus config =>
      (Auth.resolveHeader disk config.auth).map fun resolved => do
        let authHeader ← resolved
        let tls ← Tls.configure pem disk {} config.tls
        let client := { tls, timeout := config.scrapeTimeout }
        .ok (.prometheus (PrometheusScraper.new entry.1 config) client authHeader)

/-- What `build_forwarder` makes the requests with. -/
def buildSender (entry : String × ForwarderConfig) :
    Build Error (OtlphttpForwarder Certificate Identity) :=
  match entry.2 with
  | .otlphttp config => OtlphttpForwarder.new pem disk entry.1 config

/-- `run` up to its scheduler: all collectors and then all forwarders. -/
def start (config : Config) : Build Error
    (List (BuiltCollector Certificate Identity) ×
      List (OtlphttpForwarder Certificate Identity)) :=
  Build.both
    (Build.all (buildCollector regexNew pem disk) config.metrics.collectors.entries)
    (Build.all (buildSender pem disk) config.metrics.forwarders.entries)

end Model

/-- The connections of the metrics side, in the order of `run`. -/
def metricsConnections (config : Config) : List Connection :=
  (config.metrics.collectors.entries.flatMap fun entry => entry.2.connections) ++
    config.metrics.forwarders.entries.flatMap fun entry => entry.2.connections

/-! ## One component -/

section Component

variable {Certificate Identity : Type} {regexNew : String → Except String (String → Bool)}
  {pem : Tls.Pem Certificate Identity} {disk : Disk}

/-- What one pattern of a collector comes to once it has been checked. -/
private theorem compile_of_check {pattern : String} {checked built : String → Error}
    (valid : ((regexNew pattern).map fun _ => ()).mapError checked = .ok ()) :
    ∃ isMatch, (regexNew pattern).mapError built = .ok isMatch := by
  cases compiled : regexNew pattern with
  | error message =>
      rw [compiled] at valid
      cases valid
  | ok isMatch => exact ⟨isMatch, rfl⟩

/-- A collector whose patterns have been checked is built. -/
theorem new_of_validate {name : String} {config : UnixCollectorConfig}
    (valid : validateUnixCollector (fun pattern => (regexNew pattern).map fun _ => ())
      name config = .ok ()) :
    ∃ collector, UnixCollector.new regexNew name config = .ok collector := by
  simp only [validateUnixCollector, check_eq_ok] at valid
  rcases valid with ⟨ofDisk, ofNet, ofMount, ofType, ofHwmon, -⟩
  rcases compile_of_check ofDisk with ⟨diskFilter, disk⟩
  rcases compile_of_check ofNet with ⟨netFilter, net⟩
  rcases compile_of_check ofMount with ⟨mountFilter, mount⟩
  rcases compile_of_check ofType with ⟨typeFilter, type⟩
  rcases compile_of_check ofHwmon with ⟨hwmonFilter, hwmon⟩
  exact ⟨_, bind_eq_ok.mpr ⟨diskFilter, disk, bind_eq_ok.mpr ⟨netFilter, net,
    bind_eq_ok.mpr ⟨mountFilter, mount, bind_eq_ok.mpr ⟨typeFilter, type,
      bind_eq_ok.mpr ⟨hwmonFilter, hwmon, rfl⟩⟩⟩⟩⟩⟩

/-- A collector that has been checked is decided by its connections: one that reads the host
has none, and is always built. -/
theorem buildCollector_decided {entry : String × CollectorConfig}
    (valid : ∀ config, entry.2 = .unix config → validateUnixCollector
      (fun pattern => (regexNew pattern).map fun _ => ()) entry.1 config = .ok ()) :
    Build.DecidedBy (connect pem disk) (buildCollector regexNew pem disk entry)
      entry.2.connections := by
  rcases entry with ⟨name, config | config⟩
  · rcases new_of_validate (valid config rfl) with ⟨collector, built⟩
    unfold buildCollector
    simp only [built, CollectorConfig.connections]
    exact Build.decidedBy_nil _
  · have same : buildCollector regexNew pem disk (name, .prometheus config) =
        (connect pem disk ⟨config.auth, config.tls⟩).mapBuilt fun parts =>
          .prometheus (PrometheusScraper.new name config)
            { tls := parts.2, timeout := config.scrapeTimeout } parts.1 := by
      rw [connect_mapBuilt]
      rfl
    rw [same]
    exact (Build.decidedBy_single _).mapBuilt _

theorem buildSender_decided (entry : String × ForwarderConfig) :
    Build.DecidedBy (connect pem disk) (buildSender pem disk entry) entry.2.connections := by
  rcases entry with ⟨name, ⟨config⟩⟩
  have same : buildSender pem disk (name, .otlphttp config) =
      (connect pem disk ⟨config.auth, config.tls⟩).mapBuilt fun parts =>
        { name
          client := { tls := parts.2, timeout := config.timeout }
          endpoint := metricsEndpoint config.endpoint
          authHeader := parts.1
          compression := config.compression
          resourceAttributes := configuredAttributes config } := by
    rw [connect_mapBuilt]
    rfl
  rw [same]
  exact (Build.decidedBy_single _).mapBuilt _

end Component

/-! ## All components -/

/-- What comes of starting a configuration: it starts, if nothing is wrong with the connection
of a component, and every forwarder can take a metric. -/
structure Starts {Certificate Identity : Type} (pem : Tls.Pem Certificate Identity)
    (disk : Disk) (config : Config)
    (started : Build Error (List (BuiltCollector Certificate Identity) ×
      List (OtlphttpForwarder Certificate Identity))) : Prop
    extends Build.ExplainedBy started (ConnectionFault pem disk) (metricsConnections config) where
  hasRoom : ∀ entry ∈ config.metrics.forwarders.entries, HasRoom entry.2

/-- A configuration that loads starts, as far as the files that it names can be used: what
`run` checks again has been checked, and still holds with all placeholders resolved. -/
theorem load_starts {Certificate Identity : Type} {host : Host} {path : PathBuf}
    {config : Config} (loaded : load host path = .ok config)
    {regexNew : String → Except String (String → Bool)}
    (sameRegex : ∀ pattern, host.regexNew pattern = (regexNew pattern).map fun _ => ())
    (pem : Tls.Pem Certificate Identity) (disk : Disk) :
    Starts pem disk config (start regexNew pem disk config) := by
  have accepted := load_validate loaded
  have collectors : ∀ entry ∈ config.metrics.collectors.entries, ∀ unix,
      entry.2 = .unix unix → validateUnixCollector
        (fun pattern => (regexNew pattern).map fun _ => ()) entry.1 unix = .ok () := by
    simp only [validate, check_eq_ok, forM_eq_ok] at accepted
    rcases accepted with ⟨-, -, -, checked, -⟩
    intro entry member unix isUnix
    have valid := checked entry member
    rw [isUnix, funext sameRegex] at valid
    exact valid
  have decided : Build.DecidedBy (connect pem disk) (start regexNew pem disk config)
      (metricsConnections config) :=
    (Build.decidedBy_all fun entry member =>
      buildCollector_decided (collectors entry member)).both
        (Build.decidedBy_all fun entry _ => buildSender_decided entry)
  refine ⟨decided.explained ?_, hasRoom_of_validate accepted⟩
  intro connection member
  rcases connections_validated accepted (List.mem_append_left _ member) with ⟨ctx, valid⟩
  exact connect_of_validate valid

theorem load_starts_unreadable :
    start (fun _ => .ok fun _ => true) Tls.anyPem (fun _ => .error .notFound)
        (connectionConfig ⟨{}, Tls.pairedTls⟩) =
          some (.error (.fileRead (Path.ofString "/etc/agent/cert.pem") .notFound)) ∧
      Starts Tls.anyPem (fun _ => .error .notFound) (connectionConfig ⟨{}, Tls.pairedTls⟩)
        (start (fun _ => .ok fun _ => true) Tls.anyPem (fun _ => .error .notFound)
          (connectionConfig ⟨{}, Tls.pairedTls⟩)) :=
  ⟨rfl, load_starts Tls.load_pairedTls (fun _ => rfl) Tls.anyPem fun _ => .error .notFound⟩

end Ferrometer.Pipeline
