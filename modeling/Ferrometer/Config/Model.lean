import Ferrometer.Config.Placeholder
import Ferrometer.Foundation.SortedMap
import Ferrometer.Signal

/-!
Contract: the configuration as it is deserialized.

Owns: every configuration record with its fields and the defaults of the fields
that a file may leave out.

Does not own: the TOML parser, and the renaming and flattening of keys that the
derived deserializers do. A record is what they make of a file.
-/

set_option autoImplicit false

namespace Ferrometer.Config

open Ferrometer.Foundation

/-- Nanoseconds. -/
abbrev Duration := Nat

def Duration.fromSecs (seconds : Nat) : Duration :=
  seconds * 1000000000

/-- A `HashMap` with string keys, as its iteration order lists it. Nothing here
depends on which order that is. -/
structure HashMap (Value : Type) where
  entries : List (String × Value) := []
  distinct : (entries.map Prod.fst).Nodup := by simp

namespace HashMap

variable {Value : Type}

def new : HashMap Value where
  entries := []
  distinct := List.nodup_nil

/-- A map with one entry. -/
def single (key : String) (value : Value) : HashMap Value where
  entries := [(key, value)]
  distinct := List.nodup_singleton key

end HashMap

structure InstanceConfig where
  name : String

structure TlsConfig where
  clientCertFile : Option PathBuf := none
  clientKeyFile : Option PathBuf := none
  caCertFile : Option PathBuf := none
deriving DecidableEq

structure AuthConfig where
  username : Option String := none
  password : Option String := none
  passwordFile : Option PathBuf := none
  bearerToken : Option String := none
  bearerTokenFile : Option PathBuf := none
  authorization : Option String := none
deriving DecidableEq

/-! ## Logs -/

def defaultShipperBackoffInitial : Duration := .fromSecs 1

def defaultShipperBackoffMax : Duration := .fromSecs 300

def defaultJournaldBatchSize : Nat := 1000

def defaultJournaldBatchMaxBytes : Nat := 1000000

def defaultJournaldBatchWait : Duration := .fromSecs 5

def defaultJournaldCursorFile : PathBuf := "$\x7benv:STATE_DIRECTORY\x7d/journal.cursor"

def defaultJournaldLabels : Labels :=
  .ofList [("unit", "_SYSTEMD_UNIT"), ("priority", "PRIORITY")]

def defaultJournaldMetadata : Labels :=
  .ofList [("pid", "_PID"), ("syslog_identifier", "SYSLOG_IDENTIFIER"),
    ("syslog_facility", "SYSLOG_FACILITY"), ("transport", "_TRANSPORT"),
    ("hostname", "_HOSTNAME"), ("boot_id", "_BOOT_ID"), ("machine_id", "_MACHINE_ID"),
    ("cmdline", "_CMDLINE")]

structure JournaldSourceConfig where
  batchSize : Nat := defaultJournaldBatchSize
  batchMaxBytes : Nat := defaultJournaldBatchMaxBytes
  batchWait : Duration := defaultJournaldBatchWait
  cursorFile : PathBuf := defaultJournaldCursorFile
  runtimeOnly : Bool := false
  labels : Labels := defaultJournaldLabels
  staticLabels : Labels := .empty
  metadata : Labels := defaultJournaldMetadata

inductive LogSourceConfig where
  | journald (config : JournaldSourceConfig)

structure LokiSinkConfig where
  endpoint : String
  auth : AuthConfig := {}
  tls : TlsConfig := {}

inductive LogSinkConfig where
  | loki (config : LokiSinkConfig)

structure ShipperConfig where
  source : LogSourceConfig
  sink : LogSinkConfig
  backoffInitial : Duration := defaultShipperBackoffInitial
  backoffMax : Duration := defaultShipperBackoffMax

structure LogsConfig where
  shippers : HashMap ShipperConfig := {}

/-! ## Metrics -/

def defaultInterval : Duration := .fromSecs 15

def defaultPrometheusScrapeTimeout : Duration := .fromSecs 10

def defaultPrometheusMaxRuntime : Duration := .fromSecs 15

structure PrometheusCollectorConfig where
  url : String
  interval : Duration := defaultInterval
  scrapeTimeout : Duration := defaultPrometheusScrapeTimeout
  maxRuntime : Duration := defaultPrometheusMaxRuntime
  auth : AuthConfig := {}
  tls : TlsConfig := {}
  staticLabels : Labels := .empty

def defaultUnixMaxRuntime : Duration := .fromSecs 5

def defaultDiskDevices : String := "^(nvme\\d+n\\d+|sd[a-z]+|vd[a-z]+)$"

def defaultNetDevices : String := "^(eth|en|wl|bond)"

def defaultUnixCollectors : List String :=
  ["cpu", "memory", "disk", "filesystem", "md", "hwmon", "netdev", "loadavg", "uname"]

structure UnixCollectorConfig where
  interval : Duration := defaultInterval
  maxRuntime : Duration := defaultUnixMaxRuntime
  diskDevices : String := defaultDiskDevices
  netDevices : String := defaultNetDevices
  filesystemMountPoints : String := ""
  filesystemFsTypes : String := ""
  filesystemDedupeDevices : Bool := true
  hwmonChips : String := ""
  collectors : List String := defaultUnixCollectors
  staticLabels : Labels := .empty

inductive CollectorConfig where
  | unix (config : UnixCollectorConfig)
  | prometheus (config : PrometheusCollectorConfig)

inductive Compression where
  | gzip
  | none

def defaultTimeout : Duration := .fromSecs 30

def defaultBufferMaxMetrics : Nat := 100000

def defaultRequestMaxMetrics : Nat := 10000

def defaultBackoffInitial : Duration := .fromSecs 1

def defaultBackoffMax : Duration := .fromSecs 300

structure OtlphttpForwarderConfig where
  endpoint : String
  auth : AuthConfig := {}
  tls : TlsConfig := {}
  compression : Compression := .gzip
  timeout : Duration := defaultTimeout
  bufferMaxMetrics : Nat := defaultBufferMaxMetrics
  requestMaxMetrics : Nat := defaultRequestMaxMetrics
  backoffInitial : Duration := defaultBackoffInitial
  backoffMax : Duration := defaultBackoffMax
  resourceAttributes : Labels := .empty

inductive ForwarderConfig where
  | otlphttp (config : OtlphttpForwarderConfig)

structure MetricsConfig where
  collectors : HashMap CollectorConfig := {}
  forwarders : HashMap ForwarderConfig := {}

end Ferrometer.Config

namespace Ferrometer

open Ferrometer.Config in
structure Config where
  instanceConfig : InstanceConfig
  metrics : MetricsConfig := {}
  logs : LogsConfig := {}

end Ferrometer
