import Ferrometer.Config.Model
import Ferrometer.Foundation.Fallible

/-!
Contract: the shape checks on a configuration, run before placeholders are
resolved.

Owns: every check with its order and its message, and that the defaults of each
component pass their own checks.

Does not own: regular expressions. `regexNew` stands for `regex::Regex::new`.
-/

set_option autoImplicit false

namespace Ferrometer.Config

open Ferrometer.Foundation

/-- Return the configuration error unless the condition holds. -/
def ensure (condition : Bool) (message : String) : Except Error Unit :=
  if condition then .ok () else .error (.config message)

def TlsConfig.validate (config : TlsConfig) (ctx : String) : Except Error Unit :=
  ensure (!(config.clientKeyFile.isSome && config.clientCertFile.isNone))
    (ctx ++ ": client-key-file is set but client-cert-file is not")

def AuthConfig.validate (config : AuthConfig) (ctx : String) : Except Error Unit := do
  let basic := config.username.isSome || config.password.isSome || config.passwordFile.isSome
  let bearer := config.bearerToken.isSome || config.bearerTokenFile.isSome
  let header := config.authorization.isSome
  let methods := basic.toNat + bearer.toNat + header.toNat
  ensure (methods ≤ 1) (ctx ++ ": multiple auth methods configured; pick one of " ++
    "username/password[-file], bearer-token[-file], or authorization")
  ensure (!(config.password.isSome && config.passwordFile.isSome))
    (ctx ++ ": password and password-file are mutually exclusive")
  ensure (!(config.bearerToken.isSome && config.bearerTokenFile.isSome))
    (ctx ++ ": bearer-token and bearer-token-file are mutually exclusive")
  ensure (!(basic && config.username.isSome && config.password.isNone &&
      config.passwordFile.isNone))
    (ctx ++ ": username set but no password / password-file")
  ensure (!(basic && config.username.isNone))
    (ctx ++ ": password / password-file set but no username")

section Checks

variable (regexNew : String → Except String Unit)

private def checkRegex (name key pattern : String) : Except Error Unit :=
  (regexNew pattern).mapError fun message =>
    .config ("collector " ++ name ++ ": invalid " ++ key ++ " regex: " ++ message)

def validSubCollectors : List String :=
  ["cpu", "memory", "disk", "filesystem", "md", "hwmon", "netdev", "loadavg", "uname"]

def validateUnixCollector (name : String) (config : UnixCollectorConfig) :
    Except Error Unit := do
  checkRegex regexNew name "disk-devices" config.diskDevices
  checkRegex regexNew name "net-devices" config.netDevices
  checkRegex regexNew name "filesystem-mount-points" config.filesystemMountPoints
  checkRegex regexNew name "filesystem-fs-types" config.filesystemFsTypes
  checkRegex regexNew name "hwmon-chips" config.hwmonChips
  config.collectors.forM fun collector =>
    ensure (validSubCollectors.contains collector)
      ("collector " ++ name ++ ": unknown sub-collector '" ++ collector ++ "'")

def validatePrometheusCollector (name : String) (config : PrometheusCollectorConfig) :
    Except Error Unit := do
  ensure (config.url ≠ "") ("collector " ++ name ++ ": url must not be empty")
  config.auth.validate ("collector " ++ name)
  config.tls.validate ("collector " ++ name)

def validateOtlphttpForwarder (name : String) (config : OtlphttpForwarderConfig) :
    Except Error Unit := do
  ensure (config.endpoint ≠ "") ("forwarder " ++ name ++ ": endpoint must not be empty")
  config.auth.validate ("forwarder " ++ name)
  config.tls.validate ("forwarder " ++ name)
  ensure (config.bufferMaxMetrics ≠ 0)
    ("forwarder " ++ name ++ ": buffer-max-metrics must be greater than 0")
  ensure (config.requestMaxMetrics ≠ 0)
    ("forwarder " ++ name ++ ": request-max-metrics must be greater than 0")
  ensure (config.backoffInitial ≤ config.backoffMax)
    ("forwarder " ++ name ++ ": backoff-initial must not exceed backoff-max")

/-- What `validate` checks of one shipper, in its loop over `shippers`. -/
def validateShipper (name : String) (shipper : ShipperConfig) : Except Error Unit := do
  ensure (shipper.backoffInitial ≤ shipper.backoffMax)
    ("shipper " ++ name ++ ": backoff-initial must not exceed backoff-max")
  match shipper.sink with
  | .loki config =>
      config.auth.validate ("shipper " ++ name ++ " sink")
      config.tls.validate ("shipper " ++ name ++ " sink")

def validate (config : Config) : Except Error Unit := do
  ensure (config.instanceConfig.name ≠ "") "instance.name must not be empty"
  ensure (!config.metrics.collectors.entries.isEmpty) "at least one collector must be configured"
  ensure (!config.metrics.forwarders.entries.isEmpty) "at least one forwarder must be configured"
  config.metrics.collectors.entries.forM fun (name, collector) =>
    match collector with
    | .unix unix => validateUnixCollector regexNew name unix
    | .prometheus prom => validatePrometheusCollector name prom
  config.metrics.forwarders.entries.forM fun (name, forwarder) =>
    match forwarder with
    | .otlphttp otlp => validateOtlphttpForwarder name otlp
  config.logs.shippers.entries.forM fun (name, shipper) => validateShipper name shipper

end Checks

/-! ## What is accepted -/

@[simp] theorem ensure_eq_ok {condition : Bool} {message : String} :
    ensure condition message = .ok () ↔ condition = true := by
  cases condition <;> simp [ensure]

/-- Neither TLS nor auth needs to be configured. -/
theorem default_accepted (ctx : String) :
    ({} : AuthConfig).validate ctx = .ok () ∧ ({} : TlsConfig).validate ctx = .ok () :=
  ⟨rfl, rfl⟩

/-- What an accepted OTLP forwarder has: room for a batch in the buffer and in a
request, and a backoff that can grow. -/
theorem limits_of_validate {regexNew : String → Except String Unit} {config : Config}
    (accepted : validate regexNew config = .ok ()) {name : String}
    {otlp : OtlphttpForwarderConfig}
    (member : (name, .otlphttp otlp) ∈ config.metrics.forwarders.entries) :
    otlp.endpoint ≠ "" ∧ 0 < otlp.bufferMaxMetrics ∧ 0 < otlp.requestMaxMetrics ∧
      otlp.backoffInitial ≤ otlp.backoffMax := by
  simp only [validate, check_eq_ok, forM_eq_ok] at accepted
  have checked := accepted.2.2.2.2.1 _ member
  simp only [validateOtlphttpForwarder, check_eq_ok, ensure_eq_ok, decide_eq_true_eq] at checked
  obtain ⟨endpoint, -, -, buffer, request, backoff⟩ := checked
  exact ⟨endpoint, Nat.pos_of_ne_zero buffer, Nat.pos_of_ne_zero request, backoff⟩

end Ferrometer.Config
