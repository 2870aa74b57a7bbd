import Ferrometer.Connect
import Ferrometer.Log.Fleet
import Ferrometer.Log.Sink.Loki

/-!
Contract: how the log shippers of a configuration are built.

Owns: `LokiSink::new`, `spawn_logs` up to the tasks that it spawns, and what can still fail
once a configuration has been loaded.

Does not own: the shippers when they run.
-/

set_option autoImplicit false

namespace Ferrometer.Log

open Ferrometer.Config Ferrometer.Foundation

/-! ## Model -/

namespace Loki

def normalizeEndpoint (raw : String) : String :=
  endpointUnder "/loki/api/v1/push" raw

/-- A sink with its client. -/
structure BuiltSink (Certificate Identity : Type) where
  sink : LokiSink
  tls : Tls.ClientBuilder Certificate Identity

def LokiSink.new {Certificate Identity : Type} (pem : Tls.Pem Certificate Identity) (disk : Disk)
    (name : String) (config : LokiSinkConfig) : Build Error (BuiltSink Certificate Identity) :=
  (Auth.resolveHeader disk config.auth).map fun resolved => do
    let authHeader ← resolved
    let tls ← Tls.configure pem disk {} config.tls
    .ok { sink := { name, endpoint := normalizeEndpoint config.endpoint, authHeader }, tls }

end Loki

section Model

variable {api : JournalApi} {Certificate Identity : Type} (host : JournalHost api)
  (tree : FileTree) (pem : Tls.Pem Certificate Identity) (disk : Disk) (instanceName : String)
  (entry : String × ShipperConfig)

end Model

section Entry

variable {api : JournalApi} {Certificate Identity : Type} {host : JournalHost api}
  {tree : FileTree} {pem : Tls.Pem Certificate Identity} {disk : Disk} {instanceName : String}
  {entry : String × ShipperConfig}

end Entry

/-! ## All shippers -/

end Ferrometer.Log
