import Ferrometer.Foundation.Building
import Ferrometer.Tls
import Mathlib.Data.List.DropRight

/-!
Contract: what the components that talk to a backend have in common.

Owns: the address that is made of a configured endpoint, the credentials and the client that
are made of a connection, and why they can fail to be made.

Does not own: the HTTP library. A client whose parts are in order is taken to be built.
-/

set_option autoImplicit false

namespace Ferrometer

open Ferrometer.Config Ferrometer.Foundation

/-! ## Addresses -/

def trimEndMatches (symbol : Char) (text : String) : String :=
  .ofList (text.toList.rdropWhile fun other => other = symbol)

/-- A configured endpoint, with the path that the requests go to. -/
def endpointUnder (path configured : String) : String :=
  let endpoint := trimEndMatches '/' configured
  if path.toList <:+ endpoint.toList then endpoint else endpoint ++ path

/-- An HTTP client, by what it is built of. -/
structure Client (Certificate Identity : Type) where
  tls : Tls.ClientBuilder Certificate Identity
  timeout : Duration

section Model

variable {Certificate Identity : Type} (pem : Tls.Pem Certificate Identity) (disk : Disk)

/-- What all components that talk to a backend do at first. -/
def connect (connection : Connection) :
    Build Error (Option String × Tls.ClientBuilder Certificate Identity) :=
  (Auth.resolveHeader disk connection.auth).map fun resolved => do
    let authHeader ← resolved
    let tls ← Tls.configure pem disk {} connection.tls
    .ok (authHeader, tls)

end Model

section Connection

variable {Certificate Identity : Type} {pem : Tls.Pem Certificate Identity} {disk : Disk}

/-- Why a connection cannot be made: for its credentials or for its certificates. -/
inductive ConnectionFault (pem : Tls.Pem Certificate Identity) (disk : Disk)
    (connection : Connection) : Error → Prop where
  | credentials {file : PathBuf} {source : IoError}
      (configured : file ∈ connection.auth.passwordFile.toList ++
        connection.auth.bearerTokenFile.toList)
      (failed : disk.readToString (Path.ofString file) = .error source) :
      ConnectionFault pem disk connection (.fileRead (Path.ofString file) source)
  | certificates {failure : Error} (fault : Tls.Fault pem disk connection.tls failure) :
      ConnectionFault pem disk connection failure

/-- A connection that has been checked can be tried. -/
theorem connect_of_validate {connection : Connection} {ctx : String}
    (valid : connection.validate ctx = .ok ()) :
    Build.Explained (connect pem disk connection) (ConnectionFault pem disk connection) := by
  rcases (Auth.validate_eq_ok_iff connection.auth ctx).mp (check_eq_ok.mp valid).1 with
    ⟨method, isWritten⟩
  have paired : connection.tls.clientKeyFile.isSome → connection.tls.clientCertFile.isSome := by
    have checked := (check_eq_ok.mp valid).2
    rw [TlsConfig.validate, ensure_eq_ok] at checked
    intro hasKey
    simpa [hasKey] using checked
  have tried : connect pem disk connection = some (do
      let authHeader ← method.present disk
      let tls ← Tls.configure pem disk {} connection.tls
      .ok (authHeader, tls)) := by
    unfold connect
    rw [isWritten, method.resolveHeader_config]
    rfl
  have fails : ∀ failure, connect pem disk connection = some (.error failure) →
      ConnectionFault pem disk connection failure := by
    intro failure failed
    rw [tried] at failed
    rcases bind_eq_error.mp (Option.some.inj failed) with unread | ⟨authHeader, -, rest⟩
    · rcases Auth.Method.present_eq_error_iff.mp unread with
        ⟨file, source, needed, missing, rfl⟩
      exact .credentials (isWritten ▸ Auth.Method.mem_config_iff.mpr needed) missing
    · rcases bind_eq_error.mp rest with unconfigured | ⟨tls, -, rest⟩
      · exact .certificates (Tls.fault_of_configure unconfigured)
      · cases rest
  refine ⟨by simp [tried], ⟨?_, ?_⟩, fails⟩
  · rintro ⟨parts, made⟩ failure fault
    rw [tried] at made
    rcases bind_eq_ok.mp (Option.some.inj made) with ⟨authHeader, presented, rest⟩
    rcases bind_eq_ok.mp rest with ⟨tls, configured, -⟩
    cases fault with
    | credentials isFile failed =>
        rw [isWritten] at isFile
        have unread := Auth.Method.present_eq_error_iff.mpr
          ⟨_, _, Auth.Method.mem_config_iff.mp isFile, failed, rfl⟩
        cases presented.symm.trans unread
    | certificates fault => exact Tls.not_fault_of_configure paired configured fault
  · intro flawless
    rcases outcome : connect pem disk connection with _ | failure | parts
    · simp [tried] at outcome
    · exact absurd (fails failure outcome) (flawless failure)
    · exact ⟨parts, rfl⟩

/-- What is made of a connection. -/
theorem connect_mapBuilt {Component : Type} (connection : Connection)
    (make : Option String × Tls.ClientBuilder Certificate Identity → Component) :
    (connect pem disk connection).mapBuilt make =
      (Auth.resolveHeader disk connection.auth).map (fun resolved => do
        let authHeader ← resolved
        let tls ← Tls.configure pem disk {} connection.tls
        .ok (make (authHeader, tls))) := by
  unfold connect Build.mapBuilt
  rw [Option.map_map]
  congr 1
  funext resolved
  rcases resolved with failure | authHeader
  · rfl
  · rcases Tls.configure pem disk {} connection.tls with failure | tls <;> rfl

end Connection

end Ferrometer
