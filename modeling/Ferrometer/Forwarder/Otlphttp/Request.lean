import Ferrometer.Connect
import Ferrometer.Forwarder.Otlphttp.Encode

/-!
Contract: the requests of one `OtlphttpForwarder`.

Owns: what `new` takes from the configuration, the request that `drain_and_send` makes of
the batches it has popped, and what an endpoint reads in such a request.

Does not own: the HTTP client, or the buffer and the send loop. An endpoint may answer
before it has read a body to its end; what it has read by then is a part of the body.
-/

set_option autoImplicit false

namespace Ferrometer.Forwarder.Otlphttp

open Ferrometer.Config Ferrometer.Foundation
open Ferrometer.Foundation.ProtoWire

/-- Where the metrics go, for an endpoint of the configuration. -/
def metricsEndpoint (configured : String) : String :=
  endpointUnder "/v1/metrics" configured

/-! ## The forwarder -/

/-- What a forwarder makes its requests of. -/
structure OtlphttpForwarder (Certificate Identity : Type) where
  name : String
  client : Client Certificate Identity
  endpoint : String
  authHeader : Option String
  compression : Compression
  resourceAttributes : List KeyValue

def configuredAttributes (config : OtlphttpForwarderConfig) : List KeyValue :=
  config.resourceAttributes.entries.map fun (key, value) => kv key value

/-- `GzipEncoder`. What it writes is read back as what it was given. -/
structure Gzip where
  compress : List UInt8 → List UInt8
  decompress : List UInt8 → Option (List UInt8)
  roundTrip : ∀ bytes, decompress (compress bytes) = some bytes

structure Post where
  endpoint : String
  headers : List (String × String)
  body : List UInt8

namespace OtlphttpForwarder

variable {Certificate Identity : Type}

/-- `none` is a panic while the credentials are resolved. -/
def new (pem : Tls.Pem Certificate Identity) (disk : Disk) (name : String)
    (config : OtlphttpForwarderConfig) :
    Build Error (OtlphttpForwarder Certificate Identity) :=
  (Auth.resolveHeader disk config.auth).map fun resolved => do
    let authHeader ← resolved
    let tls ← Tls.configure pem disk {} config.tls
    .ok {
      name
      client := { tls, timeout := config.timeout }
      endpoint := metricsEndpoint config.endpoint
      authHeader
      compression := config.compression
      resourceAttributes := configuredAttributes config }

/-- The request for these batches. `none` is a panic while the body is encoded. -/
def request (gzip : Gzip) (forwarder : OtlphttpForwarder Certificate Identity)
    (popped : List (List Metric)) : Option Post := do
  let body ← bodyBytes encode popped forwarder.resourceAttributes
  let contentType := ("Content-Type", "application/x-protobuf")
  let authorization := forwarder.authHeader.toList.map fun auth => ("Authorization", auth)
  match forwarder.compression with
  | .gzip =>
      some {
        endpoint := forwarder.endpoint
        headers := [contentType, ("Content-Encoding", "gzip")] ++ authorization
        body := gzip.compress body }
  | .none =>
      some {
        endpoint := forwarder.endpoint
        headers := contentType :: authorization
        body := body }

variable {pem : Tls.Pem Certificate Identity} {disk : Disk} {name : String}
  {settings : OtlphttpForwarderConfig} {forwarder : OtlphttpForwarder Certificate Identity}

end OtlphttpForwarder

/-! ## What an endpoint reads -/

/-- The value of a header, under the first of its names. -/
def Post.header (post : Post) (name : String) : Option String :=
  (post.headers.find? fun header => header.1 = name).map Prod.snd

def Gzip.read (gzip : Gzip) (post : Post) : Option ExportMetricsServiceRequest := do
  let body ←
    if post.header "Content-Encoding" = some "gzip" then gzip.decompress post.body
    else some post.body
  decode body

/-- A request says who sends it, and its body is one entry for each batch. -/
structure Carried (gzip : Gzip) (endpoint : String) (authHeader : Option String)
    (resourceAttributes : List KeyValue) (popped : List (List Metric)) (post : Post) : Prop where
  endpoint : post.endpoint = endpoint
  authorization : post.header "Authorization" = authHeader
  body : ∃ request, gzip.read post = some request ∧
    List.Forall₂ (Represents resourceAttributes) popped request.resourceMetrics

section Request

variable {Certificate Identity : Type} (gzip : Gzip)
  (forwarder : OtlphttpForwarder Certificate Identity) (popped : List (List Metric))

/-- Whatever has been popped, there is a request for it, and it can be read. -/
theorem request_carried :
    ∃ post, forwarder.request gzip popped = some post ∧
      Carried gzip forwarder.endpoint forwarder.authHeader forwarder.resourceAttributes popped
        post := by
  rcases collect_decode decode_encode popped forwarder.resourceAttributes popped.length 0
    (popped.length + 1) (Nat.zero_add _).symm (Nat.lt_succ_self _) with
    ⟨bytes, items, collected, decoded, represents⟩
  have built : bodyBytes encode popped forwarder.resourceAttributes = some bytes := collected
  unfold OtlphttpForwarder.request
  rw [built]
  cases forwarder.compression with
  | gzip =>
      refine ⟨_, rfl, rfl, ?_, ⟨items⟩, ?_, represents⟩
      · cases forwarder.authHeader <;> simp [Post.header]
      · simp [Gzip.read, Post.header, gzip.roundTrip, decoded]
  | none =>
      refine ⟨_, rfl, rfl, ?_, ⟨items⟩, ?_, represents⟩
      · cases forwarder.authHeader <;> simp [Post.header]
      · cases forwarder.authHeader <;> simp [Gzip.read, Post.header, decoded]

end Request

end Ferrometer.Forwarder.Otlphttp
