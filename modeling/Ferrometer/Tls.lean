import Ferrometer.Auth
import Ferrometer.Foundation.Stateful

/-!
Contract: the TLS settings of an HTTP client.

Owns: `configure` with the files that it reads, in their order, and the text that a client
identity is made of.

Does not own: what PEM text holds. The two parsers of the HTTP library are parameters.
-/

set_option autoImplicit false

namespace Ferrometer.Tls

open Ferrometer.Foundation Ferrometer.Config

/-! ## Model -/

/-- `Certificate::from_pem_bundle` and `Identity::from_pem`, with the text of their errors. -/
structure Pem (Certificate Identity : Type) where
  fromPemBundle : List UInt8 → Except String (List Certificate)
  fromPem : List UInt8 → Except String Identity

/-- What the settings add to a client. -/
structure ClientBuilder (Certificate Identity : Type) where
  rootCertificates : List Certificate := []
  identity : Option Identity := none

/-- `b'\n'`. -/
def lineFeed : UInt8 := 10

/-- Two paths are equal if their components are. A `.` is one only in front. -/
def samePath (first second : PathBuf) : Bool :=
  let startsHere := fun path : PathBuf => decide ((path.toList.splitOn '/').head? = some ['.'])
  Path.ofString first = Path.ofString second && startsHere first = startsHere second

def readPem (disk : Disk) (path : PathBuf) : Except Error (List UInt8) :=
  (disk (Path.ofString path)).mapError (.fileRead (Path.ofString path))

/-- The certificate and the key in one text, with a line feed between them if need be. -/
def combine (certPem keyPem : List UInt8) : List UInt8 :=
  let combined := if certPem.getLast? = some lineFeed then certPem else certPem ++ [lineFeed]
  combined ++ keyPem

/-- The text for `Identity::from_pem`. -/
def identityPem (disk : Disk) (certPath : PathBuf) (clientKeyFile : Option PathBuf) :
    Except Error (List UInt8) := do
  let certPem ← readPem disk certPath
  match clientKeyFile with
  | some keyPath =>
      if samePath keyPath certPath then .ok certPem
      else do
        let keyPem ← readPem disk keyPath
        .ok (combine certPem keyPem)
  | none => .ok certPem

section Configure

variable {Certificate Identity : Type} (pem : Pem Certificate Identity) (disk : Disk)

def addRootCertificates (builder : ClientBuilder Certificate Identity) (config : TlsConfig) :
    Except Error (ClientBuilder Certificate Identity) :=
  match config.caCertFile with
  | none => .ok builder
  | some caPath => do
      let text ← readPem disk caPath
      let certificates ← (pem.fromPemBundle text).mapError fun e =>
        .config (s!"ca-cert-file {caPath}: parse failed: {e}")
      .ok { builder with rootCertificates := builder.rootCertificates ++ certificates }

def addIdentity (builder : ClientBuilder Certificate Identity) (config : TlsConfig) :
    Except Error (ClientBuilder Certificate Identity) :=
  match config.clientCertFile with
  | none => .ok builder
  | some certPath => do
      let text ← identityPem disk certPath config.clientKeyFile
      let identity ← (pem.fromPem text).mapError fun e =>
        .config (s!"client-cert-file {certPath}: identity build failed " ++
          s!"(key missing or invalid?): {e}")
      .ok { builder with identity := some identity }

def configure (builder : ClientBuilder Certificate Identity) (config : TlsConfig) :
    Except Error (ClientBuilder Certificate Identity) := do
  let builder ← addRootCertificates pem disk builder config
  addIdentity pem disk builder config

end Configure

/-! ## The text of an identity -/

/-- Nothing runs together: the lines are those of the certificate and then those of the key,
unless there is no certificate at all. -/
theorem lines_combine_iff (certPem keyPem : List UInt8) :
    Text.lines lineFeed (combine certPem keyPem) =
        Text.lines lineFeed certPem ++ Text.lines lineFeed keyPem ↔ certPem ≠ [] := by
  by_cases empty : certPem = []
  · subst empty
    apply iff_of_false _ (not_not_intro rfl)
    intro same
    have lengths := congrArg List.length same
    simp [combine, Text.lines] at lengths
  · refine iff_of_true ?_ empty
    unfold combine
    split
    · rename_i ended
      rcases List.getLast?_eq_some_iff.mp ended with ⟨front, rfl⟩
      rw [List.append_assoc]
      exact Text.lines_append front keyPem
    · rename_i unended
      rw [List.append_assoc, List.singleton_append, Text.lines_append,
        Text.lines_concat empty unended]

/-- The files that an identity is made of. -/
def identityFiles (config : TlsConfig) : List PathBuf :=
  match config.clientCertFile with
  | none => []
  | some certPath =>
      certPath :: (config.clientKeyFile.filter fun keyPath => !samePath keyPath certPath).toList

def configuredFiles (config : TlsConfig) : List PathBuf :=
  config.caCertFile.toList ++ config.clientCertFile.toList ++ config.clientKeyFile.toList

/-- The file has been read, and this is what it holds. -/
def Holds (disk : Disk) (path : PathBuf) (text : List UInt8) : Prop :=
  disk (Path.ofString path) = .ok text

section Reading

variable {disk : Disk}

private theorem readPem_eq_ok {path : PathBuf} {text : List UInt8}
    (read : readPem disk path = .ok text) : Holds disk path text := by
  unfold readPem at read
  cases found : disk (Path.ofString path) with
  | error source =>
      rw [found] at read
      cases read
  | ok content =>
      rw [found] at read
      cases read
      exact found

private theorem readPem_eq_error {path : PathBuf} {failure : Error}
    (read : readPem disk path = .error failure) :
    ∃ source, disk (Path.ofString path) = .error source ∧
      failure = .fileRead (Path.ofString path) source := by
  unfold readPem at read
  cases found : disk (Path.ofString path) with
  | error source =>
      rw [found] at read
      cases read
      exact ⟨source, rfl, rfl⟩
  | ok content =>
      rw [found] at read
      cases read

/-- The text of an identity has the lines of its files, one file after the other. -/
private theorem identityPem_eq_ok {config : TlsConfig} {certPath : PathBuf} {text : List UInt8}
    (isCert : config.clientCertFile = some certPath)
    (made : identityPem disk certPath config.clientKeyFile = .ok text) :
    ∃ texts, List.Forall₂ (Holds disk) (identityFiles config) texts ∧
      (texts.head? ≠ some [] →
        Text.lines lineFeed text = texts.flatMap (Text.lines lineFeed)) := by
  unfold identityFiles
  rw [isCert]
  simp only
  rcases bind_eq_ok.mp made with ⟨certPem, readCert, rest⟩
  have holdsCert := readPem_eq_ok readCert
  cases isKey : config.clientKeyFile with
  | none =>
      rw [isKey] at rest
      cases rest
      exact ⟨[text], List.Forall₂.cons holdsCert List.Forall₂.nil, fun _ => by simp⟩
  | some keyPath =>
      rw [isKey] at rest
      simp only at rest
      cases same : samePath keyPath certPath with
      | true =>
          rw [if_pos same] at rest
          cases rest
          refine ⟨[text], List.Forall₂.cons holdsCert ?_, fun _ => by simp⟩
          simp [Option.filter, same]
      | false =>
          rw [if_neg (by simp [same])] at rest
          rcases bind_eq_ok.mp rest with ⟨keyPem, readKey, equal⟩
          cases equal
          refine ⟨[certPem, keyPem], List.Forall₂.cons holdsCert ?_, ?_⟩
          · simpa [Option.filter, same] using readPem_eq_ok readKey
          · intro nonempty
            have notEmpty : certPem ≠ [] := fun empty => nonempty (by rw [empty]; rfl)
            simpa using (lines_combine_iff certPem keyPem).mpr notEmpty

end Reading

/-! ## Loaded configurations -/

/-- Why the settings of a component cannot be used. -/
inductive Fault {Certificate Identity : Type} (pem : Pem Certificate Identity) (disk : Disk)
    (config : TlsConfig) : Error → Prop where
  | unreadable {file : PathBuf} {source : IoError} (configured : file ∈ configuredFiles config)
      (failed : disk (Path.ofString file) = .error source) :
      Fault pem disk config (.fileRead (Path.ofString file) source)
  | certificates {caPath : PathBuf} {text : List UInt8} {e : String}
      (configured : config.caCertFile = some caPath) (holds : Holds disk caPath text)
      (malformed : pem.fromPemBundle text = .error e) :
      Fault pem disk config (.config (s!"ca-cert-file {caPath}: parse failed: {e}"))
  | identity {certPath : PathBuf} {text : List UInt8} {e : String}
      (configured : config.clientCertFile = some certPath)
      (made : identityPem disk certPath config.clientKeyFile = .ok text)
      (malformed : pem.fromPem text = .error e) :
      Fault pem disk config (.config (s!"client-cert-file {certPath}: identity build failed " ++
        s!"(key missing or invalid?): {e}"))

/-- What `configure` does with the settings of a component. -/
structure Configures {Certificate Identity : Type} (pem : Pem Certificate Identity) (disk : Disk)
    (builder : ClientBuilder Certificate Identity) (config : TlsConfig) : Prop where
  /-- Every file that is configured is read, the key file too. -/
  reads : ∀ after, configure pem disk builder config = .ok after →
    ∀ file ∈ configuredFiles config, ∃ text, Holds disk file text
  rootCertificates : ∀ after, configure pem disk builder config = .ok after →
    ∃ certificates, after.rootCertificates = builder.rootCertificates ++ certificates ∧
      (config.caCertFile = none → certificates = []) ∧
      ∀ caPath, config.caCertFile = some caPath →
        ∃ text, Holds disk caPath text ∧ pem.fromPemBundle text = .ok certificates
  identity : ∀ after, configure pem disk builder config = .ok after →
    (config.clientCertFile = none → after.identity = builder.identity) ∧
      (config.clientCertFile ≠ none → ∃ texts text identity,
        List.Forall₂ (Holds disk) (identityFiles config) texts ∧
        (texts.head? ≠ some [] →
          Text.lines lineFeed text = texts.flatMap (Text.lines lineFeed)) ∧
        pem.fromPem text = .ok identity ∧ after.identity = some identity)
  /-- A failure to read names a configured file. -/
  fails : ∀ path source, configure pem disk builder config = .error (.fileRead path source) →
    ∃ file ∈ configuredFiles config, path = Path.ofString file ∧ disk path = .error source

section Configure

variable {Certificate Identity : Type} {pem : Pem Certificate Identity} {disk : Disk}
  {builder after : ClientBuilder Certificate Identity} {config : TlsConfig}

private theorem addRootCertificates_eq_ok
    (added : addRootCertificates pem disk builder config = .ok after) :
    after.identity = builder.identity ∧
      ∃ certificates, after.rootCertificates = builder.rootCertificates ++ certificates ∧
        (config.caCertFile = none → certificates = []) ∧
        ∀ caPath, config.caCertFile = some caPath →
          ∃ text, Holds disk caPath text ∧ pem.fromPemBundle text = .ok certificates := by
  unfold addRootCertificates at added
  cases isFile : config.caCertFile with
  | none =>
      rw [isFile] at added
      cases added
      exact ⟨rfl, [], (List.append_nil _).symm, fun _ => rfl, nofun⟩
  | some caPath =>
      rw [isFile] at added
      rcases bind_eq_ok.mp added with ⟨text, read, rest⟩
      rcases bind_eq_ok.mp rest with ⟨certificates, parsed, equal⟩
      cases equal
      refine ⟨rfl, certificates, rfl, nofun, ?_⟩
      intro path same
      cases same
      exact ⟨text, readPem_eq_ok read, Stateful.mapError_eq_ok.mp parsed⟩

private theorem addIdentity_eq_ok (added : addIdentity pem disk builder config = .ok after) :
    after.rootCertificates = builder.rootCertificates ∧
      (config.clientCertFile = none → after.identity = builder.identity) ∧
      (config.clientCertFile ≠ none → ∃ texts text identity,
        List.Forall₂ (Holds disk) (identityFiles config) texts ∧
        (texts.head? ≠ some [] →
          Text.lines lineFeed text = texts.flatMap (Text.lines lineFeed)) ∧
        pem.fromPem text = .ok identity ∧ after.identity = some identity) := by
  unfold addIdentity at added
  cases isCert : config.clientCertFile with
  | none =>
      rw [isCert] at added
      cases added
      exact ⟨rfl, fun _ => rfl, fun present => absurd rfl present⟩
  | some certPath =>
      rw [isCert] at added
      rcases bind_eq_ok.mp added with ⟨text, made, rest⟩
      rcases bind_eq_ok.mp rest with ⟨identity, parsed, equal⟩
      cases equal
      rcases identityPem_eq_ok isCert made with ⟨texts, holds, lines⟩
      exact ⟨rfl, nofun, fun _ => ⟨texts, text, identity, holds, lines,
        Stateful.mapError_eq_ok.mp parsed, rfl⟩⟩

private theorem unreadable_of_readPem {file : PathBuf} {failure : Error}
    (configured : file ∈ configuredFiles config) (failed : readPem disk file = .error failure) :
    Fault pem disk config failure := by
  rcases readPem_eq_error failed with ⟨source, found, rfl⟩
  exact .unreadable configured found

private theorem fault_of_identityPem {certPath : PathBuf} {failure : Error}
    (isCert : config.clientCertFile = some certPath)
    (fails : identityPem disk certPath config.clientKeyFile = .error failure) :
    Fault pem disk config failure := by
  rcases bind_eq_error.mp fails with unread | ⟨certPem, -, rest⟩
  · exact unreadable_of_readPem (by simp [configuredFiles, isCert]) unread
  · cases isKey : config.clientKeyFile with
    | none =>
        rw [isKey] at rest
        cases rest
    | some keyPath =>
        rw [isKey] at rest
        simp only at rest
        split at rest
        · cases rest
        · rcases bind_eq_error.mp rest with unread | ⟨keyPem, -, rest⟩
          · exact unreadable_of_readPem (by simp [configuredFiles, isKey]) unread
          · cases rest

theorem fault_of_configure {failure : Error}
    (fails : configure pem disk builder config = .error failure) :
    Fault pem disk config failure := by
  rcases bind_eq_error.mp fails with ofRoots | ⟨middle, -, ofIdentity⟩
  · unfold addRootCertificates at ofRoots
    cases isFile : config.caCertFile with
    | none =>
        rw [isFile] at ofRoots
        cases ofRoots
    | some caPath =>
        rw [isFile] at ofRoots
        rcases bind_eq_error.mp ofRoots with unread | ⟨text, read, rest⟩
        · exact unreadable_of_readPem (by simp [configuredFiles, isFile]) unread
        · rcases bind_eq_error.mp rest with unparsed | ⟨certificates, -, rest⟩
          · rcases Stateful.mapError_eq_error.mp unparsed with ⟨e, malformed, rfl⟩
            exact .certificates isFile (readPem_eq_ok read) malformed
          · cases rest
  · unfold addIdentity at ofIdentity
    cases isCert : config.clientCertFile with
    | none =>
        rw [isCert] at ofIdentity
        cases ofIdentity
    | some certPath =>
        rw [isCert] at ofIdentity
        rcases bind_eq_error.mp ofIdentity with unmade | ⟨text, made, rest⟩
        · exact fault_of_identityPem isCert unmade
        · rcases bind_eq_error.mp rest with unparsed | ⟨identity, -, rest⟩
          · rcases Stateful.mapError_eq_error.mp unparsed with ⟨e, malformed, rfl⟩
            exact .identity isCert made malformed
          · cases rest

/-- A certificate or a key is one of the files of the identity, or the same file. -/
private theorem mem_identityFiles
    (paired : config.clientKeyFile.isSome → config.clientCertFile.isSome) {file : PathBuf}
    (member : file ∈ config.clientCertFile.toList ++ config.clientKeyFile.toList) :
    ∃ other ∈ identityFiles config, Path.ofString file = Path.ofString other := by
  have hasCert : config.clientCertFile.isSome := by
    rcases List.mem_append.mp member with ofCert | ofKey
    · rw [Option.mem_toList.mp ofCert]
      rfl
    · apply paired
      rw [Option.mem_toList.mp ofKey]
      rfl
  rcases Option.isSome_iff_exists.mp hasCert with ⟨certPath, isCert⟩
  unfold identityFiles
  rw [isCert] at member ⊢
  rcases List.mem_append.mp member with ofCert | ofKey
  · have same : certPath = file := Option.some.inj (Option.mem_toList.mp ofCert)
    exact ⟨certPath, List.mem_cons_self, by rw [same]⟩
  · rw [Option.mem_toList.mp ofKey]
    cases same : samePath file certPath with
    | true =>
        simp only [samePath, Bool.and_eq_true, decide_eq_true_eq] at same
        exact ⟨certPath, List.mem_cons_self, same.1⟩
    | false => exact ⟨file, by simp [Option.filter, same], rfl⟩

theorem configures_of_paired
    (paired : config.clientKeyFile.isSome → config.clientCertFile.isSome) :
    Configures pem disk builder config := by
  have parts : ∀ after, configure pem disk builder config = .ok after → ∃ middle,
      addRootCertificates pem disk builder config = .ok middle ∧
        addIdentity pem disk middle config = .ok after :=
    fun after made => bind_eq_ok.mp made
  have rootCertificates : ∀ after, configure pem disk builder config = .ok after →
      ∃ certificates, after.rootCertificates = builder.rootCertificates ++ certificates ∧
        (config.caCertFile = none → certificates = []) ∧
        ∀ caPath, config.caCertFile = some caPath →
          ∃ text, Holds disk caPath text ∧ pem.fromPemBundle text = .ok certificates := by
    intro after made
    rcases parts after made with ⟨middle, roots, identity⟩
    rw [(addIdentity_eq_ok identity).1]
    exact (addRootCertificates_eq_ok roots).2
  refine ⟨?_, rootCertificates, ?_, ?_⟩
  · intro after made file member
    rw [configuredFiles, List.append_assoc] at member
    rcases List.mem_append.mp member with ofRoots | ofIdentity
    · rcases rootCertificates after made with ⟨certificates, -, -, read⟩
      rcases read file (Option.mem_toList.mp ofRoots) with ⟨text, holds, -⟩
      exact ⟨text, holds⟩
    · rcases mem_identityFiles paired ofIdentity with ⟨other, isPart, samePlace⟩
      have hasCert : config.clientCertFile ≠ none := by
        intro none
        rw [identityFiles, none] at isPart
        exact absurd isPart List.not_mem_nil
      rcases parts after made with ⟨middle, -, identity⟩
      rcases (addIdentity_eq_ok identity).2.2 hasCert with ⟨texts, -, -, holds, -⟩
      rcases exists_of_mem_right holds.flip isPart with ⟨text, -, holdsOther⟩
      exact ⟨text, by rwa [Holds, samePlace]⟩
  · intro after made
    rcases parts after made with ⟨middle, roots, identity⟩
    rw [← (addRootCertificates_eq_ok roots).1]
    exact (addIdentity_eq_ok identity).2
  · intro path source fails
    cases fault_of_configure fails with
    | @unreadable file _ configured failed => exact ⟨file, configured, rfl, failed⟩

/-- So nothing is wrong with settings that can be used. -/
theorem not_fault_of_configure
    (paired : config.clientKeyFile.isSome → config.clientCertFile.isSome)
    (made : configure pem disk builder config = .ok after) {failure : Error} :
    ¬ Fault pem disk config failure := by
  have configures : Configures pem disk builder config := configures_of_paired paired
  intro fault
  cases fault with
  | unreadable configured failed =>
      rcases configures.reads after made _ configured with ⟨text, holds⟩
      cases failed.symm.trans holds
  | certificates configured holds malformed =>
      rcases configures.rootCertificates after made with ⟨certificates, -, -, parsed⟩
      rcases parsed _ configured with ⟨text, holdsToo, wellFormed⟩
      cases holds.symm.trans holdsToo
      cases malformed.symm.trans wellFormed
  | identity configured combined malformed =>
      rcases bind_eq_ok.mp made with ⟨middle, -, ofIdentity⟩
      unfold addIdentity at ofIdentity
      rw [configured] at ofIdentity
      rcases bind_eq_ok.mp ofIdentity with ⟨text, combinedToo, rest⟩
      rcases bind_eq_ok.mp rest with ⟨identity, wellFormed, -⟩
      cases combined.symm.trans combinedToo
      rw [malformed] at wellFormed
      cases wellFormed

end Configure

/-- In a configuration that loads, no component has a key without a certificate. So its client
is made of all the files that are configured for it, and of no others. -/
theorem load_configures {Certificate Identity : Type} {host : Host} {path : PathBuf}
    {config : Config} (loaded : load host path = .ok config) (pem : Pem Certificate Identity)
    (disk : Disk) (builder : ClientBuilder Certificate Identity) :
    ∀ connection ∈ connections config, Configures pem disk builder connection.tls := by
  intro connection member
  apply configures_of_paired
  rcases load_connections loaded member with ⟨file, ctx, valid, resolved⟩
  have checked := (check_eq_ok.mp valid).2
  rcases bind_eq_ok.mp resolved with ⟨auth, -, rest⟩
  rcases bind_eq_ok.mp rest with ⟨tls, ofTls, equal⟩
  cases equal
  rcases bind_eq_ok.mp ofTls with ⟨clientCertFile, ofCert, rest⟩
  rcases bind_eq_ok.mp rest with ⟨clientKeyFile, ofKey, rest⟩
  rcases bind_eq_ok.mp rest with ⟨caCertFile, -, equal⟩
  cases equal
  rw [TlsConfig.validate, ensure_eq_ok, ← isSome_of_mapOption ofKey] at checked
  intro hasKey
  have hadCert : file.tls.clientCertFile.isSome := by simpa [hasKey] using checked
  rw [isSome_of_mapOption ofCert]
  exact hadCert

/-- A certificate and a key in two files. -/
def pairedTls : TlsConfig where
  clientCertFile := some "/etc/agent/cert.pem"
  clientKeyFile := some "/etc/agent/key.pem"

/-- The certificate is `C`, without a line feed at its end. -/
def pairedDisk : Disk := fun path =>
  if path = Path.ofString "/etc/agent/cert.pem" then .ok [67]
  else if path = Path.ofString "/etc/agent/key.pem" then .ok [75, 10]
  else .error .notFound

/-- Every text is an identity. -/
def anyPem : Pem Unit (List UInt8) where
  fromPemBundle _ := .ok []
  fromPem text := .ok text

theorem load_pairedTls :
    load (sampleHost (connectionConfig ⟨{}, pairedTls⟩)) samplePath =
      .ok (connectionConfig ⟨{}, pairedTls⟩) := by
  have literal : ∀ value : String, ¬ opening <:+: value.toList →
      expandPath (fun _ => none) "myhost" value = .ok value :=
    fun _ literal => expandPlaceholders_of_literal _ _ literal
  have tls : pairedTls.resolvePlaceholders (fun _ => none) "myhost" = .ok pairedTls := by
    simp only [TlsConfig.resolvePlaceholders, pairedTls, mapOption,
      literal "/etc/agent/cert.pem" (by decide +kernel),
      literal "/etc/agent/key.pem" (by decide +kernel)]
    rfl
  exact load_connectionConfig rfl (bind_eq_ok.mpr ⟨_, rfl, bind_eq_ok.mpr ⟨_, tls, rfl⟩⟩)

theorem load_configures_paired :
    load (sampleHost (connectionConfig ⟨{}, pairedTls⟩)) samplePath =
        .ok (connectionConfig ⟨{}, pairedTls⟩) ∧
      (configure anyPem pairedDisk {} pairedTls).toOption.bind ClientBuilder.identity =
        some [67, 10, 75, 10] ∧
      ∀ connection ∈ connections (connectionConfig ⟨{}, pairedTls⟩),
        Configures anyPem pairedDisk {} connection.tls :=
  ⟨load_pairedTls, by decide +kernel, load_configures load_pairedTls anyPem pairedDisk {}⟩

end Ferrometer.Tls
