import VibeConnect.AgentKey
import VibeConnect.AgentEnrollment
import VibeConnect.PackageReading
import VibeConnect.ConfigChecks
import VibeConnect.Authorization

/-! The two commands of the agent, and between them the handler of `POST /enroll`. `enroll` leaves
`identity.json` and an `agent.conf` without the token; `run` reads both for the first frame of the tunnel. -/
namespace VibeConnect.AgentMain
open Python Python.Text Python.JsonCodec Python.Values Python.Coroutine Python.Tasks Python.ConfigParser
open Python.ConfigText Python.Statements Models JumpCoordinator Enrollment ProxyTarget
open AgentConf (AgentConfig readConf)
open EnrollmentPackage (AgentEnrollmentConfig LoadFault loadEnrollmentConfig requireSection requireValue
  ofParser)
open AgentEnrollment (Disk Faults completeEnrollment)
open AgentKey (AgentIdentity CertificateLibrary Certificate loadIdentityCertificate publicKeyPem authValues
  encodeUtf8 peerCertificateBinding agentRow tunnelRecord)

inductive AgentFault where
  | load (fault : LoadFault)
  | raised (raised : AgentEnrollment.Raised)
  | exc (raised : Exc)

def ofLoad {α : Type} (answer : Except LoadFault α) : Except AgentFault α := answer.mapError .load

def ofExc {α : Type} (answer : Except Exc α) : Except AgentFault α := answer.mapError .exc

def agentError {α : Type} (message : String) : Except AgentFault α :=
  .error (.raised (.agentEnrollmentError (lit message)))

/-! `enroll`. -/

/-- The text of `agent.conf`. A file that cannot be opened is passed over by the parser. -/
def confText : Option Bytes → Except AgentFault Str
  | none => .error (.load (.config (.config (lit "agent.conf is missing"))))
  | some bytes => match decode bytes with
      | some text => .ok text
      | none => .error (.raised .unicodeError)

/-- `_host_key_from_keyscan`. -/
def hostKeyFromKeyscan (result : Str) : Except AgentFault Str :=
  let lines := (splitlines result).filter fun line =>
    decide (line ≠ []) && !(lit "#").isPrefixOf line && decide (lit "ssh-" <:+: line)
  let keys := lines.map fun line => joined (point 32) (((splitSpaces line).drop 1).take 2)
  match keys with
  | [] => agentError "node sshd host public key is empty"
  | first :: _ => .ok ((keys.find? fun key => (lit "ssh-ed25519 ").isPrefixOf key).getD first)

/-- A generated key pair, as PEM. -/
structure KeyPair where
  privateBytes : Bytes
  publicBytes : Bytes

structure AgentEnrollmentPayload where
  nodeName : Str
  token : Str
  agentX509PublicKey : Str
  nodeSshHostPublicKey : Str
  privateKeyPem : Str

/-- `to_json`. -/
def AgentEnrollmentPayload.toJson (payload : AgentEnrollmentPayload) : Json :=
  .object [(lit "node_name", .str payload.nodeName), (lit "token", .str payload.token),
    (lit "agent_x509_public_key", .str payload.agentX509PublicKey),
    (lit "node_ssh_host_public_key", .str payload.nodeSshHostPublicKey)]

def buildEnrollmentPayload (config : AgentEnrollmentConfig) (keys : KeyPair) (nodeSshHostPublicKey : Str) :
    Except Exc AgentEnrollmentPayload := do
  let safeNodeName ← validateNodeName config.nodeName
  let privateKeyPem ← decodeAscii keys.privateBytes
  let publicKeyPem ← decodeAscii keys.publicBytes
  .ok ⟨safeNodeName, config.token, publicKeyPem, nodeSshHostPublicKey, privateKeyPem⟩

/-- What `_run_enroll` calls: `ssh-keyscan`, the key generator, the TLS context and the request, which
answers with a status and a decoded body. -/
structure Surroundings where
  keyscan : Str → Nat → Except AgentFault Str
  keys : KeyPair
  tlsContext : Str → Except AgentFault Unit
  post : Str → Json → Except AgentFault (Nat × Json)

section Commands
variable (runtime : TargetRuntime) (faults : Faults) (around : Surroundings)

/-- `complete_enrollment`, as the command calls it. -/
def completed (privateKeyPem : Str) (response : Json) : Block Disk AgentFault Unit :=
  change fun disk =>
    let (ended, after) := ends (completeEnrollment faults runtime.toRuntime privateKeyPem response) disk
    (ended.mapError .raised, after)

/-- `_run_enroll`. -/
def runEnroll : Block Disk AgentFault Unit := do
  let disk ← get
  let text ← answer (confText disk.conf)
  let config ← answer (ofLoad (loadEnrollmentConfig runtime text))
  let scanned ← answer (around.keyscan config.proxyTargetHost config.proxyTargetPort)
  let hostKey ← answer (hostKeyFromKeyscan scanned)
  if hostKey ≠ config.expectedNodeSshHostPublicKey then
    answer (agentError "node sshd host key does not match pinned key")
  else
    let payload ← answer (ofExc (buildEnrollmentPayload config around.keys hostKey))
    answer (around.tlsContext config.enrollmentTlsCaBundle)
    let response ← answer (around.post config.apiUrl payload.toJson)
    if response.1 ≠ 200 then answer (agentError "enrollment request failed")
    else match response.2 with
      | .object body => completed runtime faults payload.privateKeyPem (.object body)
      | _ => answer (agentError "enrollment response must be a JSON object")

/-! `run`. -/

/-- `load_agent_config`, from the file. -/
def loadConfig (conf : Option Bytes) : Except AgentFault AgentConfig := do
  let text ← confText conf
  ofLoad (EnrollmentPackage.loadAgentConfig runtime text)

def identityKeys : List String :=
  ["agent_id", "private_key", "agent_x509_cert", "tunnel_ca_bundle", "tunnel_host", "tunnel_port",
    "tunnel_secret"]

/-- `_load_identity`. -/
def loadIdentity : Option Bytes → Except AgentFault (List (Str × Json))
  | none => .error (.raised .osError)
  | some bytes => match decode bytes with
      | none => .error (.raised .unicodeError)
      | some text => match readDocument text with
          | .ok (.object data) => match identityKeys.find? fun key => (lookup (lit key) data).isNone with
              | none => .ok data
              | some key => .error (.exc (.agentTunnelError ("identity.json missing " ++ key)))
          | .ok _ => .error (.exc (.agentTunnelError "identity.json must contain an object"))
          | .error fault => .error (.exc (Exc.ofJson fault))

/-- What `_auth_frame` reads of the identity. -/
def identityOf (str : Json → Str) (data : List (Str × Json)) : AgentIdentity :=
  let text key := Authorization.strOf str ((lookup key data).getD .null)
  ⟨text (lit "agent_id"), text (lit "agent_x509_cert"), text (lit "tunnel_secret")⟩

/-- The payload of `_auth_frame`. The node name is read from the file once more. -/
def authFramePayload (str : Json → Str) (certificates : CertificateLibrary) (codec : Codec)
    (data : List (Str × Json)) (conf : Option Bytes) : Except AgentFault Bytes := do
  let cert ← ofExc (loadIdentityCertificate certificates (identityOf str data))
  let pem ← ofExc (publicKeyPem certificates cert.publicKey)
  let text ← confText conf
  let parsed ← ofLoad (ofParser (readConf runtime.toRuntime text))
  ofLoad (requireSection parsed (lit "enrollment"))
  let nodeName ← ofLoad (requireValue runtime parsed (lit "enrollment") (lit "node_name")
    (lit "enrollment.node_name"))
  ofExc (encodeUtf8 (codec.dumps (.object
    (authValues (identityOf str data) nodeName (hexText cert.serialNumber) pem))))
end Commands

/-! The server. -/

def genericEnrollmentError : Json := .object [(lit "error", .str (lit "enrollment failed"))]

/-- `EnrollmentResponse.to_json`. -/
def responseJson (response : EnrollmentResponse) : List (Str × Json) :=
  [(lit "agent_id", .str response.agentId.text), (lit "agent_x509_cert", .str response.agentX509Cert),
    (lit "tunnel_ca_bundle", .str response.tunnelCaBundle), (lit "tunnel_host", .str response.tunnelHost),
    (lit "tunnel_port", .int response.tunnelPort), (lit "tunnel_secret", .str response.tunnelSecret)]

/-- `request.remote or "unknown"`. -/
def sourceOf : Option Str → Str
  | some (point :: rest) => point :: rest
  | _ => lit "unknown"

/-- The request of a body; a field that is missing is empty. -/
def requestOf (str : Json → Str) (body : List (Str × Json)) (remote : Option Str) : EnrollmentRequest :=
  let text key := Authorization.strOf str ((lookup key body).getD (.str []))
  ⟨text (lit "node_name"), text (lit "token"), text (lit "agent_x509_public_key"),
    text (lit "node_ssh_host_public_key"), sourceOf remote⟩

/-- `except EnrollmentError`. -/
def enrollmentRefused : Exc → EnrollmentTask (Nat × Json)
  | .enrollmentError _ => pure (400, genericEnrollmentError)
  | raised => throw raised

/-- `enroll_handler` on a decoded body. -/
def enrollHandler (str : Json → Str) (service : EnrollmentService) (draws : EnrollmentDraws) (now : DateTime)
    (remote : Option Str) : Json → EnrollmentTask (Nat × Json)
  | .object body => tryCatch (do
      let response ← service.enroll (requestOf str body remote) draws now
      pure (200, .object (responseJson response))) enrollmentRefused
  | _ => pure (400, genericEnrollmentError)

/-- The payload of the first frame at the server, with the certificate that TLS hands over. -/
def admits (library : TunnelAuthenticator.Library) (certificates : CertificateLibrary) (tables : Tables)
    (cert : Certificate) (payload : Bytes) (peerNow now : DateTime) :
    Except Exc TunnelAuthenticator.AgentTunnelRecord := do
  let peer ← peerCertificateBinding certificates cert peerNow
  let request ← TunnelAuthenticator.decodeAuthPayload library payload
  TunnelAuthenticator.verifyPeerCertificateBinding request peer
  TunnelAuthenticator.checkRecord library request ((agentRow tables request.agentId).map tunnelRecord) now

end VibeConnect.AgentMain
