import VibeConnect.TunnelProtocol
import VibeConnect.Python.Values

/-! Tunnel authentication without the stream: the payload of the first frame,
its binding to the mTLS peer, and the checks against the stored agent row. The
parts of Python under it that the source only calls (`str`, `uuid.UUID`,
SHA-256) are a parameter. -/
namespace VibeConnect.TunnelAuthenticator
open Python.Text Python.JsonCodec Python.Values Python.Coroutine Models TunnelProtocol

theorem uuidText_ascii (uuid : Uuid) : Ascii uuid.text := by
  intro code member
  rcases Uuid.text_member member with digit | rfl
  · unfold IsHexDigit at digit
    omega
  · decide

structure AgentTunnelRecord where
  agentId : Uuid
  nodeName : Str
  x509PublicKey : Str
  tunnelSecretHash : Str
  certSerial : Str
  certExpiresAt : DateTime
  revokedAt : Option DateTime
  deriving DecidableEq

structure TunnelAuthRequest where
  agentId : Uuid
  nodeName : Str
  certSerial : Str
  certPublicKey : Str
  tunnelSecret : Str
  deriving DecidableEq

structure PeerCertificateBinding where
  certSerial : Str
  certPublicKey : Str
  deriving DecidableEq

/-- What the source takes from Python: JSON, `str(value)`, `uuid.UUID(text)` with
`none` for its `ValueError`, and the hex digest of SHA-256. -/
structure Library where
  json : Codec
  strOf : Json → Except Exc Str
  uuidOf : Str → Option Uuid
  sha256Hex : Bytes → Str

def GENERATED_SECRET_MIN_CHARS : Nat := 43

section
variable (library : Library)

/-- `str(values[key])`. -/
def authField (values : List (Str × Json)) (key : String) : Except Exc Str :=
  match lookup (lit key) values with
  | none => .error .keyError
  | some value => library.strOf value

def authRequestOf (values : List (Str × Json)) : Except Exc TunnelAuthRequest := do
  let agentText ← authField library values "agent_id"
  let agentId ← match library.uuidOf agentText with
    | some agentId => Except.ok agentId
    | none => .error .valueError
  let nodeName ← authField library values "node_name"
  let certSerial ← authField library values "cert_serial"
  let certPublicKey ← authField library values "cert_public_key"
  let tunnelSecret ← authField library values "tunnel_secret"
  .ok ⟨agentId, nodeName, certSerial, certPublicKey, tunnelSecret⟩

/-- `_decode_auth_payload`. -/
def decodeAuthPayload (payload : Bytes) : Except Exc TunnelAuthRequest := do
  let values ← loadObject library.json .tunnelProtocolError "auth payload is invalid"
    "auth payload must be an object" payload
  match authRequestOf library values with
  | .ok request => .ok request
  | .error raised =>
      if raised = .keyError ∨ raised.isValueError = true then
        .error (.tunnelProtocolError "auth payload is incomplete")
      else .error raised

/-- `_verify_peer_certificate_binding`. -/
def verifyPeerCertificateBinding (request : TunnelAuthRequest) (peer : PeerCertificateBinding) :
    Except Exc Unit :=
  if request.certSerial ≠ peer.certSerial then
    .error (.tunnelAuthError "mTLS certificate serial mismatch")
  else if request.certPublicKey ≠ peer.certPublicKey then
    .error (.tunnelAuthError "mTLS certificate public key mismatch")
  else .ok ()

/-- `SecretValue(value)`. -/
def secretValue (value : Str) : Except Exc Str :=
  if value.length < GENERATED_SECRET_MIN_CHARS then
    .error (.secretError "secret value must be generated with at least 256 bits")
  else .ok value

def sha256HexOf (secret : Str) : Except Exc Str :=
  match encode secret with
  | some bytes => .ok (library.sha256Hex bytes)
  | none => .error .unicodeEncodeError

/-- `hmac.compare_digest` on two `str`, which must be ASCII. -/
def compareDigest (left right : Str) : Except Exc Bool :=
  if Ascii left ∧ Ascii right then .ok (left == right) else .error .typeError

def verifySecretHash (tunnelSecret expectedHash : Str) : Except Exc Bool := do
  let secret ← secretValue tunnelSecret
  let digest ← sha256HexOf library secret
  compareDigest digest expectedHash

/-- `TunnelAuthenticator.authenticate` once the row has been fetched. -/
def checkRecord (request : TunnelAuthRequest) (row : Option AgentTunnelRecord) (now : DateTime) :
    Except Exc AgentTunnelRecord :=
  match row with
  | none => .error (.tunnelAuthError "agent is unknown")
  | some record =>
      if record.revokedAt ≠ none then .error (.tunnelAuthError "agent is revoked")
      else if record.certExpiresAt.asUtc.instant ≤ now.asUtc.instant then
        .error (.tunnelAuthError "agent certificate is expired")
      else if record.nodeName ≠ request.nodeName then .error (.tunnelAuthError "node binding mismatch")
      else if record.certSerial ≠ request.certSerial then
        .error (.tunnelAuthError "certificate serial mismatch")
      else if record.x509PublicKey ≠ request.certPublicKey then
        .error (.tunnelAuthError "certificate public key mismatch")
      else match verifySecretHash library request.tunnelSecret record.tunnelSecretHash with
        | .ok true => .ok record
        | .ok false | .error (.secretError _) => .error (.tunnelAuthError "tunnel secret mismatch")
        | .error raised => .error raised

/-- What a row must be for a request to be let in at a time. -/
structure Admits (request : TunnelAuthRequest) (record : AgentTunnelRecord) (now : DateTime) : Prop where
  notRevoked : record.revokedAt = none
  notExpired : now.instant < record.certExpiresAt.instant
  sameNode : record.nodeName = request.nodeName
  sameSerial : record.certSerial = request.certSerial
  sameKey : record.x509PublicKey = request.certPublicKey
  longSecret : 43 ≤ request.tunnelSecret.length
  sameSecret : ∃ bytes, encode request.tunnelSecret = some bytes ∧
    library.sha256Hex bytes = record.tunnelSecretHash

theorem verifySecretHash_true {tunnelSecret expectedHash : Str}
    (matched : verifySecretHash library tunnelSecret expectedHash = .ok true) :
    43 ≤ tunnelSecret.length ∧ ∃ bytes, encode tunnelSecret = some bytes ∧
      library.sha256Hex bytes = expectedHash := by
  obtain ⟨secret, long, matched⟩ := bind_ok.mp matched
  obtain ⟨digest, hashed, matched⟩ := bind_ok.mp matched
  unfold secretValue GENERATED_SECRET_MIN_CHARS at long
  split at long
  · cases long
  rename_i enough
  cases long
  unfold sha256HexOf at hashed
  split at hashed
  · rename_i bytes encoded
    cases hashed
    unfold compareDigest at matched
    split at matched
    · have same := Except.ok.inj matched
      exact ⟨not_lt.mp enough, bytes, encoded, beq_iff_eq.mp same⟩
    · cases matched
  · cases hashed

theorem checkRecord_ok {request : TunnelAuthRequest} {row : Option AgentTunnelRecord} {now : DateTime}
    {record : AgentTunnelRecord} (checked : checkRecord library request row now = .ok record) :
    row = some record ∧ Admits library request record now := by
  unfold checkRecord at checked
  cases row with
  | none => cases checked
  | some stored =>
      dsimp only at checked
      split at checked
      · cases checked
      rename_i notRevoked
      split at checked
      · cases checked
      rename_i notExpired
      split at checked
      · cases checked
      rename_i sameNode
      split at checked
      · cases checked
      rename_i sameSerial
      split at checked
      · cases checked
      rename_i sameKey
      split at checked
      · rename_i matched
        cases checked
        obtain ⟨longSecret, sameSecret⟩ := verifySecretHash_true library matched
        simp only [DateTime.instant_asUtc, not_le] at notExpired
        exact ⟨rfl, not_not.mp notRevoked, notExpired, not_not.mp sameNode, not_not.mp sameSerial,
          not_not.mp sameKey, longSecret, sameSecret⟩
      · cases checked
      · cases checked
      · cases checked
end

theorem verifyPeerCertificateBinding_ok {request : TunnelAuthRequest} {peer : PeerCertificateBinding} :
    verifyPeerCertificateBinding request peer = .ok () ↔
      request.certSerial = peer.certSerial ∧ request.certPublicKey = peer.certPublicKey := by
  unfold verifyPeerCertificateBinding
  split
  · simp_all
  split
  · simp_all
  · simp_all

end VibeConnect.TunnelAuthenticator
