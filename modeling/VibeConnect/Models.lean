import VibeConnect.Python.JsonCodec

/-! The shared models: enumerations with their wire values, and the exceptions
of the program and of the libraries under it, with the subclass relation that
decides which `except` clause takes which exception. -/
namespace VibeConnect.Models
open Python.Text Python.JsonCodec

inductive SessionStatus where
  | OPEN | CLOSED | FAILED | TERMINATED
  deriving DecidableEq, Repr

def SessionStatus.value : SessionStatus → String
  | OPEN => "open"
  | CLOSED => "closed"
  | FAILED => "failed"
  | TERMINATED => "terminated"

/-- The audit events that the tunnel, jump, replay, enrollment and admin code
writes. -/
inductive AuditEventType where
  | NODE_AUTHORIZATION_DENIED | SESSION_STARTED | SESSION_CLOSED | SESSION_FAILED
  | REPLAY_WRITE_FAILED | ENROLLMENT_TOKEN_CREATED | ENROLLMENT_TOKEN_EXPIRED
  | ENROLLMENT_SUCCEEDED | ENROLLMENT_FAILED | AGENT_REVOKED | TUNNEL_SECRET_ROTATED
  | NODE_HOST_KEY_UPDATED | CA_ROTATION_STARTED | CA_ROTATION_COMPLETED
  deriving DecidableEq, Repr

inductive TunnelFrameType where
  | AUTH | AUTH_OK | HEARTBEAT | OPEN_SESSION | SESSION_DATA | RESIZE_PTY | CLOSE_SESSION
  | RENEW_AGENT_CERT | ROTATE_TUNNEL_SECRET | ERROR
  deriving DecidableEq, Repr

def TunnelFrameType.value : TunnelFrameType → String
  | AUTH => "auth"
  | AUTH_OK => "auth_ok"
  | HEARTBEAT => "heartbeat"
  | OPEN_SESSION => "open_session"
  | SESSION_DATA => "session_data"
  | RESIZE_PTY => "resize_pty"
  | CLOSE_SESSION => "close_session"
  | RENEW_AGENT_CERT => "renew_agent_cert"
  | ROTATE_TUNNEL_SECRET => "rotate_tunnel_secret"
  | ERROR => "error"

def frameTypes : List TunnelFrameType :=
  [.AUTH, .AUTH_OK, .HEARTBEAT, .OPEN_SESSION, .SESSION_DATA, .RESIZE_PTY, .CLOSE_SESSION,
    .RENEW_AGENT_CERT, .ROTATE_TUNNEL_SECRET, .ERROR]

/-- `TunnelFrameType(value)`; `none` is the `ValueError`. -/
def TunnelFrameType.ofValue (value : Str) : Option TunnelFrameType :=
  frameTypes.find? fun type => lit type.value == value

theorem TunnelFrameType.ofValue_value (type : TunnelFrameType) :
    ofValue (lit type.value) = some type := by
  cases type <;> rfl

theorem TunnelFrameType.value_ascii (type : TunnelFrameType) : Ascii (lit type.value) :=
  lit_ascii (by cases type <;> decide)

/-- Exceptions. A message is kept where the source's text depends on the place
or is read again; the libraries' own texts are not. `hostKeyValueError` is the
plain `ValueError` of the host-key check. -/
inductive Exc where
  | tunnelProtocolError (message : String)
  | tunnelAuthError (message : String)
  | tunnelStateError (message : String)
  | agentTunnelError (message : String)
  | tunnelReconnectLimitError (message : String)
  | jumpError (message : String)
  | authError (message : String)
  | sshServerError (message : String)
  | replayError (message : String)
  | auditError (message : String)
  | identifierError (message : String)
  | secretError (message : String)
  | enrollmentError (message : String)
  | hostKeyValueError (message : String)
  | adminError (message : String)
  | configError (message : String)
  | migrationError (message : Str)
  | incompleteReadError (received : Bytes)
  | eofError
  | timeoutError
  | osError
  | asyncsshError
  | jsonDecodeError
  | unicodeDecodeError
  | unicodeEncodeError
  | valueError
  | keyError
  | typeError
  | recursionError
  | overflowError
  | runtimeError
  | cancelledError
  | otherException
  deriving DecidableEq

namespace Exc

/-- `except EOFError`. -/
def isEOFError : Exc → Bool
  | eofError | incompleteReadError _ => true
  | _ => false

/-- `except OSError`: `PermissionError` and `TimeoutError` are subclasses. -/
def isOSError : Exc → Bool
  | osError | timeoutError | tunnelAuthError _ | jumpError _ | authError _ | sshServerError _ => true
  | _ => false

/-- `except ValueError`. -/
def isValueError : Exc → Bool
  | valueError | tunnelProtocolError _ | auditError _ | identifierError _ | secretError _
  | enrollmentError _ | hostKeyValueError _ | adminError _ | configError _ | jsonDecodeError
  | unicodeDecodeError | unicodeEncodeError => true
  | _ => false

/-- `except Exception`: everything but a cancellation. -/
def isException : Exc → Bool
  | cancelledError => false
  | _ => true

/-- `str(exc)` for the exceptions whose text is read again. -/
def text : Exc → String
  | tunnelProtocolError message | tunnelAuthError message | tunnelStateError message
  | agentTunnelError message | tunnelReconnectLimitError message | jumpError message
  | authError message | sshServerError message | replayError message | auditError message
  | identifierError message | secretError message | enrollmentError message
  | hostKeyValueError message | adminError message | configError message => message
  | _ => ""

/-- What `json.loads` raises. -/
def ofJson : JsonFault → Exc
  | .decodeError => jsonDecodeError
  | .valueError => valueError
  | .recursionError => recursionError

end Exc

end VibeConnect.Models
