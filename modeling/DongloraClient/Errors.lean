import DongloraClient.Protocol

/-! # Error taxonomy -/

namespace DongloraClient

/-- `ClientError`. An I/O error is represented by its display text, which is all
the client ever takes from it. -/
inductive ClientError
  | notConfigured
  | busy
  | param
  | length
  | modulation
  | unknownCmd
  | radio
  | frame
  | internal
  | unknownCode (code : UInt16)
  | channelBusy
  | cancelled
  | timeout (what : String)
  | transportClosed (reason : String)
  | readerExited
  | badFrame (reason : String)
  | encodeFailed (reason : String)
  | io (text : String)
  | configNotSupported (reason : String)
  | other (text : String)
  deriving DecidableEq, Repr

abbrev ClientResult (Value : Type) := Except ClientError Value

namespace ClientError

def isRetryable : ClientError → Bool
  | .channelBusy | .busy => true
  | _ => false

def fromWire : ErrorCode → ClientError
  | .eNotConfigured => .notConfigured
  | .eBusy => .busy
  | .eParam => .param
  | .eLength => .length
  | .eModulation => .modulation
  | .eUnknownCmd => .unknownCmd
  | .eRadio => .radio
  | .eFrame => .frame
  | .eInternal => .internal
  | .unknown raw => .unknownCode raw

def cloneKind : ClientError → ClientError
  | .io text => .other ("io: " ++ text)
  | error => error

/-- The wire mapping loses nothing: each error names one code. -/
theorem fromWire_injective : Function.Injective fromWire := by
  intro left right equal
  cases left <;> cases right <;> simp_all [fromWire]

theorem isRetryable_iff (error : ClientError) :
    error.isRetryable = true ↔ error = .channelBusy ∨ error = .busy := by
  cases error <;> simp [isRetryable]

theorem cloneKind_of_retryable {error : ClientError} (retryable : error.isRetryable = true) :
    error.cloneKind = error := by
  rcases (isRetryable_iff error).mp retryable with rfl | rfl <;> rfl

end ClientError

end DongloraClient
