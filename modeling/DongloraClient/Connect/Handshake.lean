import DongloraClient.Connect.Configuration
import DongloraClient.Connect.Selection
import DongloraClient.Session.Commands

/-! # The handshake on an open transport

`finalize` after `Session::spawn`: a `PING`, a `GET_INFO` and, if a configuration is
to be applied, a `SET_CONFIG`. Every failure on the way is returned at once.
-/

namespace DongloraClient.Connect.Handshake

open Foundation

variable {types : WireTypes}

structure Established (types : WireTypes) where
  info : Info
  kind : TransportKind
  applied : Option (Modulation types)
  keepalive : Bool

variable (protocol : Protocol types) (debugBandwidth : types.LoRaBandwidth → String)
  (build : Build)

/-- A shift out of range in `prepare_config` panics in a checked build. -/
def prepare (info : Info) (modulation : Modulation types) :
    Operation types (ClientResult (Modulation types)) :=
  match evaluate build (prepareConfig protocol debugBandwidth info modulation) with
  | none => panic
  | some result => return result

def autoConfigure (info : Info) (options : ConnectOptions types) (timeout : Duration) :
    Operation types (ClientResult (Option (Modulation types))) :=
  if options.autoConfigure then
    match options.config with
    | some modulation => do
        match ← prepare protocol debugBandwidth build info modulation with
        | .error error => return .error error
        | .ok prepared =>
            match ← Session.setConfig protocol prepared timeout with
            | .error error => return .error error
            | .ok result => return .ok (some result.current)
    | none => return .ok none
  else
    return .ok none

def finalize (kind : TransportKind) (options : ConnectOptions types) (timeout : Duration) :
    Operation types (ClientResult (Established types)) := do
  match ← Session.ping protocol timeout with
  | .error error => return .error error
  | .ok () =>
      match ← Session.getInfo protocol timeout with
      | .error error => return .error error
      | .ok info =>
          match ← autoConfigure protocol debugBandwidth build info options timeout with
          | .error error => return .error error
          | .ok applied => return .ok ⟨info, kind, applied, options.keepalive⟩

theorem finalize_of_ping_failed (kind : TransportKind) (options : ConnectOptions types)
    (timeout : Duration) {result : ClientResult (Session.SessionResponse types)}
    {error : ClientError} (failed : Session.emptyResult protocol "PING" result = .error error) :
    ∃ next, finalize protocol debugBandwidth build kind options timeout =
        .perform (.sendCommand ⟨protocol.typePing, []⟩ timeout) next ∧
      next result = .done (.error error) := by
  refine ⟨_, rfl, ?_⟩
  simp [Program.bind, failed]

end DongloraClient.Connect.Handshake
