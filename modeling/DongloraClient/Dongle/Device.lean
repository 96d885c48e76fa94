import DongloraClient.Dongle.CachedConfig
import DongloraClient.Dongle.Concurrent
import DongloraClient.Session.Correlation

/-! # A device to recover

The firmware drops its configuration when it has heard nothing for a while. It is not
part of this crate: here the dongle is put together with any device that keeps to a few
assumptions, and that loses its configuration between operations; and it is said what
becomes of each command, of a recovery, and of the operations that recover.
-/

namespace DongloraClient.Dongle

open Foundation Session

variable {types : WireTypes}

/-! ## The dongle and its device -/

/-- `device` is the configuration in force. A packet that went on the air is recorded
with the configuration it went out under and with the one that was cached. -/
structure Station (types : WireTypes) where
  inner : Inner types
  device : Option (Modulation types)
  aired : List (Option (Modulation types) × Option (Modulation types))

/-- What may become of a command, by the configuration in force: its result, the
configuration in force afterwards, and whether a packet went on the air. -/
abbrev Behaviour (types : WireTypes) :=
  Option (Modulation types) → Request → ClientResult (SessionResponse types) →
    Option (Modulation types) → Bool → Prop

structure Faults where
  /-- A command is refused, or its answer does not come. -/
  fails : Bool
  /-- A `SET_CONFIG` is carried out and its answer does not come. -/
  forfeits : Bool

section Device

variable (protocol : Protocol types) (adopt : Modulation types → Modulation types)

/-- The answer says that the command was carried out, or that it takes a configuration. -/
inductive Proper (request : Request) : SessionResponse types → Prop
  | obeyed
      (obeys : request.typeId = protocol.typePing ∨ request.typeId = protocol.typeRxStart ∨
        request.typeId = protocol.typeRxStop) : Proper request .empty
  | transmitted (done : TxDonePayload) (transmits : request.typeId = protocol.typeTx) :
      Proper request (.txDone done)
  | configured (result : SetConfigResult types)
      (configures : request.typeId = protocol.typeSetConfig) :
      Proper request (.setConfig result)
  | unconfigured : Proper request (.err .notConfigured)

/-- What is assumed of the device, which has no other client. `adopt` is what it makes of
a configuration.
- `failed`: where no answer comes, `send_command` has an error of its own to return;
- `unconfigured`: `ENOTCONFIGURED` is said only where no configuration is in force, and
  never to a `SET_CONFIG`;
- `kept`: only a `SET_CONFIG` changes what is in force, to what `adopt` makes of the
  configuration it encodes;
- `reported`: a `SET_CONFIG` that is answered with a current configuration is answered
  with that one;
- `onAir`: only a `TX` puts a packet on the air, and only under a configuration;
- `confirmed`: `TX_DONE` says `TRANSMITTED` exactly if it did;
- `carried`, `heard`: faults happen only where they may. -/
structure Firmware (faults : Faults) (behaves : Behaviour types) : Prop where
  failed : ∀ {device request error after aired},
    behaves device request (.error error) after aired → localError error = true
  unconfigured : ∀ {device request after aired},
    behaves device request (.ok (.err .notConfigured)) after aired →
      device = none ∧ request.typeId ≠ protocol.typeSetConfig
  kept : ∀ {device request result after aired}, behaves device request result after aired →
    after = device ∨ (request.typeId = protocol.typeSetConfig ∧
      ∃ config, protocol.encodeSetConfig config = .ok request.payload ∧
        after = some (adopt config))
  reported : ∀ {device request after aired} {result : SetConfigResult types},
    behaves device request (.ok (.setConfig result)) after aired →
      request.typeId = protocol.typeSetConfig →
      ∃ config, protocol.encodeSetConfig config = .ok request.payload ∧
        result.current = adopt config ∧ after = some (adopt config)
  onAir : ∀ {device request result after}, behaves device request result after true →
    request.typeId = protocol.typeTx ∧ device ≠ none
  confirmed : ∀ {device request after aired} {done : TxDonePayload},
    behaves device request (.ok (.txDone done)) after aired →
      (aired = true ↔ done.result = .transmitted)
  carried : ∀ {device request result after aired}, behaves device request result after aired →
    faults.fails = true ∨ ∃ response, result = .ok response ∧ Proper protocol request response
  heard : ∀ {device request result after aired}, behaves device request result after aired →
    faults.forfeits = true ∨ after = device ∨ ∃ reported, result = .ok (.setConfig reported)

def Station.answered (station : Station types) (after : Option (Modulation types))
    (aired : Bool) : Station types :=
  { station with
    device := after
    aired := if aired then (station.device, station.inner.appliedConfig) :: station.aired
      else station.aired }

variable {protocol adopt} (behaves : Behaviour types)

def Effect.leavesStation : Effect types → Bool
  | .load _ | .store _ _ | .sendCommand _ _ => false
  | _ => true

inductive Serves (station : Station types) :
    (effect : Effect types) → Answer effect → Station types → Prop
  | load (cell : Cell) :
      Serves station (.load cell) (station.inner.get cell) station
  | store (cell : Cell) (value : cell.Value types) :
      Serves station (.store cell value) ()
        { station with inner := station.inner.set cell value }
  | command {request : Request} {timeout : Duration}
      {result : ClientResult (SessionResponse types)} {after : Option (Modulation types)}
      {aired : Bool} (behaved : behaves station.device request result after aired) :
      Serves station (.sendCommand request timeout) result (station.answered after aired)
  | other (effect : Effect types) (answer : Answer effect)
      (leaves : Effect.leavesStation effect = true) : Serves station effect answer station

abbrev Completes {Result : Type} (station : Station types)
    (operation : Operation types Result) (reached : Station types) (result : Result) : Prop :=
  Program.Runs (Serves behaves) station operation reached (.done result)

def Call.faults : Call types → Faults
  | .setConfig _ => ⟨true, false⟩
  | _ => ⟨true, true⟩

variable (protocol adopt)

variable {protocol adopt behaves}

end Device

/-! ## What matters of a station -/

structure Outlook (types : WireTypes) where
  cached : Option (Modulation types)
  device : Option (Modulation types)
  aired : List (Option (Modulation types) × Option (Modulation types))

def Station.outlook (station : Station types) : Outlook types where
  cached := station.inner.appliedConfig
  device := station.device
  aired := station.aired

def Outlook.air (outlook : Outlook types) : Outlook types :=
  { outlook with aired := (outlook.device, outlook.cached) :: outlook.aired }

/-- The device has the cached configuration or none, and every packet went out under the
configuration that was cached. -/
structure Coherent (adopt : Modulation types → Modulation types) (outlook : Outlook types) :
    Prop where
  device : outlook.device = none ∨ outlook.device = outlook.cached
  adopted : ∀ config, outlook.cached = some config → adopt config = config
  aired : ∀ entry ∈ outlook.aired, ∃ config, entry = (some config, some config)

section Coherence

variable {adopt : Modulation types → Modulation types} {outlook : Outlook types}
  {config : Modulation types}

theorem Coherent.cached_of_device (coherent : Coherent adopt outlook)
    (configured : outlook.device = some config) : outlook.cached = some config := by
  rcases coherent.device with forgot | same
  · rw [forgot] at configured
    cases configured
  · exact same.symm.trans configured

theorem Coherent.air (coherent : Coherent adopt outlook)
    (configured : outlook.device = some config) : Coherent adopt outlook.air where
  device := coherent.device
  adopted := coherent.adopted
  aired entry member := by
    rcases List.mem_cons.mp member with rfl | older
    · exact ⟨config, by rw [configured, coherent.cached_of_device configured]⟩
    · exact coherent.aired entry older

theorem Coherent.recall (coherent : Coherent adopt outlook)
    (cached : outlook.cached = some config) :
    Coherent adopt { outlook with device := some config } where
  device := .inr cached.symm
  adopted := coherent.adopted
  aired := coherent.aired

end Coherence

/-! ## The steps of an operation -/

section Steps

variable {behaves : Behaviour types} {station reached : Station types}

end Steps

/-! ## The commands -/

inductive Obeys (faults : Faults) (before after : Outlook types) : ClientResult Unit → Prop
  | obeyed (same : after = before) : Obeys faults before after (.ok ())
  | forgotten (forgot : before.device = none) (same : after = before) :
      Obeys faults before after (.error .notConfigured)
  | failed {error : ClientError} (other : error ≠ .notConfigured)
      (fails : faults.fails = true) (same : after = before) :
      Obeys faults before after (.error error)

inductive Airs (faults : Faults) (data : List UInt8) (before after : Outlook types) :
    ClientResult TxDonePayload → Prop
  | sent {config : Modulation types} (done : TxDonePayload)
      (configured : before.device = some config) (aired : after = before.air) :
      Airs faults data before after (.ok done)
  | unsent {error : ClientError} (reported : error = .channelBusy ∨ error = .cancelled)
      (same : after = before) : Airs faults data before after (.error error)
  | forgotten (forgot : before.device = none) (same : after = before) :
      Airs faults data before after (.error .notConfigured)
  | failed {error : ClientError} (other : error ≠ .notConfigured)
      (excused : faults.fails = true ∨ data = []) (same : after = before) :
      Airs faults data before after (.error error)
  | unheard {config : Modulation types} {error : ClientError} (other : error ≠ .notConfigured)
      (fails : faults.fails = true) (configured : before.device = some config)
      (aired : after = before.air) : Airs faults data before after (.error error)

section Commands

variable {protocol : Protocol types} {adopt : Modulation types → Modulation types}
  {faults : Faults} {behaves : Behaviour types} {station reached : Station types}

theorem Airs.forgot {data : List UInt8} (start finish : Outlook types)
    (airs : Airs faults data start finish (.error .notConfigured)) : start.device = none := by
  cases airs with
  | unsent reported => rcases reported with reported | reported <;> cases reported
  | forgotten forgot => exact forgot
  | failed other | unheard other => exact absurd rfl other

theorem Obeys.forgot (start finish : Outlook types)
    (obeys : Obeys faults start finish (.error .notConfigured)) : start.device = none := by
  cases obeys with
  | forgotten forgot => exact forgot
  | failed other => exact absurd rfl other

theorem Firmware.leaves (firmware : Firmware protocol adopt faults behaves) {request : Request}
    {response : ClientResult (SessionResponse types)} {after : Option (Modulation types)}
    {aired : Bool} (notSetConfig : request.typeId ≠ protocol.typeSetConfig)
    (behaved : behaves station.device request response after aired) :
    (aired = false ∧ (station.answered after aired).outlook = station.outlook) ∨
      (aired = true ∧ request.typeId = protocol.typeTx ∧
        (∃ config, station.outlook.device = some config) ∧
        (station.answered after aired).outlook = station.outlook.air) := by
  have same : after = station.device := by
    rcases firmware.kept behaved with same | ⟨configures, _⟩
    · exact same
    · exact absurd configures notSetConfig
  subst same
  cases aired with
  | false => exact .inl ⟨rfl, rfl⟩
  | true =>
      rcases firmware.onAir behaved with ⟨transmits, configured⟩
      exact .inr ⟨rfl, transmits, Option.ne_none_iff_exists'.mp configured, rfl⟩

section Proper

variable {request : Request} {response : SessionResponse types}

end Proper

end Commands

/-! ## Recovery -/

inductive Recalls (protocol : Protocol types) (faults : Faults) (before after : Outlook types) :
    ClientResult Unit → Prop
  | nothing (uncached : before.cached = none) (same : after = before) :
      Recalls protocol faults before after (.error .notConfigured)
  | recalled {config : Modulation types} (cached : before.cached = some config)
      (taken : after = { before with device := some config }) :
      Recalls protocol faults before after (.ok ())
  | failed {config : Modulation types} {error : ClientError}
      (cached : before.cached = some config) (other : error ≠ .notConfigured)
      (excused : faults.fails = true ∨ ∀ payload, protocol.encodeSetConfig config ≠ .ok payload)
      (same : after = before) : Recalls protocol faults before after (.error error)
  | unheard {config : Modulation types} {error : ClientError}
      (cached : before.cached = some config) (other : error ≠ .notConfigured)
      (forfeits : faults.forfeits = true)
      (taken : after = { before with device := some config }) :
      Recalls protocol faults before after (.error error)

/-- What becomes of an attempt that is made again after a recovery, if the first one met
a device that had forgotten. -/
inductive Recovers {Value : Type} (protocol : Protocol types) (faults : Faults)
    (attempt : Outlook types → Outlook types → ClientResult Value → Prop)
    (before after : Outlook types) (result : ClientResult Value) : Prop
  | once (attempted : attempt before after result) (other : result ≠ .error .notConfigured)
  | unrecovered {error : ClientError} (failed : result = .error error)
      (recalls : Recalls protocol faults before after (.error error))
  | recovered {middle : Outlook types} (recalls : Recalls protocol faults before middle (.ok ()))
      (attempted : attempt middle after result)

section Recovery

variable {protocol : Protocol types} {adopt : Modulation types → Modulation types}
  {faults : Faults} {behaves : Behaviour types} {station reached : Station types}
  (firmware : Firmware protocol adopt faults behaves)

end Recovery

end DongloraClient.Dongle
