import Mathlib.Data.List.Basic

/-! # The wire protocol as the client sees it

The frame codec and the message types live in the `donglora-protocol` crate,
which the client uses but does not contain. What the client looks into is given
here as concrete types; what it only passes along, and every encoder and decoder
it calls, is a parameter.
-/

namespace DongloraClient

inductive ErrorCode
  | eNotConfigured
  | eBusy
  | eParam
  | eLength
  | eModulation
  | eUnknownCmd
  | eRadio
  | eFrame
  | eInternal
  | unknown (raw : UInt16)
  deriving DecidableEq, Repr

inductive TxResult
  | transmitted
  | channelBusy
  | cancelled
  deriving DecidableEq, Repr

structure TxDonePayload where
  result : TxResult
  airtimeUs : UInt32
  deriving DecidableEq, Repr

/-- The fields of `donglora_protocol::Info` that the client reads. -/
structure Info where
  supportedSfBitmap : UInt16
  supportedBwBitmap : UInt16
  freqMinHz : UInt32
  freqMaxHz : UInt32
  txPowerMinDbm : Int8
  txPowerMaxDbm : Int8
  deriving DecidableEq, Repr

/-- The crate's types that the client passes along without looking inside.
`LoRaFraming` stands for the fields of `LoRaConfig` it never reads (`cr`,
`preamble_len`, `sync_word`, `header_mode`, `payload_crc`, `iq_invert`), and
`OtherModulation` for the configurations of every modulation but LoRa. -/
structure WireTypes where
  LoRaBandwidth : Type
  LoRaFraming : Type
  OtherModulation : Type
  SetConfigResultCode : Type
  Owner : Type
  RxPayload : Type

structure LoRaConfig (types : WireTypes) where
  freqHz : UInt32
  sf : UInt8
  bw : types.LoRaBandwidth
  txPowerDbm : Int8
  framing : types.LoRaFraming

inductive Modulation (types : WireTypes)
  | loRa (config : LoRaConfig types)
  | other (config : types.OtherModulation)

structure SetConfigResult (types : WireTypes) where
  result : types.SetConfigResultCode
  owner : types.Owner
  current : Modulation types

inductive OkPayload (types : WireTypes)
  | empty
  | info (info : Info)
  | setConfig (result : SetConfigResult types)

/-- The crate's constants, encoders and decoders. Encoders fail with the text of
their error, decoders with `none`: the client never looks at a decoder's error.
The type bytes of the commands are pairwise distinct, and so are those of the
events. -/
structure Protocol (types : WireTypes) where
  typePing : UInt8
  typeGetInfo : UInt8
  typeSetConfig : UInt8
  typeTx : UInt8
  typeRxStart : UInt8
  typeRxStop : UInt8
  commandTypes_nodup :
    [typePing, typeGetInfo, typeSetConfig, typeTx, typeRxStart, typeRxStop].Nodup
  typeOk : UInt8
  typeErr : UInt8
  typeTxDone : UInt8
  typeRx : UInt8
  eventTypes_nodup : [typeOk, typeErr, typeTxDone, typeRx].Nodup
  maxPayloadField : Nat
  maxPayloadField_pos : 0 < maxPayloadField
  bandwidthAsU8 : types.LoRaBandwidth → UInt8
  /-- `TxFlags { skip_cad }.as_byte()`. -/
  txFlagsAsByte : (skipCad : Bool) → UInt8
  /-- `Command::SetConfig(modulation).encode_payload`. -/
  encodeSetConfig : Modulation types → Except String (List UInt8)
  encodeFrame : (typeId : UInt8) → (tag : UInt16) → (payload : List UInt8) →
    Except String (List UInt8)
  /-- `OkPayload::parse_for`. -/
  parseFor : (cmdType : UInt8) → (payload : List UInt8) → Option (OkPayload types)
  decodeErrPayload : List UInt8 → Option ErrorCode
  decodeTxDone : List UInt8 → Option TxDonePayload
  decodeRx : List UInt8 → Option types.RxPayload
  /-- The `{:?}` texts of the payloads, as they appear in error messages. -/
  debugInfo : Info → String
  debugSetConfig : SetConfigResult types → String
  debugTxDone : TxDonePayload → String

/-- `donglora_protocol::FrameResult`, with the payload copied out of the
decoder's buffer. -/
inductive FrameResult
  | ok (typeId : UInt8) (tag : UInt16) (payload : List UInt8)
  | err

/-- `donglora_protocol::FrameDecoder`: a state fed with chunks of bytes, each
chunk completing some frames. -/
structure FrameDecoder where
  State : Type
  new : State
  feed : State → List UInt8 → State × List FrameResult

namespace FrameDecoder

def feedAll (decoder : FrameDecoder) : decoder.State → List (List UInt8) → List FrameResult
  | _, [] => []
  | state, chunk :: chunks =>
      (decoder.feed state chunk).2 ++ decoder.feedAll (decoder.feed state chunk).1 chunks

/-- What a fresh decoder emits depends only on the bytes, not on how they are
cut into chunks. -/
def ChunkingIrrelevant (decoder : FrameDecoder) : Prop :=
  ∀ first second : List (List UInt8), first.flatten = second.flatten →
    decoder.feedAll decoder.new first = decoder.feedAll decoder.new second

def decode (decoder : FrameDecoder) (stream : List UInt8) : List FrameResult :=
  decoder.feedAll decoder.new [stream]

theorem feedAll_eq_decode {decoder : FrameDecoder}
    (irrelevant : decoder.ChunkingIrrelevant) (chunks : List (List UInt8)) :
    decoder.feedAll decoder.new chunks = decoder.decode chunks.flatten :=
  irrelevant chunks [chunks.flatten] (by simp)

end FrameDecoder

/-! ## A protocol to execute the model with

A small stand-in for the crate: one-byte result codes, an `ERR` payload of two
bytes and a `TX_DONE` payload of five. -/

def WireTypes.sample : WireTypes where
  LoRaBandwidth := UInt8
  LoRaFraming := Unit
  OtherModulation := Unit
  SetConfigResultCode := Unit
  Owner := Unit
  RxPayload := List UInt8

def Protocol.sample : Protocol WireTypes.sample where
  typePing := 1
  typeGetInfo := 2
  typeSetConfig := 3
  typeTx := 4
  typeRxStart := 5
  typeRxStop := 6
  commandTypes_nodup := by decide
  typeOk := 128
  typeErr := 129
  typeTxDone := 193
  typeRx := 192
  eventTypes_nodup := by decide
  maxPayloadField := 275
  maxPayloadField_pos := by decide
  bandwidthAsU8 := id
  txFlagsAsByte skipCad := if skipCad then 1 else 0
  encodeSetConfig _ := .ok [1]
  encodeFrame typeId tag payload :=
    .ok ([typeId, tag.toUInt8, (tag >>> 8).toUInt8] ++ payload ++ [0])
  parseFor cmdType payload :=
    match cmdType, payload with
    | 3, [_] => some (.setConfig ⟨(), (), .other ()⟩)
    | _, [] => some .empty
    | _, _ => none
  decodeErrPayload
    | [3, 0] => some .eNotConfigured
    | [6, 0] => some .eBusy
    | [low, high] => some (.unknown (low.toUInt16 ||| high.toUInt16 <<< 8))
    | _ => none
  decodeTxDone
    | [0, airtime, 0, 0, 0] => some ⟨.transmitted, airtime.toUInt32⟩
    | [1, 0, 0, 0, 0] => some ⟨.channelBusy, 0⟩
    | [2, 0, 0, 0, 0] => some ⟨.cancelled, 0⟩
    | _ => none
  decodeRx payload := some payload
  debugInfo _ := "Info"
  debugSetConfig _ := "SetConfigResult"
  debugTxDone _ := "TxDonePayload"

end DongloraClient
