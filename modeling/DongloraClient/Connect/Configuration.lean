import Mathlib.Data.Nat.Bitwise
import DongloraClient.Foundation.Program
import DongloraClient.Session.Dispatch

/-! # Preparing a configuration for a device

`prepare_config` on every `Info` and every modulation. The shift `1u16 << amount`
is an effect, since what an amount of 16 or more gives depends on the build.
-/

namespace DongloraClient.Connect

open Foundation

variable {types : WireTypes}

/-! ## Shifts -/

/-- Whether arithmetic overflow is checked, as in debug builds. -/
inductive Build
  | checked
  | unchecked
  deriving DecidableEq, Repr

abbrev Shifting := Program UInt8 fun _ => UInt16

def shiftOne (amount : UInt8) : Shifting UInt16 := .perform amount .done

/-- `1u16 << amount`: a checked build panics on an amount that is too large, an
unchecked one takes it modulo 16. -/
def Build.shifted (build : Build) (amount : UInt8) : Option UInt16 :=
  if amount < 16 then
    some (1 <<< amount.toUInt16)
  else
    match build with
    | .checked => none
    | .unchecked => some (1 <<< (amount % 16).toUInt16)

def evaluate {Result : Type} (build : Build) (computation : Shifting Result) :
    Option Result :=
  (computation.run (fun amount (_ : Unit) =>
    (build.shifted amount).map fun value => (value, ())) ()).1

def ShiftsInRange {Result : Type} (build : Build) (computation : Shifting Result) : Prop :=
  computation.Satisfies
    (fun (_ : Unit) amount value _ => build.shifted amount = some value)
    (fun _ amount => amount < 16) (fun _ _ => True) ()

/-! ## The source's functions -/

def lacks (bitmap bit : UInt16) : Bool := bitmap &&& bit == 0

def supportedSfs (bitmap : UInt16) : List UInt8 → Shifting (List UInt8)
  | [] => return []
  | candidate :: later => do
      let bit ← shiftOne candidate
      let rest ← supportedSfs bitmap later
      return if lacks bitmap bit then rest else candidate :: rest

def sfCandidates : List UInt8 := (List.range 16).map UInt8.ofNat

def hexWord (word : UInt16) : String :=
  Session.hexByte (word >>> 8).toUInt8 ++ Session.hexByte word.toUInt8

section Source

variable (protocol : Protocol types) (debugBandwidth : types.LoRaBandwidth → String)

def prepareLoraConfig (info : Info) (config : LoRaConfig types) :
    Shifting (ClientResult (LoRaConfig types)) :=
  if config.freqHz < info.freqMinHz || info.freqMaxHz < config.freqHz then
    return .error (.configNotSupported ("frequency " ++ toString config.freqHz.toNat ++
      " Hz outside device range [" ++ toString info.freqMinHz.toNat ++ ", " ++
      toString info.freqMaxHz.toNat ++ "] Hz"))
  else do
    let sfBit ← shiftOne config.sf
    if lacks info.supportedSfBitmap sfBit then
      let supported ← supportedSfs info.supportedSfBitmap sfCandidates
      return .error (.configNotSupported ("SF" ++ toString config.sf.toNat ++
        " not supported by this device (supports SF" ++
        toString (supported.map UInt8.toNat) ++ ")"))
    else
      let bwBit := protocol.bandwidthAsU8 config.bw
      let bit ← shiftOne bwBit
      if lacks info.supportedBwBitmap bit then
        return .error (.configNotSupported ("bandwidth " ++ debugBandwidth config.bw ++
          " (bit " ++ toString bwBit.toNat ++ ") not in supported_bw_bitmap 0x" ++
          hexWord info.supportedBwBitmap))
      else if info.txPowerMaxDbm < config.txPowerDbm then
        return .ok { config with txPowerDbm := info.txPowerMaxDbm }
      else if config.txPowerDbm < info.txPowerMinDbm then
        return .ok { config with txPowerDbm := info.txPowerMinDbm }
      else
        return .ok config

def prepareConfig (info : Info) : Modulation types → Shifting (ClientResult (Modulation types))
  | .loRa config => do
      match ← prepareLoraConfig protocol debugBandwidth info config with
      | .error error => return .error error
      | .ok prepared => return .ok (.loRa prepared)
  | .other config => return .ok (.other config)

end Source

/-! ## Evaluating -/

section Evaluation

variable {First Second : Type} (build : Build)

@[simp] theorem evaluate_done (value : First) :
    evaluate build (.done value) = some value := rfl

theorem evaluate_bind (computation : Shifting First) (next : First → Shifting Second) :
    evaluate build (computation >>= next) =
      (evaluate build computation).bind fun value => evaluate build (next value) := by
  rw [evaluate, Program.run_bind, evaluate]
  rcases Program.run _ computation () with ⟨value, state⟩
  cases value <;> rfl

@[simp] theorem evaluate_shiftOne (amount : UInt8) :
    evaluate build (shiftOne amount) = build.shifted amount := by
  rw [evaluate, shiftOne, Program.run_perform]
  cases build.shifted amount <;> rfl

theorem Build.shifted_of_lt {amount : UInt8} (inRange : amount < 16) :
    build.shifted amount = some (1 <<< amount.toUInt16) := by
  simp [Build.shifted, inRange]

variable {build}

theorem shiftsInRange_bind {computation : Shifting First} {next : First → Shifting Second}
    (first : ShiftsInRange build computation)
    (second : ∀ value, ShiftsInRange build (next value)) :
    ShiftsInRange build (computation >>= next) :=
  Program.Satisfies.bind first fun _ value _ => second value

theorem shiftsInRange_shiftOne {amount : UInt8} (inRange : amount < 16) :
    ShiftsInRange build (shiftOne amount) :=
  ⟨inRange, fun _ _ _ => trivial⟩

end Evaluation

/-! ## Bits -/

theorem lacks_shiftOne (bitmap : UInt16) {amount : UInt8} (inRange : amount < 16) :
    lacks bitmap (1 <<< amount.toUInt16) = !bitmap.toNat.testBit amount.toNat := by
  have small : amount.toNat < 16 := inRange
  have power : 2 ^ amount.toNat < 2 ^ 16 := Nat.pow_lt_pow_right (by decide) small
  have value : (bitmap &&& 1 <<< amount.toUInt16).toNat =
      (bitmap.toNat.testBit amount.toNat).toNat * 2 ^ amount.toNat := by
    rw [UInt16.toNat_and, UInt16.toNat_shiftLeft, UInt8.toNat_toUInt16,
      Nat.mod_eq_of_lt small, show (1 : UInt16).toNat = 1 from rfl, Nat.one_shiftLeft,
      Nat.mod_eq_of_lt power, Nat.and_two_pow]
  cases set : bitmap.toNat.testBit amount.toNat with
  | false =>
      rw [set, Bool.toNat_false, Nat.zero_mul] at value
      have zero : bitmap &&& 1 <<< amount.toUInt16 = 0 := UInt16.toNat_inj.mp value
      rw [lacks, zero]
      rfl
  | true =>
      rw [set, Bool.toNat_true, Nat.one_mul] at value
      have nonzero : bitmap &&& 1 <<< amount.toUInt16 ≠ 0 := by
        intro zero
        rw [zero] at value
        exact absurd value.symm (Nat.ne_of_gt (Nat.two_pow_pos _))
      rw [lacks, beq_eq_false_iff_ne.mpr nonzero]
      rfl

theorem sfCandidates_lt : ∀ candidate ∈ sfCandidates, candidate < 16 := by
  intro candidate member
  rcases List.mem_map.mp member with ⟨index, listed, same⟩
  have small : index < 16 := List.mem_range.mp listed
  subst same
  rw [UInt8.lt_iff_toNat_lt, UInt8.toNat_ofNat_of_lt' (Nat.lt_trans small (by decide))]
  exact small

theorem supportedSfs_shifts {build : Build} (bitmap : UInt16) (candidates : List UInt8)
    (inRange : ∀ candidate ∈ candidates, candidate < 16) :
    ShiftsInRange build (supportedSfs bitmap candidates) := by
  induction candidates with
  | nil => trivial
  | cons candidate later induction =>
      apply shiftsInRange_bind (shiftsInRange_shiftOne (inRange candidate (by simp)))
      intro bit
      apply shiftsInRange_bind
      · exact induction fun other member => inRange other (by simp [member])
      · intro rest
        trivial

theorem evaluate_supportedSfs (build : Build) (bitmap : UInt16) (candidates : List UInt8)
    (inRange : ∀ candidate ∈ candidates, candidate < 16) :
    ∃ supported, evaluate build (supportedSfs bitmap candidates) = some supported := by
  induction candidates with
  | nil => exact ⟨[], rfl⟩
  | cons candidate later induction =>
      rcases induction fun other member => inRange other (by simp [member]) with
        ⟨supported, evaluated⟩
      rw [supportedSfs, evaluate_bind, evaluate_shiftOne,
        build.shifted_of_lt (inRange candidate (by simp)), Option.bind_some, evaluate_bind,
        evaluated]
      exact ⟨_, rfl⟩

/-! ## What is accepted -/

section Acceptance

variable (protocol : Protocol types) (debugBandwidth : types.LoRaBandwidth → String)

def Outside (info : Info) (config : LoRaConfig types) : Prop :=
  config.freqHz < info.freqMinHz ∨ info.freqMaxHz < config.freqHz

def Supported (info : Info) (config : LoRaConfig types) : Prop :=
  info.freqMinHz ≤ config.freqHz ∧ config.freqHz ≤ info.freqMaxHz ∧
    config.sf < 16 ∧ info.supportedSfBitmap.toNat.testBit config.sf.toNat = true ∧
    info.supportedBwBitmap.toNat.testBit (protocol.bandwidthAsU8 config.bw).toNat = true

def Nearest (info : Info) (request power : Int8) : Prop :=
  info.txPowerMinDbm ≤ power ∧ power ≤ info.txPowerMaxDbm ∧
    ∀ other, info.txPowerMinDbm ≤ other → other ≤ info.txPowerMaxDbm →
      (power.toInt - request.toInt).natAbs ≤ (other.toInt - request.toInt).natAbs

structure Clamped (info : Info) (request prepared : LoRaConfig types) : Prop where
  others : prepared = { request with txPowerDbm := prepared.txPowerDbm }
  above : info.txPowerMaxDbm < request.txPowerDbm →
    prepared.txPowerDbm = info.txPowerMaxDbm
  below : ¬ info.txPowerMaxDbm < request.txPowerDbm →
    request.txPowerDbm < info.txPowerMinDbm → prepared.txPowerDbm = info.txPowerMinDbm
  within : ¬ info.txPowerMaxDbm < request.txPowerDbm →
    ¬ request.txPowerDbm < info.txPowerMinDbm → prepared.txPowerDbm = request.txPowerDbm
  nearest : info.txPowerMinDbm ≤ info.txPowerMaxDbm →
    Nearest info request.txPowerDbm prepared.txPowerDbm

/-- Exactly the supported configurations are accepted, clamped; all others are
refused as not supported; and no shift leaves its range on the way. -/
def PreparesSupported (build : Build) (info : Info) : Modulation types → Prop
  | .loRa config =>
      ShiftsInRange build (prepareConfig protocol debugBandwidth info (.loRa config)) ∧
        (Supported protocol info config → ∃ prepared, Clamped info config prepared ∧
          evaluate build (prepareConfig protocol debugBandwidth info (.loRa config)) =
            some (.ok (.loRa prepared))) ∧
        (¬ Supported protocol info config → ∃ reason,
          evaluate build (prepareConfig protocol debugBandwidth info (.loRa config)) =
            some (.error (.configNotSupported reason)))
  | .other config =>
      ShiftsInRange build (prepareConfig protocol debugBandwidth info (.other config)) ∧
        evaluate build (prepareConfig protocol debugBandwidth info (.other config)) =
          some (.ok (.other config))

/-- The spreading factor is below 16, or never looked at. -/
def SpreadingInRange (info : Info) : Modulation types → Prop
  | .loRa config => config.sf < 16 ∨ Outside info config
  | .other _ => True

theorem nearest_max {info : Info} {request : Int8} (above : info.txPowerMaxDbm < request)
    (ordered : info.txPowerMinDbm ≤ info.txPowerMaxDbm) :
    Nearest info request info.txPowerMaxDbm := by
  refine ⟨ordered, Int8.le_refl _, ?_⟩
  intro other _ atMost
  rw [Int8.lt_iff_toInt_lt] at above
  rw [Int8.le_iff_toInt_le] at atMost
  omega

theorem nearest_min {info : Info} {request : Int8} (below : request < info.txPowerMinDbm)
    (ordered : info.txPowerMinDbm ≤ info.txPowerMaxDbm) :
    Nearest info request info.txPowerMinDbm := by
  refine ⟨Int8.le_refl _, ordered, ?_⟩
  intro other atLeast _
  rw [Int8.lt_iff_toInt_lt] at below
  rw [Int8.le_iff_toInt_le] at atLeast
  omega

theorem clamped_above {info : Info} {config : LoRaConfig types}
    (above : info.txPowerMaxDbm < config.txPowerDbm) :
    Clamped info config { config with txPowerDbm := info.txPowerMaxDbm } where
  others := rfl
  above _ := rfl
  below notAbove := absurd above notAbove
  within notAbove := absurd above notAbove
  nearest ordered := nearest_max above ordered

theorem clamped_below {info : Info} {config : LoRaConfig types}
    (notAbove : ¬ info.txPowerMaxDbm < config.txPowerDbm)
    (below : config.txPowerDbm < info.txPowerMinDbm) :
    Clamped info config { config with txPowerDbm := info.txPowerMinDbm } where
  others := rfl
  above above := absurd above notAbove
  below _ _ := rfl
  within _ notBelow := absurd below notBelow
  nearest ordered := nearest_min below ordered

theorem clamped_within {info : Info} {config : LoRaConfig types}
    (notAbove : ¬ info.txPowerMaxDbm < config.txPowerDbm)
    (notBelow : ¬ config.txPowerDbm < info.txPowerMinDbm) :
    Clamped info config config where
  others := rfl
  above above := absurd above notAbove
  below _ below := absurd below notBelow
  within _ _ := rfl
  nearest _ := by
    refine ⟨Int8.not_lt.mp notBelow, Int8.not_lt.mp notAbove, ?_⟩
    intro other _ _
    simp

/-! ## The cases of `prepare_lora_config` -/

variable {protocol debugBandwidth} {info : Info} {config : LoRaConfig types}

theorem not_supported_of_outside (outside : Outside info config) :
    ¬ Supported protocol info config := by
  intro supported
  rcases outside with below | above
  · exact absurd supported.1 (UInt32.not_le.mpr below)
  · exact absurd supported.2.1 (UInt32.not_le.mpr above)

theorem prepareLoraConfig_outside (outside : Outside info config) :
    ∃ reason, prepareLoraConfig protocol debugBandwidth info config =
      .done (.error (.configNotSupported reason)) := by
  have refused : (config.freqHz < info.freqMinHz || info.freqMaxHz < config.freqHz) = true := by
    rcases outside with below | above
    · simp [below]
    · simp [above]
  rw [prepareLoraConfig, if_pos refused]
  exact ⟨_, rfl⟩

theorem passes_of_inside (inside : ¬ Outside info config) :
    ¬ (config.freqHz < info.freqMinHz || info.freqMaxHz < config.freqHz) = true := by
  simpa [Outside] using inside

/-- Within the frequency range, the first thing evaluated is the shift by the
spreading factor. -/
theorem prepareLoraConfig_inside (inside : ¬ Outside info config) :
    ∃ later, prepareLoraConfig protocol debugBandwidth info config =
      .perform config.sf later := by
  rw [prepareLoraConfig, if_neg (passes_of_inside inside)]
  exact ⟨_, rfl⟩

theorem supported_iff_of_inside (inside : ¬ Outside info config) (spreading : config.sf < 16) :
    Supported protocol info config ↔
      info.supportedSfBitmap.toNat.testBit config.sf.toNat = true ∧
        info.supportedBwBitmap.toNat.testBit
          (protocol.bandwidthAsU8 config.bw).toNat = true := by
  rw [Outside, not_or, UInt32.not_lt, UInt32.not_lt] at inside
  constructor
  · intro supported
    exact supported.2.2.2
  · intro bits
    exact ⟨inside.1, inside.2, spreading, bits⟩

section InRange

variable (build : Build) (spreading : config.sf < 16)
  (bandwidth : protocol.bandwidthAsU8 config.bw < 16)
include spreading bandwidth

theorem shiftsInRange_prepareLoraConfig :
    ShiftsInRange build (prepareLoraConfig protocol debugBandwidth info config) := by
  rw [prepareLoraConfig]
  split
  · trivial
  · apply shiftsInRange_bind (shiftsInRange_shiftOne spreading)
    intro sfBit
    split
    · apply shiftsInRange_bind (supportedSfs_shifts _ _ sfCandidates_lt)
      intro supported
      trivial
    · apply shiftsInRange_bind (shiftsInRange_shiftOne bandwidth)
      intro bwBit
      split
      · trivial
      · split
        · trivial
        · split <;> trivial

theorem evaluate_supported (supported : Supported protocol info config) :
    ∃ prepared, Clamped info config prepared ∧
      evaluate build (prepareLoraConfig protocol debugBandwidth info config) =
        some (.ok prepared) := by
  have inside : ¬ Outside info config := fun outside =>
    not_supported_of_outside outside supported
  rcases (supported_iff_of_inside inside spreading).mp supported with ⟨sfSet, bwSet⟩
  rw [prepareLoraConfig, if_neg (passes_of_inside inside), evaluate_bind, evaluate_shiftOne,
    build.shifted_of_lt spreading, Option.bind_some, lacks_shiftOne _ spreading, sfSet,
    if_neg (by simp), evaluate_bind, evaluate_shiftOne, build.shifted_of_lt bandwidth,
    Option.bind_some, lacks_shiftOne _ bandwidth, bwSet, if_neg (by simp)]
  split
  · next above => exact ⟨_, clamped_above above, rfl⟩
  · next notAbove =>
    split
    · next below => exact ⟨_, clamped_below notAbove below, rfl⟩
    · next notBelow => exact ⟨_, clamped_within notAbove notBelow, rfl⟩

theorem evaluate_unsupported (unsupported : ¬ Supported protocol info config) :
    ∃ reason, evaluate build (prepareLoraConfig protocol debugBandwidth info config) =
      some (.error (.configNotSupported reason)) := by
  by_cases outside : Outside info config
  · rcases @prepareLoraConfig_outside _ protocol debugBandwidth _ _ outside with
      ⟨reason, refused⟩
    exact ⟨reason, by rw [refused, evaluate_done]⟩
  · rw [supported_iff_of_inside outside spreading] at unsupported
    rw [prepareLoraConfig, if_neg (passes_of_inside outside), evaluate_bind,
      evaluate_shiftOne, build.shifted_of_lt spreading, Option.bind_some,
      lacks_shiftOne _ spreading]
    split
    · rcases evaluate_supportedSfs build info.supportedSfBitmap _ sfCandidates_lt with
        ⟨listed, evaluated⟩
      rw [evaluate_bind, evaluated]
      exact ⟨_, rfl⟩
    · next sfSet =>
      have bwClear : info.supportedBwBitmap.toNat.testBit
          (protocol.bandwidthAsU8 config.bw).toNat = false := by
        simpa [show info.supportedSfBitmap.toNat.testBit config.sf.toNat = true by
          simpa using sfSet] using unsupported
      rw [evaluate_bind, evaluate_shiftOne, build.shifted_of_lt bandwidth, Option.bind_some,
        lacks_shiftOne _ bandwidth, bwClear, if_pos (by simp)]
      exact ⟨_, rfl⟩

end InRange

theorem evaluate_prepareConfig_loRa (build : Build) {result : ClientResult (LoRaConfig types)}
    (evaluated : evaluate build (prepareLoraConfig protocol debugBandwidth info config) =
      some result) :
    evaluate build (prepareConfig protocol debugBandwidth info (.loRa config)) =
      some (result.map .loRa) := by
  rw [prepareConfig, evaluate_bind, evaluated]
  cases result <;> rfl

theorem shiftsInRange_prepareConfig_loRa {build : Build}
    (shifts : ShiftsInRange build (prepareLoraConfig protocol debugBandwidth info config)) :
    ShiftsInRange build (prepareConfig protocol debugBandwidth info (.loRa config)) := by
  rw [prepareConfig]
  apply shiftsInRange_bind shifts
  intro result
  cases result <;> trivial

/-- The only configurations that are not handled as they should be are those
whose spreading factor is shifted by although it is 16 or more. -/
theorem prepareConfig_exact_iff (build : Build) (info : Info) (modulation : Modulation types)
    (bandwidths : ∀ config, modulation = .loRa config →
      protocol.bandwidthAsU8 config.bw < 16) :
    PreparesSupported protocol debugBandwidth build info modulation ↔
      SpreadingInRange info modulation := by
  cases modulation with
  | other config => exact iff_of_true ⟨trivial, rfl⟩ trivial
  | loRa config =>
      have bandwidth := bandwidths config rfl
      constructor
      · intro prepares
        by_cases outside : Outside info config
        · exact .inr outside
        · rcases @prepareLoraConfig_inside _ protocol debugBandwidth _ _ outside with
            ⟨later, first⟩
          have shifts := prepares.1
          rw [prepareConfig, first] at shifts
          exact .inl shifts.1
      · intro inRange
        by_cases outside : Outside info config
        · rcases @prepareLoraConfig_outside _ protocol debugBandwidth _ _ outside with
            ⟨reason, refused⟩
          have unsupported := @not_supported_of_outside _ protocol _ _ outside
          refine ⟨?_, fun supported => absurd supported unsupported, fun _ => ⟨reason, ?_⟩⟩
          · rw [prepareConfig, refused]
            trivial
          · rw [prepareConfig, refused]
            rfl
        · have spreading := inRange.resolve_right outside
          refine ⟨shiftsInRange_prepareConfig_loRa
            (shiftsInRange_prepareLoraConfig build spreading bandwidth), ?_, ?_⟩
          · intro supported
            rcases @evaluate_supported _ _ debugBandwidth _ _ build spreading bandwidth
              supported with ⟨prepared, clamped, evaluated⟩
            exact ⟨prepared, clamped, evaluate_prepareConfig_loRa build evaluated⟩
          · intro unsupported
            rcases @evaluate_unsupported _ _ debugBandwidth _ _ build spreading bandwidth
              unsupported with ⟨reason, evaluated⟩
            exact ⟨reason, evaluate_prepareConfig_loRa build evaluated⟩

end Acceptance

/-! ## A spreading factor outside its range -/

def sampleInfo : Info where
  supportedSfBitmap := 0x1FE0
  supportedBwBitmap := 0x03FF
  freqMinHz := 863000000
  freqMaxHz := 928000000
  txPowerMinDbm := -9
  txPowerMaxDbm := 22

def sampleConfig (sf : UInt8) : LoRaConfig WireTypes.sample where
  freqHz := 915000000
  sf := sf
  bw := (7 : UInt8)
  txPowerDbm := 14
  framing := ()

theorem prepareConfig_exact_sf7 :
    SpreadingInRange sampleInfo (.loRa (sampleConfig 7)) ∧
      PreparesSupported Protocol.sample (fun _ => "BW") .unchecked sampleInfo
        (.loRa (sampleConfig 7)) := by
  have spreading : SpreadingInRange sampleInfo (.loRa (sampleConfig 7)) :=
    .inl (by decide)
  refine ⟨spreading, (prepareConfig_exact_iff .unchecked sampleInfo _ ?_).mpr spreading⟩
  intro config same
  cases same
  decide

/-- Spreading factor 23 panics in a checked build, and passes for 7 in an
unchecked one. -/
theorem prepareConfig_sf23 :
    evaluate .checked (prepareConfig Protocol.sample (fun _ => "BW") sampleInfo
        (.loRa (sampleConfig 23))) = none ∧
      evaluate .unchecked (prepareConfig Protocol.sample (fun _ => "BW") sampleInfo
        (.loRa (sampleConfig 23))) = some (.ok (.loRa (sampleConfig 23))) ∧
      ¬ Supported Protocol.sample sampleInfo (sampleConfig 23) ∧
      ∀ build, ¬ PreparesSupported Protocol.sample (fun _ => "BW") build sampleInfo
        (.loRa (sampleConfig 23)) := by
  refine ⟨rfl, rfl, ?_, ?_⟩
  · intro supported
    exact absurd supported.2.2.1 (by decide)
  · intro build prepares
    exact absurd prepares.1.1 (by decide)

end DongloraClient.Connect
