import DongloraClient.Connect.Selection

/-! # TCP endpoints

What `parse_tcp_endpoint` accepts, said without its recursion: a port literal after
the last colon and whatever stands before it as the host. The label of an endpoint
is in that form again, so it names the endpoint that was dialled.
-/

namespace DongloraClient.Connect

open Foundation

variable {types : WireTypes}

/-! ## Port literals -/

/-- What `u16::from_str` accepts, with the value: an optional `+` and then digits,
zero-padded or not. -/
def IsU16Literal (text : List Char) (port : UInt16) : Prop :=
  ∃ digits, (text = digits ∨ text = '+' :: digits) ∧ digits ≠ [] ∧
    (∀ digit ∈ digits, digit.isDigit = true) ∧ Nat.ofDigitChars 10 digits 0 = port.toNat

theorem le_ofDigitChars (digits : List Char) (value : Nat) :
    value ≤ Nat.ofDigitChars 10 digits value := by
  induction digits generalizing value with
  | nil => simp
  | cons digit digits induction =>
      rw [Nat.ofDigitChars_cons]
      have grown := induction (10 * value + (digit.toNat - '0'.toNat))
      omega

/-- The running value only grows, so the range check at each digit is one check of
the final value. -/
theorem parseDigits_eq_some_iff {digits : List Char} {value result : Nat}
    (bounded : value < 65536) :
    parseDigits digits value = some result ↔
      (∀ digit ∈ digits, digit.isDigit = true) ∧
        Nat.ofDigitChars 10 digits value = result ∧ result < 65536 := by
  induction digits generalizing value with
  | nil =>
      simp only [parseDigits, Option.some.injEq, List.not_mem_nil, false_implies,
        implies_true, Nat.ofDigitChars_nil, true_and]
      constructor
      · rintro rfl
        exact ⟨rfl, bounded⟩
      · exact fun settled => settled.1
  | cons digit digits induction =>
      rw [parseDigits, Nat.ofDigitChars_cons, List.forall_mem_cons]
      rw [Nat.mul_comm 10 value]
      split
      · next isDigit =>
        dsimp only
        split
        · next small =>
          rw [induction small]
          simp only [isDigit, true_and]
        · next large =>
          have grown := le_ofDigitChars digits (value * 10 + (digit.toNat - '0'.toNat))
          constructor
          · intro impossible
            cases impossible
          · rintro ⟨_, rfl, small⟩
            omega
      · next notDigit =>
        simp [notDigit]

theorem parseDigits_map_eq_some_iff {digits : List Char} {port : UInt16} :
    (parseDigits digits 0).map UInt16.ofNat = some port ↔
      (∀ digit ∈ digits, digit.isDigit = true) ∧
        Nat.ofDigitChars 10 digits 0 = port.toNat := by
  rw [Option.map_eq_some_iff]
  constructor
  · rintro ⟨result, parsed, rfl⟩
    rcases (parseDigits_eq_some_iff (by decide)).mp parsed with ⟨allDigits, total, small⟩
    refine ⟨allDigits, ?_⟩
    rw [total, UInt16.toNat_ofNat', Nat.mod_eq_of_lt small]
  · rintro ⟨allDigits, total⟩
    refine ⟨port.toNat, ?_, UInt16.ofNat_toNat⟩
    exact (parseDigits_eq_some_iff (by decide)).mpr ⟨allDigits, total, port.toNat_lt⟩

theorem parseU16_eq_some_iff {text : List Char} {port : UInt16} :
    parseU16 text = some port ↔ IsU16Literal text port := by
  unfold parseU16 IsU16Literal
  split
  · simp
  · -- a lone sign is neither a digit nor followed by one
    constructor
    · intro impossible
      cases impossible
    · rintro ⟨digits, rfl | signed, nonempty, allDigits, _⟩
      · cases allDigits '+' List.mem_cons_self
      · cases signed
        exact absurd rfl nonempty
  · next digits unsigned =>
    rw [parseDigits_map_eq_some_iff]
    constructor
    · rintro ⟨allDigits, total⟩
      exact ⟨digits, .inr rfl, fun empty => unsigned (empty ▸ rfl), allDigits, total⟩
    · rintro ⟨candidate, rfl | signed, _, allDigits, total⟩
      · cases allDigits '+' List.mem_cons_self
      · cases signed
        exact ⟨allDigits, total⟩
  · next nonempty _ unsigned =>
    rw [parseDigits_map_eq_some_iff]
    constructor
    · rintro ⟨allDigits, total⟩
      exact ⟨text, .inl rfl, nonempty, allDigits, total⟩
    · rintro ⟨candidate, rfl | signed, _, allDigits, total⟩
      · exact ⟨allDigits, total⟩
      · exact absurd signed (unsigned candidate)

/-! ## Cutting at the last separator -/

theorem rsplitOnce_eq_none_iff {separator : Char} {text : List Char} :
    rsplitOnce separator text = none ↔ separator ∉ text := by
  induction text with
  | nil => simp [rsplitOnce]
  | cons char rest induction =>
      rw [rsplitOnce, List.mem_cons, not_or, ← induction]
      cases rsplitOnce separator rest with
      | some cut => simp
      | none => simp [eq_comm]

theorem rsplitOnce_eq_some_iff {separator : Char} {text before after : List Char} :
    rsplitOnce separator text = some (before, after) ↔
      text = before ++ separator :: after ∧ separator ∉ after := by
  induction text generalizing before with
  | nil => simp [rsplitOnce]
  | cons char rest induction =>
      cases before with
      | nil =>
          -- the first separator is the last one only where the rest has none
          rw [rsplitOnce, List.nil_append, List.cons.injEq]
          cases cut : rsplitOnce separator rest with
          | some parts =>
              rcases parts with ⟨earlier, later⟩
              have occurs : separator ∈ rest := by
                by_contra absent
                rw [rsplitOnce_eq_none_iff.mpr absent] at cut
                cases cut
              simp only [Option.some.injEq, Prod.mk.injEq, reduceCtorEq, false_and, false_iff]
              rintro ⟨⟨_, rfl⟩, absent⟩
              exact absent occurs
          | none =>
              have absent := rsplitOnce_eq_none_iff.mp cut
              simp only [Option.ite_none_right_eq_some, Option.some.injEq, Prod.mk.injEq,
                true_and, and_assoc, and_congr_right_iff, iff_self_and]
              rintro _ rfl
              exact absent
      | cons first before =>
          rw [rsplitOnce, List.cons_append, List.cons.injEq, and_assoc, ← induction]
          cases rsplitOnce separator rest with
          | some parts =>
              rcases parts with ⟨earlier, later⟩
              simp [and_assoc]
          | none => simp

/-- The text before and after the last colon; without a colon there is only a port. -/
def CutAtLastColon (address before after : String) : Prop :=
  (address = before ++ ":" ++ after ∧ ':' ∉ after.toList) ∨
    (before = "" ∧ address = after ∧ ':' ∉ after.toList)

/-! ## Parsing -/

def hostOf (before : String) : String :=
  if before = "" then "localhost" else before

theorem hostOf_ofList (before : List Char) :
    hostOf (String.ofList before) =
      if before.isEmpty then "localhost" else String.ofList before := by
  cases before with
  | nil => rfl
  | cons char rest => simp [hostOf]

theorem parseTcpEndpoint_of_rsplitOnce {address : String} {before after : List Char}
    (cut : rsplitOnce ':' address.toList = some (before, after)) :
    parseTcpEndpoint address =
      (parseU16 after).map fun port => (hostOf (String.ofList before), port) := by
  rw [parseTcpEndpoint, cut, hostOf_ofList]

theorem parseTcpEndpoint_of_absent {address : String}
    (absent : rsplitOnce ':' address.toList = none) :
    parseTcpEndpoint address =
      (parseU16 address.toList).map fun port => (hostOf "", port) := by
  rw [parseTcpEndpoint, absent]
  rfl

theorem cutAtLastColon_iff {address before after : String} :
    CutAtLastColon address before after ↔
      rsplitOnce ':' address.toList = some (before.toList, after.toList) ∨
        (before = "" ∧ address = after ∧ rsplitOnce ':' address.toList = none) := by
  have joined : address = before ++ ":" ++ after ↔
      address.toList = before.toList ++ ':' :: after.toList := by
    rw [← String.toList_inj]
    simp
  rw [CutAtLastColon, joined, rsplitOnce_eq_some_iff, rsplitOnce_eq_none_iff]
  apply or_congr_right
  apply and_congr_right
  intro _
  apply and_congr_right
  rintro rfl
  rfl

theorem parseTcpEndpoint_eq_some_iff {address host : String} {port : UInt16} :
    parseTcpEndpoint address = some (host, port) ↔
      ∃ before after, CutAtLastColon address before after ∧
        IsU16Literal after.toList port ∧ host = hostOf before := by
  simp only [← parseU16_eq_some_iff, cutAtLastColon_iff]
  cases cut : rsplitOnce ':' address.toList with
  | some parts =>
      rcases parts with ⟨before, after⟩
      rw [parseTcpEndpoint_of_rsplitOnce cut, Option.map_eq_some_iff]
      constructor
      · rintro ⟨parsed, read, same⟩
        cases same
        exact ⟨String.ofList before, String.ofList after, .inl (by simp), by simpa using read,
          rfl⟩
      · rintro ⟨hostText, portText, found | ⟨_, _, absent⟩, read, rfl⟩
        · cases found
          exact ⟨port, read, by simp⟩
        · cases absent
  | none =>
      rw [parseTcpEndpoint_of_absent cut, Option.map_eq_some_iff]
      constructor
      · rintro ⟨parsed, read, same⟩
        cases same
        exact ⟨"", address, .inr ⟨rfl, rfl, rfl⟩, read, rfl⟩
      · rintro ⟨hostText, portText, found | ⟨rfl, rfl, _⟩, read, rfl⟩
        · cases found
        · exact ⟨port, read, rfl⟩

/-! ## Labels -/

theorem isU16Literal_toDigits (port : UInt16) :
    IsU16Literal (Nat.toDigits 10 port.toNat) port := by
  refine ⟨_, .inl rfl, Nat.toDigits_ne_nil, ?_, Nat.ofDigitChars_ten_toDigits⟩
  intro digit member
  exact Nat.isDigit_of_mem_toDigits (by decide) (by decide) member

theorem colon_notMem_toDigits (value : Nat) : ':' ∉ Nat.toDigits 10 value := by
  intro member
  cases Nat.isDigit_of_mem_toDigits (by decide) (by decide) member

/-- The last colon of a label is the one in front of its port, whatever the host. -/
theorem parseTcpEndpoint_endpoint {host : String} (named : host ≠ "") (port : UInt16) :
    parseTcpEndpoint (endpoint host port) = some (host, port) := by
  rw [parseTcpEndpoint_eq_some_iff]
  refine ⟨host, toString port.toNat, .inl ⟨rfl, ?_⟩, ?_, ?_⟩
  · rw [Nat.toString_eq_repr, Nat.toList_repr]
    exact colon_notMem_toDigits port.toNat
  · rw [Nat.toString_eq_repr, Nat.toList_repr]
    exact isU16Literal_toDigits port
  · rw [hostOf, if_neg named]

theorem hostOf_ne_empty (before : String) : hostOf before ≠ "" := by
  rw [hostOf]
  split
  · decide
  · next named => exact named

theorem host_ne_empty {address host : String} {port : UInt16}
    (parsed : parseTcpEndpoint address = some (host, port)) : host ≠ "" := by
  rcases parseTcpEndpoint_eq_some_iff.mp parsed with ⟨before, _, _, _, rfl⟩
  exact hostOf_ne_empty before

/-! ## What was dialled -/

abbrev Dialled := Option (String × UInt16)

def Dials (dialled : Dialled) :
    (effect : ConnectEffect types) → ConnectAnswer effect → Dialled → Prop
  | .tcpStream host port _, _, reached => reached = some (host, port)
  | _, _, reached => reached = dialled

def Names (label : String) (dialled : Dialled) : Prop :=
  ∃ host port, dialled = some (host, port) ∧ parseTcpEndpoint label = some (host, port)

/-- A TCP mux is handed on under a label of the endpoint that was dialled. -/
def LabelledAsDialled (dialled : Dialled) : ConnectEffect types → Prop
  | .finalize (.muxTcp label) _ _ => Names label dialled
  | _ => True

def KeepsLabels {Result : Type} (program : Connecting types Result) : Prop :=
  ∀ dialled, program.Satisfies Dials LabelledAsDialled (fun _ _ => True) dialled

namespace KeepsLabels

variable {First Second Result : Type}

theorem bind {program : Connecting types First} {next : First → Connecting types Second}
    (first : KeepsLabels program) (second : ∀ value, KeepsLabels (next value)) :
    KeepsLabels (program >>= next) := by
  intro dialled
  exact (first dialled).bind fun reached value _ => second value reached

theorem done (value : Result) : KeepsLabels (.done value : Connecting types Result) :=
  fun _ => trivial

theorem stillWaiting : KeepsLabels (stillWaiting : Connecting types Result) :=
  fun _ => ⟨trivial, fun impossible => impossible.elim⟩

theorem loadUsedMux : KeepsLabels (loadUsedMux : Connecting types Bool) :=
  fun _ => ⟨trivial, fun _ _ _ => trivial⟩

theorem setUsedMux : KeepsLabels (setUsedMux : Connecting types Unit) :=
  fun _ => ⟨trivial, fun _ _ _ => trivial⟩

theorem var (name : Variable) : KeepsLabels (var name : Connecting types (Option String)) :=
  fun _ => ⟨trivial, fun _ _ _ => trivial⟩

theorem pathExists (path : String) : KeepsLabels (pathExists path : Connecting types Bool) :=
  fun _ => ⟨trivial, fun _ _ _ => trivial⟩

theorem sleep (duration : Duration) : KeepsLabels (sleep duration : Connecting types Unit) :=
  fun _ => ⟨trivial, fun _ _ _ => trivial⟩

theorem findPort : KeepsLabels (findPort : Connecting types (Option String)) :=
  fun _ => ⟨trivial, fun _ _ _ => trivial⟩

theorem openSerial (port : String) (options : ConnectOptions types) (timeout : Duration) :
    KeepsLabels (openSerial port options timeout) := by
  have serialOpen : KeepsLabels (serialOpen port : Connecting types (ClientResult Unit)) :=
    fun _ => ⟨trivial, fun _ _ _ => trivial⟩
  apply bind serialOpen
  intro opened
  cases opened with
  | ok _ => exact fun _ => ⟨trivial, fun _ _ _ => trivial⟩
  | error error => exact done _

theorem openUnix (path : String) (remember : Bool) (options : ConnectOptions types)
    (timeout : Duration) : KeepsLabels (openUnix path remember options timeout) := by
  have unixConnect : KeepsLabels (unixConnect path : Connecting types (ClientResult Unit)) :=
    fun _ => ⟨trivial, fun _ _ _ => trivial⟩
  have handsOn : KeepsLabels (finalize (.muxUnix path) options timeout) :=
    fun _ => ⟨trivial, fun _ _ _ => trivial⟩
  apply bind unixConnect
  intro opened
  cases opened with
  | error error => exact done _
  | ok _ =>
      cases remember with
      | true => exact bind setUsedMux fun _ => handsOn
      | false => exact handsOn

theorem findTmpSocket : KeepsLabels (findTmpSocket : Connecting types (Option String)) := by
  apply bind (pathExists _)
  intro present
  cases present <;> exact done _

theorem findMuxSocket : KeepsLabels (findMuxSocket : Connecting types (Option String)) := by
  apply bind (var .mux)
  intro path
  cases path with
  | some path =>
      apply bind (pathExists path)
      intro present
      cases present <;> exact done _
  | none =>
      apply bind (var .xdgRuntimeDir)
      intro directory
      cases directory with
      | none => exact findTmpSocket
      | some directory =>
          apply bind (pathExists (xdgSocket directory))
          intro present
          cases present with
          | true => exact done _
          | false => exact findTmpSocket

theorem defaultSocketPath : KeepsLabels (defaultSocketPath : Connecting types String) := by
  apply bind (var .mux)
  intro path
  cases path with
  | some path => exact done _
  | none =>
      apply bind (var .xdgRuntimeDir)
      intro directory
      cases directory <;> exact done _

theorem pollDevice {otherwise : Connecting types String} (rest : KeepsLabels otherwise) :
    KeepsLabels (pollDevice otherwise) := by
  apply bind findPort
  intro port
  cases port with
  | some port => exact bind (sleep usbSettle) fun _ => done _
  | none => exact bind (sleep pollInterval) fun _ => rest

theorem waitForDevice (polls : Nat) :
    KeepsLabels (waitForDevice polls : Connecting types String) := by
  induction polls with
  | zero => exact pollDevice stillWaiting
  | succ polls induction => exact pollDevice induction

theorem pollMux {path : String} {options : ConnectOptions types} {timeout : Duration}
    {otherwise : Connecting types (ClientResult Unit)} (rest : KeepsLabels otherwise) :
    KeepsLabels (pollMux path options timeout otherwise) := by
  apply bind (pathExists path)
  intro present
  cases present with
  | true => exact openUnix path false options timeout
  | false => exact bind (sleep _) fun _ => rest

theorem waitForMux (path : String) (options : ConnectOptions types) (timeout : Duration)
    (polls : Nat) : KeepsLabels (waitForMux path options timeout polls) := by
  induction polls with
  | zero => exact pollMux stillWaiting
  | succ polls induction => exact pollMux induction

end KeepsLabels

/-! ## The label of the mux -/

theorem tryTcpEnv_names (timeout : Duration) (dialled : Dialled) :
    (tryTcpEnv timeout : Connecting types _).Satisfies Dials LabelledAsDialled
      (fun dialled label => ∀ text, label = some text → Names text dialled) dialled := by
  apply (KeepsLabels.var .muxTcp dialled).bind
  intro reached setting _
  have returnsNothing : (pure none : Connecting types (Option String)).Satisfies Dials
      LabelledAsDialled (fun dialled label => ∀ text, label = some text → Names text dialled)
      reached := by
    intro text returned
    cases returned
  cases setting with
  | none => exact returnsNothing
  | some address =>
      dsimp only
      cases parsed : parseTcpEndpoint address with
      | none => exact returnsNothing
      | some target =>
          rcases target with ⟨host, port⟩
          refine ⟨trivial, ?_⟩
          rintro outcome _ rfl
          cases outcome with
          | connected =>
              intro text returned
              cases returned
              exact ⟨host, port, rfl, parseTcpEndpoint_endpoint (host_ne_empty parsed) port⟩
          | timedOut | failed | nodelayFailed =>
              intro text returned
              cases returned

namespace KeepsLabels

theorem tryTcpEnv {Result : Type} {timeout : Duration}
    {next : Option String → Connecting types Result} (absent : KeepsLabels (next none))
    (labelled : ∀ label dialled, Names label dialled →
      (next (some label)).Satisfies Dials LabelledAsDialled (fun _ _ => True) dialled) :
    KeepsLabels (tryTcpEnv timeout >>= next) := by
  intro dialled
  apply (tryTcpEnv_names timeout dialled).bind
  intro reached label named
  cases label with
  | none => exact absent reached
  | some label => exact labelled label reached (named label rfl)

theorem connectMuxSticky (options : ConnectOptions types) (timeout : Duration) (polls : Nat) :
    KeepsLabels (connectMuxSticky options timeout polls) := by
  apply tryTcpEnv
  · exact bind defaultSocketPath fun path => waitForMux path options timeout polls
  · exact fun label dialled named => ⟨named, fun _ _ _ => trivial⟩

theorem remembered {label : String} {dialled : Dialled} {options : ConnectOptions types}
    {timeout : Duration} (named : Names label dialled) :
    (do Connect.setUsedMux; finalize (.muxTcp label) options timeout).Satisfies Dials
      LabelledAsDialled (fun _ _ => True) dialled := by
  refine ⟨trivial, ?_⟩
  rintro _ _ rfl
  exact ⟨named, fun _ _ _ => trivial⟩

theorem muxChain (options : ConnectOptions types) (timeout : Duration)
    {otherwise : Connecting types (ClientResult Unit)} (rest : KeepsLabels otherwise) :
    KeepsLabels (do
      match ← Connect.tryTcpEnv timeout with
      | some endpoint =>
          Connect.setUsedMux
          finalize (.muxTcp endpoint) options timeout
      | none =>
          match ← Connect.findMuxSocket with
          | some path => Connect.openUnix path true options timeout
          | none => otherwise) := by
  apply tryTcpEnv
  · apply bind findMuxSocket
    intro socket
    cases socket with
    | some path => exact openUnix path true options timeout
    | none => exact rest
  · exact fun label dialled named => remembered named

theorem connectWith (options : ConnectOptions types) (polls : Nat) :
    KeepsLabels (connectWith options polls) := by
  rw [Connect.connectWith]
  split
  · exact openSerial _ options _
  · apply bind loadUsedMux
    intro usedMux
    cases usedMux with
    | true => exact connectMuxSticky options _ polls
    | false =>
        apply muxChain
        apply bind findPort
        intro port
        cases port with
        | some port => exact openSerial port options _
        | none => exact bind (waitForDevice polls) fun port => openSerial port options _

theorem tryConnectWith (options : ConnectOptions types) :
    KeepsLabels (tryConnectWith options) := by
  rw [Connect.tryConnectWith]
  split
  · exact openSerial _ options _
  · apply bind loadUsedMux
    intro usedMux
    cases usedMux with
    | true =>
        apply bind findMuxSocket
        intro socket
        cases socket with
        | none => exact done _
        | some path => exact openUnix path false options _
    | false =>
        apply muxChain
        apply bind findPort
        intro port
        cases port with
        | none => exact done _
        | some port => exact openSerial port options _

theorem connectMuxAutoWith (options : ConnectOptions types) :
    KeepsLabels (connectMuxAutoWith options) :=
  muxChain options _ (done _)

end KeepsLabels

/-! ## Exact parsing and labels that parse back -/

theorem parseTcpEndpoint_exact :
    (∀ address host port, parseTcpEndpoint address = some (host, port) ↔
      ∃ before after, CutAtLastColon address before after ∧
        IsU16Literal after.toList port ∧ host = hostOf before) ∧
    (∀ host port, host ≠ "" →
      parseTcpEndpoint (host ++ ":" ++ toString port.toNat) = some (host, port)) ∧
    (∀ address host port, parseTcpEndpoint address = some (host, port) →
      parseTcpEndpoint (endpoint host port) = some (host, port)) ∧
    (∀ timeout dialled, (tryTcpEnv timeout : Connecting types _).Satisfies Dials
      LabelledAsDialled (fun dialled label => ∀ text, label = some text → Names text dialled)
      dialled) ∧
    ∀ options : ConnectOptions types, (∀ polls, KeepsLabels (connectWith options polls)) ∧
      KeepsLabels (tryConnectWith options) ∧ KeepsLabels (connectMuxAutoWith options) := by
  refine ⟨?_, ?_, ?_, tryTcpEnv_names, ?_⟩
  · exact fun _ _ _ => parseTcpEndpoint_eq_some_iff
  · exact fun host port named => parseTcpEndpoint_endpoint named port
  · exact fun _ _ port parsed => parseTcpEndpoint_endpoint (host_ne_empty parsed) port
  · intro options
    exact ⟨KeepsLabels.connectWith options, KeepsLabels.tryConnectWith options,
      KeepsLabels.connectMuxAutoWith options⟩

theorem parseTcpEndpoint_exact_addresses :
    parseTcpEndpoint ("fe80::1" ++ ":" ++ toString (5741 : UInt16).toNat) =
      some ("fe80::1", 5741) ∧
    parseTcpEndpoint "80" = some ("localhost", 80) ∧
    parseTcpEndpoint ":+0080" = some ("localhost", 80) ∧
    parseTcpEndpoint (endpoint "localhost" 80) = some ("localhost", 80) := by
  refine ⟨?_, by decide, by decide, ?_⟩
  · exact (@parseTcpEndpoint_exact WireTypes.sample).2.1 "fe80::1" 5741 (by decide)
  · exact (@parseTcpEndpoint_exact WireTypes.sample).2.2.1 ":+0080" "localhost" 80 (by decide)

end DongloraClient.Connect
