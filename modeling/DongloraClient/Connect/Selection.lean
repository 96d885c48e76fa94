import DongloraClient.Effects

/-! # Choosing a transport

The connect entry points on a Unix target as programs over what they ask of the
process and its surroundings. A loop that waits for a socket or a device takes the
number of polls after the first; a call that has used them up is still waiting.
-/

namespace DongloraClient.Connect

open Foundation

variable {types : WireTypes}

/-! ## Options and effects -/

inductive TransportKind
  | serial (path : String)
  | muxUnix (path : String)
  | muxTcp (endpoint : String)
  deriving DecidableEq, Repr

def TransportKind.isMux : TransportKind → Bool
  | .serial _ => false
  | .muxUnix _ => true
  | .muxTcp _ => true

structure ConnectOptions (types : WireTypes) where
  port : Option String
  timeout : Option Duration
  config : Option (Modulation types)
  autoConfigure : Bool
  keepalive : Bool

def ConnectOptions.new : ConnectOptions types where
  port := none
  timeout := none
  config := none
  autoConfigure := false
  keepalive := true

def defaultTimeout : Duration := fromSecs 2

inductive Variable
  | muxTcp
  | mux
  | xdgRuntimeDir
  deriving DecidableEq, Repr

inductive TcpOutcome
  | connected
  | timedOut
  | failed (text : String)
  | nodelayFailed (text : String)
  deriving DecidableEq, Repr

structure PortInfo where
  portName : String
  usb : Option (UInt16 × UInt16)
  deriving DecidableEq, Repr

inductive ConnectEffect (types : WireTypes)
  | loadUsedMux
  | storeUsedMux (value : Bool)
  | var (name : Variable)
  | pathExists (path : String)
  | tcpStream (host : String) (port : UInt16) (timeout : Duration)
  | unixStream (path : String)
  | serialStream (path : String)
  | availablePorts
  | sleep (duration : Duration)
  | finalize (kind : TransportKind) (options : ConnectOptions types) (timeout : Duration)
  | stillWaiting

/-- Streams are answered by the text of the error, if there is one. -/
def ConnectAnswer {types : WireTypes} : ConnectEffect types → Type
  | .loadUsedMux => Bool
  | .var _ => Option String
  | .pathExists _ => Bool
  | .tcpStream _ _ _ => TcpOutcome
  | .unixStream _ => Option String
  | .serialStream _ => Option String
  | .availablePorts => Option (List PortInfo)
  | .finalize _ _ _ => ClientResult Unit
  | .stillWaiting => Empty
  | _ => Unit

abbrev Connecting (types : WireTypes) := Program (ConnectEffect types) ConnectAnswer

def loadUsedMux : Connecting types Bool := .perform .loadUsedMux .done
def setUsedMux : Connecting types Unit := .perform (.storeUsedMux true) .done
def var (name : Variable) : Connecting types (Option String) := .perform (.var name) .done
def pathExists (path : String) : Connecting types Bool :=
  .perform (.pathExists path) .done
def sleep (duration : Duration) : Connecting types Unit := .perform (.sleep duration) .done
def stillWaiting {Result : Type} : Connecting types Result :=
  .perform .stillWaiting fun impossible => nomatch impossible

/-- The handshake on an open transport; its outcome is the caller's result. -/
def finalize (kind : TransportKind) (options : ConnectOptions types)
    (timeout : Duration) : Connecting types (ClientResult Unit) :=
  .perform (.finalize kind options timeout) .done

/-! ## Opening transports -/

def endpoint (host : String) (port : UInt16) : String :=
  host ++ ":" ++ toString port.toNat

def tcpResult (host : String) (port : UInt16) : TcpOutcome → ClientResult Unit
  | .connected => .ok ()
  | .timedOut => .error (.timeout "tcp connect")
  | .failed text =>
      .error (.other ("failed to connect to " ++ endpoint host port ++ ": " ++ text))
  | .nodelayFailed text => .error (.other ("failed to set TCP_NODELAY: " ++ text))

def tcpConnect (host : String) (port : UInt16) (timeout : Duration) :
    Connecting types (ClientResult Unit) :=
  .perform (.tcpStream host port timeout) fun outcome => .done (tcpResult host port outcome)

def streamResult (failure : String) (path : String) : Option String → ClientResult Unit
  | none => .ok ()
  | some text => .error (.other (failure ++ path ++ ": " ++ text))

def unixConnect (path : String) : Connecting types (ClientResult Unit) :=
  .perform (.unixStream path) fun failure =>
    .done (streamResult "failed to connect to mux socket " path failure)

def serialOpen (path : String) : Connecting types (ClientResult Unit) :=
  .perform (.serialStream path) fun failure =>
    .done (streamResult "failed to open serial port " path failure)

/-! ## Endpoints and sockets -/

/-- `u16::from_str`: an optional `+`, then decimal digits, within range. -/
def parseDigits : List Char → Nat → Option Nat
  | [], value => some value
  | digit :: digits, value =>
      if digit.isDigit then
        let next := value * 10 + (digit.toNat - '0'.toNat)
        if next < 65536 then parseDigits digits next else none
      else none

def parseU16 (text : List Char) : Option UInt16 :=
  match text with
  | [] => none
  | ['+'] => none
  | '+' :: digits => (parseDigits digits 0).map UInt16.ofNat
  | digits => (parseDigits digits 0).map UInt16.ofNat

def rsplitOnce (separator : Char) : List Char → Option (List Char × List Char)
  | [] => none
  | char :: rest =>
      match rsplitOnce separator rest with
      | some (before, after) => some (char :: before, after)
      | none => if char = separator then some ([], rest) else none

def parseTcpEndpoint (address : String) : Option (String × UInt16) :=
  match rsplitOnce ':' address.toList with
  | some (before, after) =>
      let host := if before.isEmpty then "localhost" else String.ofList before
      (parseU16 after).map fun port => (host, port)
  | none => (parseU16 address.toList).map fun port => ("localhost", port)

def xdgSocket (directory : String) : String := directory ++ "/donglora/mux.sock"

def tmpSocket : String := "/tmp/donglora-mux.sock"

def defaultSocketPath : Connecting types String := do
  match ← var .mux with
  | some path => return path
  | none =>
      match ← var .xdgRuntimeDir with
      | some directory => return xdgSocket directory
      | none => return tmpSocket

def findTmpSocket : Connecting types (Option String) := do
  if ← pathExists tmpSocket then
    return some tmpSocket
  else
    return none

def findMuxSocket : Connecting types (Option String) := do
  match ← var .mux with
  | some path =>
      if ← pathExists path then
        return some path
      else
        return none
  | none =>
      match ← var .xdgRuntimeDir with
      | some directory =>
          if ← pathExists (xdgSocket directory) then
            return some (xdgSocket directory)
          else
            findTmpSocket
      | none => findTmpSocket

def tryTcpEnv (timeout : Duration) : Connecting types (Option String) := do
  match ← var .muxTcp with
  | none => return none
  | some address =>
      match parseTcpEndpoint address with
      | none => return none
      | some (host, port) =>
          match ← tcpConnect host port timeout with
          | .ok () => return some (endpoint host port)
          | .error _ => return none

/-! ## Discovery -/

def usbVid : UInt16 := 0x1209
def usbPid : UInt16 := 0x5741

def bridgeVidPids : List (UInt16 × UInt16) :=
  [(0x10C4, 0xEA60), (0x1A86, 0x55D4), (0x1A86, 0x7522), (0x1A86, 0x7523), (0x0403, 0x6001)]

/-- A native device wins over the known USB-UART bridges. -/
def choosePort (ports : List PortInfo) : Option String :=
  match ports.find? fun port => port.usb == some (usbVid, usbPid) with
  | some port => some port.portName
  | none =>
      (ports.find? fun port => port.usb.any bridgeVidPids.contains).map PortInfo.portName

def findPort : Connecting types (Option String) :=
  .perform .availablePorts fun ports => .done (Option.bind ports choosePort)

def usbSettle : Duration := fromMillis 300

def pollInterval : Duration := fromMillis 500

def pollDevice (otherwise : Connecting types String) : Connecting types String := do
  match ← findPort with
  | some port =>
      sleep usbSettle
      return port
  | none =>
      sleep pollInterval
      otherwise

def waitForDevice : (polls : Nat) → Connecting types String
  | 0 => pollDevice stillWaiting
  | polls + 1 => pollDevice (waitForDevice polls)

/-! ## Entry points -/

def openSerial (port : String) (options : ConnectOptions types) (timeout : Duration) :
    Connecting types (ClientResult Unit) := do
  match ← serialOpen port with
  | .error error => return .error error
  | .ok () => finalize (.serial port) options timeout

/-- A mux socket is opened and, outside the sticky branches, remembered. -/
def openUnix (path : String) (remember : Bool) (options : ConnectOptions types)
    (timeout : Duration) : Connecting types (ClientResult Unit) := do
  match ← unixConnect path with
  | .error error => return .error error
  | .ok () =>
      if remember then
        setUsedMux
        finalize (.muxUnix path) options timeout
      else
        finalize (.muxUnix path) options timeout

def pollMux (path : String) (options : ConnectOptions types) (timeout : Duration)
    (otherwise : Connecting types (ClientResult Unit)) :
    Connecting types (ClientResult Unit) := do
  if ← pathExists path then
    openUnix path false options timeout
  else
    sleep (fromMillis 500)
    otherwise

def waitForMux (path : String) (options : ConnectOptions types) (timeout : Duration) :
    (polls : Nat) → Connecting types (ClientResult Unit)
  | 0 => pollMux path options timeout stillWaiting
  | polls + 1 => pollMux path options timeout (waitForMux path options timeout polls)

def connectMuxSticky (options : ConnectOptions types) (timeout : Duration) (polls : Nat) :
    Connecting types (ClientResult Unit) := do
  match ← tryTcpEnv timeout with
  | some endpoint => finalize (.muxTcp endpoint) options timeout
  | none =>
      let path ← defaultSocketPath
      waitForMux path options timeout polls

def connectWith (options : ConnectOptions types) (polls : Nat) :
    Connecting types (ClientResult Unit) := do
  let timeout := options.timeout.getD defaultTimeout
  match options.port with
  | some port => openSerial port options timeout
  | none =>
      if ← loadUsedMux then
        connectMuxSticky options timeout polls
      else
        match ← tryTcpEnv timeout with
        | some endpoint =>
            setUsedMux
            finalize (.muxTcp endpoint) options timeout
        | none =>
            match ← findMuxSocket with
            | some path => openUnix path true options timeout
            | none =>
                match ← findPort with
                | some port => openSerial port options timeout
                | none =>
                    let port ← waitForDevice polls
                    openSerial port options timeout

def muxNotAvailable : ClientError := .other "mux not available (waiting for restart)"

def noDeviceFound : ClientError :=
  .other "no DongLoRa device found (no mux, no USB device)"

def tryConnectWith (options : ConnectOptions types) : Connecting types (ClientResult Unit) := do
  let timeout := options.timeout.getD defaultTimeout
  match options.port with
  | some port => openSerial port options timeout
  | none =>
      if ← loadUsedMux then
        match ← findMuxSocket with
        | none => return .error muxNotAvailable
        | some path => openUnix path false options timeout
      else
        match ← tryTcpEnv timeout with
        | some endpoint =>
            setUsedMux
            finalize (.muxTcp endpoint) options timeout
        | none =>
            match ← findMuxSocket with
            | some path => openUnix path true options timeout
            | none =>
                match ← findPort with
                | none => return .error noDeviceFound
                | some port => openSerial port options timeout

def noMuxSocketFound : ClientError := .other "no mux socket found"

def connectMuxAutoWith (options : ConnectOptions types) :
    Connecting types (ClientResult Unit) := do
  let timeout := options.timeout.getD defaultTimeout
  match ← tryTcpEnv timeout with
  | some endpoint =>
      setUsedMux
      finalize (.muxTcp endpoint) options timeout
  | none =>
      match ← findMuxSocket with
      | some path => openUnix path true options timeout
      | none => return .error noMuxSocketFound

def muxUnixConnect (path : String) : Connecting types (ClientResult Unit) :=
  openUnix path true .new defaultTimeout

def muxTcpConnect (host : String) (port : UInt16) : Connecting types (ClientResult Unit) := do
  match ← tcpConnect host port defaultTimeout with
  | .error error => return .error error
  | .ok () =>
      setUsedMux
      finalize (.muxTcp (endpoint host port)) .new defaultTimeout

end DongloraClient.Connect
