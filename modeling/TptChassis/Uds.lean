import TptChassis.Library.Machine
import TptChassis.Library.Slices
import TptChassis.Library.Words

/-! The UDS server of `core/src/uds.rs`: diagnostic requests in, responses out,
and a watchdog driven by `tick`. -/

namespace TptChassis.Uds
open Slices
open Words (shortFromBeBytes)

def udsMaxPayload : Nat := 7
/-- Number of ticks a session stays alive without a fresh TesterPresent. -/
def testerPresentTimeout : UInt8 := 5

inductive UdsService where
  | diagnosticSessionControl
  | ecuReset
  | securityAccess
  | readDataByIdentifier
  | writeDataByIdentifier
  | testerPresent
deriving DecidableEq, Repr

namespace UdsService

def toU8 : UdsService → UInt8
  | .diagnosticSessionControl => 0x10
  | .ecuReset => 0x11
  | .securityAccess => 0x27
  | .readDataByIdentifier => 0x22
  | .writeDataByIdentifier => 0x2E
  | .testerPresent => 0x3E

def fromU8 (v : UInt8) : Option UdsService :=
  if v = 0x10 then some .diagnosticSessionControl
  else if v = 0x11 then some .ecuReset
  else if v = 0x27 then some .securityAccess
  else if v = 0x22 then some .readDataByIdentifier
  else if v = 0x2E then some .writeDataByIdentifier
  else if v = 0x3E then some .testerPresent
  else none

def responseSid (service : UdsService) : UInt8 := service.toU8 ||| 0x40

end UdsService

inductive UdsNrc where
  | serviceNotSupported
  | subFunctionNotSupported
  | conditionsNotCorrect
  | requestOutOfRange
  | securityAccessDenied
  | invalidKey
  | requestCorrectlyReceivedResponsePending
deriving DecidableEq, Repr

def UdsNrc.toU8 : UdsNrc → UInt8
  | .serviceNotSupported => 0x11
  | .subFunctionNotSupported => 0x12
  | .conditionsNotCorrect => 0x22
  | .requestOutOfRange => 0x31
  | .securityAccessDenied => 0x33
  | .invalidKey => 0x35
  | .requestCorrectlyReceivedResponsePending => 0x78

inductive UdsSession where
  | default
  | extended
deriving DecidableEq, Repr

def UdsSession.fromU8 (v : UInt8) : Option UdsSession :=
  if v = 0x01 then some .default else if v = 0x03 then some .extended else none

inductive UdsSecurityLevel where
  | locked
  | unlocked
deriving DecidableEq, Repr

/-- Backend data source. `didRead` fills the slice it is given, whose length it
cannot change. -/
class UdsDataProvider (D : Type) where
  didReadLen : D → UInt16 → Option Nat
  didRead : D → UInt16 → List UInt8 → List UInt8
  didWrite : D → UInt16 → List UInt8 → Bool × D
  didRead_length : ∀ data did out, (didRead data did out).length = out.length

/-- A call of the server that reaches the data behind an identifier. -/
inductive Access where
  | didRead (did : UInt16)
  | didWrite (did : UInt16) (data : List UInt8)
deriving DecidableEq, Repr

structure UdsServer (D : Type) where
  data : D
  session : UdsSession
  security : UdsSecurityLevel
  testerPresentPending : Option UInt8
deriving DecidableEq

/-- These identifiers require an unlocked security level to read. -/
def didReserved (did : UInt16) : Bool := 0xF100 ≤ did ∧ did ≤ 0xF1FF

/-- What a handled request leaves: the value returned, the server, the response
buffer, and the accesses made to the data. -/
structure Handled (D : Type) where
  result : Option Nat
  server : UdsServer D
  response : List UInt8
  accesses : List Access
deriving DecidableEq

namespace UdsServer
variable {D : Type}

def new (data : D) : UdsServer D := { data, session := .default, security := .locked, testerPresentPending := none }

def isHeld (server : UdsServer D) : Bool := server.testerPresentPending.isSome

/-- Back to the default session, locked, without a liveness window. -/
def disarm (server : UdsServer D) : UdsServer D :=
  { server with session := .default, security := .locked, testerPresentPending := none }

def tick (server : UdsServer D) : Bool × UdsServer D :=
  match server.testerPresentPending with
  | some n =>
    if n = 0 then (true, server.disarm)
    else
      let next := n - 1
      if next = 0 then (true, server.disarm)
      else (false, { server with testerPresentPending := some next })
  | none => (false, server)

/-- An early `None`, with nothing written. -/
def pass (server : UdsServer D) (response : List UInt8) : Handled D := { result := none, server, response, accesses := [] }

/-- Writes a response from its first byte on. -/
def respond (server : UdsServer D) (response bytes : List UInt8) : Checked (Handled D) := do
  let response ← store response 0 bytes
  let handled := { result := some bytes.length, server, response, accesses := [] }
  return handled

/-- A negative response to the given SID; `None` when the buffer is too short for it. -/
def refuse (server : UdsServer D) (response : List UInt8) (sid : UInt8) (nrc : UdsNrc) : Handled D :=
  if response.length < 3 then server.pass response
  else { result := some 3, server, response := overwrite response 0 [0x7F, sid, nrc.toU8], accesses := [] }

def nrc (server : UdsServer D) (response : List UInt8) (service : UdsService) (nrc : UdsNrc) : Handled D :=
  server.refuse response service.toU8 nrc

def testerPresent (server : UdsServer D) (params response : List UInt8) : Checked (Handled D) :=
  if (params.head?.getD 0) &&& 0x7F ≠ 0x00 then some (server.nrc response .testerPresent .subFunctionNotSupported)
  else
    let server := { server with testerPresentPending := some testerPresentTimeout }
    server.respond response [UdsService.testerPresent.toU8 + 0x40, 0x00]

def diagnosticSessionControl (server : UdsServer D) (params response : List UInt8) : Checked (Handled D) :=
  match params with
  | [] => some (server.pass response)
  | sub :: _ =>
    match UdsSession.fromU8 sub with
    | none => some (server.pass response)
    | some next =>
      let server := { server with session := next }
      -- The session timing (P2 server) is fixed at 0x0032.
      server.respond response [UdsService.diagnosticSessionControl.responseSid, sub, 0x00, 0x32]

/-- A reset leaves the liveness window as it is. -/
def ecuReset (server : UdsServer D) (params response : List UInt8) : Checked (Handled D) :=
  match params with
  | [] => some (server.pass response)
  | sub :: _ =>
    if sub ≠ 0x01 then some (server.nrc response .ecuReset .subFunctionNotSupported)
    else
      let server := { server with session := .default, security := .locked }
      server.respond response [UdsService.ecuReset.responseSid, sub]

def securityAccess (server : UdsServer D) (params response : List UInt8) : Checked (Handled D) :=
  match params with
  | [] => some (server.pass response)
  | sub :: rest =>
    if sub = 0x01 then server.respond response [UdsService.securityAccess.responseSid, sub, 0xAA]
    else if sub = 0x02 then
      match rest with
      | [] => some (server.pass response)
      | key :: _ =>
        let expected : UInt8 := 0xAA ^^^ 0xFF
        if key = expected then
          let server := { server with security := .unlocked }
          server.respond response [UdsService.securityAccess.responseSid, sub]
        else some (server.nrc response .securityAccess .invalidKey)
    else some (server.nrc response .securityAccess .subFunctionNotSupported)

variable [UdsDataProvider D]

def readDataByIdentifier (server : UdsServer D) (params response : List UInt8) : Checked (Handled D) :=
  match params with
  | high :: low :: _ =>
    let did := shortFromBeBytes high low
    match UdsDataProvider.didReadLen server.data did with
    | none => some (server.nrc response .readDataByIdentifier .requestOutOfRange)
    | some len =>
      if len > udsMaxPayload then some (server.nrc response .readDataByIdentifier .requestOutOfRange)
      else if server.security = .locked ∧ didReserved did then
        some (server.nrc response .readDataByIdentifier .securityAccessDenied)
      else do
        let response ← store response 0 [UdsService.readDataByIdentifier.responseSid, high, low]
        let out ← slice response 3 (3 + len)
        let response ← store response 3 (UdsDataProvider.didRead server.data did out)
        let handled := { result := some (3 + len), server, response, accesses := [.didRead did] }
        return handled
  | _ => some (server.pass response)

/-- The security level is checked before the parameters are looked at. -/
def writeDataByIdentifier (server : UdsServer D) (params response : List UInt8) : Checked (Handled D) :=
  if server.security = .locked then some (server.nrc response .writeDataByIdentifier .securityAccessDenied)
  else
    match params with
    | high :: low :: rest =>
      let did := shortFromBeBytes high low
      let (accepted, data) := UdsDataProvider.didWrite server.data did rest
      let server := { server with data }
      let accesses := [Access.didWrite did rest]
      if accepted then do
        let handled ← server.respond response [UdsService.writeDataByIdentifier.responseSid, high, low]
        let handled := { handled with accesses }
        return handled
      else
        let handled := { server.nrc response .writeDataByIdentifier .requestOutOfRange with accesses }
        some handled
    | _ => some (server.pass response)

def handle (server : UdsServer D) (request response : List UInt8) : Checked (Handled D) :=
  match request with
  | [] => some (server.pass response)
  | sid :: params =>
    match UdsService.fromU8 sid with
    | none => some (server.refuse response sid .serviceNotSupported)
    | some .testerPresent => server.testerPresent params response
    | some .diagnosticSessionControl => server.diagnosticSessionControl params response
    | some .ecuReset => server.ecuReset params response
    | some .securityAccess => server.securityAccess params response
    | some .readDataByIdentifier => server.readDataByIdentifier params response
    | some .writeDataByIdentifier => server.writeDataByIdentifier params response

end UdsServer

/-- The data of the repository's tests: one identifier to read and write. -/
structure MockData where
  store : Buffer UInt8 32

instance : UdsDataProvider MockData where
  didReadLen _ did := if did = 0x0001 then some 2 else if did = 0xF190 then some 4 else none
  didRead data _ out := overwrite out 0 (data.store.elements.take out.length)
  didWrite data _ bytes :=
    if fits : 0 + bytes.length ≤ 32 then (true, ⟨data.store.write 0 bytes fits⟩) else (false, data)
  didRead_length data did out := by
    apply length_overwrite
    rw [List.length_take]
    omega

/-- What happens to a server: a request arrives, with the buffer for its
response, or the watchdog ticks. -/
inductive Event where
  | handle (request response : List UInt8)
  | tick
deriving DecidableEq, Repr

inductive Outcome where
  | handled (result : Option Nat) (response : List UInt8) (accesses : List Access)
  | ticked (disarmed : Bool)
deriving DecidableEq, Repr

def machine (D : Type) [UdsDataProvider D] : Machine (UdsServer D) Event Outcome where
  step server event :=
    match event with
    | .handle request response =>
      (server.handle request response).map fun handled =>
        (.handled handled.result handled.response handled.accesses, handled.server)
    | .tick => some (.ticked server.tick.1, server.tick.2)

end TptChassis.Uds
