import TptChassis.Library.Words

/-! SOME/IP messages and their wire format, following `core/src/someip.rs`. An
index or slice outside the bytes, or an overflow, is a panic; a `none` inside is
the codec's own `None`. -/

namespace TptChassis.SomeIp
open Slices Words

def someipProtocolVersion : UInt8 := 0x01
def someipHeaderLen : Nat := 16
def someipMaxPayload : Nat := 1024

inductive SomeIpMessageType where
  | request
  | requestNoReturn
  | notification
  | response
  | error
deriving DecidableEq, Repr

namespace SomeIpMessageType

def toU8 : SomeIpMessageType → UInt8
  | .request => 0x00
  | .requestNoReturn => 0x01
  | .notification => 0x02
  | .response => 0x80
  | .error => 0x81

def fromU8 (v : UInt8) : Option SomeIpMessageType :=
  if v = 0x00 then some .request
  else if v = 0x01 then some .requestNoReturn
  else if v = 0x02 then some .notification
  else if v = 0x80 then some .response
  else if v = 0x81 then some .error
  else none

end SomeIpMessageType

inductive SomeIpReturnCode where
  | ok
  | notOk
  | wrongProtocolVersion
deriving DecidableEq, Repr

namespace SomeIpReturnCode

def toU8 : SomeIpReturnCode → UInt8
  | .ok => 0x00
  | .notOk => 0x01
  | .wrongProtocolVersion => 0x02

def fromU8 (v : UInt8) : Option SomeIpReturnCode :=
  if v = 0x00 then some .ok
  else if v = 0x01 then some .notOk
  else if v = 0x02 then some .wrongProtocolVersion
  else none

end SomeIpReturnCode

structure SomeIpMessageId where
  service : UInt16
  method : UInt16
deriving DecidableEq, Repr

def SomeIpMessageId.toU32 (id : SomeIpMessageId) : UInt32 := pack id.service id.method

def SomeIpMessageId.fromU32 (v : UInt32) : SomeIpMessageId :=
  { service := (v >>> 16).toUInt16, method := (v &&& 0xFFFF).toUInt16 }

structure SomeIpRequestId where
  client : UInt16
  session : UInt16
deriving DecidableEq, Repr

def SomeIpRequestId.toU32 (id : SomeIpRequestId) : UInt32 := pack id.client id.session

def SomeIpRequestId.fromU32 (v : UInt32) : SomeIpRequestId :=
  { client := (v >>> 16).toUInt16, session := (v &&& 0xFFFF).toUInt16 }

structure SomeIpHeader where
  messageId : SomeIpMessageId
  requestId : SomeIpRequestId
  interfaceVersion : UInt8
  messageType : SomeIpMessageType
  returnCode : SomeIpReturnCode
deriving DecidableEq, Repr

namespace SomeIpHeader

/-- Request ID (4), the 4 header bytes after it, and the payload. -/
def lengthField (payloadLen : Nat) : Checked UInt32 :=
  let payload := UInt32.ofNat payloadLen
  if 4 + 4 + payload.toNat < UInt32.size then some (4 + 4 + payload) else none

/-- Encodes the header into the front of `out`, and returns the bytes as left.
The length field is not written here. -/
def encode (header : SomeIpHeader) (out : List UInt8) : Checked (Option Unit × List UInt8) :=
  if out.length < someipHeaderLen then some (none, out)
  else do
    let out ← store out 0 (toBeBytes header.messageId.toU32)
    let out ← store out 8 (toBeBytes header.requestId.toU32)
    let out ← store out 12 [someipProtocolVersion]
    let out ← store out 13 [header.interfaceVersion]
    let out ← store out 14 [header.messageType.toU8]
    let out ← store out 15 [header.returnCode.toU8]
    return (some (), out)

def decode (bytes : List UInt8) : Checked (Option SomeIpHeader) :=
  if bytes.length < someipHeaderLen then some none
  else do
    let messageId := .fromU32 (fromBeBytes (← bytes[0]?) (← bytes[1]?) (← bytes[2]?) (← bytes[3]?))
    let requestId := .fromU32 (fromBeBytes (← bytes[8]?) (← bytes[9]?) (← bytes[10]?) (← bytes[11]?))
    match SomeIpMessageType.fromU8 (← bytes[14]?) with
    | none => return none
    | some messageType =>
      match SomeIpReturnCode.fromU8 (← bytes[15]?) with
      | none => return none
      | some returnCode =>
        let interfaceVersion ← bytes[13]?
        return some { messageId, requestId, interfaceVersion, messageType, returnCode }

end SomeIpHeader

structure SomeIpMessage where
  header : SomeIpHeader
  payloadBuf : Buffer UInt8 someipMaxPayload
  payloadLen : UInt16
deriving DecidableEq

namespace SomeIpMessage

def new (header : SomeIpHeader) (payload : List UInt8) : Checked (Option SomeIpMessage) :=
  if payload.length > someipMaxPayload then some none
  else do
    let payloadBuf ← (Buffer.fill someipMaxPayload 0).copy 0 payload
    return some { header, payloadBuf, payloadLen := UInt16.ofNat payload.length }

def payload (message : SomeIpMessage) : Checked (List UInt8) :=
  slice message.payloadBuf.elements 0 message.payloadLen.toNat

/-- Encodes the message into the front of `out`. Returns the number of bytes, and
the bytes as left. -/
def encode (target : Target) (message : SomeIpMessage) (out : List UInt8) : Checked (Option Nat × List UInt8) := do
  let total ← target.add someipHeaderLen message.payloadLen.toNat
  if out.length < total then
    return (none, out)
  let length ← SomeIpHeader.lengthField message.payloadLen.toNat
  let out ← store out 4 (toBeBytes length)
  let front ← slice out 0 someipHeaderLen
  let (encoded, front) ← message.header.encode front
  let out ← store out 0 front
  match encoded with
  | none => return (none, out)
  | some () =>
    let out ← store out someipHeaderLen (← message.payload)
    return (some total, out)

def decode (target : Target) (bytes : List UInt8) : Checked (Option SomeIpMessage) :=
  if bytes.length < someipHeaderLen then some none
  else do
    match ← SomeIpHeader.decode bytes with
    | none => return none
    | some header =>
      let declared := fromBeBytes (← bytes[4]?) (← bytes[5]?) (← bytes[6]?) (← bytes[7]?)
      -- The conversion to `usize` drops what does not fit.
      let declaredLen := declared.toNat % target.sizes
      if declaredLen < 8 then
        return none
      let expectedTotal ← target.add someipHeaderLen (declaredLen - 8)
      if bytes.length < expectedTotal then
        return none
      if header.messageType = .request ∧ (← bytes[12]?) ≠ someipProtocolVersion then
        return none
      let payload ← slice bytes someipHeaderLen expectedTotal
      SomeIpMessage.new header payload

end SomeIpMessage
end TptChassis.SomeIp
