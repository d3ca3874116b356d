import Mathlib.Tactic.SplitIfs
import TptChassis.SomeIp

/-! What the SOME/IP decoder accepts, and that encoding and decoding undo each
other. Everything is stated against the bytes of a message as one list, so the
order in which the encoder fills them in does not matter. -/

namespace TptChassis.Proofs.SomeIpCodec
open SomeIp Slices Words

theorem type_fromU8 (type : SomeIpMessageType) : SomeIpMessageType.fromU8 type.toU8 = some type := by
  cases type <;> rfl

theorem code_fromU8 (code : SomeIpReturnCode) : SomeIpReturnCode.fromU8 code.toU8 = some code := by
  cases code <;> rfl

theorem type_toU8 {v : UInt8} {type : SomeIpMessageType} (known : SomeIpMessageType.fromU8 v = some type) :
    v = type.toU8 := by
  unfold SomeIpMessageType.fromU8 at known
  split_ifs at known <;> cases known <;> assumption

theorem code_toU8 {v : UInt8} {code : SomeIpReturnCode} (known : SomeIpReturnCode.fromU8 v = some code) :
    v = code.toU8 := by
  unfold SomeIpReturnCode.fromU8 at known
  split_ifs at known <;> cases known <;> assumption

theorem messageId_fromU32 (id : SomeIpMessageId) : .fromU32 id.toU32 = id := by
  simp only [SomeIpMessageId.fromU32, SomeIpMessageId.toU32, high_pack, low_pack]

theorem requestId_fromU32 (id : SomeIpRequestId) : .fromU32 id.toU32 = id := by
  simp only [SomeIpRequestId.fromU32, SomeIpRequestId.toU32, high_pack, low_pack]

theorem messageId_toU32 (v : UInt32) : (SomeIpMessageId.fromU32 v).toU32 = v := pack_halves v

theorem requestId_toU32 (v : UInt32) : (SomeIpRequestId.fromU32 v).toU32 = v := pack_halves v

/-- A byte of a message; what is missing reads as zero. -/
def byteAt (bytes : List UInt8) (index : Nat) : UInt8 := bytes[index]?.getD 0

def declared (bytes : List UInt8) : UInt32 :=
  fromBeBytes (byteAt bytes 4) (byteAt bytes 5) (byteAt bytes 6) (byteAt bytes 7)

/-- The header that bytes of the given type and return code carry. -/
def headerOf (bytes : List UInt8) (type : SomeIpMessageType) (code : SomeIpReturnCode) : SomeIpHeader :=
  { messageId := .fromU32 (fromBeBytes (byteAt bytes 0) (byteAt bytes 1) (byteAt bytes 2) (byteAt bytes 3))
    requestId := .fromU32 (fromBeBytes (byteAt bytes 8) (byteAt bytes 9) (byteAt bytes 10) (byteAt bytes 11))
    interfaceVersion := byteAt bytes 13
    messageType := type
    returnCode := code }

/-- Bytes with a whole header in front. -/
inductive Opens : List UInt8 → Prop where
  | header (b0 b1 b2 b3 b4 b5 b6 b7 b8 b9 b10 b11 b12 b13 b14 b15 : UInt8) (rest : List UInt8) :
      Opens (b0 :: b1 :: b2 :: b3 :: b4 :: b5 :: b6 :: b7 :: b8 :: b9 :: b10 :: b11 :: b12 :: b13 :: b14 :: b15 :: rest)

private theorem four_split (bytes : List UInt8) (long : 4 ≤ bytes.length) :
    ∃ first second third fourth rest, bytes = first :: second :: third :: fourth :: rest ∧
      bytes.length = rest.length + 4 := by
  match bytes, long with
  | first :: second :: third :: fourth :: rest, _ => exact ⟨first, second, third, fourth, rest, rfl, rfl⟩

theorem opens_long {bytes : List UInt8} (long : 16 ≤ bytes.length) : Opens bytes := by
  obtain ⟨b0, b1, b2, b3, rest, rfl, length⟩ := four_split bytes (Nat.le_trans (by decide) long)
  obtain ⟨b4, b5, b6, b7, rest, rfl, length⟩ := four_split rest (by omega)
  obtain ⟨b8, b9, b10, b11, rest, rfl, length⟩ := four_split rest (by omega)
  obtain ⟨b12, b13, b14, b15, rest, rfl, _⟩ := four_split rest (by omega)
  exact .header ..

private theorem whole_header {bytes : List UInt8} (long : 16 ≤ bytes.length) : ¬ bytes.length < someipHeaderLen :=
  Nat.not_lt.mpr long

/-- The header decoder rejects exactly the types and return codes it does not know. -/
theorem header_decode {bytes : List UInt8} (long : 16 ≤ bytes.length) :
    SomeIpHeader.decode bytes = some (do
      let type ← SomeIpMessageType.fromU8 (byteAt bytes 14)
      let code ← SomeIpReturnCode.fromU8 (byteAt bytes 15)
      return headerOf bytes type code) := by
  cases opens_long long with
  | header b0 b1 b2 b3 b4 b5 b6 b7 b8 b9 b10 b11 b12 b13 b14 b15 rest =>
    rw [SomeIpHeader.decode, if_neg (whole_header long)]
    simp only [List.getElem?_cons_succ, List.getElem?_cons_zero, Option.bind_eq_bind, Option.bind_some, Option.pure_def,
      byteAt, Option.getD_some]
    cases SomeIpMessageType.fromU8 b14 with
    | none => rfl
    | some type =>
      cases SomeIpReturnCode.fromU8 b15 with
      | none => rfl
      | some code => rfl

section
variable {target : Target} {bytes : List UInt8}

theorem decode_short (short : bytes.length < 16) : SomeIpMessage.decode target bytes = some none := if_pos short

theorem decode_unknown_type (long : 16 ≤ bytes.length) (unknown : SomeIpMessageType.fromU8 (byteAt bytes 14) = none) :
    SomeIpMessage.decode target bytes = some none := by
  rw [SomeIpMessage.decode, if_neg (whole_header long), header_decode long, unknown]
  rfl

theorem decode_unknown_code (long : 16 ≤ bytes.length) (unknown : SomeIpReturnCode.fromU8 (byteAt bytes 15) = none) :
    SomeIpMessage.decode target bytes = some none := by
  rw [SomeIpMessage.decode, if_neg (whole_header long), header_decode long, unknown]
  cases SomeIpMessageType.fromU8 (byteAt bytes 14) with
  | none => rfl
  | some type => rfl

/-- What is left to check when the header is known. -/
theorem decode_known {type : SomeIpMessageType} {code : SomeIpReturnCode} (long : 16 ≤ bytes.length)
    (typed : SomeIpMessageType.fromU8 (byteAt bytes 14) = some type)
    (coded : SomeIpReturnCode.fromU8 (byteAt bytes 15) = some code) :
    SomeIpMessage.decode target bytes =
      if (declared bytes).toNat % target.sizes < 8 then some none
      else (target.add 16 ((declared bytes).toNat % target.sizes - 8)).bind fun total =>
        if bytes.length < total then some none
        else if type = .request ∧ byteAt bytes 12 ≠ someipProtocolVersion then some none
        else (slice bytes 16 total).bind (SomeIpMessage.new (headerOf bytes type code)) := by
  rw [SomeIpMessage.decode, if_neg (whole_header long), header_decode long, typed, coded]
  cases opens_long long with
  | header => rfl

end

/-- A message made of the given header and payload. -/
structure Carries (message : SomeIpMessage) (header : SomeIpHeader) (payload : List UInt8) : Prop where
  header : message.header = header
  length : message.payloadLen.toNat = payload.length
  data : message.payload = some payload
  short : payload.length ≤ someipMaxPayload

theorem new_carries (header : SomeIpHeader) {payload : List UInt8} (short : payload.length ≤ someipMaxPayload) :
    ∃ message, SomeIpMessage.new header payload = some (some message) ∧ Carries message header payload := by
  obtain ⟨buffer, copied, elements⟩ := (Buffer.fill someipMaxPayload (0 : UInt8)).copy_eq
    (show 0 + payload.length ≤ someipMaxPayload from (Nat.zero_add _).symm ▸ short)
  have length : (UInt16.ofNat payload.length).toNat = payload.length := by
    rw [someipMaxPayload] at short
    rw [UInt16.toNat_ofNat']
    omega
  refine ⟨⟨header, buffer, UInt16.ofNat payload.length⟩, ?_, rfl, length, ?_, short⟩
  · rw [SomeIpMessage.new, if_neg (Nat.not_lt.mpr short), copied]
    rfl
  · simp only [SomeIpMessage.payload, length]
    rw [slice_front (by rw [buffer.sized]; exact short), elements, take_overwrite_zero]

theorem new_long (header : SomeIpHeader) {payload : List UInt8} (long : someipMaxPayload < payload.length) :
    SomeIpMessage.new header payload = some none :=
  if_pos long

def wire (header : SomeIpHeader) (payload : List UInt8) : List UInt8 :=
  toBeBytes header.messageId.toU32 ++ toBeBytes (UInt32.ofNat (8 + payload.length)) ++
    toBeBytes header.requestId.toU32 ++
    [someipProtocolVersion, header.interfaceVersion, header.messageType.toU8, header.returnCode.toU8] ++ payload

theorem length_wire (header : SomeIpHeader) (payload : List UInt8) :
    (wire header payload).length = 16 + payload.length := by
  simp only [wire, List.length_append, length_toBeBytes, List.length_cons, List.length_nil]

theorem lengthField_eq {length : Nat} (short : length ≤ someipMaxPayload) :
    SomeIpHeader.lengthField length = some (UInt32.ofNat (8 + length)) := by
  rw [someipMaxPayload] at short
  have fits : (UInt32.ofNat length).toNat = length := by
    rw [UInt32.toNat_ofNat']
    omega
  have total : 4 + 4 + (UInt32.ofNat length).toNat < UInt32.size := by
    rw [fits, UInt32.size]
    omega
  rw [SomeIpHeader.lengthField, if_pos total, UInt32.ofNat_add]
  rfl

private theorem header_encode (header : SomeIpHeader) (o0 o1 o2 o3 o4 o5 o6 o7 o8 o9 o10 o11 o12 o13 o14 o15 : UInt8) :
    header.encode [o0, o1, o2, o3, o4, o5, o6, o7, o8, o9, o10, o11, o12, o13, o14, o15] =
      some (some (), toBeBytes header.messageId.toU32 ++ [o4, o5, o6, o7] ++ toBeBytes header.requestId.toU32 ++
        [someipProtocolVersion, header.interfaceVersion, header.messageType.toU8, header.returnCode.toU8]) := by
  obtain ⟨m0, m1, m2, m3, messageId⟩ : ∃ m0 m1 m2 m3, toBeBytes header.messageId.toU32 = [m0, m1, m2, m3] :=
    ⟨_, _, _, _, rfl⟩
  obtain ⟨r0, r1, r2, r3, requestId⟩ : ∃ r0 r1 r2 r3, toBeBytes header.requestId.toU32 = [r0, r1, r2, r3] :=
    ⟨_, _, _, _, rfl⟩
  simp [SomeIpHeader.encode, messageId, requestId, store, overwrite, someipHeaderLen]

theorem encode_writes (target : Target) {message : SomeIpMessage} {header : SomeIpHeader} {payload : List UInt8}
    (carries : Carries message header payload) (out : List UInt8) :
    message.encode target out =
      if out.length < 16 + payload.length then some (none, out)
      else some (some (16 + payload.length), overwrite out 0 (wire header payload)) := by
  have short := carries.short
  rw [someipMaxPayload] at short
  have sum : target.add someipHeaderLen payload.length = some (16 + payload.length) :=
    Target.add_eq (Nat.lt_of_lt_of_le (by rw [someipHeaderLen]; omega) target.wide)
  simp only [SomeIpMessage.encode, carries.length, carries.data, carries.header, sum, lengthField_eq carries.short,
    Option.bind_eq_bind, Option.bind_some, Option.pure_def]
  split
  · rfl
  next fits =>
    have long : 16 ≤ out.length := by omega
    cases opens_long long with
    | header o0 o1 o2 o3 o4 o5 o6 o7 o8 o9 o10 o11 o12 o13 o14 o15 rest =>
      simp only [List.length_cons] at fits
      obtain ⟨l0, l1, l2, l3, length⟩ : ∃ l0 l1 l2 l3, toBeBytes (UInt32.ofNat (8 + payload.length)) = [l0, l1, l2, l3] :=
        ⟨_, _, _, _, rfl⟩
      have lengthStored : store (o0 :: o1 :: o2 :: o3 :: o4 :: o5 :: o6 :: o7 :: o8 :: o9 :: o10 :: o11 :: o12 :: o13 ::
          o14 :: o15 :: rest) 4 [l0, l1, l2, l3] = some (o0 :: o1 :: o2 :: o3 :: l0 :: l1 :: l2 :: l3 :: o8 :: o9 ::
          o10 :: o11 :: o12 :: o13 :: o14 :: o15 :: rest) :=
        store_eq (by simp only [List.length_cons, List.length_nil]; omega)
      have front : slice (o0 :: o1 :: o2 :: o3 :: l0 :: l1 :: l2 :: l3 :: o8 :: o9 :: o10 :: o11 :: o12 :: o13 :: o14 ::
          o15 :: rest) 0 someipHeaderLen =
          some [o0, o1, o2, o3, l0, l1, l2, l3, o8, o9, o10, o11, o12, o13, o14, o15] :=
        slice_front (by simp only [someipHeaderLen, List.length_cons]; omega)
      rw [length, lengthStored, Option.bind_some, front, Option.bind_some, header_encode, Option.bind_some]
      generalize top : toBeBytes header.messageId.toU32 ++ [l0, l1, l2, l3] ++ toBeBytes header.requestId.toU32 ++
        [someipProtocolVersion, header.interfaceVersion, header.messageType.toU8, header.returnCode.toU8] = written
      have sixteen : written.length = 16 := top ▸ rfl
      have wired : wire header payload = written ++ payload := by rw [wire, length, top]
      have headStored : store (o0 :: o1 :: o2 :: o3 :: l0 :: l1 :: l2 :: l3 :: o8 :: o9 :: o10 :: o11 :: o12 :: o13 ::
          o14 :: o15 :: rest) 0 written = some (written ++ rest) := by
        rw [store_eq (by simp only [List.length_cons]; omega), overwrite, sixteen]
        rfl
      have dataStored : store (written ++ rest) someipHeaderLen payload =
          some (written ++ payload ++ rest.drop payload.length) := by
        rw [store_eq (by simp only [List.length_append, someipHeaderLen]; omega), overwrite, someipHeaderLen,
          List.take_left' sixteen, ← sixteen, List.drop_length_add_append]
      rw [headStored, Option.bind_some]
      dsimp only
      rw [dataStored, Option.bind_some, wired, overwrite, List.length_append, sixteen, Nat.zero_add, Nat.add_comm 16]
      rfl

theorem declared_wire (header : SomeIpHeader) (payload rest : List UInt8) :
    declared (wire header payload ++ rest) = UInt32.ofNat (8 + payload.length) :=
  fromBeBytes_toBeBytes (UInt32.ofNat (8 + payload.length))

theorem headerOf_wire (header : SomeIpHeader) (payload rest : List UInt8) :
    headerOf (wire header payload ++ rest) header.messageType header.returnCode = header := by
  have messageId : (headerOf (wire header payload ++ rest) header.messageType header.returnCode).messageId =
      header.messageId :=
    (congrArg SomeIpMessageId.fromU32 (fromBeBytes_toBeBytes _)).trans (messageId_fromU32 _)
  have requestId : (headerOf (wire header payload ++ rest) header.messageType header.returnCode).requestId =
      header.requestId :=
    (congrArg SomeIpRequestId.fromU32 (fromBeBytes_toBeBytes _)).trans (requestId_fromU32 _)
  calc headerOf (wire header payload ++ rest) header.messageType header.returnCode
      = ⟨header.messageId, header.requestId, header.interfaceVersion, header.messageType, header.returnCode⟩ := by
        rw [← messageId, ← requestId]
        rfl
    _ = header := rfl

/-- The decoder finds the message at the front of any longer buffer. -/
theorem decode_wire (target : Target) {message : SomeIpMessage} {header : SomeIpHeader} {payload : List UInt8}
    (made : SomeIpMessage.new header payload = some (some message)) (short : payload.length ≤ someipMaxPayload)
    (rest : List UInt8) : SomeIpMessage.decode target (wire header payload ++ rest) = some (some message) := by
  rw [someipMaxPayload] at short
  have length : (wire header payload ++ rest).length = 16 + payload.length + rest.length := by
    rw [List.length_append, length_wire]
  have small : (declared (wire header payload ++ rest)).toNat % target.sizes = 8 + payload.length := by
    rw [declared_wire, UInt32.toNat_ofNat']
    have wide := target.wide
    rw [Nat.mod_eq_of_lt (by omega), Nat.mod_eq_of_lt (by omega)]
  have sum : target.add 16 (8 + payload.length - 8) = some (16 + payload.length) := by
    have wide := target.wide
    rw [Nat.add_sub_cancel_left]
    exact Target.add_eq (by omega)
  have data : slice (wire header payload ++ rest) 16 (16 + payload.length) = some payload := by
    rw [slice_eq (Nat.le_add_right _ _) (by omega), Nat.add_sub_cancel_left]
    have behind : (wire header payload ++ rest).drop 16 = payload ++ rest := rfl
    rw [behind, List.take_left]
  have version : byteAt (wire header payload ++ rest) 12 = someipProtocolVersion := rfl
  have typed : SomeIpMessageType.fromU8 (byteAt (wire header payload ++ rest) 14) = some header.messageType :=
    type_fromU8 header.messageType
  have coded : SomeIpReturnCode.fromU8 (byteAt (wire header payload ++ rest) 15) = some header.returnCode :=
    code_fromU8 header.returnCode
  rw [decode_known (by omega) typed coded, small,
    if_neg (by omega), sum, Option.bind_some, if_neg (by omega), if_neg (fun wrong => wrong.2 version), data,
    Option.bind_some, headerOf_wire]
  exact made

/-- Encoding and decoding the message made of a header and a payload. The encoder
refuses a buffer that is too short and leaves it alone; otherwise it touches only the
front, and the whole buffer decodes to the message again, whatever stands behind it. -/
theorem message_round_trip (target : Target) (header : SomeIpHeader) (payload : List UInt8)
    (short : payload.length ≤ someipMaxPayload) (out : List UInt8) :
    ∃ message, SomeIpMessage.new header payload = some (some message) ∧ Carries message header payload ∧
      (message.encode target out = some (none, out) ↔ out.length < 16 + payload.length) ∧
      (16 + payload.length ≤ out.length →
        ∃ written, message.encode target out = some (some (16 + payload.length), written) ∧
          written.length = out.length ∧
          written.drop (16 + payload.length) = out.drop (16 + payload.length) ∧
          SomeIpMessage.decode target written = some (some message)) := by
  obtain ⟨message, made, carries⟩ := new_carries header short
  have encoded := encode_writes target carries out
  refine ⟨message, made, carries, ?_, ?_⟩
  · constructor
    · intro refused
      by_contra fits
      rw [if_neg fits, refused] at encoded
      cases encoded
    · intro narrow
      rw [encoded, if_pos narrow]
  · intro fits
    rw [if_neg (Nat.not_lt.mpr fits)] at encoded
    have inside : 0 + (wire header payload).length ≤ out.length := by
      rw [length_wire, Nat.zero_add]
      exact fits
    have written : overwrite out 0 (wire header payload) = wire header payload ++ out.drop (16 + payload.length) := by
      rw [overwrite, length_wire, Nat.zero_add]
      rfl
    refine ⟨_, encoded, length_overwrite inside, ?_, ?_⟩
    · rw [written]
      exact List.drop_left' (length_wire header payload)
    · rw [written]
      exact decode_wire target made short _

theorem message_round_trip_four_bytes :
    ∃ message, SomeIpMessage.new ⟨⟨0x1234, 0x5678⟩, ⟨0xABCD, 0xEF01⟩, 3, .notification, .ok⟩ [1, 2, 3, 4] =
        some (some message) ∧
      ∃ written, message.encode ⟨UInt64.size, by decide⟩ (List.replicate 24 0xEE) = some (some 20, written) ∧
        SomeIpMessage.decode ⟨UInt64.size, by decide⟩ written = some (some message) := by
  obtain ⟨message, made, _, _, fitting⟩ := message_round_trip ⟨UInt64.size, by decide⟩
    ⟨⟨0x1234, 0x5678⟩, ⟨0xABCD, 0xEF01⟩, 3, .notification, .ok⟩ [1, 2, 3, 4] (by decide) (List.replicate 24 0xEE)
  obtain ⟨written, encoded, _, _, decoded⟩ := fitting (by decide)
  exact ⟨message, made, written, encoded, decoded⟩

/-- The byte strings that begin with a message. -/
structure WellFormed (bytes : List UInt8) : Prop where
  long : 16 ≤ bytes.length
  type : ∃ type, SomeIpMessageType.fromU8 (byteAt bytes 14) = some type
  code : ∃ code, SomeIpReturnCode.fromU8 (byteAt bytes 15) = some code
  declares : 8 ≤ (declared bytes).toNat ∧ (declared bytes).toNat ≤ 8 + someipMaxPayload
  whole : (declared bytes).toNat + 8 ≤ bytes.length
  version : SomeIpMessageType.fromU8 (byteAt bytes 14) = some .request → byteAt bytes 12 = someipProtocolVersion

def payloadOf (bytes : List UInt8) : List UInt8 := (bytes.drop 16).take ((declared bytes).toNat - 8)

theorem length_payloadOf {bytes : List UInt8} (wellFormed : WellFormed bytes) :
    (payloadOf bytes).length = (declared bytes).toNat - 8 := by
  have whole := wellFormed.whole
  simp only [payloadOf, List.length_take, List.length_drop]
  omega

section
variable {target : Target} {bytes : List UInt8}

/-- Where sizes do not overflow, decoding a well-formed string makes a message
of its header and payload, and decoding any other string makes none. -/
theorem decode_cases (words : UInt32.size ≤ target.sizes)
    (adds : 16 ≤ bytes.length → (declared bytes).toNat + 8 < target.sizes) :
    (¬ WellFormed bytes ∧ SomeIpMessage.decode target bytes = some none) ∨
    (WellFormed bytes ∧ ∃ type code, SomeIpMessageType.fromU8 (byteAt bytes 14) = some type ∧
      SomeIpReturnCode.fromU8 (byteAt bytes 15) = some code ∧
      SomeIpMessage.decode target bytes = SomeIpMessage.new (headerOf bytes type code) (payloadOf bytes)) := by
  by_cases long : 16 ≤ bytes.length
  case neg => exact .inl ⟨fun wellFormed => long wellFormed.long, decode_short (Nat.lt_of_not_le long)⟩
  cases typed : SomeIpMessageType.fromU8 (byteAt bytes 14) with
  | none =>
    refine .inl ⟨?_, decode_unknown_type long typed⟩
    intro wellFormed
    obtain ⟨type, known⟩ := wellFormed.type
    cases typed.symm.trans known
  | some type =>
    cases coded : SomeIpReturnCode.fromU8 (byteAt bytes 15) with
    | none =>
      refine .inl ⟨?_, decode_unknown_code long coded⟩
      intro wellFormed
      obtain ⟨code, known⟩ := wellFormed.code
      cases coded.symm.trans known
    | some code =>
      have size : (declared bytes).toNat % target.sizes = (declared bytes).toNat :=
        Nat.mod_eq_of_lt (Nat.lt_of_lt_of_le (declared bytes).toNat_lt words)
      rw [decode_known long typed coded, size]
      by_cases tiny : (declared bytes).toNat < 8
      · refine .inl ⟨?_, if_pos tiny⟩
        intro wellFormed
        exact absurd wellFormed.declares.1 (Nat.not_le.mpr tiny)
      have sum : target.add 16 ((declared bytes).toNat - 8) = some ((declared bytes).toNat + 8) := by
        have total : 16 + ((declared bytes).toNat - 8) = (declared bytes).toNat + 8 := by omega
        have small := adds long
        rw [Target.add_eq (by omega), total]
      rw [if_neg tiny, sum, Option.bind_some]
      by_cases cut : bytes.length < (declared bytes).toNat + 8
      · refine .inl ⟨?_, if_pos cut⟩
        intro wellFormed
        exact absurd wellFormed.whole (Nat.not_le.mpr cut)
      rw [if_neg cut]
      by_cases wrong : type = .request ∧ byteAt bytes 12 ≠ someipProtocolVersion
      · refine .inl ⟨?_, if_pos wrong⟩
        intro wellFormed
        exact wrong.2 (wellFormed.version (typed.trans (congrArg some wrong.1)))
      have rest : (declared bytes).toNat + 8 - 16 = (declared bytes).toNat - 8 := by omega
      rw [if_neg wrong, slice_eq (by omega) (by omega), Option.bind_some, rest]
      change (_ ∧ SomeIpMessage.new _ (payloadOf bytes) = _) ∨ (_ ∧ ∃ _ _, _ ∧ _ ∧ SomeIpMessage.new _ (payloadOf bytes) = _)
      by_cases fits : (declared bytes).toNat ≤ 8 + someipMaxPayload
      · refine .inr ⟨⟨long, ⟨type, typed⟩, ⟨code, coded⟩, ⟨Nat.not_lt.mp tiny, fits⟩, Nat.not_lt.mp cut, ?_⟩,
          type, code, rfl, rfl, rfl⟩
        intro request
        cases typed.symm.trans request
        by_contra other
        exact wrong ⟨rfl, other⟩
      · refine .inl ⟨fun wellFormed => fits wellFormed.declares.2, new_long _ ?_⟩
        simp only [payloadOf, List.length_take, List.length_drop]
        omega

theorem wire_headerOf (wellFormed : WellFormed bytes) {type : SomeIpMessageType} {code : SomeIpReturnCode}
    (typed : SomeIpMessageType.fromU8 (byteAt bytes 14) = some type)
    (coded : SomeIpReturnCode.fromU8 (byteAt bytes 15) = some code) :
    wire (headerOf bytes type code) (payloadOf bytes) =
      (bytes.take ((declared bytes).toNat + 8)).set 12 someipProtocolVersion := by
  have length : UInt32.ofNat (8 + (payloadOf bytes).length) = declared bytes := by
    have declares := wellFormed.declares.1
    rw [length_payloadOf wellFormed, Nat.add_sub_cancel' declares, UInt32.ofNat_toNat]
  have size : (declared bytes).toNat + 8 = ((declared bytes).toNat - 8) + 16 := by
    have declares := wellFormed.declares.1
    omega
  have fields : toBeBytes (headerOf bytes type code).messageId.toU32 =
        [byteAt bytes 0, byteAt bytes 1, byteAt bytes 2, byteAt bytes 3] ∧
      toBeBytes (headerOf bytes type code).requestId.toU32 =
        [byteAt bytes 8, byteAt bytes 9, byteAt bytes 10, byteAt bytes 11] := by
    simp only [headerOf, messageId_toU32, requestId_toU32, toBeBytes_fromBeBytes, and_self]
  have lengthBytes : toBeBytes (declared bytes) = [byteAt bytes 4, byteAt bytes 5, byteAt bytes 6, byteAt bytes 7] :=
    toBeBytes_fromBeBytes _ _ _ _
  have known : (headerOf bytes type code).messageType.toU8 = byteAt bytes 14 ∧
      (headerOf bytes type code).returnCode.toU8 = byteAt bytes 15 := ⟨(type_toU8 typed).symm, (code_toU8 coded).symm⟩
  rw [wire, length, fields.1, fields.2, lengthBytes, known.1, known.2, payloadOf, size]
  generalize (declared bytes).toNat - 8 = count
  cases opens_long wellFormed.long with
  | header => rfl

/-- The decoder accepts exactly the well-formed strings, and the message it
makes of one encodes to the bytes it was read from, with the version written out. -/
theorem decode_exact (words : UInt32.size ≤ target.sizes)
    (adds : 16 ≤ bytes.length → (declared bytes).toNat + 8 < target.sizes) :
    (∃ result, SomeIpMessage.decode target bytes = some result) ∧
    ((∃ message, SomeIpMessage.decode target bytes = some (some message)) ↔ WellFormed bytes) ∧
    ∀ message, SomeIpMessage.decode target bytes = some (some message) →
      ∀ out : List UInt8, (declared bytes).toNat + 8 ≤ out.length →
        message.encode target out = some (some ((declared bytes).toNat + 8),
          overwrite out 0 ((bytes.take ((declared bytes).toNat + 8)).set 12 someipProtocolVersion)) := by
  rcases decode_cases words adds with ⟨malformed, rejected⟩ | ⟨wellFormed, type, code, typed, coded, decoded⟩
  · refine ⟨⟨none, rejected⟩, ⟨?_, fun wellFormed => absurd wellFormed malformed⟩, ?_⟩
    · intro accepted
      obtain ⟨message, accepted⟩ := accepted
      cases rejected.symm.trans accepted
    · intro message accepted
      cases rejected.symm.trans accepted
  · have declares := wellFormed.declares
    have short : (payloadOf bytes).length ≤ someipMaxPayload := by
      rw [length_payloadOf wellFormed]
      omega
    obtain ⟨made, new, carries⟩ := new_carries (headerOf bytes type code) short
    rw [new] at decoded
    refine ⟨⟨_, decoded⟩, ⟨fun _ => wellFormed, fun _ => ⟨made, decoded⟩⟩, ?_⟩
    intro message accepted out room
    cases decoded.symm.trans accepted
    have size : 16 + (payloadOf bytes).length = (declared bytes).toNat + 8 := by
      rw [length_payloadOf wellFormed]
      omega
    rw [encode_writes target carries, size, if_neg (Nat.not_lt.mpr room), wire_headerOf wellFormed typed coded]

/-- A fire-and-forget request of two bytes under another protocol version, with
one byte behind it. -/
theorem decode_exact_two_bytes :
    ∃ message, SomeIpMessage.decode ⟨UInt64.size, by decide⟩
        [0, 1, 0, 2, 0, 0, 0, 10, 0, 3, 0, 4, 7, 5, 1, 0, 8, 9, 6] = some (some message) ∧
      message.encode ⟨UInt64.size, by decide⟩ (List.replicate 18 0) =
        some (some 18, [0, 1, 0, 2, 0, 0, 0, 10, 0, 3, 0, 4, 1, 5, 1, 0, 8, 9]) := by
  have exact := @decode_exact ⟨UInt64.size, by decide⟩ [0, 1, 0, 2, 0, 0, 0, 10, 0, 3, 0, 4, 7, 5, 1, 0, 8, 9, 6]
    (by decide) (fun _ => by decide)
  obtain ⟨message, decoded⟩ := exact.2.1.mpr
    ⟨by decide, ⟨.requestNoReturn, rfl⟩, ⟨.ok, rfl⟩, by decide, by decide, by decide⟩
  exact ⟨message, decoded, exact.2.2 message decoded (List.replicate 18 0) (by decide)⟩

/-- A known header with one of the last eight lengths, which with the bytes in
front of it add up to more than a 32-bit `usize` holds. -/
structure Overflows (bytes : List UInt8) : Prop where
  long : 16 ≤ bytes.length
  type : ∃ type, SomeIpMessageType.fromU8 (byteAt bytes 14) = some type
  code : ∃ code, SomeIpReturnCode.fromU8 (byteAt bytes 15) = some code
  huge : UInt32.size - 8 ≤ (declared bytes).toNat

end

/-- The bare-metal target, on which `usize` has 32 bits. -/
def bareMetal : Target := ⟨UInt32.size, by decide⟩

/-- On the bare-metal target decoding goes through without a panic exactly when
the declared length is not among the last eight there are, or the header is
rejected before the length is looked at. -/
theorem bare_metal_decode_iff (bytes : List UInt8) :
    (∃ result, SomeIpMessage.decode bareMetal bytes = some result) ↔ ¬ Overflows bytes := by
  have size : bareMetal.sizes = 4294967296 := rfl
  have wide : UInt32.size = 4294967296 := rfl
  constructor
  · intro decoded overflows
    obtain ⟨type, typed⟩ := overflows.type
    obtain ⟨code, coded⟩ := overflows.code
    have huge := overflows.huge
    have bound := (declared bytes).toNat_lt
    obtain ⟨result, decoded⟩ := decoded
    have stops : bareMetal.add 16 ((declared bytes).toNat - 8) = none := Target.add_overflow (by omega)
    rw [decode_known overflows.long typed coded, Nat.mod_eq_of_lt (by omega), if_neg (by omega), stops] at decoded
    cases decoded
  · intro small
    by_cases adds : 16 ≤ bytes.length → (declared bytes).toNat + 8 < bareMetal.sizes
    · exact (decode_exact (Nat.le_refl _) adds).1
    have long : 16 ≤ bytes.length := by
      by_contra short
      exact adds (fun long => absurd long short)
    have huge : UInt32.size - 8 ≤ (declared bytes).toNat := by
      by_contra less
      exact adds (fun _ => by omega)
    cases typed : SomeIpMessageType.fromU8 (byteAt bytes 14) with
    | none => exact ⟨none, decode_unknown_type long typed⟩
    | some type =>
      cases coded : SomeIpReturnCode.fromU8 (byteAt bytes 15) with
      | none => exact ⟨none, decode_unknown_code long coded⟩
      | some code => exact absurd ⟨long, ⟨type, typed⟩, ⟨code, coded⟩, huge⟩ small

/-- Sixteen bytes that declare the greatest length there is. -/
theorem bare_metal_decode_overflows :
    ¬ ∀ bytes : List UInt8, ∃ result, SomeIpMessage.decode bareMetal bytes = some result := by
  intro claimed
  obtain ⟨result, decoded⟩ := claimed [0, 0, 0, 0, 0xFF, 0xFF, 0xFF, 0xFF, 0, 0, 0, 0, 1, 0, 0, 0]
  have stopped : SomeIpMessage.decode bareMetal [0, 0, 0, 0, 0xFF, 0xFF, 0xFF, 0xFF, 0, 0, 0, 0, 1, 0, 0, 0] = none := by
    decide
  cases stopped.symm.trans decoded

end TptChassis.Proofs.SomeIpCodec
