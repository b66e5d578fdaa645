import Meshtastenstein.Constants
import Meshtastenstein.Lib.Bytes
/-!
# Over-the-air frames

The 16-byte header, its flags byte and the frame of header and payload.
-/

namespace Meshtastenstein

open Lib.Bytes

def HEADER_SIZE : Nat := 16

/-! ## Header -/

structure PacketHeader where
  destination : UInt32
  sender : UInt32
  packetId : UInt32
  /-- `hop_limit` in bits 0-2, `want_ack` in bit 3, `via_mqtt` in bit 4,
  `hop_start` in bits 5-7. -/
  flags : UInt8
  channelIndex : UInt8
  nextHop : UInt8
  relayNode : UInt8
deriving DecidableEq

namespace PacketHeader

def hopLimit (header : PacketHeader) : UInt8 := header.flags &&& 0x07

def hopStart (header : PacketHeader) : UInt8 := (header.flags >>> 5) &&& 0x07

def wantAck (header : PacketHeader) : Bool := (header.flags &&& 0x08) != 0

def viaMqtt (header : PacketHeader) : Bool := (header.flags &&& 0x10) != 0

def setHopLimit (header : PacketHeader) (limit : UInt8) : PacketHeader :=
  { header with flags := (header.flags &&& 0xF8) ||| (limit &&& 0x07) }

def makeFlags (wantAck viaMqtt : Bool) (hopLimit hopStart : UInt8) : UInt8 :=
  let wantAckBit : UInt8 := if wantAck then 0x08 else 0
  let viaMqttBit : UInt8 := if viaMqtt then 0x10 else 0
  let hopStartBits : UInt8 := (hopStart &&& 0x07) <<< 5
  wantAckBit ||| viaMqttBit ||| (hopLimit &&& 0x07) ||| hopStartBits

def encode (header : PacketHeader) : Bytes :=
  toLeBytes header.destination ++ (toLeBytes header.sender ++
    (toLeBytes header.packetId ++
      [header.flags, header.channelIndex, header.nextHop, header.relayNode]))

def decode (buf : Bytes) : Option PacketHeader :=
  if buf.length < HEADER_SIZE then none
  else
    some
      { destination := wordAt buf 0
        sender := wordAt buf 4
        packetId := wordAt buf 8
        flags := buf.getD 12 0
        channelIndex := buf.getD 13 0
        nextHop := buf.getD 14 0
        relayNode := buf.getD 15 0 }

def isForUs (header : PacketHeader) (ourNodeNum : UInt32) : Bool :=
  header.destination == ourNodeNum || header.destination == BROADCAST_ADDR

@[simp] theorem length_encode (header : PacketHeader) :
    header.encode.length = HEADER_SIZE := rfl

theorem decode_encode_append (header : PacketHeader) (payload : Bytes) :
    decode (header.encode ++ payload) = some header := by
  have hdestination : wordAt (header.encode ++ payload) 0 = header.destination :=
    wordAt_append [] _ _
  have hsender : wordAt (header.encode ++ payload) 4 = header.sender :=
    wordAt_append (toLeBytes header.destination) _ _
  have hpacketId : wordAt (header.encode ++ payload) 8 = header.packetId :=
    wordAt_append (toLeBytes header.destination ++ toLeBytes header.sender) _ _
  have hlength : ¬ (header.encode ++ payload).length < HEADER_SIZE := by
    rw [List.length_append, length_encode]
    omega
  unfold decode
  rw [if_neg hlength, hdestination, hsender, hpacketId]
  rfl

/-! ### Flags -/

/-- A mask of the flags byte sees the old bits above the hop limit and the new hop limit. -/
theorem setHopLimit_flags_and (header : PacketHeader) (limit mask : UInt8) :
    (header.setHopLimit limit).flags &&& mask =
      (header.flags &&& (0xF8 &&& mask)) ||| (limit &&& (0x07 &&& mask)) := by
  apply UInt8.toBitVec_inj.mp
  apply BitVec.eq_of_getLsbD_eq
  intro i _
  simp only [setHopLimit, UInt8.toBitVec_and, UInt8.toBitVec_or, BitVec.getLsbD_and,
    BitVec.getLsbD_or]
  grind

theorem hopLimit_setHopLimit (header : PacketHeader) (limit : UInt8) :
    (header.setHopLimit limit).hopLimit = limit &&& 0x07 := by
  have hold : (0xF8 &&& 0x07 : UInt8) = 0 := rfl
  have hnew : (0x07 &&& 0x07 : UInt8) = 0x07 := rfl
  unfold hopLimit
  rw [setHopLimit_flags_and, hold, hnew, UInt8.and_zero, UInt8.zero_or]

theorem wantAck_setHopLimit (header : PacketHeader) (limit : UInt8) :
    (header.setHopLimit limit).wantAck = header.wantAck := by
  have hold : (0xF8 &&& 0x08 : UInt8) = 0x08 := rfl
  have hnew : (0x07 &&& 0x08 : UInt8) = 0 := rfl
  unfold wantAck
  rw [setHopLimit_flags_and, hold, hnew, UInt8.and_zero, UInt8.or_zero]

theorem viaMqtt_setHopLimit (header : PacketHeader) (limit : UInt8) :
    (header.setHopLimit limit).viaMqtt = header.viaMqtt := by
  have hold : (0xF8 &&& 0x10 : UInt8) = 0x10 := rfl
  have hnew : (0x07 &&& 0x10 : UInt8) = 0 := rfl
  unfold viaMqtt
  rw [setHopLimit_flags_and, hold, hnew, UInt8.and_zero, UInt8.or_zero]

theorem hopStart_setHopLimit (header : PacketHeader) (limit : UInt8) :
    (header.setHopLimit limit).hopStart = header.hopStart := by
  have hold : (0xF8 : UInt8) >>> 5 = 0x07 := rfl
  have hnew : (0x07 : UInt8) >>> 5 = 0 := rfl
  unfold hopStart setHopLimit
  dsimp only
  rw [UInt8.shiftRight_or, UInt8.shiftRight_and, UInt8.shiftRight_and, hold, hnew,
    UInt8.and_zero, UInt8.or_zero, UInt8.and_assoc, UInt8.and_self]

theorem toNat_hopLimit_lt (header : PacketHeader) : header.hopLimit.toNat < 8 := by
  have hle : header.hopLimit.toNat ≤ 7 := by
    unfold hopLimit
    rw [UInt8.toNat_and]
    exact Nat.and_le_right
  omega

theorem hopLimit_sub_one_and (header : PacketHeader) (h : header.hopLimit ≠ 0) :
    (header.hopLimit - 1) &&& 0x07 = header.hopLimit - 1 := by
  have hsmall : ∀ n < 8, n ≠ 0 → (UInt8.ofNat n - 1) &&& 0x07 = UInt8.ofNat n - 1 := by decide
  have hlimit := hsmall header.hopLimit.toNat header.toNat_hopLimit_lt
    fun hzero => h (UInt8.toNat_inj.mp hzero)
  rwa [UInt8.ofNat_toNat] at hlimit

theorem toNat_hopLimit_sub_one (header : PacketHeader) (h : header.hopLimit ≠ 0) :
    (header.hopLimit - 1).toNat + 1 = header.hopLimit.toNat := by
  have hpos : 1 ≤ header.hopLimit.toNat :=
    Nat.one_le_iff_ne_zero.mpr fun hzero => h (UInt8.toNat_inj.mp hzero)
  have hsub : (header.hopLimit - 1).toNat = header.hopLimit.toNat - 1 :=
    UInt8.toNat_sub_of_le _ _ (UInt8.le_iff_toNat_le.mpr hpos)
  omega

theorem encode_of_decode {buf : Bytes} {header : PacketHeader}
    (h : decode buf = some header) : header.encode = buf.take HEADER_SIZE := by
  unfold decode at h
  split at h
  · cases h
  · rename_i hlength
    have hlong : 16 ≤ buf.length := Nat.le_of_not_lt hlength
    have hrest : [buf.getD 12 0, buf.getD 13 0, buf.getD 14 0, buf.getD 15 0] =
        (buf.drop 12).take 4 := by
      rw [List.drop_eq_getElem_cons (show 12 < buf.length by omega),
        List.drop_eq_getElem_cons (show 13 < buf.length by omega),
        List.drop_eq_getElem_cons (show 14 < buf.length by omega),
        List.drop_eq_getElem_cons (show 15 < buf.length by omega)]
      simp only [List.getD_eq_getElem?_getD, List.take_succ_cons, List.take_zero]
      rw [List.getElem?_eq_getElem (by omega), List.getElem?_eq_getElem (by omega),
        List.getElem?_eq_getElem (by omega), List.getElem?_eq_getElem (by omega)]
      rfl
    cases h
    unfold encode
    dsimp only
    rw [toLeBytes_wordAt _ 0 (by omega), toLeBytes_wordAt _ 4 (by omega),
      toLeBytes_wordAt _ 8 (by omega), hrest]
    calc (buf.drop 0).take 4 ++ ((buf.drop 4).take 4 ++ ((buf.drop 8).take 4 ++
          (buf.drop 12).take 4)) =
        buf.take 4 ++ ((buf.drop 4).take 4 ++ (buf.drop 8).take 8) := by
          rw [List.drop_zero, show (8 : Nat) = 4 + 4 from rfl, List.take_add, List.drop_drop]
      _ = buf.take 4 ++ (buf.drop 4).take 12 := by
          rw [show (12 : Nat) = 4 + 8 from rfl, List.take_add, List.drop_drop]
      _ = buf.take HEADER_SIZE := by
          rw [HEADER_SIZE, show (16 : Nat) = 4 + 12 from rfl, List.take_add]

end PacketHeader

/-! ## Frame -/

/-- The bytes of a frame, at most as many as the radio carries. -/
structure RadioFrame where
  bytes : Bytes
  length_le : bytes.length ≤ MAX_LORA_PAYLOAD_LEN
deriving DecidableEq

namespace RadioFrame

@[ext] theorem ext {f g : RadioFrame} (h : f.bytes = g.bytes) : f = g := by
  cases f
  cases g
  simp_all

def header (frame : RadioFrame) : Option PacketHeader :=
  PacketHeader.decode frame.bytes

def payload (frame : RadioFrame) : Bytes := frame.bytes.drop HEADER_SIZE

def fromParts (header : PacketHeader) (encryptedPayload : Bytes) :
    Option RadioFrame :=
  if h : HEADER_SIZE + encryptedPayload.length ≤ MAX_LORA_PAYLOAD_LEN then
    some ⟨header.encode ++ encryptedPayload, by simpa using h⟩
  else none

/-- Overwrite the header bytes. -/
def setHeader (frame : RadioFrame) (header : PacketHeader)
    (h : HEADER_SIZE ≤ frame.bytes.length) : RadioFrame where
  bytes := header.encode ++ frame.payload
  length_le := by
    have hle := frame.length_le
    rw [List.length_append, PacketHeader.length_encode, payload, List.length_drop]
    omega

def withRewrittenHeader (frame : RadioFrame) (hopLimit relayNode : UInt8) :
    RadioFrame :=
  if h : HEADER_SIZE ≤ frame.bytes.length then
    match frame.header with
    | some header =>
        frame.setHeader { header.setHopLimit hopLimit with relayNode := relayNode } h
    | none => frame
  else frame

def withoutNextHop (frame : RadioFrame) : RadioFrame :=
  if h : HEADER_SIZE ≤ frame.bytes.length then
    match frame.header with
    | some header => frame.setHeader { header with nextHop := NO_NEXT_HOP } h
    | none => frame
  else frame

theorem fromParts_eq_none_iff (header : PacketHeader) (encryptedPayload : Bytes) :
    fromParts header encryptedPayload = none ↔
      MAX_LORA_PAYLOAD_LEN < HEADER_SIZE + encryptedPayload.length := by
  unfold fromParts
  split <;> simp <;> omega

theorem header_of_fromParts {header : PacketHeader} {encryptedPayload : Bytes}
    {frame : RadioFrame} (h : fromParts header encryptedPayload = some frame) :
    frame.header = some header := by
  unfold fromParts at h
  split at h
  · cases h
    exact PacketHeader.decode_encode_append _ _
  · cases h

theorem payload_of_fromParts {header : PacketHeader} {encryptedPayload : Bytes}
    {frame : RadioFrame} (h : fromParts header encryptedPayload = some frame) :
    frame.payload = encryptedPayload := by
  unfold fromParts at h
  split at h
  · cases h
    rfl
  · cases h

theorem length_of_header {frame : RadioFrame} {header : PacketHeader}
    (h : frame.header = some header) : HEADER_SIZE ≤ frame.bytes.length := by
  unfold RadioFrame.header PacketHeader.decode at h
  split at h
  · cases h
  · omega

theorem header_setHeader (frame : RadioFrame) (header : PacketHeader)
    (h : HEADER_SIZE ≤ frame.bytes.length) :
    (frame.setHeader header h).header = some header :=
  PacketHeader.decode_encode_append _ _

theorem length_setHeader (frame : RadioFrame) (header : PacketHeader)
    (h : HEADER_SIZE ≤ frame.bytes.length) :
    (frame.setHeader header h).bytes.length = frame.bytes.length := by
  unfold setHeader payload
  rw [List.length_append, PacketHeader.length_encode, List.length_drop]
  omega

theorem header_withRewrittenHeader {frame : RadioFrame} {header : PacketHeader}
    (h : frame.header = some header) (hopLimit relayNode : UInt8) :
    (frame.withRewrittenHeader hopLimit relayNode).header =
      some { header.setHopLimit hopLimit with relayNode := relayNode } := by
  unfold withRewrittenHeader
  rw [dif_pos (length_of_header h), h]
  exact header_setHeader _ _ _

@[simp] theorem payload_withRewrittenHeader (frame : RadioFrame)
    (hopLimit relayNode : UInt8) :
    (frame.withRewrittenHeader hopLimit relayNode).payload = frame.payload := by
  unfold withRewrittenHeader
  split
  · split <;> rfl
  · rfl

theorem length_withRewrittenHeader (frame : RadioFrame) (hopLimit relayNode : UInt8) :
    (frame.withRewrittenHeader hopLimit relayNode).bytes.length = frame.bytes.length := by
  unfold withRewrittenHeader
  split
  · split
    · exact length_setHeader _ _ _
    · rfl
  · rfl

theorem header_withoutNextHop {frame : RadioFrame} {header : PacketHeader}
    (h : frame.header = some header) :
    frame.withoutNextHop.header = some { header with nextHop := NO_NEXT_HOP } := by
  unfold withoutNextHop
  rw [dif_pos (length_of_header h), h]
  exact header_setHeader _ _ _

@[simp] theorem payload_withoutNextHop (frame : RadioFrame) :
    frame.withoutNextHop.payload = frame.payload := by
  unfold withoutNextHop
  split
  · split <;> rfl
  · rfl

theorem bytes_withoutNextHop {frame : RadioFrame} {header : PacketHeader}
    (h : frame.header = some header) :
    frame.withoutNextHop.bytes = frame.bytes.set 14 NO_NEXT_HOP := by
  have hbytes : frame.bytes = header.encode ++ frame.payload := by
    rw [PacketHeader.encode_of_decode h]
    exact (List.take_append_drop HEADER_SIZE frame.bytes).symm
  unfold withoutNextHop
  rw [dif_pos (length_of_header h), h]
  change ({ header with nextHop := NO_NEXT_HOP } : PacketHeader).encode ++ frame.payload = _
  rw [hbytes, List.set_append_left _ _ (by rw [PacketHeader.length_encode]; decide)]
  rfl

end RadioFrame

end Meshtastenstein
