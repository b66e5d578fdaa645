import Meshtastenstein.Environment
import Meshtastenstein.Lib.Protobuf
/-!
# Message encodings

The generated codecs of the messages that travel over the air, written out over the
wire format: a field with its default value is left out, an unknown field is skipped
and a field of the wrong wire type is an error.
-/

namespace Meshtastenstein.Wire

open Lib.Protobuf Proto

/-! ## Scalars -/

/-- An `int32` or enumeration goes out sign-extended to 64 bits. -/
def int32Varint (n : Int32) : Nat := n.toInt64.toUInt64.toNat

def varintInt32 (n : Nat) : Int32 := (UInt32.ofNat n).toInt32

theorem int32Varint_lt (n : Int32) : int32Varint n < 2 ^ 64 :=
  n.toInt64.toUInt64.toNat_lt

theorem varintInt32_int32Varint (n : Int32) : varintInt32 (int32Varint n) = n := by
  have hbits : BitVec.setWidth 32 (BitVec.signExtend 64 n.toBitVec) = n.toBitVec := by
    rw [← BitVec.signExtend_eq_setWidth_of_le _ (by omega)]
    exact congrArg Int32.toBitVec (Int32.toInt32_toInt64 n)
  have hword : UInt32.ofNat n.toInt64.toUInt64.toNat = n.toInt64.toUInt64.toUInt32 := by
    apply UInt32.toNat_inj.mp
    rw [UInt32.toNat_ofNat', UInt64.toNat_toUInt32]
  rw [varintInt32, int32Varint, hword]
  apply Int32.toBitVec_inj.mp
  simpa using hbits

def optional (isPresent : Bool) (number : Nat) (value : Value) : List Field :=
  if isPresent then [⟨number, value⟩] else []

theorem foldlM_optional {α : Type} (merge : α → Field → Option α) (acc : α)
    (isPresent : Bool) (number : Nat) (value : Value) :
    (optional isPresent number value).foldlM merge acc =
      if isPresent then merge acc ⟨number, value⟩ else some acc := by
  unfold optional
  cases isPresent <;> simp

theorem fits_optional {isPresent : Bool} {number : Nat} {value : Value} {field : Field}
    (hfield : field ∈ optional isPresent number value)
    (hnumber : 0 < number ∧ number < 2 ^ 29) (hvalue : value.Fits) : field.Fits := by
  unfold optional at hfield
  cases isPresent with
  | false => simp at hfield
  | true =>
      rw [if_pos rfl, List.mem_singleton] at hfield
      subst hfield
      exact ⟨hnumber.1, hnumber.2, hvalue⟩

/-! ## `Data` -/

def dataFields (data : Data) : List Field :=
  optional (data.portnum != 0) 1 (.varint (int32Varint data.portnum)) ++
    (optional (data.payload != []) 2 (.bytes data.payload) ++
      (optional data.wantResponse 3 (.varint 1) ++
        (optional (data.requestId != 0) 6 (.fixed32 data.requestId) ++
          (optional (data.replyId != 0) 7 (.fixed32 data.replyId) ++
            (optional (data.emoji != 0) 8 (.fixed32 data.emoji) ++
              optional data.bitfield.isSome 9
                (.varint (data.bitfield.getD 0).toNat))))))

/-- Fields 4 and 5 are the route bookkeeping the firmware does not read. -/
def mergeData (data : Data) (field : Field) : Option Data :=
  match field.number, field.value with
  | 1, .varint n => some { data with portnum := varintInt32 n }
  | 2, .bytes content => some { data with payload := content }
  | 3, .varint n => some { data with wantResponse := n != 0 }
  | 4, .fixed32 _ => some data
  | 5, .fixed32 _ => some data
  | 6, .fixed32 word => some { data with requestId := word }
  | 7, .fixed32 word => some { data with replyId := word }
  | 8, .fixed32 word => some { data with emoji := word }
  | 9, .varint n => some { data with bitfield := some (UInt32.ofNat n) }
  | number, _ => if number ≤ 9 then none else some data

def dataCodec : Codec Data where
  encode data := encodeFields (dataFields data)
  decode bytes := (decodeFields bytes).bind fun fields => fields.foldlM mergeData {}

theorem fits_dataFields (data : Data) (h : data.payload.length < 2 ^ 64) :
    ∀ field ∈ dataFields data, field.Fits := by
  have hbitfield : (data.bitfield.getD 0).toNat < 2 ^ 64 :=
    Nat.lt_trans (UInt32.toNat_lt _) (by decide)
  intro field hfield
  simp only [dataFields, List.mem_append] at hfield
  rcases hfield with hf | hf | hf | hf | hf | hf | hf
  · exact fits_optional hf (by decide) (int32Varint_lt _)
  · exact fits_optional hf (by decide) h
  · exact fits_optional hf (by decide) (by decide : 1 < 2 ^ 64)
  · exact fits_optional hf (by decide) trivial
  · exact fits_optional hf (by decide) trivial
  · exact fits_optional hf (by decide) trivial
  · exact fits_optional hf (by decide) hbitfield

theorem foldlM_mergeData (data : Data) :
    (dataFields data).foldlM mergeData {} = some data := by
  obtain ⟨portnum, payload, wantResponse, requestId, replyId, emoji, bitfield⟩ := data
  -- each optional field sets one component, and leaving it out leaves the default there
  have hportnum : (optional (portnum != 0) 1 (.varint (int32Varint portnum))).foldlM
      mergeData {} = some { portnum := portnum } := by
    rw [foldlM_optional]
    by_cases h : portnum = 0 <;> simp [h, mergeData, varintInt32_int32Varint]
  have hpayload : (optional (payload != []) 2 (.bytes payload)).foldlM mergeData
      { portnum := portnum } = some { portnum := portnum, payload := payload } := by
    rw [foldlM_optional]
    by_cases h : payload = [] <;> simp [h, mergeData]
  have hresponse : (optional wantResponse 3 (.varint 1)).foldlM mergeData
      { portnum := portnum, payload := payload } =
      some { portnum := portnum, payload := payload, wantResponse := wantResponse } := by
    rw [foldlM_optional]
    cases wantResponse <;> simp [mergeData]
  have hrequest : (optional (requestId != 0) 6 (.fixed32 requestId)).foldlM mergeData
      { portnum := portnum, payload := payload, wantResponse := wantResponse } =
      some { portnum := portnum, payload := payload, wantResponse := wantResponse,
             requestId := requestId } := by
    rw [foldlM_optional]
    by_cases h : requestId = 0 <;> simp [h, mergeData]
  have hreply : (optional (replyId != 0) 7 (.fixed32 replyId)).foldlM mergeData
      { portnum := portnum, payload := payload, wantResponse := wantResponse,
        requestId := requestId } =
      some { portnum := portnum, payload := payload, wantResponse := wantResponse,
             requestId := requestId, replyId := replyId } := by
    rw [foldlM_optional]
    by_cases h : replyId = 0 <;> simp [h, mergeData]
  have hemoji : (optional (emoji != 0) 8 (.fixed32 emoji)).foldlM mergeData
      { portnum := portnum, payload := payload, wantResponse := wantResponse,
        requestId := requestId, replyId := replyId } =
      some { portnum := portnum, payload := payload, wantResponse := wantResponse,
             requestId := requestId, replyId := replyId, emoji := emoji } := by
    rw [foldlM_optional]
    by_cases h : emoji = 0 <;> simp [h, mergeData]
  have hbitfield : (optional bitfield.isSome 9
      (.varint (bitfield.getD 0).toNat)).foldlM mergeData
      { portnum := portnum, payload := payload, wantResponse := wantResponse,
        requestId := requestId, replyId := replyId, emoji := emoji } =
      some ⟨portnum, payload, wantResponse, requestId, replyId, emoji, bitfield⟩ := by
    rw [foldlM_optional]
    cases bitfield <;> simp [mergeData]
  simp only [dataFields, List.foldlM_append, hportnum, hpayload, hresponse, hrequest,
    hreply, hemoji, hbitfield, Option.bind_eq_bind, Option.bind_some]

theorem dataCodec_roundTrips (data : Data) (h : data.payload.length < 2 ^ 64) :
    dataCodec.RoundTrips data := by
  unfold Codec.RoundTrips dataCodec
  dsimp only
  rw [decodeFields_encodeFields _ (fits_dataFields data h), Option.bind_some]
  exact foldlM_mergeData data

/-! ## `Routing` -/

def routingErrorCode : RoutingError → Int32
  | .none => 0
  | .maxRetransmit => 5
  | .pkiFailed => 34
  | .pkiUnknownPubkey => 35
  | .pkiSendFailPublicKey => 39

def routingErrorOf (code : Int32) : Option RoutingError :=
  [RoutingError.none, .maxRetransmit, .pkiFailed, .pkiUnknownPubkey,
    .pkiSendFailPublicKey].find? fun error => routingErrorCode error == code

/-- A set member of a `oneof` goes out even with its default value. -/
def routingFields (routing : Routing) : List Field :=
  match routing.variant with
  | some (.errorReason error) => [⟨3, .varint (int32Varint (routingErrorCode error))⟩]
  | _ => []

def mergeRouting (routing : Routing) (field : Field) : Option Routing :=
  match field.number, field.value with
  | 1, .bytes _ => some { variant := some (.other field.encode) }
  | 2, .bytes _ => some { variant := some (.other field.encode) }
  | 3, .varint n =>
      match routingErrorOf (varintInt32 n) with
      | some error => some { variant := some (.errorReason error) }
      | none => some { variant := some (.other field.encode) }
  | number, _ => if number ≤ 3 then none else some routing

def routingCodec : Codec Routing where
  encode routing :=
    match routing.variant with
    | some (.other raw) => raw
    | _ => encodeFields (routingFields routing)
  decode bytes := (decodeFields bytes).bind fun fields => fields.foldlM mergeRouting {}

theorem routingCodec_roundTrips (error : RoutingError) :
    routingCodec.RoundTrips { variant := some (.errorReason error) } := by
  unfold Codec.RoundTrips
  cases error <;> decide

/-! ## `User` -/

def userFields (user : User) : List Field :=
  optional (user.id != []) 1 (.bytes user.id) ++
    (optional (user.longName != []) 2 (.bytes user.longName) ++
      (optional (user.shortName != []) 3 (.bytes user.shortName) ++
        (optional (user.macaddr != []) 4 (.bytes user.macaddr) ++
          (optional (user.hwModel != 0) 5 (.varint (int32Varint user.hwModel)) ++
            (optional user.isLicensed 6 (.varint 1) ++
              (optional (user.role != 0) 7 (.varint (int32Varint user.role)) ++
                optional (user.publicKey != []) 8 (.bytes user.publicKey)))))))

def mergeUser (user : User) (field : Field) : Option User :=
  match field.number, field.value with
  | 1, .bytes text => some { user with id := text }
  | 2, .bytes text => some { user with longName := text }
  | 3, .bytes text => some { user with shortName := text }
  | 4, .bytes content => some { user with macaddr := content }
  | 5, .varint n => some { user with hwModel := varintInt32 n }
  | 6, .varint n => some { user with isLicensed := n != 0 }
  | 7, .varint n => some { user with role := varintInt32 n }
  | 8, .bytes content => some { user with publicKey := content }
  | number, _ => if number ≤ 8 then none else some user

def userCodec : Codec User where
  encode user := encodeFields (userFields user)
  decode bytes := (decodeFields bytes).bind fun fields => fields.foldlM mergeUser {}

/-! ## `AdminMessage` -/

/-- The commands and answers of the recorded runs. -/
def adminVariantFields : AdminMessage.Variant → List Field
  | .getOwnerRequest flag => [⟨3, .varint flag.toNat⟩]
  | .getOwnerResponse user => [⟨4, .bytes (encodeFields (userFields user))⟩]
  | .beginEditSettings flag => [⟨64, .varint flag.toNat⟩]
  | .rebootSeconds secs => [⟨97, .varint (int32Varint secs)⟩]
  | .shutdownSeconds secs => [⟨98, .varint (int32Varint secs)⟩]
  | .factoryResetConfig value => [⟨99, .varint (int32Varint value)⟩]
  | .nodedbReset flag => [⟨100, .varint flag.toNat⟩]
  | _ => []

def adminFields (message : AdminMessage) : List Field :=
  (message.payloadVariant.map adminVariantFields).getD [] ++
    optional (message.sessionPasskey != []) 101 (.bytes message.sessionPasskey)

def mergeAdmin (message : AdminMessage) (field : Field) : Option AdminMessage :=
  match field.number, field.value with
  | 3, .varint n => some { message with payloadVariant := some (.getOwnerRequest (n != 0)) }
  | 4, .bytes content =>
      (userCodec.decode content).map fun user =>
        { message with payloadVariant := some (.getOwnerResponse user) }
  | 64, .varint n => some { message with payloadVariant := some (.beginEditSettings (n != 0)) }
  | 97, .varint n =>
      some { message with payloadVariant := some (.rebootSeconds (varintInt32 n)) }
  | 98, .varint n =>
      some { message with payloadVariant := some (.shutdownSeconds (varintInt32 n)) }
  | 99, .varint n =>
      some { message with payloadVariant := some (.factoryResetConfig (varintInt32 n)) }
  | 100, .varint n => some { message with payloadVariant := some (.nodedbReset (n != 0)) }
  | 101, .bytes content => some { message with sessionPasskey := content }
  | _, _ => some message

def adminCodec : Codec AdminMessage where
  encode message := encodeFields (adminFields message)
  decode bytes := (decodeFields bytes).bind fun fields => fields.foldlM mergeAdmin {}

/-! ## Packets from the phone -/

def mergeMeshPacket (packet : MeshPacket) (field : Field) : Option MeshPacket :=
  match field.number, field.value with
  | 1, .fixed32 word => some { packet with fromNode := word }
  | 2, .fixed32 word => some { packet with toNode := word }
  | 3, .varint n => some { packet with channel := UInt32.ofNat n }
  | 4, .bytes content =>
      (dataCodec.decode content).map fun data =>
        { packet with payloadVariant := some (.decoded data) }
  | 5, .bytes content => some { packet with payloadVariant := some (.encrypted content) }
  | 6, .fixed32 word => some { packet with id := word }
  | 9, .varint n => some { packet with hopLimit := UInt32.ofNat n }
  | 10, .varint n => some { packet with wantAck := n != 0 }
  | 15, .varint n => some { packet with hopStart := UInt32.ofNat n }
  | 16, .bytes content => some { packet with publicKey := content }
  | _, _ => some packet

def decodeMeshPacket (bytes : Bytes) : Option MeshPacket :=
  (decodeFields bytes).bind fun fields => fields.foldlM mergeMeshPacket {}

def mergeToRadio (toRadio : ToRadio) (field : Field) : Option ToRadio :=
  match field.number, field.value with
  | 1, .bytes content =>
      (decodeMeshPacket content).map fun packet => { payloadVariant := some (.packet packet) }
  | 3, .varint n => some { payloadVariant := some (.wantConfigId (UInt32.ofNat n)) }
  | 4, .varint n => some { payloadVariant := some (.disconnect (n != 0)) }
  | _, .bytes content => some { payloadVariant := some (.other content) }
  | _, _ => some toRadio

def decodeToRadio (bytes : Bytes) : Option ToRadio :=
  (decodeFields bytes).bind fun fields => fields.foldlM mergeToRadio {}

/-! ## Enumerations -/

def enumCodeOfList {α : Type} [DecidableEq α] (values : List α) : EnumCode α where
  toI32 value := Int32.ofNat (values.findIdx (· == value))
  tryFrom code := if code < 0 then none else values[code.toNatClampNeg]?

def regionCode : EnumCode Region := enumCodeOfList
  [.unset, .us, .eu433, .eu868, .cn, .jp, .anz, .kr, .tw, .ru, .«in», .nz865, .th, .lora24,
    .ua433, .ua868, .my433, .my919, .sg923, .ph433, .ph868, .ph915, .anz433, .kz433, .kz863,
    .np865, .br902]

def modemPresetCode : EnumCode ModemPreset := enumCodeOfList
  [.longFast, .longSlow, .veryLongSlow, .mediumSlow, .mediumFast, .shortSlow, .shortFast,
    .longModerate, .shortTurbo, .longTurbo]

end Meshtastenstein.Wire
