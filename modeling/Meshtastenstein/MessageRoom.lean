import Meshtastenstein.Handlers.FromApp
import Meshtastenstein.Wire
/-!
# How much room a message takes

The buffer of a message to the phone has 512 bytes.  What the encoding of a message takes of
them at most follows from the kinds of its fields and from the texts and blocks in it.  Most
messages always have room enough; that of a node has when its user and its position leave some.
-/

namespace Meshtastenstein

open Lib Lib.Bytes Lib.Protobuf Proto Handlers

namespace Proto

/-! ## Fields -/

def uint32Room : Nat := 7

/-- An `int32` or an enumeration, which goes out as 64 bits when it is negative. -/
def int32Room : Nat := 12

def boolRoom : Nat := 3

def fixed32Room : Nat := 6

/-- A text, a block of bytes or a message within another. -/
def blockRoom (len : Nat) : Nat := 2 + blockLen len

theorem blockRoom_le {len : Nat} (h : len < 16384) : blockRoom len ≤ len + 4 := by
  have hlen := blockLen_le h
  unfold blockRoom
  omega

/-- A text behind a key of one byte; an empty one is left out. -/
def textRoom (text : Text) : Nat := if text = [] then 0 else 1 + blockLen text.length

theorem textRoom_le {text : Text} {len : Nat} (h : text.length ≤ len) (hlen : len < 128) :
    textRoom text ≤ len + 2 := by
  have hvarint : varintLen text.length ≤ 0 + 1 := varintLen_le_of_lt (by omega)
  unfold textRoom blockLen
  split <;> omega

/-- A code behind a key of one byte; zero is left out. -/
def codeRoom (code : Int32) : Nat := if code = 0 then 0 else 1 + varintLen (Wire.int32Varint code)

theorem codeRoom_le (code : Int32) : codeRoom code ≤ 11 := by
  have hlen := varintLen_le (Wire.int32Varint code)
  unfold codeRoom
  split <;> omega

/-! ## Messages -/

namespace User

def textRoom (user : User) : Nat :=
  Proto.textRoom user.id + Proto.textRoom user.longName + Proto.textRoom user.shortName +
    Proto.textRoom user.macaddr + Proto.textRoom user.publicKey

/-- The last two bytes are for `is_unmessagable`, which the firmware keeps and does not read. -/
def room (user : User) : Nat :=
  user.textRoom + codeRoom user.hwModel + (if user.isLicensed then 2 else 0) +
    codeRoom user.role + 2

theorem room_le (user : User) : user.room ≤ user.textRoom + 26 := by
  have hmodel := codeRoom_le user.hwModel
  have hrole := codeRoom_le user.role
  unfold room
  split <;> omega

end User

/-- The keys of a node take one byte.  The number, the report of the signal, the time and the
three marks count as present. -/
def NodeInfo.room (info : NodeInfo) : Nat :=
  6 + info.user.elim 0 (fun user => 1 + blockLen user.room) +
    info.position.elim 0 (fun position => 1 + blockLen position.encoding.length) + 5 + 5 +
    info.hopsAway.elim 0 (fun hops => 1 + varintLen hops.toNat) + 2 + 2 + 2

def Data.room (data : Data) : Nat :=
  int32Room + blockRoom data.payload.length + boolRoom + fixed32Room + fixed32Room +
    fixed32Room + uint32Room

def MeshPacket.room (packet : MeshPacket) : Nat :=
  fixed32Room + fixed32Room + uint32Room + fixed32Room + fixed32Room + fixed32Room +
    uint32Room + boolRoom + int32Room + int32Room + uint32Room +
    blockRoom packet.publicKey.length +
    match packet.payloadVariant with
    | some (.decoded data) => blockRoom data.room
    | some (.encrypted bytes) => blockRoom bytes.length
    | none => 0

def Config.Variant.room : Config.Variant → Nat
  | .device _ => blockRoom int32Room
  | .lora _ =>
      blockRoom (boolRoom + int32Room + uint32Room + uint32Room + uint32Room + int32Room +
        uint32Room + boolRoom + int32Room + uint32Room + boolRoom)
  | .bluetooth _ => blockRoom (boolRoom + int32Room)
  | .security config =>
      blockRoom (blockRoom config.publicKey.length + blockRoom config.privateKey.length)
  | .position | .power | .network | .display | .sessionkey | .deviceUi => blockRoom 0

def Config.room (config : Config) : Nat := config.payloadVariant.elim 0 Config.Variant.room

/-- The firmware sends no module configuration but the default one. -/
def ModuleConfig.room (config : ModuleConfig) : Nat :=
  config.payloadVariant.elim 0 fun _ => blockRoom 0

def ChannelSettings.room (settings : ChannelSettings) : Nat :=
  blockRoom settings.psk.length + blockRoom settings.name.length

def Channel.room (channel : Channel) : Nat :=
  int32Room + channel.settings.elim 0 (fun settings => blockRoom settings.room) + int32Room

def DeviceMetadata.room (metadata : DeviceMetadata) : Nat :=
  blockRoom metadata.firmwareVersion.length + uint32Room + boolRoom + int32Room + int32Room

def AdminMessage.Variant.answerRoom : AdminMessage.Variant → Option Nat
  | .getOwnerResponse user => some (blockRoom user.room)
  | .getConfigResponse config => some (blockRoom config.room)
  | .getChannelResponse channel => some (blockRoom channel.room)
  | .getModuleConfigResponse config => some (blockRoom config.room)
  | .beginEditSettings _ | .commitEditSettings _ => some boolRoom
  | _ => none

def FromRadio.Variant.room : FromRadio.Variant → Nat
  | .packet pkt => blockRoom pkt.room
  | .myInfo _ => blockRoom (uint32Room + uint32Room + uint32Room)
  | .nodeInfo info => 1 + blockLen info.room
  | .config cfg => blockRoom cfg.room
  | .configCompleteId _ => uint32Room
  | .moduleConfig cfg => blockRoom cfg.room
  | .channel slot => blockRoom slot.room
  | .queueStatus _ => blockRoom (int32Room + uint32Room + uint32Room + uint32Room)
  | .metadata device => blockRoom device.room
  | .deviceuiConfig | .regionPresets => blockRoom 0

/-- The id of a message takes six bytes at most. -/
def idRoom : Nat := 6

def FromRadio.Variant.Small (variant : FromRadio.Variant) : Prop := idRoom + variant.room ≤ 512

end Proto

/-- The numbers of a position, twenty-three with all their keys. -/
def POSITION_ROOM : Nat := 162

/-- What is relied on of the generated code: an encoding takes no more room than the fields
that are in it, and what is decoded no more than it was decoded from. -/
structure Prost.Compact (prost : Prost) : Prop where
  fromRadio : ∀ id variant,
    (prost.fromRadio.encode { id := id, payloadVariant := some variant }).length ≤
      idRoom + variant.room
  adminMessage : ∀ passkey variant room, variant.answerRoom = some room →
    (prost.adminMessage.encode
      { sessionPasskey := passkey, payloadVariant := some variant }).length ≤
        blockRoom passkey.length + room
  routing : ∀ error,
    (prost.routing.encode { variant := some (.errorReason error) }).length ≤ int32Room
  telemetry : ∀ time metrics,
    (prost.telemetry.encode { time := time, variant := some (.deviceMetrics metrics) }).length ≤
      fixed32Room + blockRoom (uint32Room + fixed32Room + fixed32Room + fixed32Room + uint32Room)
  position : ∀ position, (prost.position.encode position).length ≤ position.encoding.length
  positionOf : ∀ bytes position, prost.position.decode bytes = some position →
    position.encoding.length ≤ POSITION_ROOM
  userOf : ∀ bytes user, prost.user.decode bytes = some user → user.textRoom ≤ bytes.length
  dataOf : ∀ bytes data, prost.data.decode bytes = some data →
    data.payload.length ≤ bytes.length

/-! ## Nodes -/

namespace NodeEntry

def room (entry : NodeEntry) : Nat :=
  1 + blockLen (nodeInfoUser entry).room +
    entry.position.elim 0 fun position => 1 + blockLen position.encoding.length

/-- The rest of the message takes 34 bytes at most. -/
def Fits (entry : NodeEntry) : Prop := entry.room ≤ 478

instance (entry : NodeEntry) : Decidable entry.Fits := inferInstanceAs (Decidable (_ ≤ _))

def Placed (entry : NodeEntry) : Prop :=
  ∀ position, entry.position = some position → position.encoding.length ≤ POSITION_ROOM

end NodeEntry

theorem length_hexByte (b : UInt8) : (hexByte b).length = 2 := rfl

theorem length_buildNodeIdString (nodeNum : UInt32) : (buildNodeIdString nodeNum).length = 9 := by
  unfold buildNodeIdString
  rw [List.length_append, List.length_append, List.length_append, List.length_append,
    length_hexByte, length_hexByte, length_hexByte, length_hexByte]
  rfl

theorem small_makeNodeInfoFromRadio {entry : NodeEntry} (h : entry.Fits) :
    (makeNodeInfoFromRadio entry).Small := by
  have hhops : (entry.hopsAway.map UInt8.toUInt32).elim 0
      (fun hops => 1 + varintLen hops.toNat) ≤ 3 := by
    cases entry.hopsAway with
    | none => exact Nat.zero_le 3
    | some hops =>
        have hlt : hops.toUInt32.toNat < 128 ^ (1 + 1) := by
          rw [UInt8.toNat_toUInt32]
          exact Nat.lt_trans hops.toNat_lt (by decide)
        exact Nat.add_le_add_left (varintLen_le_of_lt hlt) 1
  have hroom : (NodeInfo.room
      { num := entry.nodeNum
        user := some (nodeInfoUser entry)
        position := entry.position
        snr := snrOrZero entry.snr
        lastHeard := entry.lastHeard
        hopsAway := entry.hopsAway.map UInt8.toUInt32
        isFavorite := entry.isFavorite
        isIgnored := entry.isIgnored
        isMuted := entry.isMuted }) ≤ 503 := by
    unfold NodeEntry.Fits NodeEntry.room at h
    unfold NodeInfo.room
    dsimp only [Option.elim_some]
    omega
  have hblock := blockLen_le (Nat.lt_of_le_of_lt hroom (by decide))
  unfold FromRadio.Variant.Small makeNodeInfoFromRadio FromRadio.Variant.room idRoom
  dsimp only
  omega

theorem textRoom_key_le (key : Key) : textRoom key.val ≤ 34 :=
  textRoom_le (Nat.le_of_eq key.property) (by decide)

theorem textRoom_nodeIdString_le (nodeNum : UInt32) : textRoom (buildNodeIdString nodeNum) ≤ 11 :=
  textRoom_le (Nat.le_of_eq (length_buildNodeIdString nodeNum)) (by decide)

/-- The key stored for a node takes the place of the one that its user names. -/
theorem room_keyed_le (user : User) (key : Option Key) :
    User.room (match key with
      | some key => { user with publicKey := key.val }
      | none => user) ≤ user.textRoom + 60 := by
  refine Nat.le_trans (User.room_le _) ?_
  cases key with
  | none => exact Nat.add_le_add_left (by decide) _
  | some key =>
      have hkey := textRoom_key_le key
      unfold User.textRoom
      dsimp only
      omega

theorem room_nodeInfoUser_le {entry : NodeEntry} {user : User} (h : entry.user = some user) :
    (nodeInfoUser entry).room ≤ user.textRoom + 71 := by
  have hid := textRoom_nodeIdString_le entry.nodeNum
  have hkeyed := room_keyed_le { user with id := buildNodeIdString entry.nodeNum } entry.pubKey
  have hnamed : User.textRoom { user with id := buildNodeIdString entry.nodeNum } ≤
      user.textRoom + 11 := by
    unfold User.textRoom
    dsimp only
    omega
  unfold nodeInfoUser
  rw [h]
  exact Nat.le_trans hkeyed (by omega)

theorem room_nodeInfoUser_of_unnamed {entry : NodeEntry} (h : entry.user = none) :
    (nodeInfoUser entry).room ≤ 100 := by
  have hid := textRoom_nodeIdString_le entry.nodeNum
  let short := hexByte (byteAt entry.nodeNum 1) ++ hexByte (byteAt entry.nodeNum 0)
  have hshort : textRoom short ≤ 4 + 2 := textRoom_le (Nat.le_refl 4) (by decide)
  have hlong : textRoom (utf8 "Meshtastic " ++ short) ≤ 15 + 2 :=
    textRoom_le (Nat.le_refl 15) (by decide)
  have hkeyed := room_keyed_le { id := buildNodeIdString entry.nodeNum,
                                 longName := utf8 "Meshtastic " ++ short,
                                 shortName := short } entry.pubKey
  have hnamed : User.textRoom { id := buildNodeIdString entry.nodeNum,
                                longName := utf8 "Meshtastic " ++ short,
                                shortName := short } ≤ 34 := by
    have hempty : textRoom [] = 0 := rfl
    unfold User.textRoom
    dsimp only
    omega
  unfold nodeInfoUser
  rw [h]
  exact Nat.le_trans hkeyed (by omega)

theorem fits_of_room {entry : NodeEntry} (hplaced : entry.Placed)
    (h : (nodeInfoUser entry).room ≤ 310) : entry.Fits := by
  have huser := blockLen_le (Nat.lt_of_le_of_lt h (by decide))
  have hposition : entry.position.elim 0 (fun position => 1 + blockLen position.encoding.length) ≤
      165 := by
    cases hat : entry.position with
    | none => exact Nat.zero_le _
    | some position =>
        have hlen : position.encoding.length ≤ 162 := hplaced position hat
        have hblock := blockLen_le (Nat.lt_of_le_of_lt hlen (by decide))
        dsimp only [Option.elim]
        omega
  unfold NodeEntry.Fits NodeEntry.room
  omega

/-! ## Messages that always have room -/

theorem small_packet {packet : MeshPacket} {data : Data} (hkey : packet.publicKey = [])
    (hdata : packet.payloadVariant = some (.decoded data)) (h : data.payload.length ≤ 350) :
    (FromRadio.Variant.packet packet).Small := by
  have hpayload := blockRoom_le (Nat.lt_of_le_of_lt h (by decide))
  have hroom : data.room ≤ 394 := by
    unfold Data.room int32Room boolRoom fixed32Room uint32Room
    omega
  have hblock := blockRoom_le (Nat.lt_of_le_of_lt hroom (by decide))
  have hpacket : packet.room ≤ 480 := by
    have hempty : blockRoom 0 ≤ 4 := blockRoom_le (by decide)
    unfold MeshPacket.room
    rw [hkey, hdata]
    unfold int32Room boolRoom fixed32Room uint32Room
    dsimp only [List.length_nil]
    omega
  have hwhole := blockRoom_le (Nat.lt_of_le_of_lt hpacket (by decide))
  unfold FromRadio.Variant.Small FromRadio.Variant.room idRoom
  dsimp only
  omega

variable {S : Type} {env : Env}

/-- Our own user takes little, whatever the names are set to. -/
theorem room_ownUser_le (device : DeviceState) {id : Text} (h : id.length = 9) (key : Bytes)
    (hkey : textRoom key ≤ 34) :
    User.room { id := id, longName := device.longName.toList,
                shortName := device.shortName.toList, hwModel := device.hwModel.toInt32,
                isLicensed := false, publicKey := key } ≤ 120 := by
  have hid : textRoom id ≤ 9 + 2 := textRoom_le (Nat.le_of_eq h) (by decide)
  have hlong : textRoom device.longName.toList ≤ 40 + 2 :=
    textRoom_le device.longName.length_le (by decide)
  have hshort : textRoom device.shortName.toList ≤ 5 + 2 :=
    textRoom_le device.shortName.length_le (by decide)
  have hempty : textRoom [] = 0 := rfl
  refine Nat.le_trans (User.room_le _) ?_
  unfold User.textRoom
  dsimp only
  omega

theorem small_ownNodeInfo {ctx : MeshCtx S} (h : ctx.nodeIdStr.length = 9) :
    (FromApp.ownNodeInfo ctx).Small := by
  have huser := room_ownUser_le ctx.device h ctx.pkcPubBytes.val (textRoom_key_le _)
  have hblock := blockLen_le (Nat.lt_of_le_of_lt huser (by decide))
  unfold FromApp.ownNodeInfo FromRadio.Variant.Small FromRadio.Variant.room idRoom
  dsimp only
  generalize hroom : NodeInfo.room _ = room
  have hle : room ≤ 147 := by
    rw [← hroom]
    unfold NodeInfo.room
    dsimp only [Option.elim_some, Option.elim_none]
    omega
  have hwhole := blockLen_le (Nat.lt_of_le_of_lt hle (by decide))
  omega

theorem room_channelMessage_le (channels : ChannelSet) (idx : UInt8) :
    (Admin.channelMessage channels idx).room ≤ 100 := by
  unfold Admin.channelMessage
  split
  · rename_i channel _
    have hpsk := blockRoom_le (Nat.lt_of_le_of_lt channel.psk.length_le (by decide))
    have hname := blockRoom_le (Nat.lt_of_le_of_lt channel.name.length_le (by decide))
    have hpskLe := channel.psk.length_le
    have hnameLe := channel.name.length_le
    have hsettings : ChannelSettings.room
        { psk := channel.psk.toList, name := channel.name.toList } ≤ 52 := by
      unfold ChannelSettings.room
      dsimp only
      omega
    have hblock := blockRoom_le (Nat.lt_of_le_of_lt hsettings (by decide))
    unfold Channel.room int32Room
    dsimp only [Option.elim_some]
    omega
  · exact (by decide : int32Room + 0 + int32Room ≤ 100)

theorem room_config_le (variant : Config.Variant) (h : ∀ config, variant = .security config →
      config.publicKey.length ≤ 32 ∧ config.privateKey.length ≤ 32) :
    Config.room { payloadVariant := some variant } ≤ 120 := by
  cases variant with
  | security config =>
      obtain ⟨hpublic, hprivate⟩ := h config rfl
      have hpublicRoom := blockRoom_le (Nat.lt_of_le_of_lt hpublic (by decide))
      have hprivateRoom := blockRoom_le (Nat.lt_of_le_of_lt hprivate (by decide))
      have hkeys : blockRoom config.publicKey.length + blockRoom config.privateKey.length ≤ 72 := by
        omega
      have hblock := blockRoom_le (Nat.lt_of_le_of_lt hkeys (by decide))
      change blockRoom _ ≤ 120
      omega
  | device _ => exact (by decide : blockRoom int32Room ≤ 120)
  | lora _ => exact (by decide : (Config.Variant.lora {}).room ≤ 120)
  | bluetooth _ => exact (by decide : (Config.Variant.bluetooth {}).room ≤ 120)
  | _ => decide

theorem small_configExchange {ctx : MeshCtx S} (h : ctx.nodeIdStr.length = 9) (configId : UInt32) :
    ∀ variant ∈ FromApp.configExchange env ctx configId, variant.Small := by
  intro variant hvariant
  simp only [FromApp.configExchange, List.mem_append, List.mem_cons, List.mem_map,
    List.not_mem_nil, or_false] at hvariant
  rcases hvariant with ((((rfl | rfl | rfl | rfl | rfl) | ⟨idx, -, rfl⟩) |
    ⟨config, hconfig, rfl⟩) | ⟨config, -, rfl⟩) | rfl
  · exact (by decide : idRoom + (FromRadio.Variant.myInfo ⟨0, 0, 0⟩).room ≤ 512)
  · exact (by decide : idRoom + FromRadio.Variant.deviceuiConfig.room ≤ 512)
  · exact small_ownNodeInfo h
  · exact (by decide :
      idRoom + (FromRadio.Variant.metadata ⟨FIRMWARE_VERSION, 0, true, 0, 0⟩).room ≤ 512)
  · exact (by decide : idRoom + FromRadio.Variant.regionPresets.room ≤ 512)
  · have hroom := room_channelMessage_le ctx.device.channels (UInt8.ofNat idx)
    have hblock := blockRoom_le (Nat.lt_of_le_of_lt hroom (by decide))
    unfold FromRadio.Variant.Small FromRadio.Variant.room idRoom
    dsimp only
    omega
  · have hroom : Config.room { payloadVariant := some config } ≤ 120 := by
      apply room_config_le
      rintro security rfl
      simp only [FromApp.configVariants, List.mem_cons, reduceCtorEq, List.not_mem_nil,
        Config.Variant.security.injEq, false_or, or_false] at hconfig
      rw [hconfig]
      exact ⟨Nat.le_of_eq ctx.pkcPubBytes.property, Nat.le_of_eq ctx.pkcPrivBytes.property⟩
    have hblock := blockRoom_le (Nat.lt_of_le_of_lt hroom (by decide))
    unfold FromRadio.Variant.Small idRoom
    change 6 + blockRoom (Config.room _) ≤ 512
    omega
  · exact (by decide : idRoom + blockRoom (blockRoom 0) ≤ 512)
  · exact (by decide : idRoom + uint32Room ≤ 512)

end Meshtastenstein
