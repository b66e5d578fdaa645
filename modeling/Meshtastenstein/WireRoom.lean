import Meshtastenstein.MessageRoom
import Meshtastenstein.PhoneWire
/-!
# The room of the encodings

The encodings of the recorded runs keep to the room of their fields: a field that is written
takes no more, and what is read was written at least as long.
-/

namespace Meshtastenstein.Wire

open Lib.Protobuf Proto

/-! ## Fields -/

theorem length_varint (n : Nat) : (Value.varint n).encode.length = varintLen n := rfl

theorem length_bytes (content : Bytes) :
    (Value.bytes content).encode.length = blockLen content.length := List.length_append

theorem varintLen_word (n : UInt32) : varintLen n.toNat ≤ 4 + 1 :=
  varintLen_le_of_lt (Nat.lt_trans n.toNat_lt (by decide))

theorem length_singleton_le (number : Nat) (value : Value) (h : number < 16) :
    (encodeFields [⟨number, value⟩]).length ≤ 1 + value.encode.length := by
  rw [length_encodeFields_cons]
  exact Field.length_encode_le ⟨number, value⟩ h

theorem length_singleton_le_add_two (number : Nat) (value : Value) (h : number < 2048) :
    (encodeFields [⟨number, value⟩]).length ≤ 2 + value.encode.length := by
  rw [length_encodeFields_cons]
  exact Field.length_encode_le_add_two ⟨number, value⟩ h

theorem length_optional_le {isPresent : Bool} {number : Nat} {value : Value} {room : Nat}
    (h : isPresent = true → (encodeFields [⟨number, value⟩]).length ≤ room) :
    (encodeFields (optional isPresent number value)).length ≤ room := by
  unfold optional
  cases isPresent with
  | true => exact h rfl
  | false => exact Nat.zero_le room

theorem length_text_le {text : Bytes} {number : Nat} (h : number < 16) :
    (encodeFields (optional (text != []) number (.bytes text))).length ≤ textRoom text := by
  apply length_optional_le
  intro hpresent
  have hlen := length_singleton_le _ (.bytes text) h
  rw [length_bytes] at hlen
  unfold textRoom
  rwa [if_neg (bne_iff_ne.mp hpresent)]

theorem length_code_le {code : Int32} {number : Nat} (h : number < 16) :
    (encodeFields (optional (code != 0) number (.varint (int32Varint code)))).length ≤
      codeRoom code := by
  apply length_optional_le
  intro hpresent
  have hlen := length_singleton_le _ (.varint (int32Varint code)) h
  unfold codeRoom
  rwa [if_neg (bne_iff_ne.mp hpresent)]

theorem length_mark_le {mark : Bool} {number : Nat} (h : number < 16) :
    (encodeFields (optional mark number (.varint 1))).length ≤ 2 :=
  length_optional_le fun _ => length_singleton_le _ (.varint 1) h

theorem length_word_le {isPresent : Bool} {number : Nat} (word : UInt32) (h : number < 16) :
    (encodeFields (optional isPresent number (.varint word.toNat))).length ≤ 6 := by
  apply length_optional_le
  intro _
  have hlen := length_singleton_le _ (.varint word.toNat) h
  have hword := varintLen_word word
  rw [length_varint] at hlen
  omega

theorem length_present_le {α : Type} {member : Option α} {number : Nat} {value : α → Value}
    (room : α → Nat) (h : number < 16) (hroom : ∀ a, (value a).encode.length ≤ room a) :
    (encodeFields (present member number value)).length ≤
      member.elim 0 fun a => 1 + room a := by
  unfold present
  cases member with
  | some a =>
      exact Nat.le_trans (length_singleton_le _ (value a) h) (Nat.add_le_add_left (hroom a) 1)
  | none => exact Nat.zero_le 0

/-! ## Messages -/

theorem length_userFields_le (user : User) :
    (encodeFields (userFields user)).length ≤ user.room := by
  have hid : (encodeFields (optional (user.id != []) 1 (.bytes user.id))).length ≤ _ :=
    length_text_le (by decide)
  have hlong : (encodeFields (optional (user.longName != []) 2 (.bytes user.longName))).length ≤
      _ := length_text_le (by decide)
  have hshort : (encodeFields (optional (user.shortName != []) 3
      (.bytes user.shortName))).length ≤ _ := length_text_le (by decide)
  have hmac : (encodeFields (optional (user.macaddr != []) 4 (.bytes user.macaddr))).length ≤ _ :=
    length_text_le (by decide)
  have hmodel : (encodeFields (optional (user.hwModel != 0) 5
      (.varint (int32Varint user.hwModel)))).length ≤ _ := length_code_le (by decide)
  have hlicensed : (encodeFields (optional user.isLicensed 6 (.varint 1))).length ≤
      if user.isLicensed then 2 else 0 := by
    apply length_optional_le
    intro hpresent
    rw [if_pos hpresent]
    exact length_singleton_le _ (.varint 1) (by decide)
  have hrole : (encodeFields (optional (user.role != 0) 7
      (.varint (int32Varint user.role)))).length ≤ _ := length_code_le (by decide)
  have hkey : (encodeFields (optional (user.publicKey != []) 8
      (.bytes user.publicKey))).length ≤ _ := length_text_le (by decide)
  unfold userFields User.room User.textRoom
  simp only [encodeFields_append, List.length_append]
  omega

theorem length_nodeInfoFields_le (info : NodeInfo) :
    (encodeFields (nodeInfoFields info)).length ≤ info.room := by
  have hnum : (encodeFields (optional (info.num != 0) 1 (.varint info.num.toNat))).length ≤ 6 :=
    length_word_le _ (by decide)
  have huser : (encodeFields (present info.user 2
      (fun user => .bytes (userCodec.encode user)))).length ≤
      info.user.elim 0 fun user => 1 + blockLen user.room := by
    refine length_present_le (fun user => blockLen (User.room user)) (by decide) fun user => ?_
    rw [length_bytes]
    exact blockLen_mono (length_userFields_le user)
  have hposition : (encodeFields (present info.position 3
      (fun position => .bytes position.encoding))).length ≤
      info.position.elim 0 fun position => 1 + blockLen position.encoding.length :=
    length_present_le (fun position => blockLen (Position.encoding position).length) (by decide)
      fun position => Nat.le_of_eq (length_bytes _)
  have hheard : (encodeFields (optional (info.lastHeard != 0) 5
      (.fixed32 info.lastHeard))).length ≤ 5 :=
    length_optional_le fun _ => length_singleton_le _ (.fixed32 info.lastHeard) (by decide)
  have hhops : (encodeFields (present info.hopsAway 9 (fun hops => .varint hops.toNat))).length ≤
      info.hopsAway.elim 0 fun hops => 1 + varintLen hops.toNat :=
    length_present_le (fun hops => varintLen (UInt32.toNat hops)) (by decide)
      fun _ => Nat.le_refl _
  have hfavorite : (encodeFields (optional info.isFavorite 10 (.varint 1))).length ≤ 2 :=
    length_mark_le (by decide)
  have hignored : (encodeFields (optional info.isIgnored 11 (.varint 1))).length ≤ 2 :=
    length_mark_le (by decide)
  have hmuted : (encodeFields (optional info.isMuted 13 (.varint 1))).length ≤ 2 :=
    length_mark_le (by decide)
  unfold nodeInfoFields NodeInfo.room
  simp only [encodeFields_append, List.length_append]
  omega

theorem length_fromRadioCodec_le (id : UInt32) (variant : FromRadio.Variant) :
    (fromRadioCodec.encode { id := id, payloadVariant := some variant }).length ≤
      idRoom + variant.room := by
  have hid : (encodeFields (optional (id != 0) 1 (.varint id.toNat))).length ≤ idRoom :=
    length_word_le id (by decide)
  have hvariant : (encodeFields (fromRadioVariantFields variant)).length ≤ variant.room := by
    cases variant with
    | nodeInfo info =>
        have hlen := length_singleton_le 4
          (.bytes (encodeFields (nodeInfoFields info))) (by decide)
        rw [length_bytes] at hlen
        have hinfo := blockLen_mono (length_nodeInfoFields_le info)
        change _ ≤ 1 + blockLen info.room
        exact Nat.le_trans hlen (Nat.add_le_add_left hinfo 1)
    | configCompleteId complete =>
        have hlen := length_singleton_le 7 (.varint complete.toNat) (by decide)
        have hword := varintLen_word complete
        rw [length_varint] at hlen
        change _ ≤ 7
        exact Nat.le_trans hlen (by omega)
    | _ => exact Nat.zero_le _
  change (encodeFields (optional (id != 0) 1 (.varint id.toNat) ++
    fromRadioVariantFields variant)).length ≤ _
  rw [encodeFields_append, List.length_append]
  exact Nat.add_le_add hid hvariant

theorem length_adminCodec_le (passkey : Bytes) {variant : AdminMessage.Variant} {room : Nat}
    (h : variant.answerRoom = some room) :
    (adminCodec.encode { sessionPasskey := passkey, payloadVariant := some variant }).length ≤
      blockRoom passkey.length + room := by
  have hpasskey : (encodeFields (optional (passkey != []) 101 (.bytes passkey))).length ≤
      blockRoom passkey.length := by
    apply length_optional_le
    intro _
    have hlen := length_singleton_le_add_two 101 (.bytes passkey) (by decide)
    rwa [length_bytes] at hlen
  have hvariant : (encodeFields (adminVariantFields variant)).length ≤ room := by
    cases variant with
    | getOwnerResponse user =>
        cases h
        have hlen := length_singleton_le_add_two 4
          (.bytes (encodeFields (userFields user))) (by decide)
        rw [length_bytes] at hlen
        have huser := blockLen_mono (length_userFields_le user)
        exact Nat.le_trans hlen (Nat.add_le_add_left huser 2)
    | beginEditSettings flag =>
        cases h
        cases flag <;> decide
    | getConfigResponse _ | getChannelResponse _ | getModuleConfigResponse _
    | commitEditSettings _ => exact Nat.zero_le _
    | _ => cases h
  change (encodeFields (adminVariantFields variant ++
    optional (passkey != []) 101 (.bytes passkey))).length ≤ _
  rw [encodeFields_append, List.length_append]
  omega

/-! ## What is read -/

theorem blockLen_lt_encode {field : Field} {content : Bytes} (h : field.value = .bytes content) :
    blockLen content.length < field.encode.length := by
  have hlen := Field.lt_length_encode field
  rwa [h, length_bytes] at hlen

theorem textRoom_le_encode {field : Field} {text : Bytes} (h : field.value = .bytes text) :
    textRoom text ≤ field.encode.length := by
  have hlen := blockLen_lt_encode h
  unfold textRoom
  split <;> omega

theorem textRoom_mergeUser {acc user : User} {field : Field}
    (h : mergeUser acc field = some user) :
    user.textRoom ≤ acc.textRoom + field.encode.length := by
  unfold mergeUser at h
  split at h
  case h_5 | h_6 | h_7 =>
    cases h
    exact Nat.le_add_right _ _
  case h_9 =>
    split at h
    · cases h
    · cases h
      exact Nat.le_add_right _ _
  -- each of the five texts takes the place of the one read before it
  all_goals
    rename_i hvalue
    have htext := textRoom_le_encode hvalue
    cases h
    unfold User.textRoom
    dsimp only
    omega

theorem textRoom_of_decodeUser {bytes : Bytes} {user : User}
    (h : userCodec.decode bytes = some user) : user.textRoom ≤ bytes.length := by
  obtain ⟨fields, hfields, hmerged⟩ := Option.bind_eq_some_iff.mp h
  have hlen := length_encodeFields_of_decodeFields hfields
  have hgrown := measure_foldlM_le User.textRoom (fun _ _ _ => textRoom_mergeUser) hmerged
  have hempty : User.textRoom {} = 0 := rfl
  omega

theorem length_payload_mergeData {acc data : Data} {field : Field}
    (h : mergeData acc field = some data) :
    data.payload.length ≤ acc.payload.length + field.encode.length := by
  unfold mergeData at h
  split at h
  case h_2 =>
    rename_i hvalue
    have hlen := blockLen_lt_encode hvalue
    unfold blockLen at hlen
    cases h
    dsimp only
    omega
  case h_10 =>
    split at h
    · cases h
    · cases h
      exact Nat.le_add_right _ _
  all_goals
    cases h
    exact Nat.le_add_right _ _

theorem length_payload_of_decodeData {bytes : Bytes} {data : Data}
    (h : dataCodec.decode bytes = some data) : data.payload.length ≤ bytes.length := by
  obtain ⟨fields, hfields, hmerged⟩ := Option.bind_eq_some_iff.mp h
  have hlen := length_encodeFields_of_decodeFields hfields
  have hgrown := measure_foldlM_le (fun data => data.payload.length)
    (fun _ _ _ => length_payload_mergeData) hmerged
  exact Nat.le_trans hgrown (by simpa using hlen)

theorem length_routingCodec_le (error : RoutingError) :
    (routingCodec.encode { variant := some (.errorReason error) }).length ≤ int32Room := by
  cases error <;> decide

end Meshtastenstein.Wire

namespace Meshtastenstein.KnownAnswers

open Proto

def positionCodec : Codec Position where
  encode := Position.encoding
  decode bytes := if bytes.length ≤ POSITION_ROOM then some { encoding := bytes } else none

/-- The environment of the runs with positions. -/
def placedEnv (answers : KnownAnswers) : Env :=
  { answers.phoneEnv with
    prost := { answers.phoneEnv.prost with position := positionCodec } }

theorem compact_placedEnv (answers : KnownAnswers) : answers.placedEnv.prost.Compact where
  fromRadio := Wire.length_fromRadioCodec_le
  adminMessage := fun passkey _ _ h => Wire.length_adminCodec_le passkey h
  routing := Wire.length_routingCodec_le
  telemetry := fun _ _ => Nat.zero_le _
  position := fun _ => Nat.le_refl _
  positionOf := by
    intro bytes position h
    change (if bytes.length ≤ POSITION_ROOM then some ({ encoding := bytes } : Position)
      else none) = some position at h
    split at h
    · rename_i hlen
      cases h
      exact hlen
    · cases h
  userOf := fun _ _ => Wire.textRoom_of_decodeUser
  dataOf := fun _ _ => Wire.length_payload_of_decodeData

end Meshtastenstein.KnownAnswers
