import Meshtastenstein.KnownAnswers
import Meshtastenstein.Storage
/-!
# Encodings of the phone messages

The contacts the phone adds and the node list it is sent, written out over the wire
format.  A node list message is read back from its encoding.
-/

namespace Meshtastenstein.Wire

open Lib.Protobuf Proto

/-! ## Contacts and channels -/

def mergeSharedContact (contact : SharedContact) (field : Field) : Option SharedContact :=
  match field.number, field.value with
  | 1, .varint n => some { contact with nodeNum := UInt32.ofNat n }
  | 2, .bytes content =>
      (userCodec.decode content).map fun user => { contact with user := some user }
  | 3, .varint n => some { contact with shouldIgnore := n != 0 }
  | number, _ => if number ≤ 3 then none else some contact

def decodeSharedContact (bytes : Bytes) : Option SharedContact :=
  (decodeFields bytes).bind fun fields => fields.foldlM mergeSharedContact {}

def mergeChannelSettings (settings : ChannelSettings) (field : Field) : Option ChannelSettings :=
  match field.number, field.value with
  | 2, .bytes content => some { settings with psk := content }
  | 3, .bytes content => if isUtf8 content then some { settings with name := content } else none
  | number, _ => if number = 2 ∨ number = 3 then none else some settings

def decodeChannelSettings (bytes : Bytes) : Option ChannelSettings :=
  (decodeFields bytes).bind fun fields => fields.foldlM mergeChannelSettings {}

def mergeChannel (channel : Channel) (field : Field) : Option Channel :=
  match field.number, field.value with
  | 1, .varint n => some { channel with index := varintInt32 n }
  | 2, .bytes content =>
      (decodeChannelSettings content).map fun settings => { channel with settings := some settings }
  | 3, .varint n => some { channel with role := varintInt32 n }
  | number, _ => if number ≤ 3 then none else some channel

def decodeChannel (bytes : Bytes) : Option Channel :=
  (decodeFields bytes).bind fun fields => fields.foldlM mergeChannel {}

def mergePhoneAdmin (message : AdminMessage) (field : Field) : Option AdminMessage :=
  match field.number, field.value with
  | 33, .bytes content =>
      (decodeChannel content).map fun channel =>
        { message with payloadVariant := some (.setChannel channel) }
  | 66, .bytes content =>
      (decodeSharedContact content).map fun contact =>
        { message with payloadVariant := some (.addContact contact) }
  | _, _ => mergeAdmin message field

def phoneAdminCodec : Codec AdminMessage where
  encode := adminCodec.encode
  decode bytes := (decodeFields bytes).bind fun fields => fields.foldlM mergePhoneAdmin {}

theorem holds_of_foldlM {α : Type} {P : α → Prop} {merge : α → Field → Option α}
    (hmerge : ∀ acc field acc', P acc → merge acc field = some acc' → P acc')
    {fields : List Field} {acc acc' : α} (hacc : P acc)
    (h : fields.foldlM merge acc = some acc') : P acc' := by
  induction fields generalizing acc with
  | nil =>
      cases h
      exact hacc
  | cons field fields ih =>
      rw [List.foldlM_cons] at h
      obtain ⟨next, hnext, hrest⟩ := Option.bind_eq_some_iff.mp h
      exact ih (hmerge acc field next hacc hnext) hrest

theorem isUtf8_of_decodeChannelSettings {bytes : Bytes} {settings : ChannelSettings}
    (h : decodeChannelSettings bytes = some settings) : isUtf8 settings.name = true := by
  obtain ⟨fields, -, hfields⟩ := Option.bind_eq_some_iff.mp h
  refine holds_of_foldlM (P := fun settings => isUtf8 settings.name = true) ?_ ?_ hfields
  · intro acc field acc' hacc hmerge
    unfold mergeChannelSettings at hmerge
    split at hmerge
    · cases hmerge
      exact hacc
    · split at hmerge
      · rename_i htext
        cases hmerge
        exact htext
      · cases hmerge
    · split at hmerge
      · cases hmerge
      · cases hmerge
        exact hacc
  · decide +kernel

/-! ## Users -/

theorem foldlM_optional_of {α : Type} {merge : α → Field → Option α} {acc acc' : α}
    {isPresent : Bool} {number : Nat} {value : Value}
    (hpresent : isPresent = true → merge acc ⟨number, value⟩ = some acc')
    (habsent : isPresent = false → acc = acc') :
    (optional isPresent number value).foldlM merge acc = some acc' := by
  rw [foldlM_optional]
  cases isPresent with
  | true => exact hpresent rfl
  | false => exact congrArg some (habsent rfl)

def UserFits (user : User) : Prop :=
  ∀ content ∈ [user.id, user.longName, user.shortName, user.macaddr, user.publicKey],
    content.length < 2 ^ 64

instance (user : User) : Decidable (UserFits user) := inferInstanceAs (Decidable (∀ _ ∈ _, _))

theorem fits_userFields {user : User} (h : UserFits user) :
    ∀ field ∈ userFields user, field.Fits := by
  intro field hfield
  simp only [userFields, List.mem_append] at hfield
  rcases hfield with hf | hf | hf | hf | hf | hf | hf | hf
  · exact fits_optional hf (by decide) (h _ (by simp))
  · exact fits_optional hf (by decide) (h _ (by simp))
  · exact fits_optional hf (by decide) (h _ (by simp))
  · exact fits_optional hf (by decide) (h _ (by simp))
  · exact fits_optional hf (by decide) (int32Varint_lt _)
  · exact fits_optional hf (by decide) (by decide : 1 < 2 ^ 64)
  · exact fits_optional hf (by decide) (int32Varint_lt _)
  · exact fits_optional hf (by decide) (h _ (by simp))

theorem foldlM_mergeUser (user : User) :
    (userFields user).foldlM mergeUser {} = some user := by
  obtain ⟨id, longName, shortName, macaddr, hwModel, isLicensed, role, publicKey⟩ := user
  have hid : (optional (id != []) 1 (.bytes id)).foldlM mergeUser {} = some { id := id } :=
    foldlM_optional_of (fun _ => rfl) (by simp +contextual)
  have hlongName : (optional (longName != []) 2 (.bytes longName)).foldlM mergeUser
      { id := id } = some { id := id, longName := longName } :=
    foldlM_optional_of (fun _ => rfl) (by simp +contextual)
  have hshortName : (optional (shortName != []) 3 (.bytes shortName)).foldlM mergeUser
      { id := id, longName := longName } =
      some { id := id, longName := longName, shortName := shortName } :=
    foldlM_optional_of (fun _ => rfl) (by simp +contextual)
  have hmacaddr : (optional (macaddr != []) 4 (.bytes macaddr)).foldlM mergeUser
      { id := id, longName := longName, shortName := shortName } =
      some { id := id, longName := longName, shortName := shortName, macaddr := macaddr } :=
    foldlM_optional_of (fun _ => rfl) (by simp +contextual)
  have hhwModel : (optional (hwModel != 0) 5 (.varint (int32Varint hwModel))).foldlM mergeUser
      { id := id, longName := longName, shortName := shortName, macaddr := macaddr } =
      some { id := id, longName := longName, shortName := shortName, macaddr := macaddr,
             hwModel := hwModel } :=
    foldlM_optional_of (fun _ => by simp [mergeUser, varintInt32_int32Varint])
      (by simp +contextual)
  have hlicensed : (optional isLicensed 6 (.varint 1)).foldlM mergeUser
      { id := id, longName := longName, shortName := shortName, macaddr := macaddr,
        hwModel := hwModel } =
      some { id := id, longName := longName, shortName := shortName, macaddr := macaddr,
             hwModel := hwModel, isLicensed := isLicensed } :=
    foldlM_optional_of (by simp +contextual [mergeUser]) (by simp +contextual)
  have hrole : (optional (role != 0) 7 (.varint (int32Varint role))).foldlM mergeUser
      { id := id, longName := longName, shortName := shortName, macaddr := macaddr,
        hwModel := hwModel, isLicensed := isLicensed } =
      some { id := id, longName := longName, shortName := shortName, macaddr := macaddr,
             hwModel := hwModel, isLicensed := isLicensed, role := role } :=
    foldlM_optional_of (fun _ => by simp [mergeUser, varintInt32_int32Varint])
      (by simp +contextual)
  have hpublicKey : (optional (publicKey != []) 8 (.bytes publicKey)).foldlM mergeUser
      { id := id, longName := longName, shortName := shortName, macaddr := macaddr,
        hwModel := hwModel, isLicensed := isLicensed, role := role } =
      some ⟨id, longName, shortName, macaddr, hwModel, isLicensed, role, publicKey⟩ :=
    foldlM_optional_of (fun _ => rfl) (by simp +contextual)
  simp only [userFields, List.foldlM_append, hid, hlongName, hshortName, hmacaddr, hhwModel,
    hlicensed, hrole, hpublicKey, Option.bind_eq_bind, Option.bind_some]

theorem userCodec_roundTrips {user : User} (h : UserFits user) :
    userCodec.RoundTrips user := by
  unfold Codec.RoundTrips userCodec
  dsimp only
  rw [decodeFields_encodeFields _ (fits_userFields h), Option.bind_some]
  exact foldlM_mergeUser user

/-! ## The node list -/

/-- A set member of an optional field goes out even with its default value. -/
def present {α : Type} (member : Option α) (number : Nat) (value : α → Value) : List Field :=
  match member with
  | some a => [⟨number, value a⟩]
  | none => []

def nodeInfoFields (info : NodeInfo) : List Field :=
  optional (info.num != 0) 1 (.varint info.num.toNat) ++
    (present info.user 2 (fun user => .bytes (userCodec.encode user)) ++
      (present info.position 3 (fun position => .bytes position.encoding) ++
        (optional (info.lastHeard != 0) 5 (.fixed32 info.lastHeard) ++
          (present info.hopsAway 9 (fun hops => .varint hops.toNat) ++
            (optional info.isFavorite 10 (.varint 1) ++
              (optional info.isIgnored 11 (.varint 1) ++
                optional info.isMuted 13 (.varint 1)))))))

def mergeNodeInfo (info : NodeInfo) (field : Field) : Option NodeInfo :=
  match field.number, field.value with
  | 1, .varint n => some { info with num := UInt32.ofNat n }
  | 2, .bytes content =>
      (userCodec.decode content).map fun user => { info with user := some user }
  | 3, .bytes content => some { info with position := some { encoding := content } }
  | 5, .fixed32 word => some { info with lastHeard := word }
  | 9, .varint n => some { info with hopsAway := some (UInt32.ofNat n) }
  | 10, .varint n => some { info with isFavorite := n != 0 }
  | 11, .varint n => some { info with isIgnored := n != 0 }
  | 13, .varint n => some { info with isMuted := n != 0 }
  | _, _ => some info

def decodeNodeInfo (bytes : Bytes) : Option NodeInfo :=
  (decodeFields bytes).bind fun fields => fields.foldlM mergeNodeInfo { num := 0 }

def fromRadioVariantFields : FromRadio.Variant → List Field
  | .nodeInfo info => [⟨4, .bytes (encodeFields (nodeInfoFields info))⟩]
  | .configCompleteId id => [⟨7, .varint id.toNat⟩]
  | _ => []

def fromRadioFields (message : FromRadio) : List Field :=
  optional (message.id != 0) 1 (.varint message.id.toNat) ++
    (message.payloadVariant.map fromRadioVariantFields).getD []

def mergeFromRadio (message : FromRadio) (field : Field) : Option FromRadio :=
  match field.number, field.value with
  | 1, .varint n => some { message with id := UInt32.ofNat n }
  | 4, .bytes content =>
      (decodeNodeInfo content).map fun info =>
        { message with payloadVariant := some (.nodeInfo info) }
  | 7, .varint n =>
      some { message with payloadVariant := some (.configCompleteId (UInt32.ofNat n)) }
  | _, _ => some message

def fromRadioCodec : Codec FromRadio where
  encode message := encodeFields (fromRadioFields message)
  decode bytes :=
    (decodeFields bytes).bind fun fields =>
      fields.foldlM mergeFromRadio { id := 0, payloadVariant := none }

theorem foldlM_present_of {α β : Type} {merge : β → Field → Option β} {acc acc' : β}
    {member : Option α} {number : Nat} {value : α → Value}
    (hpresent : ∀ a, member = some a → merge acc ⟨number, value a⟩ = some acc')
    (habsent : member = none → acc = acc') :
    (present member number value).foldlM merge acc = some acc' := by
  unfold present
  cases member with
  | some a => simpa using hpresent a rfl
  | none => exact congrArg some (habsent rfl)

theorem fits_present {α : Type} {member : Option α} {number : Nat} {value : α → Value}
    {field : Field} (hfield : field ∈ present member number value)
    (hnumber : 0 < number ∧ number < 2 ^ 29)
    (hvalue : ∀ a, member = some a → (value a).Fits) : field.Fits := by
  unfold present at hfield
  cases member with
  | some a =>
      rw [List.mem_singleton] at hfield
      subst hfield
      exact ⟨hnumber.1, hnumber.2, hvalue a rfl⟩
  | none => cases hfield

/-- A node whose parts are short enough for their lengths to be written, and for which no
signal report is stored. -/
def NodeInfoFits (info : NodeInfo) : Prop :=
  (∀ user ∈ info.user, UserFits user ∧ (userCodec.encode user).length < 2 ^ 64) ∧
    (∀ position ∈ info.position, position.encoding.length < 2 ^ 64) ∧ info.snr = 0

instance (info : NodeInfo) : Decidable (NodeInfoFits info) :=
  inferInstanceAs (Decidable (_ ∧ _ ∧ _))

theorem fits_nodeInfoFields {info : NodeInfo} (h : NodeInfoFits info) :
    ∀ field ∈ nodeInfoFields info, field.Fits := by
  have hword : ∀ n : UInt32, n.toNat < 2 ^ 64 :=
    fun n => Nat.lt_trans (UInt32.toNat_lt n) (by decide)
  intro field hfield
  simp only [nodeInfoFields, List.mem_append] at hfield
  rcases hfield with hf | hf | hf | hf | hf | hf | hf | hf
  · exact fits_optional hf (by decide) (hword _)
  · exact fits_present hf (by decide) fun user huser => (h.1 user huser).2
  · exact fits_present hf (by decide) h.2.1
  · exact fits_optional hf (by decide) trivial
  · exact fits_present hf (by decide) fun hops _ => hword hops
  · exact fits_optional hf (by decide) (by decide : 1 < 2 ^ 64)
  · exact fits_optional hf (by decide) (by decide : 1 < 2 ^ 64)
  · exact fits_optional hf (by decide) (by decide : 1 < 2 ^ 64)

theorem foldlM_mergeNodeInfo {info : NodeInfo} (h : NodeInfoFits info) :
    (nodeInfoFields info).foldlM mergeNodeInfo { num := 0 } = some info := by
  obtain ⟨huser, -, hsnr⟩ := h
  obtain ⟨num, user, position, snr, lastHeard, hopsAway, isFavorite, isIgnored, isMuted⟩ := info
  dsimp only at huser hsnr
  subst hsnr
  have hnum : (optional (num != 0) 1 (.varint num.toNat)).foldlM mergeNodeInfo { num := 0 } =
      some { num := num } :=
    foldlM_optional_of (fun _ => by simp [mergeNodeInfo]) (by simp +contextual)
  have husers : (present user 2 (fun user => .bytes (userCodec.encode user))).foldlM mergeNodeInfo
      { num := num } = some { num := num, user := user } := by
    apply foldlM_present_of
    · rintro user rfl
      have hround := userCodec_roundTrips (huser user rfl).1
      unfold Codec.RoundTrips at hround
      simp [mergeNodeInfo, hround]
    · rintro rfl
      rfl
  have hposition : (present position 3 (fun position => .bytes position.encoding)).foldlM
      mergeNodeInfo { num := num, user := user } =
      some { num := num, user := user, position := position } :=
    foldlM_present_of (by rintro position rfl; rfl) (by rintro rfl; rfl)
  have hlastHeard : (optional (lastHeard != 0) 5 (.fixed32 lastHeard)).foldlM mergeNodeInfo
      { num := num, user := user, position := position } =
      some { num := num, user := user, position := position, lastHeard := lastHeard } :=
    foldlM_optional_of (fun _ => rfl) (by simp +contextual)
  have hhopsAway : (present hopsAway 9 (fun hops => .varint hops.toNat)).foldlM mergeNodeInfo
      { num := num, user := user, position := position, lastHeard := lastHeard } =
      some { num := num, user := user, position := position, lastHeard := lastHeard,
             hopsAway := hopsAway } :=
    foldlM_present_of (by rintro hops rfl; simp [mergeNodeInfo]) (by rintro rfl; rfl)
  have hfavorite : (optional isFavorite 10 (.varint 1)).foldlM mergeNodeInfo
      { num := num, user := user, position := position, lastHeard := lastHeard,
        hopsAway := hopsAway } =
      some { num := num, user := user, position := position, lastHeard := lastHeard,
             hopsAway := hopsAway, isFavorite := isFavorite } :=
    foldlM_optional_of (by simp +contextual [mergeNodeInfo]) (by simp +contextual)
  have hignored : (optional isIgnored 11 (.varint 1)).foldlM mergeNodeInfo
      { num := num, user := user, position := position, lastHeard := lastHeard,
        hopsAway := hopsAway, isFavorite := isFavorite } =
      some { num := num, user := user, position := position, lastHeard := lastHeard,
             hopsAway := hopsAway, isFavorite := isFavorite, isIgnored := isIgnored } :=
    foldlM_optional_of (by simp +contextual [mergeNodeInfo]) (by simp +contextual)
  have hmuted : (optional isMuted 13 (.varint 1)).foldlM mergeNodeInfo
      { num := num, user := user, position := position, lastHeard := lastHeard,
        hopsAway := hopsAway, isFavorite := isFavorite, isIgnored := isIgnored } =
      some ⟨num, user, position, 0, lastHeard, hopsAway, isFavorite, isIgnored, isMuted⟩ :=
    foldlM_optional_of (by simp +contextual [mergeNodeInfo]) (by simp +contextual)
  simp only [nodeInfoFields, List.foldlM_append, hnum, husers, hposition, hlastHeard, hhopsAway,
    hfavorite, hignored, hmuted, Option.bind_eq_bind, Option.bind_some]

theorem decodeNodeInfo_encode {info : NodeInfo} (h : NodeInfoFits info) :
    decodeNodeInfo (encodeFields (nodeInfoFields info)) = some info := by
  unfold decodeNodeInfo
  rw [decodeFields_encodeFields _ (fits_nodeInfoFields h), Option.bind_some]
  exact foldlM_mergeNodeInfo h

def StageTwoFits : FromRadio.Variant → Prop
  | .nodeInfo info =>
      NodeInfoFits info ∧ (encodeFields (nodeInfoFields info)).length < 2 ^ 64
  | .configCompleteId _ => True
  | _ => False

instance : (variant : FromRadio.Variant) → Decidable (StageTwoFits variant)
  | .nodeInfo _ => inferInstanceAs (Decidable (_ ∧ _))
  | .configCompleteId _ => .isTrue trivial
  | .packet _ | .myInfo _ | .config _ | .moduleConfig _ | .channel _ | .queueStatus _
  | .metadata _ | .deviceuiConfig | .regionPresets => .isFalse id

/-- Every message of the second handshake stage is read back from its encoding. -/
theorem fromRadioCodec_roundTrips {variant : FromRadio.Variant} (h : StageTwoFits variant)
    (id : UInt32) : fromRadioCodec.RoundTrips { id := id, payloadVariant := some variant } := by
  have hword : ∀ n : UInt32, n.toNat < 2 ^ 64 :=
    fun n => Nat.lt_trans (UInt32.toNat_lt n) (by decide)
  have hid : (optional (id != 0) 1 (.varint id.toNat)).foldlM mergeFromRadio
      { id := 0, payloadVariant := none } = some { id := id, payloadVariant := none } :=
    foldlM_optional_of (fun _ => by simp [mergeFromRadio]) (by simp +contextual)
  have hfits : ∀ field ∈ fromRadioFields { id := id, payloadVariant := some variant },
      field.Fits := by
    intro field hfield
    simp only [fromRadioFields, List.mem_append] at hfield
    rcases hfield with hf | hf
    · exact fits_optional hf (by decide) (hword _)
    · cases variant with
      | nodeInfo info =>
          obtain rfl := List.mem_singleton.mp hf
          exact ⟨(by decide : 0 < 4), (by decide : 4 < 2 ^ 29), h.2⟩
      | configCompleteId complete =>
          obtain rfl := List.mem_singleton.mp hf
          exact ⟨(by decide : 0 < 7), (by decide : 7 < 2 ^ 29), hword complete⟩
      | _ => cases h
  unfold Codec.RoundTrips fromRadioCodec
  dsimp only
  rw [decodeFields_encodeFields _ hfits, Option.bind_some]
  unfold fromRadioFields
  rw [List.foldlM_append, hid]
  cases variant with
  | nodeInfo info =>
      have hdecode := decodeNodeInfo_encode h.1
      simp [fromRadioVariantFields, mergeFromRadio, hdecode]
  | configCompleteId complete => simp [fromRadioVariantFields, mergeFromRadio]
  | _ => cases h

end Meshtastenstein.Wire

namespace Meshtastenstein.KnownAnswers

/-- The environment of the runs in which the phone sets up channels and contacts and is sent
the node list. -/
def phoneEnv (answers : KnownAnswers) : Env :=
  { answers.env with
    prost := { prost with adminMessage := Wire.phoneAdminCodec, fromRadio := Wire.fromRadioCodec } }

end Meshtastenstein.KnownAnswers
