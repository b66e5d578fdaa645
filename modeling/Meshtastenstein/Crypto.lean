import Meshtastenstein.Environment
import Meshtastenstein.Lib.Bytes
/-!
# Channel and direct-message encryption

`crypto_psk` encrypts under a channel key with AES-CTR; `crypto_pkc` encrypts a
direct message under an X25519 shared key with AES-256-CCM and appends the tag
and the extra nonce.
-/

namespace Meshtastenstein

open Lib.Bytes Proto

variable (crypto : Crypto)

/-! ## Pre-shared keys -/

def buildNonce (packetId sender : UInt32) : Bytes :=
  toLeBytes packetId ++ [0, 0, 0, 0] ++ toLeBytes sender ++ [0, 0, 0, 0]

def copyPsk (psk : Bytes) : Bytes := psk.take 32

/-- Encrypt or decrypt in place; a key that is neither 16 nor 32 bytes long is an
error unless there is nothing to encrypt. -/
def cryptPacket (key : Bytes) (packetId sender : UInt32) (data : Bytes) :
    Option Bytes :=
  if data.isEmpty then some data
  else if key.length = 16 ∨ key.length = 32 then
    some (applyKeystream (crypto.aesCtr key (buildNonce packetId sender)) data)
  else none

theorem buildNonce_injective {id id' sender sender' : UInt32}
    (h : buildNonce id sender = buildNonce id' sender') :
    id = id' ∧ sender = sender' := by
  have hid := congrArg (List.take 4) h
  have hsender := congrArg (fun bytes => (bytes.drop 8).take 4) h
  exact ⟨toLeBytes_injective hid, toLeBytes_injective hsender⟩

theorem length_of_cryptPacket {key data out : Bytes} {packetId sender : UInt32}
    (h : cryptPacket crypto key packetId sender data = some out) :
    out.length = data.length := by
  unfold cryptPacket at h
  split at h
  · cases h
    rfl
  · split at h
    · cases h
      exact length_applyKeystream _ _
    · cases h

theorem cryptPacket_cryptPacket {key data out : Bytes} {packetId sender : UInt32}
    (h : cryptPacket crypto key packetId sender data = some out) :
    cryptPacket crypto key packetId sender out = some data := by
  have hlength := length_of_cryptPacket crypto h
  unfold cryptPacket at h ⊢
  split at h
  · cases h
    rename_i hempty
    rw [if_pos hempty]
  · rename_i hne
    split at h
    · rename_i hkey
      cases h
      have hout : (applyKeystream (crypto.aesCtr key (buildNonce packetId sender))
          data).isEmpty = false := by
        rw [Bool.eq_false_iff, Ne, List.isEmpty_iff_length_eq_zero, hlength]
        rwa [List.isEmpty_iff_length_eq_zero] at hne
      rw [if_neg (by simp [hout]), if_pos hkey, applyKeystream_applyKeystream]
    · cases h

theorem exists_cryptPacket {key : Bytes} (hkey : key.length = 16 ∨ key.length = 32)
    (packetId sender : UInt32) (data : Bytes) :
    ∃ out, cryptPacket crypto key packetId sender data = some out := by
  unfold cryptPacket
  split
  · exact ⟨data, rfl⟩
  · exact ⟨_, rfl⟩

/-! ## Public-key direct messages -/

def portnumAllowsPkc (portnum : Int32) : Bool :=
  match PortNum.tryFrom portnum with
  | some .tracerouteApp | some .nodeinfoApp | some .routingApp | some .positionApp => false
  | _ => true

def PKC_TAG_LEN : Nat := 8

def PKC_EXTRA_NONCE_LEN : Nat := 4

def PKC_OVERHEAD : Nat := PKC_TAG_LEN + PKC_EXTRA_NONCE_LEN

/-- The longest text one CCM encryption with a 13-byte nonce accepts. -/
def CCM_MAX_LEN : Nat := 2 ^ 16 - 1

def buildPkcNonce (packetId sender extraNonce : UInt32) : Bytes :=
  toLeBytes packetId ++ toLeBytes extraNonce ++ toLeBytes sender ++ [0]

def deriveSharedKey (mySecret peerPublic : Key) : Key :=
  crypto.sha256 (crypto.diffieHellman mySecret peerPublic).val

def keypairFromSeed (seed : Key) : Key × Key :=
  (seed, crypto.publicKey seed)

def encryptPkc (sharedKey : Key) (packetId sender extraNonce : UInt32)
    (plaintext : Bytes) (outLen : Nat) : Option Bytes :=
  if outLen < plaintext.length + PKC_OVERHEAD then none
  else if CCM_MAX_LEN < plaintext.length then none
  else
    let nonce := buildPkcNonce packetId sender extraNonce
    some (applyKeystream (crypto.ccmKeystream sharedKey nonce) plaintext ++
      ((crypto.ccmTag sharedKey nonce plaintext).val ++ toLeBytes extraNonce))

def decryptPkc (sharedKey : Key) (packetId sender : UInt32) (wire : Bytes)
    (outLen : Nat) : Option Bytes :=
  if wire.length < PKC_OVERHEAD then none
  else
    let bodyLen := wire.length - PKC_OVERHEAD
    if outLen < bodyLen then none
    else if CCM_MAX_LEN < bodyLen then none
    else
      let nonce := buildPkcNonce packetId sender (wordAt wire (wire.length - 4))
      let plaintext := applyKeystream (crypto.ccmKeystream sharedKey nonce)
        (wire.take bodyLen)
      if (wire.drop bodyLen).take PKC_TAG_LEN =
          (crypto.ccmTag sharedKey nonce plaintext).val then
        some plaintext
      else none

theorem length_of_encryptPkc {sharedKey : Key} {packetId sender extraNonce : UInt32}
    {plaintext wire : Bytes} {outLen : Nat}
    (h : encryptPkc crypto sharedKey packetId sender extraNonce plaintext outLen =
      some wire) :
    wire.length = plaintext.length + PKC_OVERHEAD := by
  unfold encryptPkc at h
  split at h
  · cases h
  · split at h
    · cases h
    · cases h
      simp only [List.length_append, length_applyKeystream, length_toLeBytes,
        (crypto.ccmTag _ _ _).property]
      rfl

/-- CCM encrypts any text that is short enough into a buffer of the right size. -/
theorem exists_encryptPkc (sharedKey : Key) (packetId sender extraNonce : UInt32)
    (plaintext : Bytes) (h : plaintext.length ≤ CCM_MAX_LEN) :
    ∃ wire, encryptPkc crypto sharedKey packetId sender extraNonce plaintext
      (plaintext.length + PKC_OVERHEAD) = some wire := by
  unfold encryptPkc
  rw [if_neg (Nat.lt_irrefl _), if_neg (Nat.not_lt.mpr h)]
  exact ⟨_, rfl⟩

theorem decryptPkc_encryptPkc {sharedKey : Key}
    {packetId sender extraNonce : UInt32} {plaintext wire : Bytes}
    {outLen bufLen : Nat}
    (h : encryptPkc crypto sharedKey packetId sender extraNonce plaintext outLen =
      some wire) (hbuf : plaintext.length ≤ bufLen) :
    decryptPkc crypto sharedKey packetId sender wire bufLen = some plaintext := by
  have hlength := length_of_encryptPkc crypto h
  unfold encryptPkc at h
  split at h
  · cases h
  split at h
  · cases h
  rename_i hmax
  cases h
  set nonce := buildPkcNonce packetId sender extraNonce with hnonce
  set body := applyKeystream (crypto.ccmKeystream sharedKey nonce) plaintext
    with hbody
  set tag := (crypto.ccmTag sharedKey nonce plaintext).val with htag
  have hbodyLength : body.length = plaintext.length :=
    length_applyKeystream _ _
  have htagLength : tag.length = 8 := (crypto.ccmTag sharedKey nonce plaintext).property
  have hword : wordAt (body ++ (tag ++ toLeBytes extraNonce))
      (plaintext.length + PKC_OVERHEAD - 4) = extraNonce := by
    have hread := wordAt_append (body ++ tag) [] extraNonce
    rw [List.append_nil, List.append_assoc, List.length_append, hbodyLength,
      htagLength] at hread
    exact hread
  unfold decryptPkc
  rw [hlength, if_neg (by omega), Nat.add_sub_cancel]
  simp only [hword, ← hnonce]
  rw [if_neg (by omega), if_neg hmax, ← hbodyLength, List.take_left, hbody,
    applyKeystream_applyKeystream, ← hbody, List.drop_left,
    show PKC_TAG_LEN = tag.length from htagLength.symm, List.take_left, if_pos htag]

theorem exists_encryptPkc_of_decryptPkc {sharedKey : Key}
    {packetId sender : UInt32} {plaintext wire : Bytes} {bufLen : Nat}
    (h : decryptPkc crypto sharedKey packetId sender wire bufLen = some plaintext) :
    ∃ extraNonce, encryptPkc crypto sharedKey packetId sender extraNonce plaintext
      (plaintext.length + PKC_OVERHEAD) = some wire := by
  unfold decryptPkc at h
  split at h
  · cases h
  rename_i hoverhead
  dsimp only at h
  split at h
  · cases h
  split at h
  · cases h
  rename_i hmax
  set bodyLen := wire.length - PKC_OVERHEAD with hbodyLen
  set extraNonce := wordAt wire (wire.length - 4) with hextra
  split at h
  · rename_i htag
    cases h
    have htake : (wire.take bodyLen).length = bodyLen := by
      rw [List.length_take]
      omega
    have hoverhead_eq : PKC_OVERHEAD = 12 := rfl
    have hlast : toLeBytes extraNonce = (wire.drop bodyLen).drop PKC_TAG_LEN := by
      rw [hextra, toLeBytes_wordAt _ _ (by omega), List.drop_drop,
        show bodyLen + PKC_TAG_LEN = wire.length - 4 by simp only [PKC_TAG_LEN]; omega]
      apply List.take_of_length_le
      rw [List.length_drop]
      omega
    refine ⟨extraNonce, ?_⟩
    unfold encryptPkc
    rw [if_neg (by omega), if_neg (by rw [length_applyKeystream, htake]; exact hmax)]
    simp only [applyKeystream_applyKeystream]
    rw [← htag, hlast, List.take_append_drop, List.take_append_drop]
  · cases h

theorem decryptPkc_eq_none {sharedKey : Key} {packetId sender : UInt32}
    {wire : Bytes}
    (h : ∀ extraNonce plaintext, encryptPkc crypto sharedKey packetId sender
      extraNonce plaintext (plaintext.length + PKC_OVERHEAD) ≠ some wire)
    (bufLen : Nat) :
    decryptPkc crypto sharedKey packetId sender wire bufLen = none := by
  cases hdecrypt : decryptPkc crypto sharedKey packetId sender wire bufLen with
  | none => rfl
  | some plaintext =>
      obtain ⟨extraNonce, hencrypt⟩ :=
        exists_encryptPkc_of_decryptPkc crypto hdecrypt
      exact absurd hencrypt (h extraNonce plaintext)

end Meshtastenstein
