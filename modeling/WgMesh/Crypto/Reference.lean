import WgMesh.Crypto.Envelope

/-! # A reference instance of the primitives

Everything about envelopes is stated over an arbitrary `Primitives`. To run the
model on concrete inputs (the witnesses of hypotheses and the counterexamples)
this module builds one instance: a length-prefixed byte codec for the two wire
structs, and a stand-in cipher that prefixes the key and nonce to the plaintext and
checks them on opening. It satisfies the three laws of `Primitives`; nothing else is
claimed for it, and no theorem about envelopes depends on it.
-/

namespace WgMesh.Crypto.Reference

open WgMesh.Go

/-- A decoder reads a value off the front of the bytes and returns the rest. -/
abbrev Decoder (α : Type) := Bytes → Option (α × Bytes)

/-! ## Numbers, characters and lists -/

/-- Base-128 digits, low first, the high bit marking that more follow. -/
def encodeNat (n : Nat) : Bytes :=
  if h : n < 128 then [UInt8.ofNat n]
  else UInt8.ofNat (128 + n % 128) :: encodeNat (n / 128)
termination_by n
decreasing_by omega

def decodeNat : Decoder Nat
  | [] => none
  | b :: rest =>
    if b.toNat < 128 then some (b.toNat, rest)
    else (decodeNat rest).map fun (m, r) => (b.toNat - 128 + 128 * m, r)

@[simp] theorem decodeNat_encodeNat (n : Nat) (rest : Bytes) :
    decodeNat (encodeNat n ++ rest) = some (n, rest) := by
  induction n using encodeNat.induct with
  | case1 n h =>
    rw [encodeNat, dif_pos h]
    simp [decodeNat, UInt8.toNat_ofNat_of_lt (show n < UInt8.size by unfold UInt8.size; omega), h]
  | case2 n h ih =>
    rw [encodeNat, dif_neg h]
    have hb : (UInt8.ofNat (128 + n % 128)).toNat = 128 + n % 128 :=
      UInt8.toNat_ofNat_of_lt (by unfold UInt8.size; omega)
    rw [List.cons_append, decodeNat, hb, ih, if_neg (by omega)]
    simp only [Option.map_some', Option.some.injEq, Prod.mk.injEq, and_true]
    omega

/-- An integer as its sign and magnitude. -/
def encodeInt (i : Int) : Bytes :=
  encodeNat (if i < 0 then 1 else 0) ++ encodeNat i.natAbs

def decodeInt : Decoder Int := fun bs => do
  let (sign, bs) ← decodeNat bs
  let (m, bs) ← decodeNat bs
  pure (if sign = 1 then -(m : Int) else m, bs)

@[simp] theorem decodeInt_encodeInt (i : Int) (rest : Bytes) :
    decodeInt (encodeInt i ++ rest) = some (i, rest) := by
  by_cases hi : i < 0
  · have habs : ((i.natAbs : Nat) : Int) = -i := Int.ofNat_natAbs_of_nonpos (by omega)
    simp only [encodeInt, decodeInt, if_pos hi, List.append_assoc, decodeNat_encodeNat,
      Option.some_bind, Option.bind_eq_bind, pure, if_true, habs, Int.neg_neg]
  · have habs : ((i.natAbs : Nat) : Int) = i := Int.natAbs_of_nonneg (by omega)
    simp only [encodeInt, decodeInt, if_neg hi, List.append_assoc, decodeNat_encodeNat,
      Option.some_bind, Option.bind_eq_bind, pure, habs]
    rfl

/-- The items of a list one after another, without a count. -/
def encodeItems (enc : α → Bytes) : List α → Bytes
  | [] => []
  | a :: as => enc a ++ encodeItems enc as

def decodeItems (dec : Decoder α) : Nat → Decoder (List α)
  | 0, bs => some ([], bs)
  | n + 1, bs => do
    let (a, bs) ← dec bs
    let (as, bs) ← decodeItems dec n bs
    pure (a :: as, bs)

theorem decodeItems_encodeItems {enc : α → Bytes} {dec : Decoder α}
    (h : ∀ a rest, dec (enc a ++ rest) = some (a, rest)) (as : List α) (rest : Bytes) :
    decodeItems dec as.length (encodeItems enc as ++ rest) = some (as, rest) := by
  induction as with
  | nil => rfl
  | cons a as ih => simp [encodeItems, decodeItems, h, ih]

/-- A list as its length followed by its items. -/
def encodeList (enc : α → Bytes) (as : List α) : Bytes :=
  encodeNat as.length ++ encodeItems enc as

def decodeList (dec : Decoder α) : Decoder (List α) := fun bs => do
  let (n, bs) ← decodeNat bs
  decodeItems dec n bs

theorem decodeList_encodeList {enc : α → Bytes} {dec : Decoder α}
    (h : ∀ a rest, dec (enc a ++ rest) = some (a, rest)) (as : List α) (rest : Bytes) :
    decodeList dec (encodeList enc as ++ rest) = some (as, rest) := by
  simp [encodeList, decodeList, decodeItems_encodeItems h]

def decodeByte : Decoder UInt8
  | [] => none
  | b :: rest => some (b, rest)

def decodeChar : Decoder Char := fun bs => (decodeNat bs).map fun (n, r) => (Char.ofNat n, r)

def encodeString (s : String) : Bytes := encodeList (fun c => encodeNat c.toNat) s.data

def decodeString : Decoder String := fun bs => (decodeList decodeChar bs).map fun (cs, r) => (⟨cs⟩, r)

@[simp] theorem decodeString_encodeString (s : String) (rest : Bytes) :
    decodeString (encodeString s ++ rest) = some (s, rest) := by
  have hc : ∀ (c : Char) r, decodeChar (encodeNat c.toNat ++ r) = some (c, r) := by
    simp [decodeChar, Char.ofNat_toNat]
  simp [encodeString, decodeString, decodeList_encodeList hc]

def encodeBytes (bs : Bytes) : Bytes := encodeList (fun b => [b]) bs

@[simp] theorem decodeList_encodeBytes (bs rest : Bytes) :
    decodeList decodeByte (encodeBytes bs ++ rest) = some (bs, rest) :=
  decodeList_encodeList (fun _ _ => rfl) bs rest

/-! ## The wire structs -/

def encodeEnvelope (e : Envelope) : Bytes :=
  encodeString e.messageType ++ encodeBytes e.nonce ++ encodeBytes e.ciphertext

def decodeEnvelope (bs : Bytes) : Option Envelope := do
  let (messageType, bs) ← decodeString bs
  let (nonce, bs) ← decodeList decodeByte bs
  let (ciphertext, _) ← decodeList decodeByte bs
  pure ⟨messageType, nonce, ciphertext⟩

def encodeKnownPeer (k : KnownPeer) : Bytes :=
  encodeString k.wgPubKey ++ encodeString k.meshIP ++ encodeString k.wgEndpoint

def decodeKnownPeer : Decoder KnownPeer := fun bs => do
  let (wgPubKey, bs) ← decodeString bs
  let (meshIP, bs) ← decodeString bs
  let (wgEndpoint, bs) ← decodeString bs
  pure (⟨wgPubKey, meshIP, wgEndpoint⟩, bs)

@[simp] theorem decodeKnownPeer_encodeKnownPeer (k : KnownPeer) (rest : Bytes) :
    decodeKnownPeer (encodeKnownPeer k ++ rest) = some (k, rest) := by
  simp [encodeKnownPeer, decodeKnownPeer]

def encodeAnnouncement (a : PeerAnnouncement) : Bytes :=
  encodeString a.protocol ++ encodeString a.wgPubKey ++ encodeString a.meshIP ++
    encodeString a.wgEndpoint ++ encodeList encodeString a.routableNetworks ++
    encodeInt a.timestamp ++ encodeList encodeKnownPeer a.knownPeers

/-- Decoding into an `int64` field refuses a number outside its range. -/
def decodeAnnouncement (bs : Bytes) : Option PeerAnnouncement := do
  let (protocol, bs) ← decodeString bs
  let (wgPubKey, bs) ← decodeString bs
  let (meshIP, bs) ← decodeString bs
  let (wgEndpoint, bs) ← decodeString bs
  let (routableNetworks, bs) ← decodeList decodeString bs
  let (timestamp, bs) ← decodeInt bs
  let (knownPeers, _) ← decodeList decodeKnownPeer bs
  if h : InInt64 timestamp then
    pure ⟨protocol, wgPubKey, meshIP, wgEndpoint, routableNetworks, timestamp, knownPeers, h⟩
  else none

/-! ## The instance -/

/-- The key and nonce in front of the plaintext. -/
def gcmSeal (k : Key) (nonce plaintext : Bytes) : Bytes := k.bytes ++ nonce ++ plaintext

/-- Opens only what carries this key and nonce in front. -/
def gcmOpen (k : Key) (nonce ciphertext : Bytes) : Option Bytes :=
  if (k.bytes ++ nonce).isPrefixOf ciphertext then
    some (ciphertext.drop (k.bytes ++ nonce).length)
  else none

/-- The reference primitives. -/
def primitives : Primitives where
  marshalEnvelope := encodeEnvelope
  unmarshalEnvelope := decodeEnvelope
  marshalAnnouncement := encodeAnnouncement
  unmarshalAnnouncement := decodeAnnouncement
  gcmSeal := gcmSeal
  gcmOpen := gcmOpen
  unmarshalEnvelope_marshal e := by
    have h := decodeList_encodeBytes e.ciphertext []
    simp only [List.append_nil] at h
    simp [encodeEnvelope, decodeEnvelope, List.append_assoc, h]
  unmarshalAnnouncement_marshal a := by
    have h := decodeList_encodeList decodeKnownPeer_encodeKnownPeer a.knownPeers []
    simp only [List.append_nil] at h
    simp [encodeAnnouncement, decodeAnnouncement, List.append_assoc,
      decodeList_encodeList decodeString_encodeString, h, a.timestamp_inInt64]
  gcmOpen_gcmSeal k n p _ := by
    simp [gcmOpen, gcmSeal, List.isPrefixOf_iff_prefix, List.append_assoc]

/-- An all-zero gossip key. -/
def zeroKey : Key := ⟨List.replicate 32 0, by simp⟩

/-- An all-zero nonce. -/
def zeroNonce : Bytes := List.replicate 12 0

theorem zeroNonce_length : zeroNonce.length = nonceSize := rfl

/-- 2023-11-14 22:13:20 UTC, an instant to run the model at. -/
def sampleNow : Time := ⟨1700000000 + unixToInternal, 0, by decide, by decide⟩

/-- An announcement of the key `key` sealed at `sampleNow`. -/
def sampleAnnouncement (key : String) (knownPeers : List KnownPeer) : PeerAnnouncement :=
  createAnnouncement key "10.42.0.1" "0.0.0.0:51820" [] knownPeers sampleNow

/-! ## Envelopes that read as text

`json.Marshal` writes an envelope as an object, `{` to `}`, with the byte fields in
base64. `textPrimitives` keeps that shape: the reference codec, each byte written as two
letters `a` to `p`, between braces. -/

/-- Each byte as two letters, high nibble first. -/
def encodeLetters : Bytes → Bytes
  | [] => []
  | b :: bs => UInt8.ofNat (0x61 + b.toNat / 16) :: UInt8.ofNat (0x61 + b.toNat % 16) ::
    encodeLetters bs

def decodeLetters : Bytes → Bytes
  | h :: l :: bs => UInt8.ofNat ((h.toNat - 0x61) * 16 + (l.toNat - 0x61)) :: decodeLetters bs
  | _ => []

theorem toNat_letter {n : Nat} (h : n < 16) : (UInt8.ofNat (0x61 + n)).toNat = 0x61 + n :=
  UInt8.toNat_ofNat_of_lt (by unfold UInt8.size; omega)

@[simp] theorem decodeLetters_encodeLetters (bs : Bytes) :
    decodeLetters (encodeLetters bs) = bs := by
  induction bs with
  | nil => rfl
  | cons b bs ih =>
    have hb : b.toNat < 256 := UInt8.toNat_lt_size b
    rw [encodeLetters, decodeLetters, ih]
    congr 1
    apply UInt8.toNat.inj
    rw [toNat_letter (by omega), toNat_letter (by omega),
      UInt8.toNat_ofNat_of_lt (by unfold UInt8.size; omega)]
    omega

theorem mem_encodeLetters {bs : Bytes} {x : UInt8} (h : x ∈ encodeLetters bs) :
    0x61 ≤ x.toNat ∧ x.toNat < 0x71 := by
  induction bs with
  | nil => cases h
  | cons b bs ih =>
    have hb : b.toNat < 256 := UInt8.toNat_lt_size b
    rw [encodeLetters] at h
    rcases List.mem_cons.mp h with rfl | h
    · rw [toNat_letter (by omega)]; omega
    rcases List.mem_cons.mp h with rfl | h
    · rw [toNat_letter (by omega)]; omega
    exact ih h

/-- The reference primitives with envelopes written as letters between braces. -/
def textPrimitives : Primitives :=
  { primitives with
    marshalEnvelope := fun e => 0x7B :: encodeLetters (encodeEnvelope e) ++ [0x7D]
    unmarshalEnvelope := fun bs => decodeEnvelope (decodeLetters (bs.drop 1).dropLast)
    unmarshalEnvelope_marshal := fun e => by
      simpa using primitives.unmarshalEnvelope_marshal e }

end WgMesh.Crypto.Reference
