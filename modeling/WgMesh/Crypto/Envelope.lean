import WgMesh.Go.Time
import Mathlib.Tactic.SplitIfs

/-! # Discovery envelopes

`SealEnvelope` and `OpenEnvelope` (`pkg/crypto/envelope.go`) wrap a
`PeerAnnouncement` in AES-256-GCM under the gossip key and carry it as a JSON
`Envelope` whose `type` field names the message. Opening checks, in order: the
envelope parses, the nonce is 12 bytes, the ciphertext authenticates, the
plaintext parses, the protocol tag is `wgmesh-v1`, and the timestamp is neither more
than ten minutes old (`time.Since`) nor more than ten minutes ahead (`After`).

`encoding/json` and `crypto/cipher` are not part of the repository. They enter as
`Primitives`: the functions the code calls, together with the one law it relies on
for each (decoding what was encoded gives it back; GCM opens what it sealed).

The freshness check is exact up to the edges of Go's time range:
`fresh_of_window` and `window_of_fresh` say it accepts precisely the
timestamps within ten minutes of `now`, for every `now` more than ten minutes
inside the range (`WellInside`), as every reading of the system clock is
(`wellInside_of_clock`).
-/

namespace WgMesh.Crypto

open WgMesh.Go

/-! ## Wire types -/

/-- A Go `[]byte`. -/
abbrev Bytes := List UInt8

/-- `KnownPeer`: a peer the sender knows, shared for transitive discovery. -/
structure KnownPeer where
  wgPubKey : String
  meshIP : String
  wgEndpoint : String
deriving DecidableEq, Repr

/-- `PeerAnnouncement`, the encrypted payload. `timestamp` is an `int64` of Unix
seconds. -/
structure PeerAnnouncement where
  protocol : String
  wgPubKey : String
  meshIP : String
  wgEndpoint : String
  routableNetworks : List String
  timestamp : Int
  knownPeers : List KnownPeer
  timestamp_inInt64 : InInt64 timestamp
deriving DecidableEq

/-- `Envelope`, the JSON object on the wire: the message type travels in clear. -/
structure Envelope where
  messageType : String
  nonce : Bytes
  ciphertext : Bytes
deriving DecidableEq, Repr

/-- A `[32]byte` gossip key. -/
structure Key where
  bytes : Bytes
  length_eq : bytes.length = 32
deriving DecidableEq

def nonceSize : Nat := 12

/-- `MaxMessageAge`, ten minutes as a `Duration` in nanoseconds. -/
def maxMessageAge : Int := 600 * 1000000000

def protocolVersion : String := "wgmesh-v1"

def messageTypeHello : String := "HELLO"

def messageTypeReply : String := "REPLY"

def messageTypeAnnounce : String := "ANNOUNCE"

/-! ## The standard library the envelope code calls -/

/-- `json.Marshal`/`json.Unmarshal` for the two wire structs and AES-256-GCM
`Seal`/`Open` with nil additional data, each with the law the envelope code relies
on. Strings are Lean strings, so the valid UTF-8 that `encoding/json` preserves, and
a nil and an empty list are the same list, as JSON makes them. -/
structure Primitives where
  marshalEnvelope : Envelope → Bytes
  unmarshalEnvelope : Bytes → Option Envelope
  marshalAnnouncement : PeerAnnouncement → Bytes
  unmarshalAnnouncement : Bytes → Option PeerAnnouncement
  gcmSeal : Key → Bytes → Bytes → Bytes
  gcmOpen : Key → Bytes → Bytes → Option Bytes
  unmarshalEnvelope_marshal : ∀ e, unmarshalEnvelope (marshalEnvelope e) = some e
  unmarshalAnnouncement_marshal : ∀ a, unmarshalAnnouncement (marshalAnnouncement a) = some a
  gcmOpen_gcmSeal : ∀ k n p, n.length = nonceSize → gcmOpen k n (gcmSeal k n p) = some p

/-! ## Sealing and opening -/

/-- Why `OpenEnvelope` refused: one constructor per error it returns, with the value
its message prints. (The cipher constructors cannot fail on a 32-byte key.) -/
inductive OpenError
  | unmarshalEnvelope
  | invalidNonceSize (size : Nat)
  | decryptionFailed
  | unmarshalAnnouncement
  | unsupportedProtocol (version : String)
  | tooOld (age : Int)
  | inFuture
deriving DecidableEq, Repr

variable (P : Primitives)

/-- `SealEnvelope(messageType, payload, gossipKey)`, with `nonce` the 12 bytes it
reads from `crypto/rand`. -/
def sealEnvelope (messageType : String) (payload : PeerAnnouncement) (gossipKey : Key)
    (nonce : Bytes) : Bytes :=
  P.marshalEnvelope ⟨messageType, nonce, P.gcmSeal gossipKey nonce (P.marshalAnnouncement payload)⟩

/-- The two timestamp checks of `OpenEnvelope`: not older than `MaxMessageAge` by
`time.Since`, and not `After` `now + MaxMessageAge`. -/
def Fresh (now : Time) (timestamp : Int) : Prop :=
  ¬ now.sub (unix timestamp) > maxMessageAge ∧ (unix timestamp).after (now.add maxMessageAge) = false

instance (now : Time) (timestamp : Int) : Decidable (Fresh now timestamp) :=
  inferInstanceAs (Decidable (_ ∧ _))

/-- `OpenEnvelope(data, gossipKey)` at the instant `now` (both clock readings of the
code taken as the one instant), with its early returns in order. -/
def openEnvelope (data : Bytes) (gossipKey : Key) (now : Time) :
    Except OpenError (Envelope × PeerAnnouncement) :=
  match P.unmarshalEnvelope data with
  | none => .error .unmarshalEnvelope
  | some envelope =>
    if envelope.nonce.length ≠ nonceSize then .error (.invalidNonceSize envelope.nonce.length)
    else match P.gcmOpen gossipKey envelope.nonce envelope.ciphertext with
    | none => .error .decryptionFailed
    | some plaintext =>
      match P.unmarshalAnnouncement plaintext with
      | none => .error .unmarshalAnnouncement
      | some announcement =>
        if announcement.protocol ≠ protocolVersion then
          .error (.unsupportedProtocol announcement.protocol)
        else
          let msgTime := unix announcement.timestamp
          if now.sub msgTime > maxMessageAge then .error (.tooOld (now.sub msgTime))
          else if msgTime.after (now.add maxMessageAge) then .error .inFuture
          else .ok (envelope, announcement)

/-- `CreateAnnouncement` at the instant `now`: the timestamp is `now.Unix()`. -/
def createAnnouncement (wgPubKey meshIP wgEndpoint : String) (routableNetworks : List String)
    (knownPeers : List KnownPeer) (now : Time) : PeerAnnouncement :=
  ⟨protocolVersion, wgPubKey, meshIP, wgEndpoint, routableNetworks,
    wrap64 (now.sec - unixToInternal), knownPeers, wrap64_inInt64 _⟩

/-! ## What opening checks -/

@[simp] theorem unix_sec (s : Int) : (unix s).sec = wrap64 (s + unixToInternal) := rfl

@[simp] theorem unix_nsec (s : Int) : (unix s).nsec = 0 := rfl

variable {P}

/-- `OpenEnvelope` succeeds exactly when every check passes: the spec lemma every
later use of the envelope layer goes through. -/
theorem openEnvelope_eq_ok {data : Bytes} {k : Key} {now : Time} {env : Envelope}
    {a : PeerAnnouncement} :
    openEnvelope P data k now = .ok (env, a) ↔
      P.unmarshalEnvelope data = some env ∧ env.nonce.length = nonceSize ∧
      (∃ plaintext, P.gcmOpen k env.nonce env.ciphertext = some plaintext ∧
        P.unmarshalAnnouncement plaintext = some a) ∧
      a.protocol = protocolVersion ∧ Fresh now a.timestamp := by
  constructor
  · intro h
    unfold openEnvelope at h
    split at h
    · cases h
    rename_i e hd
    split at h
    · cases h
    rename_i hn
    split at h
    · cases h
    rename_i p ho
    split at h
    · cases h
    rename_i b hu
    dsimp only at h
    split at h
    · cases h
    rename_i hp
    split at h
    · cases h
    rename_i hold
    split at h
    · cases h
    rename_i hfut
    cases h
    exact ⟨hd, by simpa using hn, ⟨p, ho, hu⟩, by simpa using hp, hold, by simpa using hfut⟩
  · rintro ⟨hd, hn, ⟨p, ho, hu⟩, hp, hold, hfut⟩
    simp [openEnvelope, hd, hn, ho, hu, hp, hold, hfut]

theorem openEnvelope_sealEnvelope (messageType : String) (a : PeerAnnouncement) (k : Key)
    {nonce : Bytes} (hn : nonce.length = nonceSize) (now : Time) :
    openEnvelope P (sealEnvelope P messageType a k nonce) k now =
      if a.protocol ≠ protocolVersion then .error (.unsupportedProtocol a.protocol)
      else if now.sub (unix a.timestamp) > maxMessageAge then
        .error (.tooOld (now.sub (unix a.timestamp)))
      else if (unix a.timestamp).after (now.add maxMessageAge) then .error .inFuture
      else .ok (⟨messageType, nonce, P.gcmSeal k nonce (P.marshalAnnouncement a)⟩, a) := by
  simp only [openEnvelope, sealEnvelope, P.unmarshalEnvelope_marshal, hn, ne_eq,
    not_true_eq_false, if_false, P.gcmOpen_gcmSeal k nonce _ hn,
    P.unmarshalAnnouncement_marshal]

theorem openEnvelope_sealEnvelope_snd {messageType : String} {a b : PeerAnnouncement} {k : Key}
    {nonce : Bytes} (hn : nonce.length = nonceSize) {now : Time} {env : Envelope}
    (h : openEnvelope P (sealEnvelope P messageType a k nonce) k now = .ok (env, b)) : b = a := by
  rw [openEnvelope_sealEnvelope _ _ _ hn] at h
  split_ifs at h
  cases h; rfl

theorem openEnvelope_sealEnvelope_of_fresh (messageType : String) {a : PeerAnnouncement}
    (k : Key) {nonce : Bytes} (hn : nonce.length = nonceSize) {now : Time}
    (hp : a.protocol = protocolVersion) (hf : Fresh now a.timestamp) :
    openEnvelope P (sealEnvelope P messageType a k nonce) k now =
      .ok (⟨messageType, nonce, P.gcmSeal k nonce (P.marshalAnnouncement a)⟩, a) := by
  rw [openEnvelope_sealEnvelope _ _ _ hn, if_neg (fun h => h hp), if_neg hf.1,
    if_neg (by simp [hf.2])]

/-! ## The ten-minute window -/

/-- The timestamp lies within `MaxMessageAge` of `now`, before or after it. -/
def InWindow (now : Time) (timestamp : Int) : Prop :=
  now.unixNanos - maxMessageAge ≤ timestamp * 1000000000 ∧
    timestamp * 1000000000 ≤ now.unixNanos + maxMessageAge

instance (now : Time) (timestamp : Int) : Decidable (InWindow now timestamp) :=
  inferInstanceAs (Decidable (_ ∧ _))

/-- `now` lies more than `MaxMessageAge` inside the instants a Unix timestamp is
compared with: ten minutes after the earliest `int64` Unix second, and ten minutes
before the last second a `Time` holds. -/
def WellInside (now : Time) : Prop :=
  -2^63 + 600 < now.sec - unixToInternal ∧ now.sec + 600 < 2^63

instance (now : Time) : Decidable (WellInside now) := inferInstanceAs (Decidable (_ ∧ _))

/-- `time.Now` adds `unixToInternal` to the Unix seconds of `CLOCK_REALTIME`, which Linux
keeps as a signed 64-bit count of nanoseconds and never sets before the epoch: its
seconds lie in `[0, 2^63 / 10^9]`, 1970 to 2262, and every such instant is well
inside. -/
theorem wellInside_of_clock {now : Time} {s : Int} (hsec : now.sec = s + unixToInternal)
    (h0 : 0 ≤ s) (hs : s ≤ 2^63 / 1000000000) : WellInside now := by
  unfold WellInside unixToInternal at *
  omega

theorem add_maxMessageAge {now : Time} (hnow : now.sec + 600 < 2^63) :
    (now.add maxMessageAge).sec = now.sec + 600 ∧ (now.add maxMessageAge).nsec = now.nsec := by
  have htn := now.nsec_lt
  have hts := now.sec_inInt64
  unfold InInt64 at hts
  rw [now.add_sec (by decide), now.add_nsec]
  unfold Time.nanos maxMessageAge
  constructor
  · split_ifs <;> omega
  · omega

theorem fresh_of_window {now : Time} {timestamp : Int} (hnow : now.sec + 600 < 2^63)
    (hts : InInt64 timestamp) (hw : InWindow now timestamp) : Fresh now timestamp := by
  have htn := now.nsec_lt
  have hts' := now.sec_inInt64
  obtain ⟨hsec', hnsec'⟩ := add_maxMessageAge hnow
  unfold InWindow Time.unixNanos Time.nanos maxMessageAge at hw
  unfold InInt64 at hts hts'
  have hsec : (unix timestamp).sec = timestamp + unixToInternal := by
    rw [unix_sec, wrap64_of_inInt64]; unfold InInt64 unixToInternal at *; omega
  refine ⟨?_, ?_⟩
  · rw [Time.sub_eq]
    simp only [Time.nanos, hsec, unix_nsec, maxDuration, minDuration, maxMessageAge]
    split_ifs <;> omega
  · simp only [Time.after, hsec, unix_nsec, hsec', hnsec', Bool.or_eq_false_iff,
      decide_eq_false_iff_not, Bool.and_eq_false_iff, beq_eq_false_iff_ne, ne_eq]
    unfold unixToInternal at *
    omega

/-- Every timestamp that passes both checks lies within ten minutes of `now`,
provided `now` is more than ten minutes after the earliest `int64` Unix second:
a timestamp whose `time.Unix` offset wraps is refused by one check or the other. -/
theorem window_of_fresh {now : Time} {timestamp : Int}
    (hnow : -2^63 + 600 < now.sec - unixToInternal) (hts : InInt64 timestamp)
    (hf : Fresh now timestamp) : InWindow now timestamp := by
  have htn := now.nsec_lt
  have hts' := now.sec_inInt64
  obtain ⟨hold, hfut⟩ := hf
  rw [Time.sub_eq] at hold
  have hsec := (unix timestamp).sec_inInt64
  simp only [Time.after, unix_sec, unix_nsec, Bool.or_eq_false_iff, decide_eq_false_iff_not,
    Bool.and_eq_false_iff, beq_eq_false_iff_ne, ne_eq] at hfut hsec
  rw [now.add_sec (by decide)] at hfut
  simp only [Time.nanos, unix_sec, unix_nsec, maxDuration, minDuration] at hold
  unfold InWindow Time.unixNanos
  unfold InInt64 wrap64 maxMessageAge unixToInternal Time.nanos at *
  split_ifs at hold hfut <;> omega

theorem openEnvelope_sealEnvelope_stale {messageType : String} {a b : PeerAnnouncement} {k : Key}
    {nonce : Bytes} (hn : nonce.length = nonceSize) {now : Time} {env : Envelope}
    (hlow : -2^63 + 600 < now.sec - unixToInternal)
    (hlate : a.timestamp * 1000000000 + maxMessageAge < now.unixNanos) :
    openEnvelope P (sealEnvelope P messageType a k nonce) k now ≠ .ok (env, b) := by
  intro h
  have hw := window_of_fresh hlow b.timestamp_inInt64 (openEnvelope_eq_ok.mp h).2.2.2.2
  rw [openEnvelope_sealEnvelope_snd hn h] at hw
  unfold InWindow at hw
  omega

theorem fresh_createAnnouncement {now sent : Time} (wgPubKey meshIP wgEndpoint : String)
    (routableNetworks : List String) (knownPeers : List KnownPeer) (hnow : now.sec + 600 < 2^63)
    (hsent : -2^63 + unixToInternal ≤ sent.sec)
    (hw : now.nanos - maxMessageAge ≤ sent.sec * 1000000000 ∧
      sent.sec * 1000000000 ≤ now.nanos + maxMessageAge) :
    Fresh now (createAnnouncement wgPubKey meshIP wgEndpoint routableNetworks knownPeers
      sent).timestamp := by
  have hs := sent.sec_inInt64
  unfold InInt64 at hs
  have hts : wrap64 (sent.sec - unixToInternal) = sent.sec - unixToInternal :=
    wrap64_of_inInt64 (by unfold InInt64 unixToInternal at *; omega)
  refine fresh_of_window hnow (wrap64_inInt64 _) ?_
  unfold InWindow Time.unixNanos
  simp only [createAnnouncement, hts]
  constructor <;> omega

end WgMesh.Crypto
