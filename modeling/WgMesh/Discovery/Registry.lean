import WgMesh.Crypto.Reference
import WgMesh.Daemon.PeerStore
import WgMesh.Go.Basic

/-! # The rendezvous registry

`RendezvousRegistry` (package `discovery`) keeps one public issue per mesh, whose body
carries a sealed ANNOUNCE between two markers: `buildIssueBody` writes it, from the
first peer and the others as its known peers, and `decryptPeerList` reads it back. The
body is a Go string; here it is its bytes, since the envelope is whatever bytes
`json.Marshal` wrote.

* `decryptPeerList_issueBody` — around an envelope that reads as text (`EnvelopeText`:
  what `json.Marshal` writes, an object with base64 fields), the markers and
  `TrimSpace` give back the envelope;
* `decryptPeerList_buildIssueBody` — read at `now`, a body written at `sent` lists the
  peers in order, the first with its routable networks, when `now` is within ten
  minutes of `sent`, and nothing otherwise;
* `registry_blob_expires` — so a body read more than ten minutes after it was written
  lists nothing, though `RegistryUpdateAge` is a day.
-/

namespace WgMesh.Discovery

open WgMesh.Go WgMesh.Crypto WgMesh.Daemon

/-- `RegistryUpdateAge`: 24 hours. No function reads it. -/
def registryUpdateAge : Int := 24 * 3600 * 1000000000

/-- The marker before the envelope. -/
def startMarker : String := "<!-- PEERS:"

/-- The marker after the envelope. -/
def endMarker : String := ":PEERS -->"

variable (P : Primitives)

/-- `buildIssueBody` at the instant `now`, with `nonce` the 12 bytes `SealEnvelope`
reads: an ANNOUNCE of the first peer that lists the others as known peers. -/
def buildIssueBody (gossipKey : Key) (nonce : Bytes) (now : Time) :
    List PeerInfo → Except String Bytes
  | [] => .error "no peers to publish"
  | first :: rest =>
    let knownPeers := rest.map fun p => (⟨p.wgPubKey, p.meshIP, p.endpoint⟩ : KnownPeer)
    let announcement := createAnnouncement first.wgPubKey first.meshIP first.endpoint
      first.routableNetworks knownPeers now
    let encrypted := sealEnvelope P messageTypeAnnounce announcement gossipKey nonce
    .ok (bytesOf "wgmesh registry rendezvous point\n\n<!-- PEERS:\n" ++ encrypted ++
      bytesOf "\n:PEERS -->")

/-- The peers an opened announcement lists: itself unless its key is empty, with its
routable networks, then its known peers. -/
def peersOfAnnouncement (a : PeerAnnouncement) : List PeerInfo :=
  (if a.wgPubKey ≠ "" then [⟨a.wgPubKey, a.meshIP, a.wgEndpoint, a.routableNetworks, 0, []⟩]
    else []) ++
  a.knownPeers.map fun kp => ⟨kp.wgPubKey, kp.meshIP, kp.wgEndpoint, [], 0, []⟩

/-- `decryptPeerList` at the instant `now`: nil without both markers in order, or when
the trimmed text between them is empty or does not open; `none` is the run-time panic of
the slice. -/
def decryptPeerList (gossipKey : Key) (now : Time) (body : Bytes) : Option (List PeerInfo) :=
  match indexBytes (bytesOf startMarker) body, indexBytes (bytesOf endMarker) body with
  | some startIdx, some endIdx =>
    if endIdx ≤ startIdx then some []
    else (sliceBytes body (startIdx + (bytesOf startMarker).length) endIdx).map fun middle =>
      let encryptedData := trimSpaceBytes middle
      if encryptedData = [] then []
      else
        match openEnvelope P encryptedData gossipKey now with
        | .error _ => []
        | .ok (_, announcement) => peersOfAnnouncement announcement
  | _, _ => some []

/-! ## Finding the envelope -/

/-- What `json.Marshal` guarantees of an envelope and `decryptPeerList` relies on: it is
not empty, it neither starts nor ends like a space's encoding, and it does not contain
the end marker. -/
def EnvelopeText (enc : Bytes) : Prop :=
  enc ≠ [] ∧ (∀ e ∈ spaceEncodings, e.head? ≠ enc.head? ∧ e.getLast? ≠ enc.getLast?) ∧
    ¬ bytesOf endMarker <:+: enc

theorem issueBody_header :
    bytesOf "wgmesh registry rendezvous point\n\n<!-- PEERS:\n" =
      bytesOf "wgmesh registry rendezvous point\n\n" ++ (bytesOf startMarker ++ [10]) := by
  decide

theorem issueBody_footer : bytesOf "\n:PEERS -->" = 10 :: bytesOf endMarker := by decide

theorem indexBytes_startMarker (rest : Bytes) :
    indexBytes (bytesOf startMarker)
      (bytesOf "wgmesh registry rendezvous point\n\n<!-- PEERS:\n" ++ rest) = some 34 := by
  have hA : (bytesOf "wgmesh registry rendezvous point\n\n").length = 34 := by decide
  have hno : ∀ j < 34, ((bytesOf startMarker).zip
      ((bytesOf "wgmesh registry rendezvous point\n\n").drop j)).any (fun p => p.1 != p.2) := by
    decide
  have hp : (bytesOf startMarker).isPrefixOf (bytesOf startMarker ++ [10] ++ rest) = true :=
    List.isPrefixOf_iff_prefix.mpr ⟨[10] ++ rest, by simp⟩
  rw [issueBody_header, List.append_assoc, indexBytes_append _
    fun j hj => isPrefixOf_append_of_mismatch (hno j (hA ▸ hj)) _,
    indexBytes_of_isPrefixOf hp, hA]
  rfl

theorem indexBytes_endMarker {enc : Bytes} (henc : ¬ bytesOf endMarker <:+: enc) :
    indexBytes (bytesOf endMarker)
      (bytesOf "wgmesh registry rendezvous point\n\n<!-- PEERS:\n" ++ enc ++
        bytesOf "\n:PEERS -->") = some (46 + (enc.length + 1)) := by
  have hA : (bytesOf "wgmesh registry rendezvous point\n\n<!-- PEERS:\n").length = 46 := by
    decide
  have hno : ∀ j < 46, ((bytesOf endMarker).zip
      ((bytesOf "wgmesh registry rendezvous point\n\n<!-- PEERS:\n").drop j)).any
        (fun p => p.1 != p.2) := by
    decide
  rw [issueBody_footer, List.append_assoc, indexBytes_append _
    fun j hj => isPrefixOf_append_of_mismatch (hno j (hA ▸ hj)) _,
    indexBytes_append_cons (by decide) (by decide) henc, hA]
  simp only [Option.map_some', Nat.add_comm]

theorem sliceBytes_issueBody (enc : Bytes) :
    sliceBytes (bytesOf "wgmesh registry rendezvous point\n\n<!-- PEERS:\n" ++ enc ++
      bytesOf "\n:PEERS -->") (34 + (bytesOf startMarker).length) (46 + (enc.length + 1)) =
      some (10 :: (enc ++ [10])) := by
  have hh : bytesOf "wgmesh registry rendezvous point\n\n<!-- PEERS:\n" ++ enc ++
      bytesOf "\n:PEERS -->" =
        bytesOf "wgmesh registry rendezvous point\n\n<!-- PEERS:" ++ 10 :: (enc ++ 10 ::
          bytesOf endMarker) := by
    rw [show bytesOf "wgmesh registry rendezvous point\n\n<!-- PEERS:\n" =
      bytesOf "wgmesh registry rendezvous point\n\n<!-- PEERS:" ++ [10] by decide,
      issueBody_footer]
    simp
  have hlen : (bytesOf "wgmesh registry rendezvous point\n\n<!-- PEERS:").length = 45 := by
    decide
  have hsm : 34 + (bytesOf startMarker).length = 45 := by decide
  have hem : (bytesOf endMarker).length = 10 := by decide
  rw [hh, sliceBytes, if_pos (by simp [hlen, hem, hsm]; omega), hsm,
    show 46 + (enc.length + 1) = 45 + (enc.length + 2) by omega, ← hlen, List.take_append,
    List.drop_left, List.take_succ_cons, List.take_append]
  rfl

theorem decryptPeerList_issueBody (gossipKey : Key) (now : Time) {enc : Bytes}
    (hE : EnvelopeText enc) :
    decryptPeerList P gossipKey now
        (bytesOf "wgmesh registry rendezvous point\n\n<!-- PEERS:\n" ++ enc ++
          bytesOf "\n:PEERS -->") =
      some (match openEnvelope P enc gossipKey now with
        | .error _ => []
        | .ok (_, announcement) => peersOfAnnouncement announcement) := by
  obtain ⟨hne, hends, henc⟩ := hE
  have hs := indexBytes_startMarker (enc ++ bytesOf "\n:PEERS -->")
  rw [← List.append_assoc] at hs
  unfold decryptPeerList
  rw [hs, indexBytes_endMarker henc]
  dsimp only
  rw [if_neg (by omega), sliceBytes_issueBody, Option.map_some', trimSpaceBytes_newlines hne hends,
    if_neg hne]

/-! ## Reading back what was written -/

theorem peersOfAnnouncement_createAnnouncement (first : PeerInfo) (rest : List PeerInfo)
    (now : Time) :
    peersOfAnnouncement (createAnnouncement first.wgPubKey first.meshIP first.endpoint
        first.routableNetworks (rest.map fun p => ⟨p.wgPubKey, p.meshIP, p.endpoint⟩) now) =
      (if first.wgPubKey ≠ "" then
        [⟨first.wgPubKey, first.meshIP, first.endpoint, first.routableNetworks, 0, []⟩]
      else []) ++ rest.map fun p => ⟨p.wgPubKey, p.meshIP, p.endpoint, [], 0, []⟩ := by
  simp [peersOfAnnouncement, createAnnouncement, Function.comp_def]

variable {P}

/-- A body written at `sent` and read at `now` lists the peers in order, the first with
its routable networks, when the announcement's second lies within ten minutes of `now`,
and nothing otherwise. -/
theorem decryptPeerList_buildIssueBody (hP : ∀ e, EnvelopeText (P.marshalEnvelope e))
    (gossipKey : Key) {nonce : Bytes} (hn : nonce.length = nonceSize) {sent now : Time}
    (hsent : -2^63 + unixToInternal ≤ sent.sec) (hnow : WellInside now) (first : PeerInfo)
    (rest : List PeerInfo) :
    (buildIssueBody P gossipKey nonce sent (first :: rest)).map
        (decryptPeerList P gossipKey now) =
      .ok (some (if now.nanos - maxMessageAge ≤ sent.sec * 1000000000 ∧
          sent.sec * 1000000000 ≤ now.nanos + maxMessageAge then
        (if first.wgPubKey ≠ "" then
          [⟨first.wgPubKey, first.meshIP, first.endpoint, first.routableNetworks, 0, []⟩]
        else []) ++ rest.map fun p => ⟨p.wgPubKey, p.meshIP, p.endpoint, [], 0, []⟩
      else [])) := by
  have hs := sent.sec_inInt64
  unfold InInt64 at hs
  let a := createAnnouncement first.wgPubKey first.meshIP first.endpoint first.routableNetworks
    (rest.map fun p => ⟨p.wgPubKey, p.meshIP, p.endpoint⟩) sent
  have hts : a.timestamp = sent.sec - unixToInternal :=
    wrap64_of_inInt64 (by unfold InInt64 unixToInternal at *; omega)
  have hE : EnvelopeText (sealEnvelope P messageTypeAnnounce a gossipKey nonce) := hP _
  simp only [buildIssueBody, Except.map]
  rw [decryptPeerList_issueBody P gossipKey now hE]
  congr 2
  by_cases hw : now.nanos - maxMessageAge ≤ sent.sec * 1000000000 ∧
      sent.sec * 1000000000 ≤ now.nanos + maxMessageAge
  · rw [if_pos hw, show sealEnvelope P messageTypeAnnounce a gossipKey nonce = _ from rfl,
      openEnvelope_sealEnvelope_of_fresh _ _ hn rfl
        (fresh_createAnnouncement _ _ _ _ _ hnow.2 hsent hw)]
    exact peersOfAnnouncement_createAnnouncement first rest sent
  · rw [if_neg hw]
    cases h : openEnvelope P (sealEnvelope P messageTypeAnnounce a gossipKey nonce) gossipKey now
      with
    | error => rfl
    | ok r =>
      obtain ⟨env, b⟩ := r
      have hb := openEnvelope_sealEnvelope_snd hn h
      have hf := (openEnvelope_eq_ok.mp h).2.2.2.2
      subst hb
      have hwin := window_of_fresh hnow.1 a.timestamp_inInt64 hf
      unfold InWindow Time.unixNanos at hwin
      rw [hts] at hwin
      unfold Time.nanos maxMessageAge unixToInternal at *
      exact absurd ⟨by omega, by omega⟩ hw

/-- A body read more than ten minutes after it was written lists no peer: the
announcement fails `OpenEnvelope`'s freshness check. -/
theorem registry_blob_expires (hP : ∀ e, EnvelopeText (P.marshalEnvelope e))
    (gossipKey : Key) {nonce : Bytes} (hn : nonce.length = nonceSize) {sent now : Time}
    (hsent : -2^63 + unixToInternal ≤ sent.sec) (hnow : WellInside now) (first : PeerInfo)
    (rest : List PeerInfo) (hstale : sent.nanos + maxMessageAge < now.nanos) :
    (buildIssueBody P gossipKey nonce sent (first :: rest)).map
      (decryptPeerList P gossipKey now) = .ok (some []) := by
  have hns := sent.nsec_lt
  rw [decryptPeerList_buildIssueBody hP gossipKey hn hsent hnow, if_neg]
  unfold Time.nanos at *
  omega

theorem textPrimitives_envelopeText (e : Envelope) :
    EnvelopeText (Reference.textPrimitives.marshalEnvelope e) := by
  have hcolon : (58 : UInt8) ∈ bytesOf endMarker := by decide
  refine ⟨by simp [Reference.textPrimitives], fun s hs => ?_, fun hin => ?_⟩
  · have hends : ∀ s ∈ spaceEncodings, s.head? ≠ some 0x7B ∧ s.getLast? ≠ some 0x7D := by decide
    have hlast : (Reference.textPrimitives.marshalEnvelope e).getLast? = some 0x7D :=
      List.getLast?_concat _
    rw [hlast]
    exact hends s hs
  · rcases List.mem_cons.mp (hin.subset hcolon) with h | h
    · exact absurd h (by decide)
    rcases List.mem_append.mp h with h | h
    · exact absurd (Reference.mem_encodeLetters h).1 (by decide)
    · exact absurd (List.mem_singleton.mp h) (by decide)

/-- An issue body written at 2023-11-14 22:13:20 UTC and read eleven minutes later,
well inside `RegistryUpdateAge`, lists no peer. -/
theorem registry_blob_expires_sample :
    (∀ e, EnvelopeText (Reference.textPrimitives.marshalEnvelope e)) ∧
      Reference.zeroNonce.length = nonceSize ∧
      -2^63 + unixToInternal ≤ Reference.sampleNow.sec ∧ WellInside (unix 1700000660) ∧
      Reference.sampleNow.nanos + maxMessageAge < (unix 1700000660).nanos ∧
      (unix 1700000660).nanos ≤ Reference.sampleNow.nanos + registryUpdateAge ∧
      (buildIssueBody Reference.textPrimitives Reference.zeroKey Reference.zeroNonce
          Reference.sampleNow [⟨"peer-a-key", "10.42.0.2", "192.0.2.2:51820", [], 0, []⟩]).map
        (decryptPeerList Reference.textPrimitives Reference.zeroKey (unix 1700000660)) =
        .ok (some []) :=
  ⟨textPrimitives_envelopeText, Reference.zeroNonce_length, by decide, by decide, by decide, by decide,
    registry_blob_expires textPrimitives_envelopeText _ Reference.zeroNonce_length (by decide) (by decide) _ _
      (by decide)⟩

end WgMesh.Discovery
