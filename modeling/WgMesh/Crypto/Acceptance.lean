import WgMesh.Crypto.Reference

/-! # What `OpenEnvelope` accepts

Two properties of the envelope layer as a whole. `openEnvelope_exact`: a sealed
announcement opens, with its message type, exactly when its protocol tag is right
and its timestamp lies within ten minutes of `now`, and any bytes that open passed
every check. The statement is for every `now` more than ten minutes inside the range
of `time.Time` (`WellInside`), which covers every instant `time.Now` can return
(`wellInside_of_clock`).

`openEnvelope_payload_eq`: what is authenticated is the nonce and the ciphertext.
The `type` field stays outside GCM (nil additional data), so envelopes that differ
only there open to the same announcement under different message types.
-/

namespace WgMesh.Crypto

open WgMesh.Go

variable (P : Primitives)

/-- Opening is exact for every `now` well inside Go's time range. -/
theorem openEnvelope_exact (k : Key) (now : Time) (hnow : WellInside now) :
    (∀ (messageType : String) (a : PeerAnnouncement) (nonce : Bytes), nonce.length = nonceSize →
      (openEnvelope P (sealEnvelope P messageType a k nonce) k now).toOption =
        if a.protocol = protocolVersion ∧ InWindow now a.timestamp then
          some (⟨messageType, nonce, P.gcmSeal k nonce (P.marshalAnnouncement a)⟩, a)
        else none) ∧
    (∀ (data : Bytes) (env : Envelope) (a : PeerAnnouncement),
      openEnvelope P data k now = .ok (env, a) →
        P.unmarshalEnvelope data = some env ∧ env.nonce.length = nonceSize ∧
        (∃ plaintext, P.gcmOpen k env.nonce env.ciphertext = some plaintext ∧
          P.unmarshalAnnouncement plaintext = some a) ∧
        a.protocol = protocolVersion ∧ InWindow now a.timestamp) := by
  obtain ⟨hlow, hhigh⟩ := hnow
  refine ⟨fun messageType a nonce hn => ?_, fun data env a h => ?_⟩
  · rw [openEnvelope_sealEnvelope messageType a k hn]
    by_cases hok : a.protocol = protocolVersion ∧ InWindow now a.timestamp
    · obtain ⟨hold, hfut⟩ := fresh_of_window hhigh a.timestamp_inInt64 hok.2
      rw [if_pos hok, if_neg (not_not_intro hok.1), if_neg hold, if_neg (by simp [hfut])]
      rfl
    · rw [if_neg hok]
      split_ifs with h₁ h₂ h₃ <;> try rfl
      exact absurd ⟨Decidable.of_not_not h₁,
        window_of_fresh hlow a.timestamp_inInt64 ⟨h₂, by simpa using h₃⟩⟩ hok
  · obtain ⟨hd, hn, hpl, hp, hf⟩ := openEnvelope_eq_ok.mp h
    exact ⟨hd, hn, hpl, hp, window_of_fresh hlow a.timestamp_inInt64 hf⟩

theorem sampleNow_wellInside : WellInside Reference.sampleNow :=
  wellInside_of_clock rfl (by decide) (by decide)

/-- `openEnvelope_exact` at the sample instant, for a fresh HELLO. -/
theorem openEnvelope_exact_sample :
    WellInside Reference.sampleNow ∧
      (openEnvelope Reference.primitives
          (sealEnvelope Reference.primitives messageTypeHello (Reference.sampleAnnouncement "A" [])
            Reference.zeroKey Reference.zeroNonce) Reference.zeroKey Reference.sampleNow).toOption =
        if (Reference.sampleAnnouncement "A" []).protocol = protocolVersion ∧
            InWindow Reference.sampleNow (Reference.sampleAnnouncement "A" []).timestamp then
          some (⟨messageTypeHello, Reference.zeroNonce, Reference.primitives.gcmSeal Reference.zeroKey
            Reference.zeroNonce (Reference.primitives.marshalAnnouncement (Reference.sampleAnnouncement "A" []))⟩,
            Reference.sampleAnnouncement "A" [])
        else none :=
  ⟨sampleNow_wellInside,
    (openEnvelope_exact Reference.primitives Reference.zeroKey Reference.sampleNow
      sampleNow_wellInside).1 _ _ _ Reference.zeroNonce_length⟩

/-- Only the nonce and the ciphertext are authenticated: two envelopes that agree on
them open alike, failing with the same error or returning the same announcement,
and each returns the message type of its own cleartext `type` field. -/
theorem openEnvelope_payload_eq (k : Key) (now : Time) {d₁ d₂ : Bytes} {e₁ e₂ : Envelope}
    (h₁ : P.unmarshalEnvelope d₁ = some e₁) (h₂ : P.unmarshalEnvelope d₂ = some e₂)
    (hn : e₁.nonce = e₂.nonce) (hc : e₁.ciphertext = e₂.ciphertext) :
    (openEnvelope P d₁ k now).map Prod.snd = (openEnvelope P d₂ k now).map Prod.snd ∧
      (∀ r, openEnvelope P d₁ k now = .ok r → r.1 = e₁) ∧
      (∀ r, openEnvelope P d₂ k now = .ok r → r.1 = e₂) := by
  refine ⟨?_, fun r h => ?_, fun r h => ?_⟩
  · unfold openEnvelope
    rw [h₁, h₂]
    dsimp only
    rw [hn, hc]
    split_ifs
    · rfl
    · cases P.gcmOpen k e₂.nonce e₂.ciphertext with
      | none => rfl
      | some p =>
        dsimp only
        cases P.unmarshalAnnouncement p with
        | none => rfl
        | some b => dsimp only; split_ifs <;> rfl
  · obtain ⟨hd, -⟩ := openEnvelope_eq_ok.mp (show openEnvelope P d₁ k now = .ok (r.1, r.2) from h)
    exact Option.some.inj (hd.symm.trans h₁)
  · obtain ⟨hd, -⟩ := openEnvelope_eq_ok.mp (show openEnvelope P d₂ k now = .ok (r.1, r.2) from h)
    exact Option.some.inj (hd.symm.trans h₂)

/-- `openEnvelope_payload_eq` at a HELLO and the same envelope relabelled REPLY. -/
theorem openEnvelope_payload_eq_sample :
    let c := Reference.primitives.gcmSeal Reference.zeroKey Reference.zeroNonce
      (Reference.primitives.marshalAnnouncement (Reference.sampleAnnouncement "A" []))
    let e₁ : Envelope := ⟨messageTypeHello, Reference.zeroNonce, c⟩
    let e₂ : Envelope := ⟨messageTypeReply, Reference.zeroNonce, c⟩
    Reference.primitives.unmarshalEnvelope (Reference.primitives.marshalEnvelope e₁) = some e₁ ∧
    Reference.primitives.unmarshalEnvelope (Reference.primitives.marshalEnvelope e₂) = some e₂ ∧
    (openEnvelope Reference.primitives (Reference.primitives.marshalEnvelope e₁) Reference.zeroKey
        Reference.sampleNow).map Prod.snd =
      (openEnvelope Reference.primitives (Reference.primitives.marshalEnvelope e₂) Reference.zeroKey
        Reference.sampleNow).map Prod.snd := by
  intro c e₁ e₂
  have h₁ := Reference.primitives.unmarshalEnvelope_marshal e₁
  have h₂ := Reference.primitives.unmarshalEnvelope_marshal e₂
  exact ⟨h₁, h₂, (openEnvelope_payload_eq Reference.primitives Reference.zeroKey Reference.sampleNow
    h₁ h₂ rfl rfl).1⟩

/-- A HELLO and the same envelope relabelled REPLY both open, with the same nonce,
ciphertext and announcement, under different message types. -/
theorem openEnvelope_relabelled_hello :
    let c := Reference.primitives.gcmSeal Reference.zeroKey Reference.zeroNonce
      (Reference.primitives.marshalAnnouncement (Reference.sampleAnnouncement "A" []))
    openEnvelope Reference.primitives
        (Reference.primitives.marshalEnvelope ⟨messageTypeHello, Reference.zeroNonce, c⟩)
        Reference.zeroKey Reference.sampleNow =
      .ok (⟨messageTypeHello, Reference.zeroNonce, c⟩, Reference.sampleAnnouncement "A" []) ∧
    openEnvelope Reference.primitives
        (Reference.primitives.marshalEnvelope ⟨messageTypeReply, Reference.zeroNonce, c⟩)
        Reference.zeroKey Reference.sampleNow =
      .ok (⟨messageTypeReply, Reference.zeroNonce, c⟩, Reference.sampleAnnouncement "A" []) ∧
    messageTypeHello ≠ messageTypeReply := by
  have hf := @fresh_of_window Reference.sampleNow _ (by decide)
    (Reference.sampleAnnouncement "A" []).timestamp_inInt64 (by decide)
  refine ⟨?_, ?_, by decide⟩ <;>
    exact openEnvelope_eq_ok.mpr ⟨Reference.primitives.unmarshalEnvelope_marshal _, rfl,
      ⟨_, Reference.primitives.gcmOpen_gcmSeal _ _ _ rfl,
        Reference.primitives.unmarshalAnnouncement_marshal _⟩, rfl, hf⟩

end WgMesh.Crypto
