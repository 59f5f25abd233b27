import Mathlib.Data.List.FinRange
import Mathlib.Data.List.Sort
import Mathlib.Data.String.Basic
import Mathlib.Logic.Equiv.Basic
import WgMesh.Go.Time

/-! # Dandelion++ relaying

`DandelionRouter` (package `privacy`) carries an announcement along a stem of relays
before it is announced publicly (the fluff). Each epoch `RotateEpoch` picks two relay
peers with `selectRelayPeers`: sort the peers by key, shuffle them with a source seeded
by `HMAC-SHA256(epochSeed, epochID)`, keep the first two. `HandleAnnounce` increments
the hop count and fluffs when `ShouldFluff` says so or when there is no relay;
otherwise it stems through the relay at the hop count modulo the number of relays.

HMAC and the seeded source are parameters: `hmac` returns the MAC, and `rng seed n i`
is the index `j ≤ i` that `Shuffle` draws at step `i` of a shuffle of `n` items
(`r.int31n(i + 1)`, whose value depends on the seed and on how many draws came
before). The coin of `ShouldFluff`, `rand.Float64() < FluffProbability`, is the
argument `fluffDraw`.

* `selectRelayPeers_spec` — for keys that are pairwise distinct, the selection is
  `min count |P|` distinct members of `P` and the same for every order of `P`;
* `handleAnnounce_rotateEpoch` — after `RotateEpoch(P)`, `HandleAnnounce` stems exactly
  when the incremented hop count is below `MaxStemHops`, the coin keeps the stem and `P`
  is non-empty, and then through a selected relay;
* `single_peer_stems`, `one_eligible_peer_stems` — with a single eligible peer it stems
  through that peer: `HandleAnnounce` fluffs only when there is no relay at all.
-/

namespace WgMesh.Privacy

open WgMesh.Go

def maxStemHops : UInt8 := 4

/-- `DandelionAnnounce`: the announcement, relayed as it is but for its hop count. -/
structure DandelionAnnounce where
  originPubkey : String
  originMeshIP : String
  originEndpoint : String
  routableNetworks : List String
  hopCount : UInt8
  timestamp : Int
  nonce : List UInt8
deriving DecidableEq, Repr

/-- `PeerInfo` of package `privacy`: what relay selection needs of a peer. -/
structure PeerInfo where
  wgPubKey : String
  meshIP : String
  endpoint : String
deriving DecidableEq, Repr, Inhabited

/-- `Epoch`, without its start time and duration, which nothing modelled reads. -/
structure Epoch where
  id : UInt64
  relayPeers : List PeerInfo
deriving DecidableEq, Repr

/-- `DandelionRouter`, without its lock; the handlers are the `Action` it returns. -/
structure DandelionRouter where
  epochSeed : List UInt8
  epoch : Epoch

/-- `NewDandelionRouter`: epoch 0, with no relays. -/
def newDandelionRouter (epochSeed : List UInt8) : DandelionRouter := ⟨epochSeed, ⟨0, []⟩⟩

/-! ## Selecting the relays -/

def putUint64 (n : UInt64) : List UInt8 :=
  ([56, 48, 40, 32, 24, 16, 8, 0] : List UInt64).map fun s => (n >>> s).toUInt8

/-- `int64(binary.BigEndian.Uint64(b[:8]))`. -/
def seedInt (b : List UInt8) : Int :=
  wrap64 ((b.take 8).foldl (fun acc x => acc * 256 + x.toNat) 0)

/-- `sort.Slice` by `WGPubKey`. Go compares the bytes, which on UTF-8 text is the
order of code points, `String`'s order here. `sort.Slice` leaves the order of equal
keys unspecified; this sort keeps them in input order. -/
def sortPeers (peers : List PeerInfo) : List PeerInfo :=
  peers.mergeSort fun a b => decide (a.wgPubKey ≤ b.wgPubKey)

/-- The positions `Shuffle` has swapped after steps `i` down to `1` of a shuffle of
`n` items: step `i` swaps `i` with the drawn `j ≤ i`. -/
def shufflePerm {n : Nat} (draw : (i : Nat) → Fin (i + 1)) : Nat → Equiv.Perm (Fin n)
  | 0 => Equiv.refl _
  | i + 1 =>
    if h : i + 1 < n then
      (shufflePerm draw i).trans
        (Equiv.swap ⟨i + 1, h⟩ ⟨draw (i + 1), Nat.lt_of_le_of_lt (Nat.le_of_lt_succ (draw _).2) h⟩)
    else shufflePerm draw i

/-- `rng.Shuffle(len(l), swap)`: Fisher–Yates from the last index down; the item at
position `k` afterwards is the one at `σ k` before. -/
def shuffle (draw : (i : Nat) → Fin (i + 1)) (l : List PeerInfo) : List PeerInfo :=
  List.ofFn fun k => l.get (shufflePerm draw (l.length - 1) k)

section Selection

variable (hmac : List UInt8 → List UInt8 → List UInt8) (rng : Int → Nat → (i : Nat) → Fin (i + 1))

/-- `selectRelayPeers`: the first `count` peers (all of them, if fewer) of the sorted
list shuffled with the source the epoch's MAC seeds. -/
def selectRelayPeers (epochSeed : List UInt8) (epochID : UInt64) (allPeers : List PeerInfo)
    (count : Nat) : List PeerInfo :=
  if allPeers = [] then []
  else
    let count := if count > allPeers.length then allPeers.length else count
    let seed := hmac epochSeed (putUint64 epochID)
    let sorted := sortPeers allPeers
    (shuffle (rng (seedInt seed) sorted.length) sorted).take count

/-- `RotateEpoch`: the next epoch, with two relays chosen from `allPeers`. -/
def DandelionRouter.rotateEpoch (d : DandelionRouter) (allPeers : List PeerInfo) :
    DandelionRouter :=
  let newEpochID := d.epoch.id + 1
  { d with epoch := ⟨newEpochID, selectRelayPeers hmac rng d.epochSeed newEpochID allPeers 2⟩ }

end Selection

/-! ## Handling an announcement -/

/-- `ShouldFluff`: always after `MaxStemHops` hops, else on the coin. -/
def shouldFluff (hopCount : UInt8) (fluffDraw : Bool) : Bool :=
  if hopCount ≥ maxStemHops then true else fluffDraw

/-- What `HandleAnnounce` hands to its callbacks. -/
inductive Action
  | fluff (msg : DandelionAnnounce)
  | stem (msg : DandelionAnnounce) (relay : PeerInfo)
deriving DecidableEq, Repr

/-- `HandleAnnounce`: increment the hop count (a `uint8`); fluff when `ShouldFluff`
says so or there is no relay, else stem through relay `hopCount % len(RelayPeers)`. -/
def DandelionRouter.handleAnnounce (d : DandelionRouter) (fluffDraw : Bool)
    (msg : DandelionAnnounce) : Action :=
  let msg := { msg with hopCount := msg.hopCount + 1 }
  if shouldFluff msg.hopCount fluffDraw then .fluff msg
  else
    let relays := d.epoch.relayPeers
    if h : relays.length > 0 then .stem msg (relays.get ⟨msg.hopCount.toNat % relays.length,
      Nat.mod_lt _ h⟩)
    else .fluff msg

/-! ## The sort and the shuffle -/

theorem perm_sortPeers (peers : List PeerInfo) : (sortPeers peers).Perm peers :=
  List.mergeSort_perm _ _

theorem length_sortPeers (peers : List PeerInfo) : (sortPeers peers).length = peers.length :=
  List.length_mergeSort _

theorem sortPeers_pairwise (peers : List PeerInfo) :
    (sortPeers peers).Pairwise fun a b => a.wgPubKey ≤ b.wgPubKey := by
  have h : (sortPeers peers).Pairwise fun a b => decide (a.wgPubKey ≤ b.wgPubKey) :=
    List.sorted_mergeSort
      (fun a b c hab hbc => by simp only [decide_eq_true_eq] at *; exact le_trans hab hbc)
      (fun a b => by simpa using le_total a.wgPubKey b.wgPubKey) peers
  exact h.imp fun hab => by simpa using hab

theorem sortPeers_eq_of_perm {peers peers' : List PeerInfo} (hp : peers'.Perm peers)
    (hk : (peers.map (·.wgPubKey)).Nodup) : sortPeers peers' = sortPeers peers := by
  have strict (l : List PeerInfo) (hl : l.Perm peers) :
      (sortPeers l).Pairwise fun a b => a.wgPubKey < b.wgPubKey := by
    have hne : (sortPeers l).Pairwise fun a b => a.wgPubKey ≠ b.wgPubKey :=
      List.pairwise_map.mp (((perm_sortPeers l).trans hl).map _ |>.nodup_iff.mpr hk)
    exact ((sortPeers_pairwise l).and hne).imp fun h => lt_of_le_of_ne h.1 h.2
  haveI : IsAntisymm PeerInfo fun a b => a.wgPubKey < b.wgPubKey :=
    ⟨fun _ _ h h' => absurd (h.trans h') (lt_irrefl _)⟩
  exact List.eq_of_perm_of_sorted (((perm_sortPeers _).trans hp).trans (perm_sortPeers _).symm)
    (strict _ hp) (strict _ (List.Perm.refl _))

theorem perm_shuffle (draw : (i : Nat) → Fin (i + 1)) (l : List PeerInfo) :
    (shuffle draw l).Perm l := by
  have h := (shufflePerm draw (l.length - 1)).ofFn_comp_perm l.get
  rwa [List.ofFn_get] at h

theorem length_shuffle (draw : (i : Nat) → Fin (i + 1)) (l : List PeerInfo) :
    (shuffle draw l).length = l.length :=
  List.length_ofFn _

/-! ## The selection law -/

section Selection

variable {hmac : List UInt8 → List UInt8 → List UInt8} {rng : Int → Nat → (i : Nat) → Fin (i + 1)}

theorem selectRelayPeers_eq {epochSeed : List UInt8} {epochID : UInt64}
    {allPeers : List PeerInfo} (h : allPeers ≠ []) (count : Nat) :
    selectRelayPeers hmac rng epochSeed epochID allPeers count =
      (shuffle (rng (seedInt (hmac epochSeed (putUint64 epochID))) allPeers.length)
        (sortPeers allPeers)).take (min count allPeers.length) := by
  simp only [selectRelayPeers, if_neg h, length_sortPeers]
  congr 1
  split_ifs <;> omega

theorem length_selectRelayPeers (epochSeed : List UInt8) (epochID : UInt64)
    (allPeers : List PeerInfo) (count : Nat) :
    (selectRelayPeers hmac rng epochSeed epochID allPeers count).length =
      min count allPeers.length := by
  by_cases h : allPeers = []
  · simp [selectRelayPeers, h]
  · rw [selectRelayPeers_eq h, List.length_take, length_shuffle, length_sortPeers]
    omega

theorem mem_selectRelayPeers {epochSeed : List UInt8} {epochID : UInt64}
    {allPeers : List PeerInfo} {count : Nat} {p : PeerInfo}
    (h : p ∈ selectRelayPeers hmac rng epochSeed epochID allPeers count) : p ∈ allPeers := by
  by_cases h₀ : allPeers = []
  · simp [selectRelayPeers, h₀] at h
  · rw [selectRelayPeers_eq h₀] at h
    exact (perm_sortPeers _).subset ((perm_shuffle _ _).subset (List.mem_of_mem_take h))

theorem selectRelayPeers_spec (epochSeed : List UInt8) (epochID : UInt64)
    {allPeers : List PeerInfo} (hk : (allPeers.map (·.wgPubKey)).Nodup) (count : Nat) :
    (selectRelayPeers hmac rng epochSeed epochID allPeers count).length =
        min count allPeers.length ∧
      (selectRelayPeers hmac rng epochSeed epochID allPeers count).Nodup ∧
      (∀ p ∈ selectRelayPeers hmac rng epochSeed epochID allPeers count, p ∈ allPeers) ∧
      ∀ peers', peers'.Perm allPeers →
        selectRelayPeers hmac rng epochSeed epochID peers' count =
          selectRelayPeers hmac rng epochSeed epochID allPeers count := by
  refine ⟨length_selectRelayPeers .., ?_, fun _ => mem_selectRelayPeers, fun peers' hp => ?_⟩
  · by_cases h₀ : allPeers = []
    · simp [selectRelayPeers, h₀]
    · rw [selectRelayPeers_eq h₀]
      exact ((perm_shuffle _ _).trans (perm_sortPeers _)).nodup_iff.mpr (List.Nodup.of_map _ hk)
        |>.sublist (List.take_sublist _ _)
  · by_cases h₀ : allPeers = []
    · subst h₀
      rw [List.perm_nil.mp hp]
    · have h₀' : peers' ≠ [] := fun h => h₀ (List.perm_nil.mp (h ▸ hp).symm)
      rw [selectRelayPeers_eq h₀, selectRelayPeers_eq h₀', sortPeers_eq_of_perm hp hk,
        hp.length_eq]

end Selection

/-! ## Stem or fluff after a rotation -/

section Rotation

variable (hmac : List UInt8 → List UInt8 → List UInt8) (rng : Int → Nat → (i : Nat) → Fin (i + 1))

/-- After `RotateEpoch(P)`, `HandleAnnounce` fluffs when the incremented hop count has
reached `MaxStemHops`, the coin says fluff, or `P` is empty; otherwise it stems through
one of the selected relays, a member of `P`. -/
theorem handleAnnounce_rotateEpoch (d : DandelionRouter) (allPeers : List PeerInfo)
    (fluffDraw : Bool) (msg : DandelionAnnounce) :
    (maxStemHops ≤ msg.hopCount + 1 ∨ fluffDraw = true ∨ allPeers = [] →
      (d.rotateEpoch hmac rng allPeers).handleAnnounce fluffDraw msg =
        .fluff { msg with hopCount := msg.hopCount + 1 }) ∧
    (msg.hopCount + 1 < maxStemHops → fluffDraw = false → allPeers ≠ [] →
      ∃ r ∈ selectRelayPeers hmac rng d.epochSeed (d.epoch.id + 1) allPeers 2,
        r ∈ allPeers ∧ (d.rotateEpoch hmac rng allPeers).handleAnnounce fluffDraw msg =
          .stem { msg with hopCount := msg.hopCount + 1 } r) := by
  have hsel : allPeers ≠ [] →
      0 < (selectRelayPeers hmac rng d.epochSeed (d.epoch.id + 1) allPeers 2).length := fun h => by
    rw [length_selectRelayPeers]
    have := List.length_pos.mpr h
    omega
  constructor
  · rintro (hhop | hdraw | hnil)
    · simp [DandelionRouter.handleAnnounce, shouldFluff, hhop]
    · simp [DandelionRouter.handleAnnounce, shouldFluff, hdraw]
    · simp [DandelionRouter.handleAnnounce, DandelionRouter.rotateEpoch, selectRelayPeers, hnil]
  · intro hhop hdraw hne
    have hpos := hsel hne
    refine ⟨_, List.get_mem _ _ (Nat.mod_lt (msg.hopCount + 1).toNat hpos), mem_selectRelayPeers
      (List.get_mem _ _ _), ?_⟩
    have hnot : ¬maxStemHops ≤ msg.hopCount + 1 := Nat.not_le_of_lt hhop
    simp only [DandelionRouter.handleAnnounce, DandelionRouter.rotateEpoch, shouldFluff, ge_iff_le,
      hnot, hdraw, if_false, Bool.false_eq_true, dif_pos hpos]

theorem single_peer_stems (d : DandelionRouter) (p : PeerInfo) (msg : DandelionAnnounce)
    (hhop : msg.hopCount + 1 < maxStemHops) :
    (d.rotateEpoch hmac rng [p]).handleAnnounce false msg =
      .stem { msg with hopCount := msg.hopCount + 1 } p := by
  have hsel : selectRelayPeers hmac rng d.epochSeed (d.epoch.id + 1) [p] 2 = [p] := by
    simp [selectRelayPeers, sortPeers, shuffle, shufflePerm]
  have hnot : ¬maxStemHops ≤ msg.hopCount + 1 := Nat.not_le_of_lt hhop
  simp [DandelionRouter.handleAnnounce, DandelionRouter.rotateEpoch, hsel, shouldFluff, hnot]

/-- For peers with pairwise-distinct keys: every seed and epoch ID select `min 2 |P|`
distinct members of `P`, the same for every order of `P`; and after `RotateEpoch(P)`,
`HandleAnnounce` stems, through one of them, exactly when the incremented hop count is
below `MaxStemHops`, the coin keeps the stem and `P` is non-empty; else it fluffs. -/
theorem relay_selection_and_stem_rule {allPeers : List PeerInfo}
    (hk : (allPeers.map (·.wgPubKey)).Nodup) :
    (∀ epochSeed epochID,
      (selectRelayPeers hmac rng epochSeed epochID allPeers 2).length = min 2 allPeers.length ∧
        (selectRelayPeers hmac rng epochSeed epochID allPeers 2).Nodup ∧
        (∀ p ∈ selectRelayPeers hmac rng epochSeed epochID allPeers 2, p ∈ allPeers) ∧
        ∀ peers', peers'.Perm allPeers →
          selectRelayPeers hmac rng epochSeed epochID peers' 2 =
            selectRelayPeers hmac rng epochSeed epochID allPeers 2) ∧
    ∀ (d : DandelionRouter) (fluffDraw : Bool) (msg : DandelionAnnounce),
      (maxStemHops ≤ msg.hopCount + 1 ∨ fluffDraw = true ∨ allPeers = [] →
        (d.rotateEpoch hmac rng allPeers).handleAnnounce fluffDraw msg =
          .fluff { msg with hopCount := msg.hopCount + 1 }) ∧
      (msg.hopCount + 1 < maxStemHops → fluffDraw = false → allPeers ≠ [] →
        ∃ r ∈ selectRelayPeers hmac rng d.epochSeed (d.epoch.id + 1) allPeers 2,
          r ∈ allPeers ∧ (d.rotateEpoch hmac rng allPeers).handleAnnounce fluffDraw msg =
            .stem { msg with hopCount := msg.hopCount + 1 } r) :=
  ⟨fun epochSeed epochID => selectRelayPeers_spec epochSeed epochID hk 2,
    fun d fluffDraw msg => handleAnnounce_rotateEpoch hmac rng d allPeers fluffDraw msg⟩

end Rotation

/-- Two eligible peers. -/
def samplePeers : List PeerInfo :=
  [⟨"peer-a-key", "10.42.0.2", "192.0.2.2:51820"⟩, ⟨"peer-b-key", "10.42.0.3", "192.0.2.3:51820"⟩]

/-- Two peers, under a MAC and a source that return nothing and zeros. -/
theorem relay_selection_and_stem_rule_sample :
    (samplePeers.map (·.wgPubKey)).Nodup ∧
      (selectRelayPeers (fun _ _ => []) (fun _ _ _ => 0) [] 1 samplePeers 2).length = 2 :=
  ⟨by decide, ((@relay_selection_and_stem_rule (fun _ _ => []) (fun _ _ _ => 0) samplePeers
    (by decide)).1 [] 1).1⟩

/-- One eligible peer: the announcement is stemmed through it, not fluffed. -/
theorem one_eligible_peer_stems :
    ((newDandelionRouter []).rotateEpoch (fun _ _ => []) (fun _ _ _ => 0)
        [⟨"peer-a-key", "10.42.0.2", "192.0.2.2:51820"⟩]).handleAnnounce false
      ⟨"origin-key", "10.42.0.9", "192.0.2.9:51820", [], 0, 1700000000, []⟩ =
      .stem ⟨"origin-key", "10.42.0.9", "192.0.2.9:51820", [], 1, 1700000000, []⟩
        ⟨"peer-a-key", "10.42.0.2", "192.0.2.2:51820"⟩ :=
  single_peer_stems _ _ _ _ _ (by decide)

end WgMesh.Privacy
