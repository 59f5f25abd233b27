import WgMesh.Crypto.Reference
import WgMesh.Discovery.Exchange

/-! # The mesh: daemons exchanging over a network

A `World` is a set of daemons sharing one secret, each with the address of its
exchange socket, the history of every datagram sent, and the clock. A `Step` is one
daemon running one goroutine step (`Node.step`), the network delivering a datagram
that was sent to a daemon, or the clock advancing. The network may delay, reorder
and duplicate datagrams: any datagram of the history may be delivered at any later
time. `Replay` adds an adversary without the gossip key, who re-sends a copy of any
datagram of the history to any daemon from an address of its choosing.

Each step carries the key of the daemon that acts, so that a run in which one daemon
takes no step, a departed node, can be stated.

* `departed_node_kept_alive` — two daemons that exchange keep a third, silent one
  alive: each Update from `known_peers` stamps it with the time of receipt;
* `forgotten_stays_forgotten` — a key that no daemon holds as active, that no handler
  holds, and that no envelope sent so far names in a form that still opens, stays
  inactive everywhere for as long as its owner takes no step;
* `replayed_hello_redirects_endpoint` — a replayed HELLO moves the sender's stored
  endpoint to the replayer's address.
-/

namespace WgMesh.Discovery

open WgMesh.Go WgMesh.Crypto WgMesh.Daemon

/-! ## The world -/

/-- A datagram of the history: where it came from, where it went, what it carried and
when it was sent. -/
structure Packet where
  src : UDPAddr
  dst : UDPAddr
  data : Bytes
  sentAt : Int

/-- Daemons with their exchange addresses, the datagrams sent so far, and the clock. -/
structure World where
  nodes : List (UDPAddr × Node)
  sent : List Packet
  now : Time

/-- Daemons that have just started at `now`, with nothing sent. -/
def World.init (nodes : List (UDPAddr × LocalNode)) (now : Time) : World :=
  ⟨nodes.map fun (addr, n) => (addr, Node.init n), [], now⟩

/-- The world after daemon `i` at `addr` becomes `node` and sends `out`. -/
def World.act (w : World) (i : Nat) (addr : UDPAddr) (node : Node) (out : List Outgoing) :
    World :=
  { w with
    nodes := w.nodes.set i (addr, node)
    sent := w.sent ++ out.map fun o => ⟨addr, o.dst, o.data, w.now.nanos⟩ }

theorem mem_act_sent {w : World} {i : Nat} {addr : UDPAddr} {node : Node} {out : List Outgoing}
    {pkt : Packet} (h : pkt ∈ (w.act i addr node out).sent) :
    pkt ∈ w.sent ∨ (pkt.src = addr ∧ pkt.sentAt = w.now.nanos) := by
  simp only [World.act, List.mem_append, List.mem_map] at h
  rcases h with h | ⟨o, -, rfl⟩
  · exact .inl h
  · exact .inr ⟨rfl, rfl⟩

theorem mem_act_sent_of_src_ne {w : World} {i : Nat} {addr : UDPAddr} {node : Node}
    {out : List Outgoing} {pkt : Packet} (h : pkt ∈ (w.act i addr node out).sent)
    (hsrc : pkt.src ≠ addr) : pkt ∈ w.sent :=
  (mem_act_sent h).resolve_right fun h' => hsrc h'.1

/-- The events a daemon takes on its own, with a 12-byte nonce where it seals;
receiving is the network's step. -/
def Event.Local : Event → Prop
  | .receive .. => False
  | .contact _ nonce => nonce.length = nonceSize
  | _ => True

instance : (ev : Event) → Decidable ev.Local
  | .receive .. => isFalse id
  | .contact _ nonce => inferInstanceAs (Decidable (nonce.length = nonceSize))
  | .deliver _ => isTrue trivial
  | .receiveReply _ => isTrue trivial
  | .timeout _ => isTrue trivial

section Steps

variable (P : Primitives) (cfg : Config)

/-- One step of the mesh, indexed by the key of the daemon that acts. -/
inductive Step : Option String → World → World → Prop
  /-- Daemon `i` runs a goroutine step of its own. -/
  | act {w : World} {i : Nat} {addr : UDPAddr} {node node' : Node} {ev : Event}
      {out : List Outgoing} (hi : w.nodes.get? i = some (addr, node)) (hev : ev.Local)
      (h : node.step P cfg w.now ev = some (node', out)) :
      Step (some node.localNode.wgPubKey) w (w.act i addr node' out)
  /-- The network delivers to daemon `i` a datagram sent to it, from its real source. -/
  | deliver {w : World} {i : Nat} {addr : UDPAddr} {node node' : Node} {pkt : Packet}
      {nonce : Bytes} {out : List Outgoing} (hi : w.nodes.get? i = some (addr, node))
      (hp : pkt ∈ w.sent) (hdst : pkt.dst = addr) (hn : nonce.length = nonceSize)
      (h : node.step P cfg w.now (.receive pkt.data pkt.src nonce) = some (node', out)) :
      Step (some node.localNode.wgPubKey) w (w.act i addr node' out)
  /-- The clock advances. -/
  | advance {w : World} {t : Time} (ht : w.now.nanos ≤ t.nanos) : Step none w { w with now := t }

/-- The adversary re-sends to daemon `i` a copy of a datagram of the history, from the
address `src` of its choosing. -/
inductive Replay : World → World → Prop
  | replay {w : World} {i : Nat} {addr : UDPAddr} {node node' : Node} {pkt : Packet}
      {nonce : Bytes} {out : List Outgoing} (src : UDPAddr)
      (hi : w.nodes.get? i = some (addr, node)) (hp : pkt ∈ w.sent)
      (hn : nonce.length = nonceSize)
      (h : node.step P cfg w.now (.receive pkt.data src nonce) = some (node', out)) :
      Replay w (w.act i addr node' out)

/-- The worlds a mesh started as `w₀` reaches. -/
def Reachable (w₀ w : World) : Prop :=
  Relation.ReflTransGen (fun a b => ∃ k, Step P cfg k a b) w₀ w

/-- The worlds a mesh started as `w₀` reaches with the replaying adversary. -/
def ReachableUnderReplay (w₀ w : World) : Prop :=
  Relation.ReflTransGen (fun a b => (∃ k, Step P cfg k a b) ∨ Replay P cfg a b) w₀ w

/-- The runs from `w` to `w'` in which the daemon with key `k` takes no step. -/
def RunWithout (k : String) (w w' : World) : Prop :=
  Relation.ReflTransGen (fun a b => ∃ k', k' ≠ some k ∧ Step P cfg k' a b) w w'

end Steps

/-- The `LastSeen` daemon `i` holds for `key`. -/
def World.lastSeen (w : World) (i : Nat) (key : String) : Option Int :=
  ((w.nodes.get? i).bind fun e => e.2.store.get key).map PeerInfo.lastSeen

/-- The endpoint daemon `i` holds for `key`. -/
def World.endpoint (w : World) (i : Nat) (key : String) : Option String :=
  ((w.nodes.get? i).bind fun e => e.2.store.get key).map PeerInfo.endpoint

/-! ## Steps of the runs below -/

section RunSteps

variable {P : Primitives} {cfg : Config} {w : World} {i : Nat} {addr : UDPAddr} {node : Node}

theorem step_contact (hi : w.nodes.get? i = some (addr, node)) (remote : UDPAddr) {nonce : Bytes}
    (hn : nonce.length = nonceSize) :
    Step P cfg (some node.localNode.wgPubKey) w (w.act i addr (contactPeer P cfg w.now nonce remote node).1
      (contactPeer P cfg w.now nonce remote node).2) :=
  Step.act hi (show Event.Local (.contact remote nonce) from hn) rfl

theorem step_deliver_hello (hi : w.nodes.get? i = some (addr, node)) {pkt : Packet}
    (hp : pkt ∈ w.sent) (hdst : pkt.dst = addr) {nonce : Bytes} (hn : nonce.length = nonceSize)
    {envelope : Envelope} {a : PeerAnnouncement}
    (hopen : openEnvelope P pkt.data cfg.keys.gossipKey w.now = .ok (envelope, a))
    (hello : envelope.messageType = messageTypeHello) :
    Step P cfg (some node.localNode.wgPubKey) w (w.act i addr (handleHello P cfg w.now nonce a pkt.src node).1
      (handleHello P cfg w.now nonce a pkt.src node).2) :=
  Step.deliver hi hp hdst hn (by simp only [Node.step, handleMessage_of_ok hopen, if_pos hello])

theorem replay_hello (hi : w.nodes.get? i = some (addr, node)) {pkt : Packet} (hp : pkt ∈ w.sent)
    (src : UDPAddr) {nonce : Bytes} (hn : nonce.length = nonceSize) {envelope : Envelope}
    {a : PeerAnnouncement}
    (hopen : openEnvelope P pkt.data cfg.keys.gossipKey w.now = .ok (envelope, a))
    (hello : envelope.messageType = messageTypeHello) :
    Replay P cfg w (w.act i addr (handleHello P cfg w.now nonce a src node).1
      (handleHello P cfg w.now nonce a src node).2) :=
  Replay.replay src hi hp hn (by simp only [Node.step, handleMessage_of_ok hopen, if_pos hello])

end RunSteps

/-! ## A departed node kept alive -/

/-- A third daemon. -/
def sampleThird : LocalNode :=
  ⟨"third-node-key", "third-private-key", "10.42.0.3", "0.0.0.0:51820", []⟩

/-- The exchange address of `sampleLocal`. -/
def localAddr : UDPAddr := ⟨"192.0.2.1", 51821⟩

/-- The exchange address of `sampleThird`. -/
def thirdAddr : UDPAddr := ⟨"192.0.2.3", 51821⟩

/-- Three daemons started at the same instant: the local one, a third one, and the
member, which will depart. -/
def meshStart : World :=
  World.init [(localAddr, sampleLocal), (thirdAddr, sampleThird), (memberAddr, sampleMember)]
    (unix 1700000000)

/-- The member sends one HELLO, to the local daemon, which receives it at once; then
the member is silent. A minute later the local daemon sends a HELLO to the third
daemon, which has never heard from the member: the HELLO lists the member in
`known_peers`, and the third daemon stores it as seen a minute after the member's
last message. -/
theorem departed_node_kept_alive :
    ∃ w₁ w, Reachable Reference.primitives sampleConfig meshStart w₁ ∧
      Reachable Reference.primitives sampleConfig w₁ w ∧
      w₁.now = unix 1700000000 ∧
      (∀ pkt ∈ w.sent, pkt.src = memberAddr → pkt ∈ w₁.sent ∧ pkt.sentAt = w₁.now.nanos) ∧
      w₁.lastSeen 0 sampleMember.wgPubKey = some w₁.now.nanos ∧
      w.lastSeen 1 sampleMember.wgPubKey = some (w₁.now.nanos + 60 * 1000000000) := by
  let P := Reference.primitives
  let nonce : Bytes := List.replicate 12 0
  let t₀ := unix 1700000000
  -- the member's HELLO, and the local daemon's state once it has sent it
  let c₀ := contactPeer P sampleConfig t₀ nonce localAddr (Node.init sampleMember)
  let w₀ := meshStart.act 2 memberAddr c₀.1 c₀.2
  let helloC : Packet := ⟨memberAddr, localAddr,
    sealEnvelope P messageTypeHello (c₀.1.announcement t₀) sampleConfig.keys.gossipKey nonce,
    t₀.nanos⟩
  let a₀ := handleHello P sampleConfig t₀ nonce (c₀.1.announcement t₀) memberAddr
    (Node.init sampleLocal)
  let w₁ := w₀.act 0 localAddr a₀.1 a₀.2
  -- a minute later, the local daemon's HELLO to the third one
  let t₁ := unix 1700000060
  let w₂ : World := { w₁ with now := t₁ }
  let c₁ := contactPeer P sampleConfig t₁ nonce thirdAddr a₀.1
  let w₃ := w₂.act 0 localAddr c₁.1 c₁.2
  let helloA : Packet := ⟨localAddr, thirdAddr,
    sealEnvelope P messageTypeHello (c₁.1.announcement t₁) sampleConfig.keys.gossipKey nonce,
    t₁.nanos⟩
  let b₁ := handleHello P sampleConfig t₁ nonce (c₁.1.announcement t₁) localAddr
    (Node.init sampleThird)
  let w₄ := w₃.act 1 thirdAddr b₁.1 b₁.2
  have hC : openEnvelope P helloC.data sampleConfig.keys.gossipKey t₀ =
      .ok (_, c₀.1.announcement t₀) := openEnvelope_sealEnvelope_of_fresh _ _ (by decide) rfl
    (fresh_createAnnouncement _ _ _ _ _ (by decide) (by decide) (by decide))
  have hA : openEnvelope P helloA.data sampleConfig.keys.gossipKey t₁ =
      .ok (_, c₁.1.announcement t₁) := openEnvelope_sealEnvelope_of_fresh _ _ (by decide) rfl
    (fresh_createAnnouncement _ _ _ _ _ (by decide) (by decide) (by decide))
  have step₀ : ∃ k, Step P sampleConfig k meshStart w₀ := ⟨_, step_contact (by rfl) localAddr (by rfl)⟩
  have step₁ : ∃ k, Step P sampleConfig k w₀ w₁ := ⟨_, step_deliver_hello (by rfl)
    (show helloC ∈ w₀.sent from List.mem_append_right _ (List.mem_singleton.mpr rfl)) rfl (by rfl)
    hC rfl⟩
  have step₂ : ∃ k, Step P sampleConfig k w₁ w₂ :=
    ⟨_, Step.advance (show t₀.nanos ≤ t₁.nanos by decide)⟩
  have step₃ : ∃ k, Step P sampleConfig k w₂ w₃ := ⟨_, step_contact (by rfl) thirdAddr (by rfl)⟩
  have step₄ : ∃ k, Step P sampleConfig k w₃ w₄ := ⟨_, step_deliver_hello (by rfl)
    (show helloA ∈ w₃.sent from List.mem_append_right _ (List.mem_singleton.mpr rfl)) rfl (by rfl)
    hA rfl⟩
  refine ⟨w₁, w₄, .tail (.single step₀) step₁, .tail (.tail (.single step₂) step₃) step₄, rfl,
    ?_, rfl, rfl⟩
  intro pkt hp hsrc
  have h₃ := mem_act_sent_of_src_ne hp (by rw [hsrc]; decide)
  have hold : pkt ∈ w₁.sent :=
    show pkt ∈ w₂.sent from mem_act_sent_of_src_ne h₃ (by rw [hsrc]; decide)
  refine ⟨hold, ?_⟩
  rcases mem_act_sent hold with hp | ⟨-, h⟩
  · rcases mem_act_sent hp with hp | ⟨-, h⟩
    · cases hp
    · exact h
  · exact h

/-! ## Forgetting a departed node -/

/-- An announcement names `k`: as its sender or in its `known_peers`. -/
def Names (a : PeerAnnouncement) (k : String) : Prop :=
  a.wgPubKey = k ∨ ∃ kp ∈ a.knownPeers, kp.wgPubKey = k

/-- What a daemon must not hold for `k` at `now`: an active entry, or a reply on its
way to the store. -/
structure NodeForgets (k : String) (now : Int) (node : Node) : Prop where
  /-- The store's entry for `k`, if any, is dead. -/
  inactive : ∀ p, node.store.get k = some p → peerDeadTimeout ≤ now - p.lastSeen
  /-- No REPLY handler is about to send `k`'s PeerInfo into a channel. -/
  deliveries : ∀ d ∈ node.deliveries, d.info.wgPubKey ≠ k
  /-- No channel buffer holds `k`'s PeerInfo for `ExchangeWithPeer` to merge. -/
  buffers : ∀ e ∈ node.buffers, e.2.wgPubKey ≠ k

/-- Datagrams sealed under the gossip key, with a 12-byte nonce, over announcements
that do not name `k`. -/
def SealedWithout (P : Primitives) (cfg : Config) (k : String) (out : List Outgoing) : Prop :=
  ∀ o ∈ out, ∃ messageType a nonce, nonce.length = nonceSize ∧
    o.data = sealEnvelope P messageType a cfg.keys.gossipKey nonce ∧ ¬ Names a k

/-- No daemon but `k`'s own holds `k`, and no datagram of the history opens, now or
later, to an announcement that names `k`. -/
structure Forgotten (P : Primitives) (cfg : Config) (k : String) (w : World) : Prop where
  /-- Every other daemon forgets `k`. -/
  nodes : ∀ e ∈ w.nodes, e.2.localNode.wgPubKey ≠ k → NodeForgets k w.now.nanos e.2
  /-- Every datagram of the history that opens from now on names someone else. -/
  sent : ∀ pkt ∈ w.sent, ∀ (t : Time) envelope a, w.now.nanos ≤ t.nanos →
    openEnvelope P pkt.data cfg.keys.gossipKey t = .ok (envelope, a) → ¬ Names a k

section Forgetting

variable {P : Primitives} {cfg : Config} {k : String} {now : Time} {node : Node}

theorem NodeForgets.later {n n' : Int} (hf : NodeForgets k n node) (hn : n ≤ n') :
    NodeForgets k n' node :=
  ⟨fun p hp => by have := hf.inactive p hp; omega, hf.deliveries, hf.buffers⟩

theorem NodeForgets.not_active {n : Int} (hf : NodeForgets k n node) :
    ∀ p ∈ node.store.getActive n, p.wgPubKey ≠ k := by
  rintro p hp rfl
  rw [PeerStore.mem_getActive] at hp
  have := hf.inactive p (PeerStore.get_of_mem hp.1)
  omega

/-- A daemon that forgets `k` does not name it in its own announcements: `known_peers`
lists active entries only. -/
theorem NodeForgets.announcement (hf : NodeForgets k now.nanos node)
    (hself : node.localNode.wgPubKey ≠ k) : ¬ Names (node.announcement now) k := by
  rintro (h | ⟨kp, hkp, rfl⟩)
  · exact hself h
  · simp only [Node.announcement, createAnnouncement, getKnownPeers, List.mem_map] at hkp
    obtain ⟨p, hp, rfl⟩ := hkp
    exact hf.not_active p hp rfl

theorem get_merged {a : PeerAnnouncement} (ha : ¬ Names a k) (store : PeerStore)
    (info : PeerInfo) (hinfo : info.wgPubKey = a.wgPubKey) (m : String) (localKey : String) :
    (updateTransitivePeers localKey now.nanos (store.update info m now.nanos) a.knownPeers).get k =
        store.get k ∧
      (updateTransitivePeers localKey now.nanos store a.knownPeers).get k = store.get k := by
  have hkps : ∀ kp ∈ a.knownPeers, kp.wgPubKey ≠ k := fun kp hkp h => ha (.inr ⟨kp, hkp, h⟩)
  have hsender : info.wgPubKey ≠ k := fun h => ha (.inl (hinfo ▸ h))
  rw [get_updateTransitivePeers _ _ _ _ _ (.inr hkps), get_updateTransitivePeers _ _ _ _ _ (.inr hkps),
    PeerStore.get_update_of_ne _ _ _ hsender]
  exact ⟨rfl, rfl⟩

theorem nodeForgets_handleHello (hf : NodeForgets k now.nanos node)
    (hself : node.localNode.wgPubKey ≠ k) {nonce : Bytes} (hn : nonce.length = nonceSize)
    {a : PeerAnnouncement} (ha : ¬ Names a k) (remote : UDPAddr) :
    NodeForgets k now.nanos (handleHello P cfg now nonce a remote node).1 ∧
      SealedWithout P cfg k (handleHello P cfg now nonce a remote node).2 := by
  unfold handleHello
  split_ifs
  · exact ⟨hf, fun _ h => by cases h⟩
  · have hnew : NodeForgets k now.nanos { node with
        store := updateTransitivePeers node.localNode.wgPubKey now.nanos
          (node.store.update (peerInfoOf a remote) dhtMethod now.nanos) a.knownPeers } :=
      ⟨fun p hp => hf.inactive p (by rwa [(get_merged ha _ _ rfl _ _).1] at hp), hf.deliveries,
        hf.buffers⟩
    refine ⟨hnew, fun o ho => ?_⟩
    rw [List.mem_singleton] at ho
    subst ho
    exact ⟨_, _, nonce, hn, rfl, hnew.announcement hself⟩

theorem nodeForgets_handleReply (hf : NodeForgets k now.nanos node) {a : PeerAnnouncement}
    (ha : ¬ Names a k) (remote : UDPAddr) :
    NodeForgets k now.nanos (handleReply now a remote node) := by
  unfold handleReply
  split
  · refine ⟨fun p hp => hf.inactive p (by rwa [(get_merged ha _ (peerInfoOf a remote) rfl
      dhtMethod _).2] at hp), fun d hd => ?_, hf.buffers⟩
    rcases List.mem_append.mp hd with hd | hd
    · exact hf.deliveries d hd
    · rw [List.mem_singleton] at hd
      subst hd
      exact fun h => ha (.inl h)
  · refine ⟨fun p hp => hf.inactive p ?_, hf.deliveries, hf.buffers⟩
    dsimp only at hp
    rwa [PeerStore.get_update_of_ne _ _ _ (fun h => ha (.inl h)),
      (get_merged ha _ (peerInfoOf a remote) rfl dhtMethod _).2] at hp

theorem nodeForgets_deliver (hf : NodeForgets k now.nanos node) (i : Nat) :
    NodeForgets k now.nanos (deliver i node) := by
  unfold deliver
  split
  · exact hf
  · rename_i d hd
    have hsub := fun e (he : e ∈ node.deliveries.eraseIdx i) =>
      hf.deliveries e (List.mem_of_mem_eraseIdx he)
    split
    · exact ⟨hf.inactive, hsub, hf.buffers⟩
    · refine ⟨hf.inactive, hsub, fun e he => ?_⟩
      rcases List.mem_cons.mp he with rfl | he
      · exact hf.deliveries d (List.get?_mem hd)
      · exact hf.buffers e he

theorem nodeForgets_contactPeer (hf : NodeForgets k now.nanos node)
    (hself : node.localNode.wgPubKey ≠ k) {nonce : Bytes} (hn : nonce.length = nonceSize)
    (remote : UDPAddr) :
    NodeForgets k now.nanos (contactPeer P cfg now nonce remote node).1 ∧
      SealedWithout P cfg k (contactPeer P cfg now nonce remote node).2 := by
  dsimp only [contactPeer]
  split_ifs
  · exact ⟨hf, fun _ h => by cases h⟩
  · refine ⟨⟨hf.inactive, hf.deliveries, hf.buffers⟩, fun o ho => ?_⟩
    rw [List.mem_singleton] at ho
    subst ho
    exact ⟨_, _, nonce, hn, rfl,
      NodeForgets.announcement ⟨hf.inactive, hf.deliveries, hf.buffers⟩ hself⟩

theorem nodeForgets_receiveReply (hf : NodeForgets k now.nanos node) {chan : Nat} {n : Node}
    (h : receiveReply now chan node = some n) : NodeForgets k now.nanos n := by
  rcases receiveReply_cases h with rfl | ⟨info, hinfo, hs, hd, hb⟩
  · exact hf
  · have hik : info.wgPubKey ≠ k := hf.buffers _ (mem_of_lookup_eq_some hinfo)
    refine ⟨fun p hp => hf.inactive p ?_, hd ▸ hf.deliveries,
      fun e he => hf.buffers e (List.mem_of_mem_filter (hb ▸ he))⟩
    rwa [hs, PeerStore.get_update_of_ne _ _ _ hik] at hp

theorem nodeForgets_timeout (hf : NodeForgets k now.nanos node) (chan : Nat) :
    NodeForgets k now.nanos (timeout now chan node) := by
  unfold timeout
  split
  · split_ifs
    · exact ⟨hf.inactive, hf.deliveries, hf.buffers⟩
    · exact hf
  · exact hf

/-- A daemon that forgets `k` still does after one step of its own or one receipt of a
datagram that does not open to an announcement naming `k`; and what it sends does not
name `k`. -/
theorem nodeForgets_step {ev : Event} {node' : Node} {out : List Outgoing}
    (hf : NodeForgets k now.nanos node) (hself : node.localNode.wgPubKey ≠ k)
    (hev : ev.Local ∨ ∃ data remote nonce, ev = .receive data remote nonce ∧
      nonce.length = nonceSize ∧ ∀ envelope a,
        openEnvelope P data cfg.keys.gossipKey now = .ok (envelope, a) → ¬ Names a k)
    (h : node.step P cfg now ev = some (node', out)) :
    NodeForgets k now.nanos node' ∧ SealedWithout P cfg k out := by
  cases ev with
  | receive data remote nonce =>
    simp only [Node.step, Option.some.injEq] at h
    obtain ⟨_, _, _, he, hn, hopen⟩ := hev.resolve_left id
    cases he
    cases hr : openEnvelope P data cfg.keys.gossipKey now with
    | error e =>
      rw [handleMessage_of_error hr] at h
      cases h
      exact ⟨hf, fun _ h => by cases h⟩
    | ok r =>
      obtain ⟨envelope, a⟩ := r
      have ha := hopen envelope a hr
      rw [handleMessage_of_ok hr] at h
      split_ifs at h
      · have H := @nodeForgets_handleHello P cfg k now node hf hself _ hn a ha remote
        rw [h] at H
        exact H
      · cases h
        exact ⟨nodeForgets_handleReply hf ha remote, fun _ h => by cases h⟩
      · cases h
        exact ⟨hf, fun _ h => by cases h⟩
  | deliver i =>
    simp only [Node.step, Option.some.injEq] at h
    cases h
    exact ⟨nodeForgets_deliver hf i, fun _ h => by cases h⟩
  | contact remote nonce =>
    simp only [Node.step, Option.some.injEq] at h
    have hn : nonce.length = nonceSize := hev.resolve_right (by rintro ⟨_, _, _, h, -⟩; cases h)
    have H := @nodeForgets_contactPeer P cfg k now node hf hself nonce hn remote
    rw [h] at H
    exact H
  | receiveReply chan =>
    simp only [Node.step, Option.map_eq_some'] at h
    obtain ⟨n, hr, ⟨⟩⟩ := h
    exact ⟨nodeForgets_receiveReply hf hr, fun _ h => by cases h⟩
  | timeout chan =>
    simp only [Node.step, Option.some.injEq] at h
    cases h
    exact ⟨nodeForgets_timeout hf chan, fun _ h => by cases h⟩

theorem Forgotten.later {w : World} {t : Time} (hf : Forgotten P cfg k w)
    (ht : w.now.nanos ≤ t.nanos) : Forgotten P cfg k { w with now := t } :=
  ⟨fun e he hk => (hf.nodes e he hk).later ht,
    fun pkt hp t' envelope a ht' => hf.sent pkt hp t' envelope a (le_trans ht ht')⟩

theorem Forgotten.of_stale {w : World}
    (hnodes : ∀ e ∈ w.nodes, e.2.localNode.wgPubKey ≠ k → NodeForgets k w.now.nanos e.2)
    (hsent : ∀ pkt ∈ w.sent, ∃ messageType a nonce, nonce.length = nonceSize ∧
      pkt.data = sealEnvelope P messageType a cfg.keys.gossipKey nonce ∧
      a.timestamp * 1000000000 + maxMessageAge < w.now.unixNanos)
    (hlow : -2^63 + 600 < w.now.sec - unixToInternal) : Forgotten P cfg k w := by
  refine ⟨hnodes, fun pkt hp t envelope a ht hopen => absurd hopen ?_⟩
  obtain ⟨_, b, _, hn, hdata, hlate⟩ := hsent pkt hp
  have := w.now.nsec_lt
  have := t.nsec_lt
  unfold Time.nanos at ht
  unfold Time.unixNanos Time.nanos at hlate
  rw [hdata]
  exact openEnvelope_sealEnvelope_stale hn (by omega) (by unfold Time.unixNanos Time.nanos; omega)

theorem Forgotten.act {w : World} {i : Nat} {addr : UDPAddr} {node' : Node}
    {out : List Outgoing} (hf : Forgotten P cfg k w)
    (hnode : NodeForgets k w.now.nanos node' ∧ SealedWithout P cfg k out) :
    Forgotten P cfg k (w.act i addr node' out) := by
  refine ⟨fun e he hk => ?_, fun pkt hp t envelope a ht hopen => ?_⟩
  · rcases List.mem_or_eq_of_mem_set he with he | rfl
    · exact hf.nodes e he hk
    · exact hnode.1
  · simp only [World.act, List.mem_append, List.mem_map] at hp
    rcases hp with hp | ⟨o, ho, rfl⟩
    · exact hf.sent pkt hp t envelope a ht hopen
    · obtain ⟨_, b, _, hn, hdata, hb⟩ := hnode.2 o ho
      rw [hdata] at hopen
      rwa [openEnvelope_sealEnvelope_snd hn hopen]

theorem Forgotten.step {w w' : World} {k' : Option String} (hf : Forgotten P cfg k w)
    (hk : k' ≠ some k) (h : Step P cfg k' w w') : Forgotten P cfg k w' := by
  cases h with
  | act hi hev h =>
    have hself := fun h' => hk (congrArg some h')
    exact hf.act (nodeForgets_step (hf.nodes _ (List.get?_mem hi) hself) hself (.inl hev) h)
  | deliver hi hp _ hn h =>
    have hself := fun h' => hk (congrArg some h')
    exact hf.act (nodeForgets_step (hf.nodes _ (List.get?_mem hi) hself) hself
      (.inr ⟨_, _, _, rfl, hn, fun envelope a => hf.sent _ hp _ envelope a le_rfl⟩) h)
  | advance ht => exact hf.later ht

theorem Forgotten.run {w w' : World} (hf : Forgotten P cfg k w) (hrun : RunWithout P cfg k w w') :
    Forgotten P cfg k w' := by
  induction hrun with
  | refl => exact hf
  | tail _ hstep ih =>
    obtain ⟨k', hk, h⟩ := hstep
    exact ih.step hk h

/-- Once `k` is forgotten, no daemon but `k`'s own holds it as active again, in any run
in which `k`'s daemon takes no step. -/
theorem forgotten_stays_forgotten {w w' : World} (hf : Forgotten P cfg k w)
    (hrun : RunWithout P cfg k w w') :
    ∀ e ∈ w'.nodes, e.2.localNode.wgPubKey ≠ k →
      ∀ p ∈ e.2.store.getActive w'.now.nanos, p.wgPubKey ≠ k :=
  fun e he hk => ((hf.run hrun).nodes e he hk).not_active

end Forgetting

/-- The member's HELLO to the local daemon, sealed at `1700000000`. -/
def memberContact : Node × List Outgoing :=
  contactPeer Reference.primitives sampleConfig (unix 1700000000) Reference.zeroNonce localAddr
    (Node.init sampleMember)

/-- The local daemon after the member's HELLO, which it stores, and its REPLY. -/
def localAnswer : Node × List Outgoing :=
  handleHello Reference.primitives sampleConfig (unix 1700000000) Reference.zeroNonce
    (memberContact.1.announcement (unix 1700000000)) memberAddr (Node.init sampleLocal)

/-- Eleven minutes after that exchange, the member silent since. -/
def memberDeparted : World :=
  { (meshStart.act 2 memberAddr memberContact.1 memberContact.2).act 0 localAddr localAnswer.1
      localAnswer.2 with now := unix 1700000660 }

/-- The local daemon's HELLO to the third daemon. -/
def localContact : Node × List Outgoing :=
  contactPeer Reference.primitives sampleConfig (unix 1700000660) Reference.zeroNonce thirdAddr
    localAnswer.1

/-- The third daemon after the local daemon's HELLO. -/
def thirdAnswer : Node × List Outgoing :=
  handleHello Reference.primitives sampleConfig (unix 1700000660) Reference.zeroNonce
    (localContact.1.announcement (unix 1700000660)) localAddr (Node.init sampleThird)

/-- The local daemon and the third one exchange after the member has departed. -/
def departedGossip : World :=
  (memberDeparted.act 0 localAddr localContact.1 localContact.2).act 1 thirdAddr thirdAnswer.1
    thirdAnswer.2

/-- The member's HELLO is answered and stored, then the member departs. Eleven minutes
later its entry is dead and both datagrams are past the window, so it is forgotten; the
local daemon's HELLO to the third daemon, which lists the active peers, does not bring it
back. -/
theorem departed_member_forgotten :
    Reachable Reference.primitives sampleConfig meshStart memberDeparted ∧
      memberDeparted.lastSeen 0 sampleMember.wgPubKey = some (unix 1700000000).nanos ∧
      Forgotten Reference.primitives sampleConfig sampleMember.wgPubKey memberDeparted ∧
      RunWithout Reference.primitives sampleConfig sampleMember.wgPubKey memberDeparted departedGossip ∧
      ∀ e ∈ departedGossip.nodes, e.2.localNode.wgPubKey ≠ sampleMember.wgPubKey →
        ∀ p ∈ e.2.store.getActive departedGossip.now.nanos, p.wgPubKey ≠ sampleMember.wgPubKey := by
  let P := Reference.primitives
  let w₀ := meshStart.act 2 memberAddr memberContact.1 memberContact.2
  let w₁ := w₀.act 0 localAddr localAnswer.1 localAnswer.2
  let w₂ := memberDeparted.act 0 localAddr localContact.1 localContact.2
  let helloM : Packet := ⟨memberAddr, localAddr, sealEnvelope P messageTypeHello
    (memberContact.1.announcement (unix 1700000000)) sampleConfig.keys.gossipKey Reference.zeroNonce,
    (unix 1700000000).nanos⟩
  let helloL : Packet := ⟨localAddr, thirdAddr, sealEnvelope P messageTypeHello
    (localContact.1.announcement (unix 1700000660)) sampleConfig.keys.gossipKey Reference.zeroNonce,
    (unix 1700000660).nanos⟩
  have hM : openEnvelope P helloM.data sampleConfig.keys.gossipKey (unix 1700000000) =
      .ok (_, memberContact.1.announcement (unix 1700000000)) :=
    openEnvelope_sealEnvelope_of_fresh _ _ Reference.zeroNonce_length rfl
      (fresh_createAnnouncement _ _ _ _ _ (by decide) (by decide) (by decide))
  have hL : openEnvelope P helloL.data sampleConfig.keys.gossipKey (unix 1700000660) =
      .ok (_, localContact.1.announcement (unix 1700000660)) :=
    openEnvelope_sealEnvelope_of_fresh _ _ Reference.zeroNonce_length rfl
      (fresh_createAnnouncement _ _ _ _ _ (by decide) (by decide) (by decide))
  -- the member's HELLO, answered; then eleven minutes pass
  have step₀ : Step P sampleConfig _ meshStart w₀ := step_contact (by rfl) localAddr (by rfl)
  have step₁ : Step P sampleConfig _ w₀ w₁ := step_deliver_hello (by rfl)
    (show helloM ∈ w₀.sent from List.mem_append_right _ (List.mem_singleton.mpr rfl)) rfl (by rfl)
    hM rfl
  have step₂ : Step P sampleConfig none w₁ memberDeparted := Step.advance (by decide)
  -- the local daemon's HELLO to the third one, delivered
  have step₃ : Step P sampleConfig _ memberDeparted w₂ :=
    step_contact (by rfl) thirdAddr (by rfl)
  have step₄ : Step P sampleConfig _ w₂ departedGossip :=
    step_deliver_hello (by rfl)
      (show helloL ∈ w₂.sent from List.mem_append_right _ (List.mem_singleton.mpr rfl)) rfl (by rfl)
      hL rfl
  have hrun : RunWithout P sampleConfig sampleMember.wgPubKey memberDeparted departedGossip :=
    .tail (.single ⟨_, by decide, step₃⟩) ⟨_, by decide, step₄⟩
  -- the member's entry is dead, and both datagrams are older than ten minutes
  have hnodes : ∀ e ∈ memberDeparted.nodes, e.2.localNode.wgPubKey ≠ sampleMember.wgPubKey →
      NodeForgets sampleMember.wgPubKey memberDeparted.now.nanos e.2 := by
    have hdead : ∀ e ∈ memberDeparted.nodes, e.2.deliveries = [] ∧ e.2.buffers = [] ∧
        ((e.2.store.get sampleMember.wgPubKey).map PeerInfo.lastSeen).all
          fun l => decide (peerDeadTimeout ≤ memberDeparted.now.nanos - l) := by decide
    intro e he _
    obtain ⟨hd, hb, hl⟩ := hdead e he
    refine ⟨fun p hp => ?_, by simp [hd], by simp [hb]⟩
    simpa [hp] using hl
  have hsent : ∀ pkt ∈ memberDeparted.sent, ∃ messageType a nonce, nonce.length = nonceSize ∧
      pkt.data = sealEnvelope P messageType a sampleConfig.keys.gossipKey nonce ∧
      a.timestamp * 1000000000 + maxMessageAge < memberDeparted.now.unixNanos := by
    have hhist : memberDeparted.sent = [helloM, ⟨localAddr, memberAddr, sealEnvelope P messageTypeReply
        (localAnswer.1.announcement (unix 1700000000)) sampleConfig.keys.gossipKey Reference.zeroNonce,
        (unix 1700000000).nanos⟩] := rfl
    intro pkt hp
    rw [hhist, List.mem_pair] at hp
    rcases hp with rfl | rfl <;> exact ⟨_, _, _, Reference.zeroNonce_length, rfl, by decide⟩
  have hf := Forgotten.of_stale hnodes hsent (by decide)
  exact ⟨.tail (.tail (.single ⟨_, step₀⟩) ⟨_, step₁⟩) ⟨_, step₂⟩, rfl, hf, hrun,
    forgotten_stays_forgotten hf hrun⟩

/-! ## A replayed HELLO -/

/-- The member sends a HELLO to the local daemon, advertising `0.0.0.0:51820`, and the
local daemon stores the member at the address it sent from. An adversary re-sends a
copy of that HELLO, within the ten minutes, from `203.0.113.66`: the local daemon now
stores the member's endpoint at an address nobody in the mesh sent from, and that the
member never advertised. -/
theorem replayed_hello_redirects_endpoint (P : Primitives) :
    ∃ w, ReachableUnderReplay P sampleConfig meshStart w ∧
      w.endpoint 0 sampleMember.wgPubKey = some "203.0.113.66:51820" ∧
      hostOf "203.0.113.66:51820" = some "203.0.113.66" ∧
      hostOf sampleMember.wgEndpoint = some "0.0.0.0" ∧
      ∀ pkt ∈ w.sent, pkt.src.ip ≠ "203.0.113.66" := by
  let nonce : Bytes := List.replicate 12 0
  let t₀ := unix 1700000000
  let attacker : UDPAddr := ⟨"203.0.113.66", 40000⟩
  let c₀ := contactPeer P sampleConfig t₀ nonce localAddr (Node.init sampleMember)
  let w₀ := meshStart.act 2 memberAddr c₀.1 c₀.2
  let helloM : Packet := ⟨memberAddr, localAddr,
    sealEnvelope P messageTypeHello (c₀.1.announcement t₀) sampleConfig.keys.gossipKey nonce,
    t₀.nanos⟩
  let a₀ := handleHello P sampleConfig t₀ nonce (c₀.1.announcement t₀) memberAddr
    (Node.init sampleLocal)
  let w₁ := w₀.act 0 localAddr a₀.1 a₀.2
  let a₁ := handleHello P sampleConfig t₀ nonce (c₀.1.announcement t₀) attacker a₀.1
  let w₂ := w₁.act 0 localAddr a₁.1 a₁.2
  have hM : openEnvelope P helloM.data sampleConfig.keys.gossipKey t₀ =
      .ok (_, c₀.1.announcement t₀) := openEnvelope_sealEnvelope_of_fresh _ _ (by decide) rfl
    (fresh_createAnnouncement _ _ _ _ _ (by decide) (by decide) (by decide))
  have step₀ : ∃ k, Step P sampleConfig k meshStart w₀ := ⟨_, step_contact (by rfl) localAddr (by rfl)⟩
  have step₁ : ∃ k, Step P sampleConfig k w₀ w₁ := ⟨_, step_deliver_hello (by rfl)
    (show helloM ∈ w₀.sent from List.mem_append_right _ (List.mem_singleton.mpr rfl)) rfl (by rfl)
    hM rfl⟩
  have step₂ : Replay P sampleConfig w₁ w₂ := replay_hello (by rfl)
    (show helloM ∈ w₁.sent from List.mem_append_left _ (List.mem_append_right _
      (List.mem_singleton.mpr rfl))) attacker (by rfl) hM rfl
  refine ⟨w₂, .tail (.tail (.single (.inl step₀)) (.inl step₁)) (.inr step₂), rfl, rfl, rfl, ?_⟩
  intro pkt hp
  rcases mem_act_sent hp with hp | ⟨h, -⟩
  · rcases mem_act_sent hp with hp | ⟨h, -⟩
    · rcases mem_act_sent hp with hp | ⟨h, -⟩
      · cases hp
      · rw [h]; decide
    · rw [h]; decide
  · rw [h]; decide

end WgMesh.Discovery
