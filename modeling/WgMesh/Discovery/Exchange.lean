import WgMesh.Crypto.Envelope
import WgMesh.Daemon.Config
import WgMesh.Daemon.PeerStore
import WgMesh.Go.Basic

/-! # The peer exchange of one daemon

`PeerExchange` (package `discovery`) answers HELLOs with REPLYs on the gossip port,
and `ExchangeWithPeer`, called by the DHT layer's `contactPeer`, sends a HELLO and waits
ten seconds for the REPLY. A REPLY reaches the waiting caller through a one-slot
channel registered under the remote address in `pendingReplies`.

`Node` is one daemon's state as these goroutines share it, and `Node.step` runs one
atomic piece of one goroutine:

* `receive` — `listenLoop` reads a datagram and `handleMessage` opens it and runs
  `handleHello`, or the first half of `handleReply`: merge the transitive peers, look
  up the pending channel, and either merge the sender (no channel) or hold the reply
  for the send (`Delivery`);
* `deliver` — the second half of `handleReply`: the non-blocking send on the channel
  it looked up, which drops the reply when the one-slot buffer is full;
* `contact` — `contactPeer` and `ExchangeWithPeer` up to the HELLO: debounce, register
  a fresh channel under the address, send;
* `receiveReply` — `ExchangeWithPeer`'s `select` takes the reply, its deferred clear
  deletes the pending entry, and `contactPeer` logs the key with `[:8]` (a panic,
  `none`, on a shorter key) and merges it;
* `timeout` — the `select` times out after `ExchangeTimeout`, and the pending entry
  is deleted.

The split of `handleReply` in two is where the Go code releases `pendingMu` between
the lookup and the send; every other piece runs as one step. The store's clock is
the wall clock `now`, read as nanoseconds.

`handleHello` and `updateTransitivePeers` skip the local key; the merge of a REPLY's
sender does not.

* `own_reply_stores_local_key`, `reply_lost_after_timeout` — a node stores its own
  key from a REPLY of its own, and a REPLY accepted just before the requester times
  out is never merged.
-/

namespace WgMesh.Discovery

open WgMesh.Go WgMesh.Crypto WgMesh.Daemon

def dhtMethod : String := "dht"

/-- `ExchangeTimeout`: ten seconds. -/
def exchangeTimeout : Int := 10 * 1000000000

/-- Sixty seconds, the `contactPeer` debounce. -/
def contactDebounce : Int := 60 * 1000000000

/-! ## Addresses and endpoints -/

/-- A UDP address: the IP in its textual form (`IP.String()`) and the port. -/
structure UDPAddr where
  ip : String
  port : Nat
deriving DecidableEq, Repr

/-- `UDPAddr.String()`, the key of `pendingReplies` and `contactedPeers`. -/
def UDPAddr.str (a : UDPAddr) : String := joinHostPort a.ip (toString a.port)

/-- `resolvePeerEndpoint`: a parseable advertised endpoint keeps its port; its host is
replaced by the sender's IP when it is empty, `0.0.0.0` or `::`. An unparseable one
becomes the sender's IP with `DefaultWGPort`. -/
def resolvePeerEndpoint (advertised : String) (sender : UDPAddr) : String :=
  match splitHostPort advertised with
  | .ok (host, port) =>
    let resolvedHost := if host = "" ∨ host = "0.0.0.0" ∨ host = "::" then sender.ip else host
    if resolvedHost ≠ "" then joinHostPort resolvedHost port
    else joinHostPort sender.ip (toString defaultWGPort)
  | .error _ => joinHostPort sender.ip (toString defaultWGPort)

/-- `normalizeKnownPeerEndpoint`: an endpoint that does not parse is dropped. -/
def normalizeKnownPeerEndpoint (endpoint : String) : String :=
  if endpoint = "" then ""
  else
    match splitHostPort endpoint with
    | .ok _ => endpoint
    | .error _ => ""

/-! ## What the handlers merge -/

/-- The `PeerInfo` `handleHello` and `handleReply` build from an announcement. -/
def peerInfoOf (a : PeerAnnouncement) (remote : UDPAddr) : PeerInfo :=
  ⟨a.wgPubKey, a.meshIP, resolvePeerEndpoint a.wgEndpoint remote, a.routableNetworks, 0, []⟩

/-- The `PeerInfo` `updateTransitivePeers` builds from a `known_peers` entry. -/
def transitiveInfoOf (kp : KnownPeer) : PeerInfo :=
  ⟨kp.wgPubKey, kp.meshIP, normalizeKnownPeerEndpoint kp.wgEndpoint, [], 0, []⟩

/-- `updateTransitivePeers`: merges every `known_peers` entry but the local key. -/
def updateTransitivePeers (localKey : String) (now : Int) :
    PeerStore → List KnownPeer → PeerStore
  | store, [] => store
  | store, kp :: kps =>
    updateTransitivePeers localKey now
      (if kp.wgPubKey = localKey then store
        else store.update (transitiveInfoOf kp) (dhtMethod ++ "-transitive") now) kps

/-- `getKnownPeers`: the active entries, as `known_peers`. -/
def getKnownPeers (store : PeerStore) (now : Int) : List KnownPeer :=
  (store.getActive now).map fun p => ⟨p.wgPubKey, p.meshIP, p.endpoint⟩

theorem get_updateTransitivePeers (localKey : String) (now : Int) (kps : List KnownPeer)
    (store : PeerStore) (k : String) (hk : k = localKey ∨ ∀ kp ∈ kps, kp.wgPubKey ≠ k) :
    (updateTransitivePeers localKey now store kps).get k = store.get k := by
  induction kps generalizing store with
  | nil => rfl
  | cons kp kps ih =>
    rw [updateTransitivePeers, ih]
    · split_ifs with hkp
      · rfl
      · refine PeerStore.get_update_of_ne _ _ _ ?_
        rcases hk with rfl | hk
        · exact hkp
        · exact hk kp (List.mem_cons_self _ _)
    · exact hk.imp_right fun h kp' hkp' => h kp' (List.mem_cons_of_mem _ hkp')

/-! ## The daemon's exchange state -/

/-- An `ExchangeWithPeer` call that has sent its HELLO and waits on its channel. -/
structure Exchange where
  remote : UDPAddr
  chan : Nat
  started : Int
deriving DecidableEq, Repr

/-- A `handleReply` that found a pending channel and has not yet sent on it. -/
structure Delivery where
  chan : Nat
  info : PeerInfo
deriving DecidableEq, Repr

/-- One daemon's exchange: its identity, its store, the pending-reply map, the
one-slot buffers that hold a value, the exchanges and sends in progress, and the
`contactPeer` debounce map. -/
structure Node where
  localNode : LocalNode
  store : PeerStore
  pendingReplies : List (String × Nat)
  buffers : List (Nat × PeerInfo)
  nextChan : Nat
  exchanges : List Exchange
  deliveries : List Delivery
  contactedPeers : List (String × Int)

/-- A daemon that has just started: an empty store and nothing in progress. -/
def Node.init (localNode : LocalNode) : Node := ⟨localNode, .empty, [], [], 0, [], [], []⟩

/-- A datagram sent from the exchange socket. -/
structure Outgoing where
  dst : UDPAddr
  data : Bytes

section Handlers

variable (P : Primitives) (cfg : Config)

/-- The announcement the node sends at `now`: itself, with its active peers. -/
def Node.announcement (node : Node) (now : Time) : PeerAnnouncement :=
  createAnnouncement node.localNode.wgPubKey node.localNode.meshIP node.localNode.wgEndpoint
    node.localNode.routableNetworks (getKnownPeers node.store now.nanos) now

/-- `handleHello`: ignore our own key; merge the sender and its known peers; reply. -/
def handleHello (now : Time) (nonce : Bytes) (a : PeerAnnouncement) (remote : UDPAddr)
    (node : Node) : Node × List Outgoing :=
  if a.wgPubKey = node.localNode.wgPubKey then (node, [])
  else
    let store := node.store.update (peerInfoOf a remote) dhtMethod now.nanos
    let node := { node with
      store := updateTransitivePeers node.localNode.wgPubKey now.nanos store a.knownPeers }
    (node, [⟨remote, sealEnvelope P messageTypeReply (node.announcement now) cfg.keys.gossipKey
      nonce⟩])

/-- The first half of `handleReply`: merge the known peers, then merge the sender
unless an exchange waits on the address, in which case the reply is held for the
send on its channel. -/
def handleReply (now : Time) (a : PeerAnnouncement) (remote : UDPAddr) (node : Node) : Node :=
  let info := peerInfoOf a remote
  let store := updateTransitivePeers node.localNode.wgPubKey now.nanos node.store a.knownPeers
  match node.pendingReplies.lookup remote.str with
  | some chan => { node with store, deliveries := node.deliveries ++ [⟨chan, info⟩] }
  | none => { node with store := store.update info dhtMethod now.nanos }

/-- `handleMessage`: open the envelope and dispatch on its type; anything else is
only logged. -/
def handleMessage (now : Time) (nonce data : Bytes) (remote : UDPAddr) (node : Node) :
    Node × List Outgoing :=
  match openEnvelope P data cfg.keys.gossipKey now with
  | .error _ => (node, [])
  | .ok (envelope, a) =>
    if envelope.messageType = messageTypeHello then handleHello P cfg now nonce a remote node
    else if envelope.messageType = messageTypeReply then (handleReply now a remote node, [])
    else (node, [])

/-- `contactPeer` up to `ExchangeWithPeer`'s send: skip our own endpoint and an
address contacted less than a minute ago; otherwise register a fresh channel under
the address and send a HELLO. -/
def contactPeer (now : Time) (nonce : Bytes) (remote : UDPAddr) (node : Node) :
    Node × List Outgoing :=
  let addrStr := remote.str
  let debounced := match node.contactedPeers.lookup addrStr with
    | some last => decide (now.nanos - last < contactDebounce)
    | none => false
  if addrStr = node.localNode.wgEndpoint ∨ debounced = true then (node, [])
  else
    let chan := node.nextChan
    let node := { node with
      contactedPeers := mapSet addrStr now.nanos node.contactedPeers
      pendingReplies := mapSet addrStr chan node.pendingReplies
      nextChan := chan + 1
      exchanges := node.exchanges ++ [⟨remote, chan, now.nanos⟩] }
    (node, [⟨remote, sealEnvelope P messageTypeHello (node.announcement now) cfg.keys.gossipKey
      nonce⟩])

end Handlers

/-- The second half of `handleReply`: the non-blocking send of the `i`-th held
reply, dropped when its channel's buffer is full. -/
def deliver (i : Nat) (node : Node) : Node :=
  match node.deliveries.get? i with
  | none => node
  | some d =>
    let deliveries := node.deliveries.eraseIdx i
    match node.buffers.lookup d.chan with
    | some _ => { node with deliveries }
    | none => { node with deliveries, buffers := (d.chan, d.info) :: node.buffers }

/-- `ExchangeWithPeer` takes the reply buffered on its channel `chan` and returns;
its deferred clear deletes the pending entry under its address; `contactPeer` logs
the key with `[:8]` and merges the reply. -/
def receiveReply (now : Time) (chan : Nat) (node : Node) : Option Node :=
  match node.exchanges.find? (·.chan = chan), node.buffers.lookup chan with
  | some ex, some info =>
    (sliceTo info.wgPubKey 8).map fun _ => { node with
      exchanges := node.exchanges.filter (·.chan ≠ chan)
      buffers := node.buffers.filter (·.1 ≠ chan)
      pendingReplies := mapDelete ex.remote.str node.pendingReplies
      store := node.store.update info dhtMethod now.nanos }
  | _, _ => some node

/-- `ExchangeWithPeer` on channel `chan` times out, ten seconds after it started,
and its deferred clear deletes the pending entry under its address. -/
def timeout (now : Time) (chan : Nat) (node : Node) : Node :=
  match node.exchanges.find? (·.chan = chan) with
  | some ex =>
    if exchangeTimeout ≤ now.nanos - ex.started then
      { node with
        exchanges := node.exchanges.filter (·.chan ≠ chan)
        pendingReplies := mapDelete ex.remote.str node.pendingReplies }
    else node
  | none => node

/-- One atomic piece of one goroutine of the exchange. -/
inductive Event
  | receive (data : Bytes) (remote : UDPAddr) (nonce : Bytes)
  | deliver (i : Nat)
  | contact (remote : UDPAddr) (nonce : Bytes)
  | receiveReply (chan : Nat)
  | timeout (chan : Nat)

/-- The node after one event at `now`, with the datagrams it sends; `none` is a
run-time panic. -/
def Node.step (P : Primitives) (cfg : Config) (now : Time) : Event → Node → Option (Node × List Outgoing)
  | .receive data remote nonce, node => some (handleMessage P cfg now nonce data remote node)
  | .deliver i, node => some (deliver i node, [])
  | .contact remote nonce, node => some (contactPeer P cfg now nonce remote node)
  | .receiveReply chan, node => (receiveReply now chan node).map fun node => (node, [])
  | .timeout chan, node => some (timeout now chan node, [])

/-- A run of events, each at its time; `none` once one panics. -/
def Node.run (P : Primitives) (cfg : Config) : List (Time × Event) → Node → Option Node
  | [], node => some node
  | (now, ev) :: evs, node => (node.step P cfg now ev).bind fun r => Node.run P cfg evs r.1

/-! ## What a step does to the store -/

section Steps

variable {P : Primitives} {cfg : Config} {now : Time} {nonce data : Bytes} {remote : UDPAddr}
  {node : Node}

theorem handleMessage_of_error {e : OpenError}
    (h : openEnvelope P data cfg.keys.gossipKey now = .error e) :
    handleMessage P cfg now nonce data remote node = (node, []) := by
  simp only [handleMessage, h]

theorem handleMessage_of_ok {envelope : Envelope} {a : PeerAnnouncement}
    (h : openEnvelope P data cfg.keys.gossipKey now = .ok (envelope, a)) :
    handleMessage P cfg now nonce data remote node =
      if envelope.messageType = messageTypeHello then handleHello P cfg now nonce a remote node
      else if envelope.messageType = messageTypeReply then (handleReply now a remote node, [])
      else (node, []) := by
  simp only [handleMessage, h]

@[simp] theorem deliver_store (i : Nat) : (deliver i node).store = node.store := by
  unfold deliver; split
  · rfl
  · split <;> rfl

@[simp] theorem timeout_store (chan : Nat) : (timeout now chan node).store = node.store := by
  unfold timeout; split
  · split_ifs <;> rfl
  · rfl

@[simp] theorem contactPeer_store :
    (contactPeer P cfg now nonce remote node).1.store = node.store := by
  dsimp only [contactPeer]; split_ifs <;> rfl

theorem receiveReply_cases {chan : Nat} {n : Node} (h : receiveReply now chan node = some n) :
    n = node ∨ ∃ info, node.buffers.lookup chan = some info ∧
      n.store = node.store.update info dhtMethod now.nanos ∧ n.deliveries = node.deliveries ∧
      n.buffers = node.buffers.filter (·.1 ≠ chan) := by
  unfold receiveReply at h
  split at h
  · rename_i info _ hinfo
    obtain ⟨_, -, rfl⟩ := Option.map_eq_some'.mp h
    exact .inr ⟨info, hinfo, rfl, rfl, rfl⟩
  · exact .inl (Option.some.inj h).symm

end Steps

/-! ## Two runs -/

/-- The local daemon of the runs below. -/
def sampleLocal : LocalNode :=
  ⟨"local-node-key", "local-private-key", "10.42.0.1", "0.0.0.0:51820", []⟩

/-- Another member of the mesh. -/
def sampleMember : LocalNode :=
  ⟨"member-node-key", "member-private-key", "10.42.0.2", "0.0.0.0:51820", []⟩

/-- The address `sampleMember` sends from. -/
def memberAddr : UDPAddr := ⟨"192.0.2.7", 51821⟩

/-- A daemon that receives a REPLY it sealed itself (its own, re-sent within ten
minutes, or one from a host with a copy of its state file) stores its own key, and
`getKnownPeers` then advertises it. -/
theorem own_reply_stores_local_key (P : Primitives) :
    let nonce : Bytes := List.replicate 12 0
    let now := unix 1700000000
    let node := Node.init sampleLocal
    let reply := sealEnvelope P messageTypeReply (node.announcement now)
      sampleConfig.keys.gossipKey nonce
    (handleMessage P sampleConfig now nonce reply memberAddr node).1.store.get
      sampleLocal.wgPubKey ≠ none := by
  intro nonce now node reply
  have hreply : openEnvelope P reply sampleConfig.keys.gossipKey now = .ok (_, node.announcement now) :=
    openEnvelope_sealEnvelope_of_fresh _ _ (by decide) rfl
      (fresh_createAnnouncement _ _ _ _ _ (by decide) (by decide) (by decide))
  rw [handleMessage_of_ok hreply]
  exact Option.ne_none_iff_isSome.mpr rfl

/-- `contactPeer` sends a HELLO to a member; the member's REPLY is accepted and its
handler finds the pending channel; the exchange times out; the handler then sends
into the channel nobody reads. When all four goroutine steps are done, no exchange
or send is in progress and the member is not in the store. An accepted ANNOUNCE from
the member is not merged either. -/
theorem reply_lost_after_timeout (P : Primitives) :
    let nonce : Bytes := List.replicate 12 0
    let t₀ := unix 1700000000
    let t₁ := unix 1700000009
    let t₂ := unix 1700000010
    let member := Node.init sampleMember
    let reply := sealEnvelope P messageTypeReply (member.announcement t₁)
      sampleConfig.keys.gossipKey nonce
    let announce := sealEnvelope P messageTypeAnnounce (member.announcement t₁)
      sampleConfig.keys.gossipKey nonce
    (∃ envelope, openEnvelope P reply sampleConfig.keys.gossipKey t₁ =
        .ok (envelope, member.announcement t₁)) ∧
      (Node.run P sampleConfig [(t₀, .contact memberAddr nonce), (t₁, .receive reply memberAddr nonce),
          (t₂, .timeout 0), (t₂, .deliver 0)] (Node.init sampleLocal)).map
        (fun n => (n.exchanges, n.deliveries, n.store.get sampleMember.wgPubKey)) =
        some ([], [], none) ∧
      (∃ envelope, openEnvelope P announce sampleConfig.keys.gossipKey t₁ =
        .ok (envelope, member.announcement t₁)) ∧
      (handleMessage P sampleConfig t₁ nonce announce memberAddr (Node.init sampleLocal)).1.store.get
        sampleMember.wgPubKey = none := by
  intro nonce t₀ t₁ t₂ member reply announce
  have hfresh : Fresh t₁ (member.announcement t₁).timestamp :=
    fresh_createAnnouncement _ _ _ _ _ (by decide) (by decide) (by decide)
  have hreply : openEnvelope P reply sampleConfig.keys.gossipKey t₁ =
      .ok (_, member.announcement t₁) := openEnvelope_sealEnvelope_of_fresh _ _ (by decide) rfl hfresh
  have hannounce : openEnvelope P announce sampleConfig.keys.gossipKey t₁ =
      .ok (_, member.announcement t₁) := openEnvelope_sealEnvelope_of_fresh _ _ (by decide) rfl hfresh
  refine ⟨⟨_, hreply⟩, ?_, ⟨_, hannounce⟩, ?_⟩
  · simp only [Node.run, Node.step, Option.some_bind, handleMessage_of_ok hreply]
    rfl
  · rw [handleMessage_of_ok hannounce]
    rfl

end WgMesh.Discovery
