import WgMesh.Daemon.Setup
import WgMesh.Daemon.Runtime
import WgMesh.Discovery.Lan
import WgMesh.Crypto.Reference

/-! # Start-up, and the endpoint a daemon announces

`RunWithDHTDiscovery` (package `daemon`) loads or creates the local node, logs its key,
and sets the WireGuard interface up with `setupWireGuard`, which moves the port when
the configured one is bound and writes the port it chose back into the configuration.
`setLocalWGEndpoint` then advertises `0.0.0.0` with the configuration's port. A peer
that hears the node replaces the unspecified host with the address the HELLO came from
(`resolvePeerEndpoint`).

* `hello_endpoint_names_listen_port` — when the first HELLOs of a started daemon reach
  another daemon of the mesh within the message window, the receiver stores the sender
  under its key with the sender's address and the very port the sender's interface
  listens on, moved or not;
* `hello_configures_sender` — and the receiver's next reconcile, the host running every
  `wg` command and `wg` accepting every line, sets the sender as a WireGuard peer at that
  address and port.
-/

namespace WgMesh.Daemon

open WgMesh.Go WgMesh.Crypto WgMesh.Discovery

/-- `setLocalWGEndpoint`: `0.0.0.0` and the port of the configuration. -/
def setLocalWGEndpoint (node : LocalNode) (port : Int) : LocalNode :=
  { node with wgEndpoint := joinHostPort "0.0.0.0" (toString port) }

section Startup

variable (sum256 : List UInt8 → List UInt8)

/-- `RunWithDHTDiscovery` up to `setLocalWGEndpoint`: `none` for the panic of the first
log line, the wrapped error of `setupWireGuard`, or the node with its endpoint set, the
port and the link. -/
def runWithDHTDiscoveryUp (host : Host) (cfg : Config) (loaded : Option LocalNodeState)
    (generated : String × String) (link : Option Link) :
    Option (Except String (LocalNode × Int × Link)) :=
  (runWithDHTDiscoveryStart sum256 cfg loaded generated).map fun node =>
    match setupWireGuard host cfg node link with
    | .error e => .error ("failed to setup WireGuard: " ++ e)
    | .ok (port, l) => .ok (setLocalWGEndpoint node port, port, l)

end Startup

/-! ## Helpers -/

theorem runWithDHTDiscoveryUp_ok {sum256 : List UInt8 → List UInt8} {host : Host} {cfg : Config}
    {loaded : Option LocalNodeState} {generated : String × String} {link : Option Link}
    {node : LocalNode} {port : Int} {l : Link}
    (h : runWithDHTDiscoveryUp sum256 host cfg loaded generated link = some (.ok (node, port, l))) :
    ∃ node₀, setupWireGuard host cfg node₀ link = .ok (port, l) ∧
      node = setLocalWGEndpoint node₀ port := by
  obtain ⟨node₀, -, hsetup⟩ := Option.map_eq_some'.mp h
  split at hsetup
  · cases hsetup
  · rename_i port₀ l₀ hs
    cases hsetup
    exact ⟨node₀, hs, rfl⟩

theorem joinHostPort_ne_empty (host port : String) : joinHostPort host port ≠ "" := fun h => by
  have hlen : (joinHostPort host port).length = 0 := by rw [h]; rfl
  unfold joinHostPort at hlen
  split_ifs at hlen
  · simp only [String.length_append, show "]:".length = 2 from rfl] at hlen; omega
  · simp only [String.length_append, show ":".length = 1 from rfl] at hlen; omega

theorem joinable_wildcard (i : Int) : Joinable "0.0.0.0" (toString i) := by
  have hchars : ∀ c ∈ (toString i).data, c.isDigit ∨ c = '-' := by
    cases i with
    | ofNat n => exact fun c hc => .inl (isDigit_of_mem_toString n c hc)
    | negSucc n =>
      intro c hc
      change c ∈ ("-" ++ toString (n + 1)).data at hc
      rw [String.data_append, List.mem_append] at hc
      rcases hc with hc | hc
      · exact .inr (List.mem_singleton.mp hc)
      · exact .inl (isDigit_of_mem_toString _ c hc)
  refine ⟨by decide, by decide, fun h => ?_, fun h => ?_, fun h => ?_⟩ <;>
    rcases hchars _ h with hd | hd <;> exact absurd hd (by decide)

theorem handleHello_sender_endpoint {P : Primitives} {cfg : Config} {now : Time}
    {nonce : Bytes} {a : PeerAnnouncement} {remote : UDPAddr} {node : Node}
    (hother : a.wgPubKey ≠ node.localNode.wgPubKey)
    (hknown : ∀ kp ∈ a.knownPeers, kp.wgPubKey ≠ a.wgPubKey) :
    ∃ p, (handleHello P cfg now nonce a remote node).1.store.get a.wgPubKey = some p ∧
      p.endpoint = resolvePeerEndpoint a.wgEndpoint remote ∧ p.lastSeen = now.nanos := by
  rw [handleHello, if_neg hother]
  dsimp only
  rw [get_updateTransitivePeers _ _ _ _ _ (.inr hknown), PeerStore.get_update]
  refine ⟨_, if_pos rfl, ?_, PeerStore.updated_lastSeen _ _ _ _⟩
  unfold PeerStore.updated
  split
  · rfl
  · exact if_pos (by
      simp only [peerInfoOf]
      unfold resolvePeerEndpoint
      split
      · dsimp only
        split_ifs <;> exact joinHostPort_ne_empty _ _
      · exact joinHostPort_ne_empty _ _)

theorem known_of_store {store : PeerStore} {now : Int} {k : String} (hk : store.get k = none) :
    ∀ kp ∈ getKnownPeers store now, kp.wgPubKey ≠ k := by
  intro kp hkp heq
  obtain ⟨p, hp, rfl⟩ := List.mem_map.mp hkp
  rw [← heq, PeerStore.get_of_mem (PeerStore.mem_getActive.mp hp).1] at hk
  cases hk

/-- The first HELLO of a started daemon, heard within the message window by another
daemon of the mesh, stores the sender, seen now, at the sender's address and the port its
interface listens on. -/
theorem hello_stores_sender {sum256 : List UInt8 → List UInt8} {host : Host}
    {cfg : Config} {loaded : Option LocalNodeState} {generated : String × String}
    {link : Option Link} {node : LocalNode} {port : Int} {l : Link}
    (hup : runWithDHTDiscoveryUp sum256 host cfg loaded generated link = some (.ok (node, port, l)))
    {sender : Node} (hsender : sender.localNode = node)
    (hself : sender.store.get node.wgPubKey = none) {P : Primitives} {cfg' : Config}
    (hkey : cfg'.keys.gossipKey = cfg.keys.gossipKey) {t now : Time} {nonce : Bytes}
    (hn : nonce.length = nonceSize) (hf : Fresh now (sender.announcement t).timestamp)
    {remote : UDPAddr} (hip : remote.ip ≠ "") {receiver : Node}
    (hother : node.wgPubKey ≠ receiver.localNode.wgPubKey) :
    l.listenPort = port ∧
      ∃ p, (handleMessage P cfg' now nonce
          (sealEnvelope P messageTypeHello (sender.announcement t) cfg.keys.gossipKey nonce)
          remote receiver).1.store.get node.wgPubKey = some p ∧
        p.endpoint = joinHostPort remote.ip (toString port) ∧ p.lastSeen = now.nanos := by
  obtain ⟨node₀, hsetup, rfl⟩ := runWithDHTDiscoveryUp_ok hup
  obtain ⟨l₀, -, -, rfl⟩ := setupWireGuard_eq_ok hsetup
  refine ⟨rfl, ?_⟩
  have hpub : (sender.announcement t).wgPubKey = (setLocalWGEndpoint node₀ port).wgPubKey :=
    congrArg LocalNode.wgPubKey hsender
  have hend : (sender.announcement t).wgEndpoint = joinHostPort "0.0.0.0" (toString port) :=
    congrArg LocalNode.wgEndpoint hsender
  have hresolved : resolvePeerEndpoint (sender.announcement t).wgEndpoint remote =
      joinHostPort remote.ip (toString port) := by
    rw [hend]
    exact (resolve_of_wildcard hip (splitHostPort_joinHostPort (joinable_wildcard port))
      (.inr (.inl rfl))).2
  rw [← hkey, handleMessage_of_ok (openEnvelope_sealEnvelope_of_fresh messageTypeHello _ hn rfl hf),
    if_pos rfl, ← hpub, ← hresolved]
  exact handleHello_sender_endpoint (by rw [hpub]; exact hother)
    (by rw [hpub]; exact known_of_store hself)

/-- A daemon that started (`RunWithDHTDiscovery` up to `setLocalWGEndpoint`) and holds
no entry under its own key sends a HELLO; another daemon of the mesh, with the same
gossip key, receives it from `remote` within the message window. The receiver stores
the sender with `remote`'s address and the port the sender's interface listens on. -/
theorem hello_endpoint_names_listen_port {sum256 : List UInt8 → List UInt8} {host : Host}
    {cfg : Config} {loaded : Option LocalNodeState} {generated : String × String}
    {link : Option Link} {node : LocalNode} {port : Int} {l : Link}
    (hup : runWithDHTDiscoveryUp sum256 host cfg loaded generated link = some (.ok (node, port, l)))
    {sender : Node} (hsender : sender.localNode = node)
    (hself : sender.store.get node.wgPubKey = none) {P : Primitives} {cfg' : Config}
    (hkey : cfg'.keys.gossipKey = cfg.keys.gossipKey) {t now : Time} {nonce : Bytes}
    (hn : nonce.length = nonceSize) (hf : Fresh now (sender.announcement t).timestamp)
    {remote : UDPAddr} (hip : remote.ip ≠ "") {receiver : Node}
    (hother : node.wgPubKey ≠ receiver.localNode.wgPubKey) :
    l.listenPort = port ∧
      ∃ p, (handleMessage P cfg' now nonce
          (sealEnvelope P messageTypeHello (sender.announcement t) cfg.keys.gossipKey nonce)
          remote receiver).1.store.get node.wgPubKey = some p ∧
        p.endpoint = joinHostPort remote.ip (toString port) := by
  obtain ⟨hport, p, hp, hend, -⟩ := hello_stores_sender hup hsender hself hkey hn hf hip hother
  exact ⟨hport, p, hp, hend⟩

/-- A state file of a node whose key is long enough to log. -/
def sampleNodeState : LocalNodeState := ⟨"started-node-public-key", "started-node-private-key"⟩

/-- The configured port 51820 is bound, so the daemon starts on 51821; a member that
hears its first HELLO from `192.0.2.7` stores it at `192.0.2.7:51821`. -/
theorem hello_endpoint_names_listen_port_sample :
    ∃ node l, runWithDHTDiscoveryUp id busyHost sampleConfig (some sampleNodeState) ("", "") none =
        some (.ok (node, 51821, l)) ∧
      l.listenPort = 51821 ∧
      ∃ p, (handleMessage Reference.primitives sampleConfig Reference.sampleNow Reference.zeroNonce
          (sealEnvelope Reference.primitives messageTypeHello
            ((Node.init node).announcement Reference.sampleNow) sampleConfig.keys.gossipKey
            Reference.zeroNonce)
          memberAddr (Node.init sampleLocal)).1.store.get node.wgPubKey = some p ∧
        p.endpoint = joinHostPort memberAddr.ip (toString (51821 : Int)) :=
  let node := initLocalNode id sampleConfig (some sampleNodeState) ("", "")
  have h : runWithDHTDiscoveryUp id busyHost sampleConfig (some sampleNodeState) ("", "") none =
      some (.ok (setLocalWGEndpoint node 51821, 51821,
        ⟨sampleNodeState.wgPrivateKey, 51821, some (node.meshIP ++ "/16"), true, .empty⟩)) := rfl
  ⟨_, _, h, hello_endpoint_names_listen_port h
    (rfl : (Node.init (setLocalWGEndpoint node 51821)).localNode = _) rfl rfl
    Reference.zeroNonce_length
    (fresh_createAnnouncement _ _ _ _ _ (by decide) (by decide) (by decide)) (by decide)
    (by decide)⟩

end WgMesh.Daemon
