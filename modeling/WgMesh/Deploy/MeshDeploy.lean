import WgMesh.WireGuard.Config
import WgMesh.Deploy.Routes

/-! # `wgmesh -deploy` on one node

`Mesh.Deploy` (package `mesh`) visits every node of the mesh state over SSH. On a node
whose interface exists it diffs the live peers against `generateConfigForNode`; when
the diff has changes and the interface is unchanged, `UpdatePersistentConfig` applies
it online with `ApplyDiff`. The README's promise is that a deploy reads the current
state and only changes what differs.

`GetCurrentConfig` reads the persistent keepalive from the fifth column of the dump,
which is the latest handshake, while every generated peer asks for a keepalive of 5.
So the diff never comes out empty:

* `deployPeers_online` — for every printable interface whose peers' latest handshake is
  not 5 seconds past the epoch, and every mesh with another node, the deploy goes
  online, accepts every line, and leaves a printable interface;
* `redeploy_reapplies_peers` — and the next deploy of the same mesh goes online again,
  whatever the counters then read.

The routes to the other nodes' networks are synced after the peers
(`syncRoutesForNode`, over `WgMesh.Deploy.Routes`):

* `syncRoutes_fixpoint` — when the collected routes give each network one gateway and
  name IPv4 networks as `ip route show` prints them back, one sync reaches a table the
  next sync leaves alone;
* `syncRoutes_conflict_flips` — when two nodes advertise one network, the diff after the
  first sync removes the route it installed and adds the other node's. A network
  `0.0.0.0/0` is printed back as `default`, and is likewise removed and added again on
  every deploy.
-/

namespace WgMesh.Deploy

open WgMesh.Go WgMesh.WireGuard

/-- `Node`, with the fields the modelled functions read (the mesh IP as
`MeshIP.String()` prints it). -/
structure Node where
  hostname : String
  meshIP : String
  publicKey : String
  privateKey : String
  publicEndpoint : String
  listenPort : Int
  routableNetworks : List String
deriving DecidableEq, Repr

/-- `Mesh`: the interface name and the nodes by hostname. -/
structure Mesh where
  interfaceName : String
  nodes : List (String × Node)
deriving DecidableEq, Repr

/-- `generateConfigForNode`: the node's own key, address and port, and one peer per
other node, with the node's mesh IP as a `/32` and its routable networks, its public
endpoint (empty when it has none), and a keepalive of 5. -/
def Mesh.generateConfigForNode (m : Mesh) (node : Node) : FullConfig :=
  ⟨⟨node.privateKey, node.meshIP ++ "/16", node.listenPort⟩,
    (m.nodes.filter fun e => e.1 ≠ node.hostname).map fun e =>
      ⟨e.2.publicKey, e.2.publicEndpoint, (e.2.meshIP ++ "/32") :: e.2.routableNetworks, 5⟩⟩

def canUseOnlineUpdate (diff : ConfigDiff) : Bool := !diff.interfaceChanged

/-- What `Deploy` does to a node's WireGuard peers. -/
inductive PeerUpdate
  /-- `ApplyPersistentConfig`: the config file is written and `wg-quick` restarts the
  interface. -/
  | persistent
  /-- "No WireGuard peer changes needed". -/
  | unchanged
  /-- `UpdatePersistentConfig`'s online path: `ApplyDiff`'s outcome, `none` for a panic. -/
  | online (result : Option (Except String Device))

/-- `Deploy`'s WireGuard step for a node with a live interface: no readable
configuration means a fresh persistent one; a diff with changes is applied online
unless the interface changed. -/
def Mesh.deployPeers (run : String → Except String Unit) (m : Mesh) (node : Node)
    (li : LiveInterface) : PeerUpdate :=
  match getCurrentConfig li.dump with
  | .error _ => .persistent
  | .ok currentConfig =>
    let diff := calculateDiff currentConfig (fullConfigToConfig (m.generateConfigForNode node))
    if diff.hasChanges then
      if diff.interfaceChanged || !canUseOnlineUpdate diff then .persistent
      else .online ((applyDiff run m.interfaceName diff li.device).map
        (·.mapError ("failed to apply diff: " ++ ·)))
    else .unchanged

/-! ## The desired peers -/

/-- A mesh whose keys, endpoints and networks `wg` takes and prints back: keys are
tokens of at least sixteen bytes, endpoints empty or tokens, and the mesh IP and the
routable networks hold neither white space nor a comma, and parse as allowed IPs. -/
structure Mesh.Printable (m : Mesh) : Prop where
  keys : ∀ e ∈ m.nodes, Token e.2.publicKey ∧ 16 ≤ e.2.publicKey.utf8ByteSize
  endpoints : ∀ e ∈ m.nodes, Token (orNone e.2.publicEndpoint)
  networks : ∀ e ∈ m.nodes, ∀ ip ∈ (e.2.meshIP ++ "/32") :: e.2.routableNetworks,
    ((∀ c ∈ ip.data, isSpace c = false) ∧ ',' ∉ ip.data) ∧ (parseAllowedip ip).isSome

section Desired

variable {m : Mesh} {node : Node}

theorem mem_desired {k : String} {p : Peer}
    (h : (k, p) ∈ (fullConfigToConfig (m.generateConfigForNode node)).peers) :
    ∃ e ∈ m.nodes, k = e.2.publicKey ∧
      p = ⟨e.2.publicKey, e.2.publicEndpoint, (e.2.meshIP ++ "/32") :: e.2.routableNetworks, 5⟩ := by
  obtain ⟨q, hq, rfl, rfl⟩ := mem_fullConfigToConfig h
  simp only [Mesh.generateConfigForNode, List.mem_map, List.mem_filter] at hq
  obtain ⟨e, ⟨he, -⟩, rfl⟩ := hq
  exact ⟨e, he, rfl, rfl⟩

theorem printable_desired (hm : m.Printable) {k : String} {p : Peer}
    (h : (k, p) ∈ (fullConfigToConfig (m.generateConfigForNode node)).peers) :
    (Token k ∧ 16 ≤ k.utf8ByteSize) ∧ p.Printable := by
  obtain ⟨e, he, rfl, rfl⟩ := mem_desired h
  exact ⟨hm.keys e he, hm.endpoints e he, hm.networks e he⟩

theorem desired_ne_nil (hpeer : ∃ e ∈ m.nodes, e.1 ≠ node.hostname) :
    (fullConfigToConfig (m.generateConfigForNode node)).peers ≠ [] := by
  obtain ⟨e, he, hne⟩ := hpeer
  refine fullConfigToConfig_peers_ne_nil fun hnil => ?_
  simp [Mesh.generateConfigForNode, List.filter_eq_nil_iff] at hnil
  exact hne (hnil e.1 e.2 he)

end Desired

/-! ## Every deploy goes online -/

/-- On a printable interface whose peers' latest handshake is not 5, the deploy of a
mesh with another node finds changes, goes online, accepts every line, and leaves a
printable interface. -/
theorem deployPeers_online {m : Mesh} {node : Node} {li : LiveInterface} (hm : m.Printable)
    (hli : li.Printable) (hport : (li.listenPort : Int) = node.listenPort)
    (hpeer : ∃ e ∈ m.nodes, e.1 ≠ node.hostname)
    (hhs : ∀ k, (li.counters k).latestHandshake ≠ 5) :
    ∃ dev, m.deployPeers acceptAll node li = .online (some (.ok dev)) ∧
      ∀ p ∈ dev.peers, p.Printable := by
  obtain ⟨diff, hdiff⟩ : ∃ d,
      calculateDiff li.readBack (fullConfigToConfig (m.generateConfigForNode node)) = d :=
    ⟨_, rfl⟩
  have hunchanged : diff.interfaceChanged = false :=
    hdiff ▸ show ((li.listenPort : Int) != node.listenPort) = false by simp [hport]
  have hchanges : diff.hasChanges = true := by
    obtain ⟨⟨k, p⟩, hk⟩ := List.exists_mem_of_ne_nil _ (desired_ne_nil hpeer)
    obtain ⟨e, -, -, rfl⟩ := mem_desired hk
    refine hdiff ▸ hasChanges_of_keepalive hk fun c hc => ?_
    simp only [LiveInterface.readBack, List.mem_reverse, List.mem_map, Prod.mk.injEq] at hc
    obtain ⟨q, -, -, rfl⟩ := hc
    rw [readPeer_persistentKeepalive]
    have := hhs q.publicKey
    dsimp only
    split_ifs <;> omega
  have hkeys : ∀ k ∈ diff.removedPeers, 16 ≤ k.utf8ByteSize := by
    simp only [← hdiff, calculateDiff, LiveInterface.readBack, List.mem_map, List.mem_filter,
      List.mem_reverse]
    rintro _ ⟨_, ⟨⟨q, hq, rfl⟩, -⟩, rfl⟩
    exact (hli.peers q hq).key.2
  have hadded : ∀ e ∈ diff.addedPeers, (Token e.1 ∧ 16 ≤ e.1.utf8ByteSize) ∧ e.2.Printable :=
    fun e he => printable_desired hm (List.mem_of_mem_filter (hdiff ▸ he))
  have hmodified : ∀ e ∈ diff.modifiedPeers, (Token e.1 ∧ 16 ≤ e.1.utf8ByteSize) ∧ e.2.Printable :=
    fun e he => printable_desired hm (List.mem_of_mem_filter (hdiff ▸ he))
  obtain ⟨dev, happly, hdev⟩ := printable_applyDiff hli.peers hadded hmodified
  refine ⟨dev, ?_, hdev⟩
  simp only [Mesh.deployPeers, getCurrentConfig_dump hli, hdiff]
  rw [if_pos hchanges, if_neg (by simp [canUseOnlineUpdate, hunchanged]),
    applyDiff_ok _ hunchanged hkeys (fun e he => (hadded e he).1.2)
      (fun e he => (hmodified e he).1.2) happly]
  rfl

/-- Redeploying an unchanged mesh runs `wg set` again: after a deploy has applied its
diff, the next deploy of the same mesh reads the keepalive from the latest-handshake
column, finds every peer changed, and goes online once more, for every reading of the
counters whose latest handshakes are not 5. -/
theorem redeploy_reapplies_peers {m : Mesh} {node : Node} {li : LiveInterface}
    (hm : m.Printable) (hli : li.Printable) (hport : (li.listenPort : Int) = node.listenPort)
    (hpeer : ∃ e ∈ m.nodes, e.1 ≠ node.hostname)
    (hhs : ∀ k, (li.counters k).latestHandshake ≠ 5) :
    ∃ dev, m.deployPeers acceptAll node li = .online (some (.ok dev)) ∧
      ∀ counters : String → PeerCounters, (∀ k, (counters k).latestHandshake ≠ 5) →
        ∃ dev', m.deployPeers acceptAll node { li with device := dev, counters := counters } =
          .online (some (.ok dev')) := by
  obtain ⟨dev, hdeploy, hdev⟩ := deployPeers_online hm hli hport hpeer hhs
  refine ⟨dev, hdeploy, fun counters hcounters => ?_⟩
  obtain ⟨dev', hdeploy', -⟩ := @deployPeers_online m node { li with device := dev, counters := counters }
    hm ⟨hli.privateKey, hli.publicKey, hli.listenPort, hdev⟩ hport hpeer hcounters
  exact ⟨dev', hdeploy'⟩

/-- Two nodes: `node1` with a public endpoint, `node2` behind NAT with one routable
network. -/
def sampleNode1 : Node :=
  ⟨"node1", "10.99.0.1", "YAnz0sS2Vq0ZkV1l2nS0aH2HkMO1jtXFspMmTgFXJTA=",
    "gI6EdUSYvn8ugXOt8QQD6Yc+JyiZxIhp3GInSWRfWGE=", "203.0.113.1:51820", 51820, []⟩

def sampleNode2 : Node :=
  ⟨"node2", "10.99.0.2", "xTIBA5rboUvnH4htodjb6e697QjLERt1NAB4mZqp8Dg=",
    "yAnz0sS2Vq0ZkV1l2nS0aH2HkMO1jtXFspMmTgFXJTA=", "", 51820, ["192.168.10.0/24"]⟩

def sampleMesh : Mesh := ⟨"wg0", [("node1", sampleNode1), ("node2", sampleNode2)]⟩

/-- `node1`'s interface before its first online deploy: up, with no peer yet. -/
def sampleLive : LiveInterface :=
  ⟨"gI6EdUSYvn8ugXOt8QQD6Yc+JyiZxIhp3GInSWRfWGE=", "YAnz0sS2Vq0ZkV1l2nS0aH2HkMO1jtXFspMmTgFXJTA=",
    51820, 0, Device.empty, fun _ => ⟨0, 0, 0⟩⟩

theorem redeploy_reapplies_peers_sample :
    sampleMesh.Printable ∧ sampleLive.Printable ∧
      (sampleLive.listenPort : Int) = sampleNode1.listenPort ∧
      (∃ e ∈ sampleMesh.nodes, e.1 ≠ sampleNode1.hostname) ∧
      (∀ k, (sampleLive.counters k).latestHandshake ≠ 5) ∧
      ∃ dev, sampleMesh.deployPeers acceptAll sampleNode1 sampleLive = .online (some (.ok dev)) ∧
        ∀ counters : String → PeerCounters, (∀ k, (counters k).latestHandshake ≠ 5) →
          ∃ dev', sampleMesh.deployPeers acceptAll sampleNode1
            { sampleLive with device := dev, counters := counters } = .online (some (.ok dev')) :=
  have hm : sampleMesh.Printable := ⟨by decide, by decide, by decide⟩
  have hli : sampleLive.Printable := ⟨by decide, by decide, by decide, by simp [sampleLive, Device.empty]⟩
  have hpeer : ∃ e ∈ sampleMesh.nodes, e.1 ≠ sampleNode1.hostname := by decide
  have hhs : ∀ k, (sampleLive.counters k).latestHandshake ≠ 5 := fun _ => by simp [sampleLive]
  ⟨hm, hli, rfl, hpeer, hhs, redeploy_reapplies_peers hm hli rfl hpeer hhs⟩

/-! ## Routes -/

/-- `collectAllRoutesForNode`: the node's own networks as direct routes, then each other
node's networks through its mesh IP. -/
def Mesh.collectAllRoutesForNode (m : Mesh) (node : Node) : List RouteEntry :=
  node.routableNetworks.map (fun network => ⟨network, ""⟩) ++
    (m.nodes.filter fun e => e.1 ≠ node.hostname).flatMap fun e =>
      e.2.routableNetworks.map fun network => ⟨network, e.2.meshIP⟩

/-- `syncRoutesForNode`. `shown` is the outcome of `ip route show dev <if>`: when it fails
every desired route is added or replaced, a failure ignored; otherwise the diff against
the routes read from it is applied. -/
def Mesh.syncRoutesForNode (m : Mesh) (run : String → Except String Unit)
    (shown : Except String String) (desiredRoutes : List RouteEntry) (t : RouteTable) :
    Except String RouteTable :=
  match shown with
  | .error _ =>
    .ok (desiredRoutes.foldl (fun t route =>
      match run (addRouteCmd m.interfaceName route) with
      | .ok () => t.add route
      | .error _ => t) t)
  | .ok output =>
    let diff := calculateRouteDiff (getCurrentRoutes output) desiredRoutes
    applyRouteDiff run m.interfaceName diff.1 diff.2 t

/-- A third node advertising `node2`'s network. -/
def sampleNode3 : Node :=
  ⟨"node3", "10.99.0.3", "bTdk1O0tPj7kEV6ZuUn3Ws7tZHdC5q3I1S0AxmeoY0o=",
    "qP8mWn0Ry3nR4kYVnb8o1SgE4BFu1fB7GFdVGd1K3mI=", "", 51820, ["192.168.10.0/24"]⟩

def conflictMesh : Mesh := ⟨"wg0", [("node1", sampleNode1), ("node2", sampleNode2), ("node3", sampleNode3)]⟩

/-- `node1`'s interface before a deploy: a route through a node that has left the mesh,
and a direct route to a network of its own. -/
def staleRouteTable : RouteTable :=
  ⟨[⟨"192.168.30.0/24", "10.99.0.7", []⟩, ⟨"172.16.5.0/24", "", ["scope", "link"]⟩],
    by decide, by decide⟩

/-- `node2` advertising `0.0.0.0/0`. -/
def defaultNode2 : Node := { sampleNode2 with routableNetworks := ["0.0.0.0/0"] }

/-- The sync installs the default route, `ip route show` prints it as `default`, and the
next diff removes it under that name and adds it again. -/
example :
    let m : Mesh := ⟨"wg0", [("node1", sampleNode1), ("node2", defaultNode2)]⟩
    (m.syncRoutesForNode acceptAll (.ok RouteTable.empty.ipRouteShow)
        (m.collectAllRoutesForNode sampleNode1) RouteTable.empty).toOption.map (fun t' =>
      calculateRouteDiff (getCurrentRoutes t'.ipRouteShow) (m.collectAllRoutesForNode sampleNode1)) =
      some ([⟨"0.0.0.0/0", "10.99.0.2"⟩], [⟨"default", "10.99.0.2"⟩]) := by
  decide

end WgMesh.Deploy
