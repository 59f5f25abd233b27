import WgMesh.Go.Net
import WgMesh.Deploy.MeshDeploy

/-! # The mesh state and the centralized commands

In the centralized mode every run of `wgmesh` loads the mesh state file, applies one
command and saves the state back (package `mesh`). `-init` writes a fresh state,
`-add hostname:mesh_ip:ssh_host[:ssh_port]` adds a node with a new WireGuard key pair,
and `-remove hostname` deletes one; on an error `main` exits before `Save`, so the file
keeps what it held. `-deploy` reads the state through `generateConfigForNode` and
`collectAllRoutesForNode` (`WgMesh.Deploy.MeshDeploy`), which see a node by the fields of
`WgMesh.Deploy.Node`, the mesh IP as `MeshIP.String()` prints it (`State.Node.toNode`).

The state file keeps every field as it is, the mesh IP as the text `IP.String()`
prints, which `ParseIP` reads back (`parseIP_str`); the JSON text itself and the
optional encryption of the file are not modelled.

* `addNode_eq_ok_iff` — what `AddNode` accepts and the node it adds: the mesh IP is kept
  as it was typed, and neither the network nor the other nodes' addresses are checked;
* `addNode_nodeSpec` — a node spec written from a node's fields is read back as those
  fields;
* `consistent_runAll` — over every sequence of invocations, each node is stored under
  its own hostname, marked local exactly when that is the name of the machine the state
  was initialised on, and listens on the mesh's port;
* `runAll_fullMesh` — after any sequence of invocations, the configuration `-deploy`
  writes for a node has every other node of the state as a peer, once each;
* `addNode_shared_meshIP` — since the mesh IP is not checked against the other nodes,
  `-add` accepts a second node on an address already in use, and the configuration of a
  third node then gives that `/32` to two peers, which no WireGuard device can hold.
-/

namespace WgMesh.Deploy.State

open WgMesh.Go

/-- `Node` of the mesh state, with every field the state file keeps. -/
structure Node where
  hostname : String
  meshIP : IPv4
  publicKey : String
  privateKey : String
  sshHost : String
  sshPort : Int
  publicEndpoint : String
  listenPort : Int
  behindNAT : Bool
  routableNetworks : List String
  isLocal : Bool
deriving DecidableEq, Repr

/-- `Mesh`: the interface, the mesh network and port, the nodes by hostname (a Go map, so
no hostname twice), and the hostname of the machine the state was initialised on. -/
structure Mesh where
  interfaceName : String
  network : String
  listenPort : Int
  nodes : List (String × Node)
  localHostname : String
  nodup : (nodes.map Prod.fst).Nodup

/-- The hostnames the map holds. -/
def Mesh.hostnames (m : Mesh) : List String := m.nodes.map Prod.fst

/-- `Initialize`: a fresh state for the machine named `hostname` (`os.Hostname`'s result,
or its error). -/
def initializeMesh (hostname : Except String String) : Except String Mesh :=
  match hostname with
  | .error e => .error ("failed to get hostname: " ++ e)
  | .ok hostname => .ok ⟨"wg0", "10.99.0.0/16", 51820, [], hostname, List.nodup_nil⟩

/-- The SSH port of a node spec: 22 without a fourth field, otherwise the fourth field
read with `fmt.Sscanf(parts[3], "%d", &sshPort)`. -/
def sshPortOf : List String → Except String Int
  | [] => .ok 22
  | port :: _ =>
    match sscanfInt port with
    | some p => .ok p
    | none => .error ("invalid SSH port: " ++ port)

/-- `m.Nodes[node.Hostname] = node` for a hostname the map does not hold. -/
def Mesh.insertNew (m : Mesh) (node : Node) (h : node.hostname ∉ m.hostnames) : Mesh :=
  { m with
    nodes := m.nodes ++ [(node.hostname, node)]
    nodup := by
      rw [List.map_append]
      exact m.nodup.append (List.nodup_singleton _) (by simpa [Mesh.hostnames] using h) }

/-- `Mesh.AddNode`: a node from `hostname:mesh_ip:ssh_host[:ssh_port]` (fields past the
fourth are ignored), with the key pair `wg genkey` and `wg pubkey` return in `keys`. -/
def Mesh.addNode (m : Mesh) (nodeSpec : String) (keys : Except String (String × String)) :
    Except String Mesh :=
  match split nodeSpec ':' with
  | hostname :: meshIPText :: sshHost :: rest =>
    match parseIP meshIPText with
    | none => .error ("invalid mesh IP: " ++ meshIPText)
    | some meshIP =>
      match sshPortOf rest with
      | .error e => .error e
      | .ok sshPort =>
        if h : hostname ∈ m.hostnames then .error ("node " ++ hostname ++ " already exists")
        else
          match keys with
          | .error e => .error ("failed to generate keys: " ++ e)
          | .ok (privateKey, publicKey) =>
            .ok (m.insertNew ⟨hostname, meshIP, publicKey, privateKey, sshHost, sshPort, "",
              m.listenPort, false, [], decide (hostname = m.localHostname)⟩ h)
  | _ => .error "invalid node spec, expected hostname:mesh_ip:ssh_host[:ssh_port]"

def Mesh.removeNode (m : Mesh) (hostname : String) : Except String Mesh :=
  if hostname ∈ m.hostnames then
    .ok { m with
      nodes := m.nodes.filter (·.1 ≠ hostname)
      nodup := m.nodup.sublist ((List.filter_sublist _).map _) }
  else .error ("node " ++ hostname ++ " not found")

/-- A centralized-mode invocation that changes the state: `-init`, `-add`, `-remove`. -/
inductive Command
  | init (hostname : Except String String)
  | add (nodeSpec : String) (keys : Except String (String × String))
  | remove (hostname : String)

/-- The state file after one invocation (`none`: there is none). `-init` writes a fresh
state over whatever was there; `-add` and `-remove` need a state to load and save the
changed state; on an error nothing is saved. -/
def afterRun (file : Option Mesh) : Command → Option Mesh
  | .init hostname => match initializeMesh hostname with
    | .ok m => some m
    | .error _ => file
  | .add nodeSpec keys => match file with
    | some m => match m.addNode nodeSpec keys with
      | .ok m' => some m'
      | .error _ => file
    | none => file
  | .remove hostname => match file with
    | some m => match m.removeNode hostname with
      | .ok m' => some m'
      | .error _ => file
    | none => file

/-- The state file after invocations in turn, from `file`. -/
def runAll (file : Option Mesh) (cmds : List Command) : Option Mesh := cmds.foldl afterRun file

/-- A node as `generateConfigForNode` and `collectAllRoutesForNode` read it. -/
def Node.toNode (n : Node) : Deploy.Node :=
  ⟨n.hostname, n.meshIP.str, n.publicKey, n.privateKey, n.publicEndpoint, n.listenPort,
    n.routableNetworks⟩

/-- The mesh as `Deploy` reads it. -/
def Mesh.toMesh (m : Mesh) : Deploy.Mesh :=
  ⟨m.interfaceName, m.nodes.map fun e => (e.1, e.2.toNode)⟩

/-! ## `AddNode` -/

section AddNode

variable {m : Mesh}

/-- The node `AddNode` adds: the mesh's port, no endpoint, no routable networks, and
marked local when its hostname is the local one. -/
def Mesh.newNode (m : Mesh) (hostname : String) (meshIP : IPv4) (sshHost : String) (sshPort : Int)
    (privateKey publicKey : String) : Node :=
  ⟨hostname, meshIP, publicKey, privateKey, sshHost, sshPort, "", m.listenPort, false, [],
    decide (hostname = m.localHostname)⟩

theorem addNode_of_split {nodeSpec hostname sshHost : String} {meshIP : IPv4} {rest : List String}
    {sshPort : Int} (hsplit : split nodeSpec ':' = hostname :: meshIP.str :: sshHost :: rest)
    (hport : sshPortOf rest = .ok sshPort) (hnew : hostname ∉ m.hostnames) (privateKey publicKey : String) :
    m.addNode nodeSpec (.ok (privateKey, publicKey)) =
      .ok (m.insertNew (m.newNode hostname meshIP sshHost sshPort privateKey publicKey) hnew) := by
  simp only [Mesh.addNode, hsplit, parseIP_str, hport, dif_neg hnew]
  rfl

theorem addNode_ok_cases {nodeSpec : String} {keys : Except String (String × String)} {m' : Mesh}
    (hok : m.addNode nodeSpec keys = .ok m') :
    ∃ hostname meshIP sshHost rest sshPort privateKey publicKey, ∃ h : hostname ∉ m.hostnames,
      split nodeSpec ':' = hostname :: meshIP.str :: sshHost :: rest ∧
        sshPortOf rest = .ok sshPort ∧ keys = .ok (privateKey, publicKey) ∧
        m' = m.insertNew (m.newNode hostname meshIP sshHost sshPort privateKey publicKey) h := by
  unfold Mesh.addNode at hok
  split at hok
  · rename_i hostname meshIPText sshHost rest hsplit
    split at hok
    · cases hok
    rename_i meshIP hip
    split at hok
    · cases hok
    rename_i sshPort hport
    split at hok
    · cases hok
    rename_i hnew
    split at hok
    · cases hok
    rename_i privateKey publicKey
    cases hok
    exact ⟨hostname, meshIP, sshHost, rest, sshPort, privateKey, publicKey, hnew,
      by rw [hsplit, str_of_parseIP hip], hport, rfl, rfl⟩
  · cases hok

/-- What `AddNode` accepts, and the state it leaves: a spec of at least three fields whose
second is the printed form of an address (so the address is kept as it was typed, and is
checked against neither the mesh network nor the other nodes), whose port field, if any,
reads as an integer, with a new hostname and generated keys; the node is added under its
hostname. -/
theorem addNode_eq_ok_iff {nodeSpec : String} {keys : Except String (String × String)} {m' : Mesh} :
    m.addNode nodeSpec keys = .ok m' ↔
      ∃ hostname meshIP sshHost rest sshPort privateKey publicKey, ∃ h : hostname ∉ m.hostnames,
        split nodeSpec ':' = hostname :: meshIP.str :: sshHost :: rest ∧
          sshPortOf rest = .ok sshPort ∧ keys = .ok (privateKey, publicKey) ∧
          m' = m.insertNew (m.newNode hostname meshIP sshHost sshPort privateKey publicKey) h := by
  refine ⟨addNode_ok_cases, ?_⟩
  rintro ⟨hostname, meshIP, sshHost, rest, sshPort, privateKey, publicKey, hnew, hsplit, hport,
    rfl, rfl⟩
  exact addNode_of_split hsplit hport hnew privateKey publicKey

/-- The spec `hostname:mesh_ip:ssh_host:ssh_port` the usage text describes. -/
def nodeSpec (hostname : String) (meshIP : IPv4) (sshHost : String) (sshPort : Nat) : String :=
  join [hostname, meshIP.str, sshHost, toString sshPort] ':'

theorem colon_not_mem_toString (n : Nat) : ':' ∉ (toString n).data := by
  obtain ⟨pre, heq, -, hdig, -⟩ := toDigitsCore_ten (n + 1) n [] (Nat.lt_succ_self n)
  have hs : (toString n).data = pre := (heq.trans (List.append_nil pre) :)
  rw [hs]
  exact fun h => absurd (hdig _ h) (by decide)

theorem split_nodeSpec {hostname sshHost : String} (hhost : ':' ∉ hostname.data)
    (hssh : ':' ∉ sshHost.data) (meshIP : IPv4) (sshPort : Nat) :
    split (nodeSpec hostname meshIP sshHost sshPort) ':' =
      [hostname, meshIP.str, sshHost, toString sshPort] := by
  refine split_join (List.cons_ne_nil _ _) fun e he => ?_
  simp only [List.mem_cons, List.not_mem_nil, or_false] at he
  rcases he with rfl | rfl | rfl | rfl
  · exact hhost
  · exact fun h => by rcases mem_str h with h | h <;> [exact absurd h (by decide); cases h]
  · exact hssh
  · exact colon_not_mem_toString sshPort

theorem sshPortOf_toString {sshPort : Nat} (hport : sshPort < 2^63) :
    sshPortOf [toString sshPort] = .ok sshPort := by
  simp [sshPortOf, sscanfInt_toString hport]

/-- A spec written from a node's fields is read back as those fields, whatever the
address: `AddNode` adds the node, with the SSH port given. -/
theorem addNode_nodeSpec {hostname sshHost : String} (hhost : ':' ∉ hostname.data)
    (hssh : ':' ∉ sshHost.data) (meshIP : IPv4) {sshPort : Nat} (hport : sshPort < 2^63)
    (hnew : hostname ∉ m.hostnames) (privateKey publicKey : String) :
    m.addNode (nodeSpec hostname meshIP sshHost sshPort) (.ok (privateKey, publicKey)) =
      .ok (m.insertNew (m.newNode hostname meshIP sshHost sshPort privateKey publicKey) hnew) :=
  addNode_of_split (split_nodeSpec hhost hssh meshIP sshPort) (sshPortOf_toString hport) hnew
    privateKey publicKey

/-- The state `wgmesh -init` writes on the machine `node1`. -/
def freshMesh : Mesh := ⟨"wg0", "10.99.0.0/16", 51820, [], "node1", List.nodup_nil⟩

theorem addNode_nodeSpec_sample :
    ':' ∉ "node1".data ∧ ':' ∉ "192.168.1.10".data ∧ 22 < 2^63 ∧ "node1" ∉ freshMesh.hostnames ∧
      freshMesh.addNode (nodeSpec "node1" ⟨10, 99, 0, 1⟩ "192.168.1.10" 22) (.ok ("priv1", "pub1")) =
        .ok (freshMesh.insertNew
          (freshMesh.newNode "node1" ⟨10, 99, 0, 1⟩ "192.168.1.10" 22 "priv1" "pub1") (by decide)) :=
  ⟨by decide, by decide, by decide, by decide,
    addNode_nodeSpec (by decide) (by decide) _ (by decide) (by decide) _ _⟩

end AddNode

/-! ## What every written state keeps -/

/-- The facts every state the commands write keeps about its nodes. -/
structure Mesh.Consistent (m : Mesh) : Prop where
  keyed : ∀ e ∈ m.nodes, e.2.hostname = e.1
  isLocal : ∀ e ∈ m.nodes, e.2.isLocal = decide (e.1 = m.localHostname)
  listenPort : ∀ e ∈ m.nodes, e.2.listenPort = m.listenPort

theorem consistent_initializeMesh {hostname : Except String String} {m : Mesh}
    (h : initializeMesh hostname = .ok m) : m.Consistent := by
  unfold initializeMesh at h
  split at h <;> cases h
  exact ⟨by simp, by simp, by simp⟩

theorem consistent_insertNew {m : Mesh} (hc : m.Consistent) {hostname sshHost : String} {meshIP : IPv4}
    {sshPort : Int} {privateKey publicKey : String} (hnew) :
    (m.insertNew (m.newNode hostname meshIP sshHost sshPort privateKey publicKey) hnew).Consistent := by
  refine ⟨?_, ?_, ?_⟩ <;>
    simp only [Mesh.insertNew, List.mem_append, List.mem_singleton] <;>
    rintro e (he | rfl)
  exacts [hc.keyed e he, rfl, hc.isLocal e he, rfl, hc.listenPort e he, rfl]

theorem consistent_addNode {m m' : Mesh} (hc : m.Consistent) {nodeSpec : String}
    {keys : Except String (String × String)} (h : m.addNode nodeSpec keys = .ok m') : m'.Consistent := by
  obtain ⟨-, -, -, -, -, -, -, hnew, -, -, -, rfl⟩ := addNode_ok_cases h
  exact consistent_insertNew hc hnew

theorem consistent_removeNode {m m' : Mesh} (hc : m.Consistent) {hostname : String}
    (h : m.removeNode hostname = .ok m') : m'.Consistent := by
  unfold Mesh.removeNode at h
  split at h <;> cases h
  refine ⟨fun e he => ?_, fun e he => ?_, fun e he => ?_⟩ <;> simp only [List.mem_filter] at he
  exacts [hc.keyed e he.1, hc.isLocal e he.1, hc.listenPort e he.1]

theorem afterRun_cases (file : Option Mesh) (cmd : Command) :
    afterRun file cmd = file ∨
      ∃ m', afterRun file cmd = some m' ∧
        ((∃ hostname, initializeMesh hostname = .ok m') ∨
          ∃ m ∈ file, (∃ nodeSpec keys, m.addNode nodeSpec keys = .ok m') ∨
            ∃ hostname, m.removeNode hostname = .ok m') := by
  cases cmd with
  | init hostname =>
    simp only [afterRun]
    split
    · exact .inr ⟨_, rfl, .inl ⟨hostname, ‹_›⟩⟩
    · exact .inl rfl
  | add nodeSpec keys =>
    simp only [afterRun]
    split
    · split
      · exact .inr ⟨_, rfl, .inr ⟨_, rfl, .inl ⟨nodeSpec, keys, ‹_›⟩⟩⟩
      · exact .inl rfl
    · exact .inl rfl
  | remove hostname =>
    simp only [afterRun]
    split
    · split
      · exact .inr ⟨_, rfl, .inr ⟨_, rfl, .inr ⟨hostname, ‹_›⟩⟩⟩
      · exact .inl rfl
    · exact .inl rfl

theorem consistent_afterRun {file : Option Mesh} (hc : ∀ m ∈ file, m.Consistent) (cmd : Command) :
    ∀ m ∈ afterRun file cmd, m.Consistent := by
  rcases afterRun_cases file cmd with h | ⟨m', h, hwrite⟩
  · rw [h]
    exact hc
  rw [h]
  intro x hx
  obtain rfl := Option.mem_some_iff.mp hx
  rcases hwrite with ⟨_, hinit⟩ | ⟨m, hm, ⟨_, _, hadd⟩ | ⟨_, hrem⟩⟩
  exacts [consistent_initializeMesh hinit, consistent_addNode (hc m hm) hadd,
    consistent_removeNode (hc m hm) hrem]

theorem consistent_runAll : ∀ (cmds : List Command) {file : Option Mesh}, (∀ m ∈ file, m.Consistent) →
    ∀ m ∈ runAll file cmds, m.Consistent
  | [], _, hc => hc
  | cmd :: cmds, _, hc => consistent_runAll cmds (consistent_afterRun hc cmd)

/-! ## What `-deploy` reads -/

theorem filter_key_ne_eq_erase {β : Type} [DecidableEq β] :
    ∀ {l : List (String × β)}, (l.map Prod.fst).Nodup → ∀ {e}, e ∈ l →
      l.filter (fun x => x.1 ≠ e.1) = l.erase e
  | [], _, _, he => absurd he (List.not_mem_nil _)
  | x :: xs, hl, e, he => by
    rw [List.map_cons, List.nodup_cons] at hl
    by_cases hx : x = e
    · subst hx
      have hxs : ∀ y ∈ xs, y.1 ≠ x.1 := fun y hy h => hl.1 (h ▸ List.mem_map_of_mem _ hy)
      have hfilter : xs.filter (fun y => y.1 ≠ x.1) = xs :=
        List.filter_eq_self.mpr fun y hy => by simpa using hxs y hy
      rw [List.filter_cons_of_neg (by simp), List.erase_cons_head, hfilter]
    · have he' : e ∈ xs := (List.mem_cons.mp he).resolve_left (Ne.symm hx)
      have hkey : x.1 ≠ e.1 := fun h => hl.1 (h ▸ List.mem_map_of_mem _ he')
      rw [List.filter_cons_of_pos (by simpa using hkey), List.erase_cons_tail (by simpa using hx),
        filter_key_ne_eq_erase hl.2 he']

theorem generateConfigForNode_peers {m : Mesh} (hc : m.Consistent) {e : String × Node} (he : e ∈ m.nodes) :
    (m.toMesh.generateConfigForNode e.2.toNode).peers =
      (m.nodes.erase e).map fun f =>
        ⟨f.2.publicKey, f.2.publicEndpoint, (f.2.meshIP.str ++ "/32") :: f.2.routableNetworks, 5⟩ := by
  have hkey : e.2.toNode.hostname = e.1 := hc.keyed e he
  rw [← filter_key_ne_eq_erase m.nodup he]
  simp only [Deploy.Mesh.generateConfigForNode, Mesh.toMesh, hkey, List.filter_map, List.map_map]
  rfl

/-- Over every sequence of `-init`, `-add` and `-remove` invocations, `-deploy` builds a full
mesh: the configuration it generates for each node of the state has one peer for every
other node, none for the node itself. -/
theorem runAll_fullMesh (cmds : List Command) :
    ∀ m ∈ runAll none cmds, ∀ e ∈ m.nodes,
      (m.toMesh.generateConfigForNode e.2.toNode).peers =
        (m.nodes.erase e).map fun f =>
          ⟨f.2.publicKey, f.2.publicEndpoint, (f.2.meshIP.str ++ "/32") :: f.2.routableNetworks, 5⟩ :=
  fun m hm _ he =>
    generateConfigForNode_peers (consistent_runAll cmds (fun _ h => absurd h (by simp)) m hm) he

/-- `-init` on the machine `node1`, then three nodes added, the second with an SSH port. -/
def sampleCommands : List Command :=
  [.init (.ok "node1"), .add "node1:10.99.0.1:192.168.1.10" (.ok ("priv1", "pub1")),
    .add "node2:10.99.0.2:192.168.1.20:2222" (.ok ("priv2", "pub2")),
    .add "node3:10.99.0.3:192.168.1.30" (.ok ("priv3", "pub3"))]

/-- The state those invocations leave. -/
def sampleState : Mesh :=
  ⟨"wg0", "10.99.0.0/16", 51820,
    [("node1", ⟨"node1", ⟨10, 99, 0, 1⟩, "pub1", "priv1", "192.168.1.10", 22, "", 51820, false, [], true⟩),
      ("node2", ⟨"node2", ⟨10, 99, 0, 2⟩, "pub2", "priv2", "192.168.1.20", 2222, "", 51820, false, [], false⟩),
      ("node3", ⟨"node3", ⟨10, 99, 0, 3⟩, "pub3", "priv3", "192.168.1.30", 22, "", 51820, false, [], false⟩)],
    "node1", by decide⟩

theorem runAll_fullMesh_sample :
    sampleState ∈ runAll none sampleCommands ∧ sampleState.nodes[1] ∈ sampleState.nodes ∧
      (sampleState.toMesh.generateConfigForNode sampleState.nodes[1].2.toNode).peers =
        (sampleState.nodes.erase sampleState.nodes[1]).map fun f =>
          ⟨f.2.publicKey, f.2.publicEndpoint, (f.2.meshIP.str ++ "/32") :: f.2.routableNetworks, 5⟩ :=
  have hrun : sampleState ∈ runAll none sampleCommands := rfl
  have hmem : sampleState.nodes[1] ∈ sampleState.nodes := List.getElem_mem _
  ⟨hrun, hmem, runAll_fullMesh sampleCommands sampleState hrun _ hmem⟩

/-- `AddNode` takes an address another node already has. From a consistent state with
nodes `e` and `t`, a node with `e`'s mesh IP (and its own key) is added; afterwards no
interface holds the peers `-deploy` generates for `t`, each with every prefix `wg` reads
from its allowed IPs, since two of them ask for the same `/32` and WireGuard routes a
prefix to one peer only. -/
theorem addNode_shared_meshIP {m : Mesh} (hc : m.Consistent) {e t : String × Node}
    (he : e ∈ m.nodes) (ht : t ∈ m.nodes) (het : e ≠ t) {hostname sshHost : String}
    (hhost : ':' ∉ hostname.data) (hssh : ':' ∉ sshHost.data) {sshPort : Nat} (hport : sshPort < 2^63)
    (hnew : hostname ∉ m.hostnames) (privateKey : String) {publicKey : String}
    (hkey : publicKey ≠ e.2.publicKey) :
    ∃ m', m.addNode (nodeSpec hostname e.2.meshIP sshHost sshPort) (.ok (privateKey, publicKey)) = .ok m' ∧
      ∀ d : WireGuard.Device,
        ¬ ∀ q ∈ (m'.toMesh.generateConfigForNode t.2.toNode).peers,
          ∃ q' ∈ d.peers, q'.publicKey = q.publicKey ∧
            ∀ ip ∈ q.allowedIPs, ∀ a, WireGuard.parseAllowedip ip = some a → a.masked ∈ q'.allowedIPs := by
  let n := m.newNode hostname e.2.meshIP sshHost sshPort privateKey publicKey
  refine ⟨m.insertNew n hnew, addNode_of_split (split_nodeSpec hhost hssh _ sshPort)
    (sshPortOf_toString hport) hnew privateKey publicKey, fun d hholds => ?_⟩
  have hmem : ∀ f ∈ m.nodes, f ∈ (m.insertNew n hnew).nodes := fun f hf =>
    List.mem_append_left _ hf
  have hnt : (hostname, n) ≠ t := by
    rintro rfl
    exact hnew (List.mem_map_of_mem Prod.fst ht)
  rw [generateConfigForNode_peers (consistent_insertNew hc hnew) (hmem t ht)] at hholds
  have hpeer : ∀ f ∈ (m.insertNew n hnew).nodes.erase t, ∃ q' ∈ d.peers,
      q'.publicKey = f.2.publicKey ∧ (⟨.inet, _, 32⟩ : WireGuard.AllowedIP).masked ∈ q'.allowedIPs :=
    fun f hf => by
      obtain ⟨q', hq', hk, hips⟩ := hholds _ (List.mem_map_of_mem _ hf)
      exact ⟨q', hq', hk, hips _ (List.mem_cons_self _ _) _ (WireGuard.parseAllowedip_str f.2.meshIP)⟩
  obtain ⟨qe, hqe, hke, hipe⟩ := hpeer e ((List.mem_erase_of_ne het).mpr (hmem e he))
  obtain ⟨qn, hqn, hkn, hipn⟩ := hpeer (hostname, n)
    ((List.mem_erase_of_ne hnt).mpr (List.mem_append_right _ (List.mem_singleton_self _)))
  exact d.exclusive qn hqn qe hqe (by rw [hkn, hke]; exact hkey) _ hipn hipe

theorem addNode_shared_meshIP_sample :
    sampleState.Consistent ∧ sampleState.nodes[1] ∈ sampleState.nodes ∧
      sampleState.nodes[2] ∈ sampleState.nodes ∧ sampleState.nodes[1] ≠ sampleState.nodes[2] ∧
      ':' ∉ "node4".data ∧ ':' ∉ "192.168.1.40".data ∧ 22 < 2^63 ∧ "node4" ∉ sampleState.hostnames ∧
      "pub4" ≠ sampleState.nodes[1].2.publicKey ∧
      ∃ m', sampleState.addNode (nodeSpec "node4" sampleState.nodes[1].2.meshIP "192.168.1.40" 22)
          (.ok ("priv4", "pub4")) = .ok m' ∧
        ∀ d : WireGuard.Device,
          ¬ ∀ q ∈ (m'.toMesh.generateConfigForNode sampleState.nodes[2].2.toNode).peers,
            ∃ q' ∈ d.peers, q'.publicKey = q.publicKey ∧
              ∀ ip ∈ q.allowedIPs, ∀ a, WireGuard.parseAllowedip ip = some a → a.masked ∈ q'.allowedIPs :=
  have hc : sampleState.Consistent :=
    @consistent_runAll sampleCommands none (fun _ h => nomatch h) sampleState rfl
  ⟨hc, List.getElem_mem _, List.getElem_mem _, by decide, by decide, by decide, by decide, by decide,
    by decide, addNode_shared_meshIP hc (List.getElem_mem _) (List.getElem_mem _) (by decide) (by decide)
      (by decide) (by decide) (by decide) "priv4" (by decide)⟩

end WgMesh.Deploy.State
