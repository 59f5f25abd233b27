import WgMesh.Daemon.Reconcile
import WgMesh.Daemon.Collision

/-! # Bringing the interface up, and restarts

`setupWireGuard` (package `daemon`, Linux) runs at every start of the daemon, before the
discovery layers: it creates the WireGuard link, or resets the one an earlier run left,
picks the UDP port, and gives the link the node's private key, its mesh address and the
state up. Each step is a command line. `Host` answers for the machine (which command
lines fail and with what output, which ports are bound), and `Link` is what the kernel
keeps of the link.

`resetInterface` means to clear the old link: `ip link set dev <if> down`,
`ip addr flush dev <if>` and `wg set <if> peer remove`, each error ignored. The last
names no peer. wg(8) reads the word after `peer` as a public key, and `key_from_base64`
wants 44 characters ending in `=`, so wg stops on `remove` with an error and the peers
stay (`resetInterface_dev`).

* `setupWireGuard_ok` — what a successful set-up leaves: the private key, the port, the
  mesh address as a `/16`, the link up, and the peers the link already had; the port is
  the configured one when it is free, else the first free one of the next hundred;
* `restart_keeps_unannounced_peer` — a restarted daemon starts with an empty store, and
  a tick removes only keys `CleanupStale` returns, which are stored keys: a peer of the
  old link stays configured, and the interface is never reconciled, for as long as its
  key is not stored again;
* `life_prefixes_from_store` — over the daemon's whole life from a new link, restarts
  included, the interface routes a prefix to a key only when, earlier in that life, an
  active peer stored under that key announced it: a restart keeps the link's peers, and a
  tick configures only the active peers, each with the prefixes of its own mesh IP and
  routable networks.
-/

namespace WgMesh.Daemon

open WgMesh.WireGuard

/-- What the machine answers: the combined output and exit error (`"%s: %w"`) of a
command line that fails, `none` when it exits 0; whether binding a UDP port fails
(`isPortInUse`); and the temporary file `os.CreateTemp` makes, or its error. -/
structure Host where
  fails : List String → Option String
  portInUse : Int → Bool
  tempFile : Except String String

/-- A WireGuard link as the kernel keeps it: the fields `setupWireGuard` writes, and the
peers. -/
structure Link where
  privateKey : String
  listenPort : Int
  address : Option String
  up : Bool
  dev : Device

/-- A link `ip link add` has just made: no key, no port, no address, down, no peers. -/
def Link.fresh : Link := ⟨"", 0, none, false, .empty⟩

/-- A command line run for its effect on the link: the effect when it exits 0, otherwise
its error text. -/
def runLink (host : Host) (argv : List String) (effect : Link → Link) (l : Link) :
    Except String Link :=
  match host.fails argv with
  | none => .ok (effect l)
  | some out => .error out

/-- A command line whose error is ignored (`cmd.Run()`). -/
def runIgnored (host : Host) (argv : List String) (effect : Link → Link) (l : Link) : Link :=
  match host.fails argv with
  | none => effect l
  | some _ => l

/-! ## The steps -/

/-- `createInterface` on Linux: `ip link add dev <name> type wireguard`. -/
def createInterface (host : Host) (name : String) : Except String Link :=
  (runLink host ["ip", "link", "add", "dev", name, "type", "wireguard"] id .fresh).mapError
    ("failed to create interface: " ++ ·)

/-- `setInterfaceDown` on Linux: `ip link set dev <name> down`, errors ignored. -/
def setInterfaceDown (host : Host) (name : String) (l : Link) : Link :=
  runIgnored host ["ip", "link", "set", "dev", name, "down"] (fun l => { l with up := false }) l

/-- The shape `key_from_base64` (wireguard-tools) asks of a public key before it decodes
it: 44 characters, the last `=`. -/
def wgKeyText (key : String) : Bool := key.length == 44 && key.back == '='

/-- `wg set <if> peer <key>` with no option after the key: wg reads `<key>` first and
stops with an error on a word that is no key; otherwise it creates the peer when it is
absent. -/
def wgSetPeer (key : String) (dev : Device) : Option Device :=
  if wgKeyText key then some (dev.setPeer key ⟨none, none, none⟩) else none

/-- `resetInterface` on Linux: the link down, its addresses flushed, and
`wg set <name> peer remove`, each error ignored. The last passes `remove` where wg reads
the peer's key. -/
def resetInterface (host : Host) (name : String) (l : Link) : Link :=
  let l := setInterfaceDown host name l
  let l := runIgnored host ["ip", "addr", "flush", "dev", name]
    (fun l => { l with address := none }) l
  runIgnored host ["wg", "set", name, "peer", "remove"]
    (fun l => { l with dev := (wgSetPeer "remove" l.dev).getD l.dev }) l

/-- `configureInterface`: the private key goes to a temporary file, which
`wg set <name> private-key <file> listen-port <port>` reads. -/
def configureInterface (host : Host) (name privateKey : String) (listenPort : Int) (l : Link) :
    Except String Link :=
  match host.tempFile with
  | .error e => .error ("failed to create temp file: " ++ e)
  | .ok file =>
    (runLink host ["wg", "set", name, "private-key", file, "listen-port", toString listenPort]
      (fun l => { l with privateKey := privateKey, listenPort := listenPort }) l).mapError
      ("failed to configure interface: " ++ ·)

/-- The command line that adds an address to the link. -/
def addrAddArgs (name address : String) : List String := ["ip", "addr", "add", address, "dev", name]

/-- `setInterfaceAddress` on the link (see `WgMesh.Daemon.setInterfaceAddress`): the
address it leaves, or the error of `ip addr add`. -/
def Link.setAddress (host : Host) (name address : String) (l : Link) : Except String Link :=
  match setInterfaceAddress (fun a => (host.fails (addrAddArgs name a)).isNone) address with
  | some a => .ok { l with address := some a }
  | none => .error ("failed to set address: " ++ (host.fails (addrAddArgs name address)).getD "")

/-- `setInterfaceUp` on Linux: `ip link set dev <name> up`. -/
def setInterfaceUp (host : Host) (name : String) (l : Link) : Except String Link :=
  (runLink host ["ip", "link", "set", "dev", name, "up"] (fun l => { l with up := true }) l).mapError
    ("failed to bring interface up: " ++ ·)

/-- The loop of `findAvailablePort`: the first free one of `n` ports from `port`, `0` when
none is. -/
def findAvailableLoop (portInUse : Int → Bool) : Nat → Int → Int
  | 0, _ => 0
  | n + 1, port => if portInUse port then findAvailableLoop portInUse n (port + 1) else port

/-- `findAvailablePort`: the first free UDP port of the hundred from `startPort`, `0` when
none is. -/
def findAvailablePort (portInUse : Int → Bool) (startPort : Int) : Int :=
  findAvailableLoop portInUse 100 startPort

/-! ## `setupWireGuard` -/

/-- The first block of `setupWireGuard`: reset the link named `name` when there is one
(`interfaceExists`), create it otherwise. -/
def setupLink (host : Host) (name : String) : Option Link → Except String Link
  | some l => .ok (resetInterface host name l)
  | none => (createInterface host name).mapError ("failed to create interface: " ++ ·)

/-- The port block of `setupWireGuard`: the configured port unless it is bound, then the
first free one after it. -/
def setupListenPort (host : Host) (wgListenPort : Nat) : Except String Int :=
  if host.portInUse wgListenPort then
    let availablePort := findAvailablePort host.portInUse (wgListenPort + 1)
    if availablePort = 0 then
      .error ("port " ++ toString wgListenPort ++
        " is in use and no available ports found (try --listen-port with a different port)")
    else .ok availablePort
  else .ok wgListenPort

/-- `setupWireGuard` on Linux for the link named `cfg.interfaceName` (`none`: there is
none yet): the port it listens on and the link it leaves, or its error. -/
def setupWireGuard (host : Host) (cfg : Config) (node : LocalNode) (link : Option Link) :
    Except String (Int × Link) :=
  let name := cfg.interfaceName
  match setupLink host name link, setupListenPort host cfg.wgListenPort with
  | .error e, _ => .error e
  | .ok _, .error e => .error e
  | .ok l, .ok port =>
    match configureInterface host name node.wgPrivateKey port l with
    | .error e => .error ("failed to configure interface: " ++ e)
    | .ok l =>
      match l.setAddress host name (node.meshIP ++ "/16") with
      | .error e => .error ("failed to set IP address: " ++ e)
      | .ok l =>
        match setInterfaceUp host name l with
        | .error e => .error ("failed to bring interface up: " ++ e)
        | .ok l => .ok (port, l)

/-! ## What each step leaves -/

section Steps

variable {host : Host} {name : String} {l l' : Link}

theorem mapError_eq_ok {x : Except String Link} {f : String → String} :
    x.mapError f = .ok l' ↔ x = .ok l' := by
  cases x <;> simp [Except.mapError]

theorem runLink_eq_ok {argv : List String} {effect : Link → Link} :
    runLink host argv effect l = .ok l' ↔ host.fails argv = none ∧ effect l = l' := by
  unfold runLink
  split <;> simp_all

/-- The reset keeps every peer: wg rejects `remove` as a key. -/
theorem resetInterface_dev (host : Host) (name : String) (l : Link) :
    (resetInterface host name l).dev = l.dev := by
  have hkey : ∀ dev, wgSetPeer "remove" dev = none := fun _ => if_neg (by decide)
  simp only [resetInterface, setInterfaceDown, runIgnored, hkey, Option.getD_none]
  split <;> split <;> split <;> rfl

theorem setupLink_dev {link : Option Link} (h : setupLink host name link = .ok l) :
    l.dev = (link.map Link.dev).getD .empty := by
  cases link with
  | some l₀ =>
    cases h
    exact resetInterface_dev host name l₀
  | none =>
    obtain ⟨-, rfl⟩ := runLink_eq_ok.mp (mapError_eq_ok.mp (mapError_eq_ok.mp h))
    rfl

theorem configureInterface_ok {key : String} {port : Int}
    (h : configureInterface host name key port l = .ok l') :
    l' = { l with privateKey := key, listenPort := port } := by
  unfold configureInterface at h
  split at h
  · cases h
  · exact (runLink_eq_ok.mp (mapError_eq_ok.mp h)).2.symm

theorem setAddress_ok {address : String} (h : l.setAddress host name address = .ok l') :
    l' = { l with address := some address } := by
  unfold Link.setAddress setInterfaceAddress at h
  split at h
  · rename_i heq
    split_ifs at heq
    cases heq
    cases h
    rfl
  · cases h

theorem setInterfaceUp_ok (h : setInterfaceUp host name l = .ok l') :
    l' = { l with up := true } :=
  (runLink_eq_ok.mp (mapError_eq_ok.mp h)).2.symm

theorem findAvailableLoop_spec {portInUse : Int → Bool} {n : Nat} {port : Int}
    (hp : findAvailableLoop portInUse n port ≠ 0) :
    let p := findAvailableLoop portInUse n port
    portInUse p = false ∧ port ≤ p ∧ p < port + n ∧ ∀ q, port ≤ q → q < p → portInUse q = true := by
  induction n generalizing port with
  | zero => exact absurd rfl hp
  | succ n ih =>
    simp only [findAvailableLoop] at hp ⊢
    split_ifs with hu
    · rw [if_pos hu] at hp
      obtain ⟨hfree, hlo, hhi, hbound⟩ := ih hp
      refine ⟨hfree, by omega, by omega, fun q hq hqp => ?_⟩
      rcases hq.lt_or_eq with hq | rfl
      · exact hbound q (by omega) hqp
      · exact hu
    · exact ⟨by simpa using hu, le_refl _, by omega, fun q hq hqp => absurd hqp (by omega)⟩

theorem setupListenPort_ok {wgListenPort : Nat} {port : Int}
    (h : setupListenPort host wgListenPort = .ok port) :
    host.portInUse port = false ∧ wgListenPort ≤ port ∧ port ≤ wgListenPort + 100 ∧
      ∀ q : Int, wgListenPort ≤ q → q < port → host.portInUse q = true := by
  dsimp only [setupListenPort] at h
  by_cases hu : host.portInUse wgListenPort = true
  · rw [if_pos hu] at h
    by_cases hz : findAvailablePort host.portInUse (wgListenPort + 1) = 0
    · rw [if_pos hz] at h
      cases h
    · rw [if_neg hz] at h
      cases h
      unfold findAvailablePort at hz ⊢
      obtain ⟨hfree, hlo, hhi, hbound⟩ := findAvailableLoop_spec hz
      refine ⟨hfree, by omega, by omega, fun q hq hqp => ?_⟩
      rcases hq.lt_or_eq with hq | rfl
      · exact hbound q (by omega) hqp
      · exact hu
  · rw [if_neg hu] at h
    cases h
    exact ⟨by simpa using hu, le_refl _, by omega, fun q hq hqp => absurd hqp (by omega)⟩

end Steps

/-- What a successful set-up went through: the link block and the port block
succeeded, and the three commands after them wrote the key, the port, the address and
the state up. -/
theorem setupWireGuard_eq_ok {host : Host} {cfg : Config} {node : LocalNode}
    {link : Option Link} {port : Int} {l : Link}
    (h : setupWireGuard host cfg node link = .ok (port, l)) :
    ∃ l₀, setupLink host cfg.interfaceName link = .ok l₀ ∧
      setupListenPort host cfg.wgListenPort = .ok port ∧
      l = { l₀ with
        privateKey := node.wgPrivateKey
        listenPort := port
        address := some (node.meshIP ++ "/16")
        up := true } := by
  dsimp only [setupWireGuard] at h
  split at h
  · cases h
  · cases h
  · rename_i l₀ port₀ hlink hport
    split at h
    · cases h
    · rename_i l₁ hconf
      split at h
      · cases h
      · rename_i l₂ haddr
        split at h
        · cases h
        · rename_i l₃ hup
          cases h
          obtain rfl := configureInterface_ok hconf
          obtain rfl := setAddress_ok haddr
          obtain rfl := setInterfaceUp_ok hup
          exact ⟨l₀, hlink, hport, rfl⟩

/-- What a successful set-up leaves: the node's private key, the chosen port, the mesh
address as a `/16`, the link up, and the peers the link had before (none for a new
link). The port is free, and every port from the configured one up to it is bound. -/
theorem setupWireGuard_ok {host : Host} {cfg : Config} {node : LocalNode}
    {link : Option Link} {port : Int} {l : Link}
    (h : setupWireGuard host cfg node link = .ok (port, l)) :
    l.privateKey = node.wgPrivateKey ∧ l.listenPort = port ∧
      l.address = some (node.meshIP ++ "/16") ∧ l.up = true ∧
      l.dev = (link.map Link.dev).getD .empty ∧
      host.portInUse port = false ∧ cfg.wgListenPort ≤ port ∧
      port ≤ cfg.wgListenPort + 100 ∧
      ∀ q : Int, cfg.wgListenPort ≤ q → q < port → host.portInUse q = true := by
  obtain ⟨l₀, hlink, hport, rfl⟩ := setupWireGuard_eq_ok h
  have hdev := setupLink_dev hlink
  exact ⟨rfl, rfl, rfl, rfl, hdev, setupListenPort_ok hport⟩

/-- The node of `sampleConfig` the samples start, and a machine on which every command
succeeds and only the default port is bound. -/
def sampleNode : LocalNode := ⟨"local-node-key", "local-private-key", "10.42.0.1", "", []⟩

def busyHost : Host := ⟨fun _ => none, fun p => p == 51820, .ok "/tmp/wg-key-sample"⟩

theorem setupWireGuard_ok_busyHost :
    ∃ l, setupWireGuard busyHost sampleConfig sampleNode none = .ok (51821, l) ∧
      l.privateKey = sampleNode.wgPrivateKey ∧ l.listenPort = 51821 ∧
      l.address = some (sampleNode.meshIP ++ "/16") ∧ l.up = true ∧
      l.dev = ((none : Option Link).map Link.dev).getD .empty ∧
      busyHost.portInUse 51821 = false ∧ sampleConfig.wgListenPort ≤ (51821 : Int) ∧
      (51821 : Int) ≤ sampleConfig.wgListenPort + 100 ∧
      ∀ q : Int, sampleConfig.wgListenPort ≤ q → q < 51821 → busyHost.portInUse q = true :=
  have h : setupWireGuard busyHost sampleConfig sampleNode none =
      .ok (51821, ⟨"local-private-key", 51821, some "10.42.0.1/16", true, .empty⟩) := rfl
  ⟨_, h, setupWireGuard_ok h⟩

theorem setupWireGuard_dev {host : Host} {cfg : Config} {node : LocalNode} {l l' : Link}
    {port : Int} (h : setupWireGuard host cfg node (some l) = .ok (port, l')) : l'.dev = l.dev := by
  obtain ⟨l₀, hlink, -, rfl⟩ := setupWireGuard_eq_ok h
  exact setupLink_dev hlink

/-! ## Restarts -/

/-- The daemon over its restarts: a step of one run, or a restart of the daemon for the
node `node`, after which the store is empty and the interface holds the peers of the link
`setupWireGuard` leaves. The link's other fields are whatever the earlier run left. -/
inductive Life (cfg : Config) (localKey : String) : State → State → Prop
  | step {s s' : State} (h : Step cfg localKey s s') : Life cfg localKey s s'
  | restart (s : State) (host : Host) (node : LocalNode) (l l' : Link) (port : Int)
      (hkey : node.wgPubKey = localKey) (hl : l.dev = s.dev)
      (h : setupWireGuard host cfg node (some l) = .ok (port, l')) :
      Life cfg localKey s ⟨.empty, l'.dev, s.now⟩

theorem Life.routes {cfg : Config} {localKey : String} {s s' : State} (h : Life cfg localKey s s')
    {k : String} {x : AllowedIP} (hx : s'.dev.Routes k x) :
    s.dev.Routes k x ∨ ∃ p ∈ s.store.getActive s.now, p.wgPubKey = k ∧ x ∈ prefixesOf p := by
  cases h with
  | step h =>
    cases h with
    | update => exact .inl hx
    | advance => exact .inl hx
    | tick h =>
      obtain ⟨_, hr, -⟩ := h
      exact reconcile_routes hr hx
  | restart _ _ _ _ _ _ hl h =>
    exact .inl (hl ▸ setupWireGuard_dev h ▸ hx)

/-- Over the daemon's whole life from a new link, restarts included, the interface routes
a prefix to a key only when, at some earlier point of that life, a peer active in the
store under that key announced the prefix. -/
theorem life_prefixes_from_store {cfg : Config} {localKey : String} {start : Int} {s : State}
    (h : Relation.ReflTransGen (Life cfg localKey) (State.init start) s) {k : String}
    {x : AllowedIP} (hx : s.dev.Routes k x) :
    ∃ s₀ p, Relation.ReflTransGen (Life cfg localKey) (State.init start) s₀ ∧
      Relation.ReflTransGen (Life cfg localKey) s₀ s ∧
      p ∈ s₀.store.getActive s₀.now ∧ p.wgPubKey = k ∧ x ∈ prefixesOf p := by
  induction h with
  | refl =>
    obtain ⟨q, hq, -⟩ := hx
    cases hq
  | tail hrun hstep ih =>
    rcases hstep.routes hx with hx | ⟨p, hp, hpk, hpx⟩
    · obtain ⟨s₀, p, h₀, h₀s, hp⟩ := ih hx
      exact ⟨s₀, p, h₀, h₀s.tail hstep, hp⟩
    · exact ⟨_, p, hrun, .single hstep, hp, hpk, hpx⟩

section Unstored

variable {cfg : Config} {localKey : String} {succeeds : WgCommand → Bool} {k : String}

theorem configureAll_mono {peers : List PeerInfo} {dev dev' : Device}
    (h : configureAll cfg localKey succeeds peers dev = some dev') (hk : k ∈ dev.keys) :
    k ∈ dev'.keys := by
  induction peers generalizing dev with
  | nil => cases h; exact hk
  | cons p ps ih =>
    unfold configureAll at h
    split_ifs at h
    · exact ih h hk
    · obtain ⟨mid, hmid, hrest⟩ := Option.bind_eq_some.mp h
      refine ih hrest ?_
      rcases runCommand_cases hmid with ha | rfl
      · exact (mem_keys_configurePeer ha k).mpr (.inr hk)
      · exact hk

theorem removeAll_keeps {keys : List String} {dev dev' : Device}
    (h : removeAll cfg succeeds keys dev = some dev') (hk : k ∈ dev.keys) (hnot : k ∉ keys) :
    k ∈ dev'.keys := by
  induction keys generalizing dev with
  | nil => cases h; exact hk
  | cons key keys ih =>
    obtain ⟨mid, hmid, hrest⟩ := Option.bind_eq_some.mp h
    rw [List.mem_cons, not_or] at hnot
    refine ih hrest ?_ hnot.2
    rcases runCommand_cases hmid with ha | rfl
    · cases ha
      exact (Device.mem_keys_removePeer _ _ _).mpr ⟨hnot.1, hk⟩
    · exact hk

theorem reconcile_keeps_unstored {now : Int} {store store' : PeerStore} {dev dev' : Device}
    (h : reconcile cfg localKey succeeds now store dev = some (store', dev'))
    (hk : k ∈ dev.keys) (hs : store.get k = none) : k ∈ dev'.keys := by
  dsimp only [reconcile] at h
  split_ifs at h
  · cases h; exact hk
  · obtain ⟨mid, hmid, hrest⟩ := Option.bind_eq_some.mp h
    obtain ⟨_, hrem, hpair⟩ := Option.map_eq_some'.mp hrest
    cases hpair
    refine removeAll_keeps hrem (configureAll_mono hmid hk) fun hmem => ?_
    obtain ⟨p, hp, -⟩ := PeerStore.mem_cleanupStale_removed.mp hmem
    rw [hs] at hp
    cases hp

theorem Life.keeps_unstored {s s' : State} (h : Life cfg localKey s s')
    (hk : k ∈ s.dev.keys) (hs : s.store.get k = none) : k ∈ s'.dev.keys := by
  cases h with
  | step h =>
    cases h with
    | update => exact hk
    | advance => exact hk
    | tick h =>
      obtain ⟨_, hr, -⟩ := h
      exact reconcile_keeps_unstored hr hk hs
  | restart _ _ _ _ _ _ hl h =>
    rw [← hl, ← setupWireGuard_dev h] at hk
    exact hk

end Unstored

theorem PeerStore.get_empty (k : String) : PeerStore.empty.get k = none :=
  PeerStore.get_eq_none.mpr fun _ h => nomatch h

/-- After a restart over a link with the peer `k`, every run of the daemon, restarts
included, in which `k` is not stored again keeps `k` configured and the interface not
reconciled. -/
theorem restart_keeps_unannounced_peer {cfg : Config} {localKey : String} {host : Host}
    {node : LocalNode} {l l' : Link} {port now : Int}
    (hsetup : setupWireGuard host cfg node (some l) = .ok (port, l')) {k : String}
    (hk : k ∈ l.dev.keys) {s : State}
    (hrun : Relation.ReflTransGen (fun a b => Life cfg localKey a b ∧ b.store.get k = none)
      ⟨.empty, l'.dev, now⟩ s) :
    k ∈ s.dev.keys ∧ ¬ Reconciled s := by
  have inv : k ∈ s.dev.keys ∧ s.store.get k = none := by
    induction hrun with
    | refl => exact ⟨by rwa [setupWireGuard_dev hsetup], PeerStore.get_empty k⟩
    | tail _ hstep ih => exact ⟨hstep.1.keeps_unstored ih.1 ih.2, hstep.2⟩
  refine ⟨inv.1, fun hrec => ?_⟩
  obtain ⟨p, hp, -⟩ := hrec k inv.1
  rw [inv.2] at hp
  cases hp

/-- A peer the daemon had configured before it stopped, the link it left, a machine
where nothing fails and no port is bound, and a live peer announced after the restart. -/
def departedPeer : PeerInfo := ⟨"departed-peer-key", "10.42.0.3", "192.0.2.9:51820", [], 0, []⟩

def oldLink : Link :=
  ⟨"local-private-key", 51820, some "10.42.0.1/16", true,
    ((configurePeer sampleConfig departedPeer).apply .empty).getD .empty⟩

def freeHost : Host := ⟨fun _ => none, fun _ => false, .ok "/tmp/wg-key-sample"⟩

def livePeer : PeerInfo := ⟨"remote-peer-key", "10.42.0.2", "192.0.2.7:51820", [], 0, []⟩

/-- After the restart the live peer is stored and a tick configures it. -/
def restartRun : State :=
  ⟨((PeerStore.empty.update livePeer "dht" 0).cleanupStale 0).1,
    ((configurePeer sampleConfig livePeer).apply oldLink.dev).getD .empty, 0⟩

theorem restart_keeps_unannounced_peer_sample :
    setupWireGuard freeHost sampleConfig sampleNode (some oldLink) = .ok (51820, oldLink) ∧
      "departed-peer-key" ∈ oldLink.dev.keys ∧
      Relation.ReflTransGen
        (fun a b => Life sampleConfig "local-node-key" a b ∧ b.store.get "departed-peer-key" = none)
        ⟨.empty, oldLink.dev, 0⟩ restartRun ∧
      "departed-peer-key" ∈ restartRun.dev.keys ∧ ¬ Reconciled restartRun :=
  have hsetup : setupWireGuard freeHost sampleConfig sampleNode (some oldLink) =
      .ok (51820, oldLink) := rfl
  have hrun : Relation.ReflTransGen
      (fun a b => Life sampleConfig "local-node-key" a b ∧ b.store.get "departed-peer-key" = none)
      ⟨.empty, oldLink.dev, 0⟩ restartRun :=
    .tail (.single ⟨.step (.update _ livePeer "dht"), by decide⟩)
      ⟨.step (.tick ⟨fun _ => true, rfl, rfl⟩), by decide⟩
  ⟨hsetup, by decide, hrun, restart_keeps_unannounced_peer hsetup (by decide) hrun⟩

/-- The state after a daemon stored `departedPeer` and configured it. -/
def departedRun : State :=
  ⟨((PeerStore.empty.update departedPeer "dht" 0).cleanupStale 0).1, oldLink.dev, 0⟩

/-- A daemon stores and configures `departedPeer`, then restarts over the link it left:
the store is empty, the interface still routes the peer's mesh address, and the address
goes back to the peer's entry before the restart. -/
theorem life_prefixes_from_store_sample :
    Relation.ReflTransGen (Life sampleConfig "local-node-key") (State.init 0)
        ⟨.empty, oldLink.dev, 0⟩ ∧
      oldLink.dev.Routes "departed-peer-key" ⟨.inet, 0x0a2a0003, 32⟩ ∧
      ∃ s₀ p, Relation.ReflTransGen (Life sampleConfig "local-node-key") (State.init 0) s₀ ∧
        Relation.ReflTransGen (Life sampleConfig "local-node-key") s₀ ⟨.empty, oldLink.dev, 0⟩ ∧
        p ∈ s₀.store.getActive s₀.now ∧ p.wgPubKey = "departed-peer-key" ∧
        (⟨.inet, 0x0a2a0003, 32⟩ : AllowedIP) ∈ prefixesOf p :=
  have h₁ : Life sampleConfig "local-node-key" (State.init 0)
      ⟨PeerStore.empty.update departedPeer "dht" 0, .empty, 0⟩ := .step (.update _ departedPeer "dht")
  have h₂ : Life sampleConfig "local-node-key"
      ⟨PeerStore.empty.update departedPeer "dht" 0, .empty, 0⟩ departedRun :=
    .step (.tick ⟨fun _ => true, rfl, rfl⟩)
  have h₃ : Life sampleConfig "local-node-key" departedRun ⟨.empty, oldLink.dev, 0⟩ :=
    .restart _ freeHost sampleNode oldLink oldLink 51820 rfl rfl rfl
  have hlife := (Relation.ReflTransGen.single h₁).tail h₂ |>.tail h₃
  have hx : oldLink.dev.Routes "departed-peer-key" ⟨.inet, 0x0a2a0003, 32⟩ := by decide
  ⟨hlife, hx, life_prefixes_from_store hlife hx⟩

end WgMesh.Daemon
