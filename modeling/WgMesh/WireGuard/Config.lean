import WgMesh.WireGuard.Device

/-! # The deployment tool's WireGuard diff

`wgmesh -deploy` (package `wireguard`, `config.go`) brings a node's interface to the
configuration `generateConfigForNode` builds without restarting it: `GetCurrentConfig`
reads the interface from `wg show <if> dump`, `CalculateDiff` compares it with the
desired configuration, and `ApplyDiff` runs one `wg set` line per changed peer.

Both sides of the dump are modelled: what `wg` prints for a live interface
(`LiveInterface.dump`, with the columns wg(8) documents) and what `GetCurrentConfig`
reads from it. `ApplyDiff`'s lines act on the interface through `Device.setPeer` and
`Device.removePeer`; a line that fails returns its error, and the log line's
`pubKey[:16]` panics (`none`) on a key shorter than sixteen bytes.

* `getCurrentConfig_dump` — from the dump of a printable interface the parse returns
  every peer with its endpoint and allowed IPs, and with the persistent keepalive read
  from the fifth column, which is the latest handshake;
* `applyDiff_ok` — with every line accepted, `ApplyDiff` removes, then adds, then
  updates, each in the diff's order;
* `printable_applyDiff` — `wg` accepts the lines `ApplyDiff` runs for printable peers,
  and the interface stays printable; `wg` refuses a line whose allowed IPs do not parse,
  and the step fails with `exitStatusOne`;
* `peersEqual_sameSettings` — on allowed-IP lists that repeat no entry, `peersEqual` is
  equality of the sets and `CalculateDiff` lists exactly the changed peers;
  `peersEqual_repeated_prefix` — with a repeated entry it is neither.
-/

namespace WgMesh.WireGuard

open WgMesh.Go

/-! ## The configuration and its diff -/

structure Peer where
  publicKey : String
  endpoint : String
  allowedIPs : List String
  persistentKeepalive : Int
deriving DecidableEq, Repr

structure Interface where
  privateKey : String
  address : String
  listenPort : Int
deriving DecidableEq, Repr

/-- `Config`: the interface, and the peers by public key. -/
structure Config where
  interface : Interface
  peers : List (String × Peer)
deriving DecidableEq, Repr

structure ConfigDiff where
  interfaceChanged : Bool
  addedPeers : List (String × Peer)
  removedPeers : List String
  modifiedPeers : List (String × Peer)
deriving DecidableEq, Repr

/-- `peersEqual`: the same endpoint and keepalive, and as many allowed IPs, each of `b`'s
among `a`'s. -/
def peersEqual (a b : Peer) : Bool :=
  a.endpoint == b.endpoint && a.persistentKeepalive == b.persistentKeepalive &&
    a.allowedIPs.length == b.allowedIPs.length && b.allowedIPs.all (a.allowedIPs.contains ·)

/-- `CalculateDiff`: a changed listen port, the current peers the desired configuration
lacks, the desired peers the current one lacks, and the desired peers present with
other settings. -/
def calculateDiff (current desired : Config) : ConfigDiff where
  interfaceChanged := current.interface.listenPort != desired.interface.listenPort
  addedPeers := desired.peers.filter fun e => (current.peers.lookup e.1).isNone
  removedPeers := (current.peers.filter fun e => (desired.peers.lookup e.1).isNone).map Prod.fst
  modifiedPeers := desired.peers.filter fun e =>
    match current.peers.lookup e.1 with
    | some currentPeer => !peersEqual currentPeer e.2
    | none => false

def ConfigDiff.hasChanges (d : ConfigDiff) : Bool :=
  d.interfaceChanged || 0 < d.addedPeers.length || 0 < d.removedPeers.length ||
    0 < d.modifiedPeers.length

structure WGInterface where
  privateKey : String
  address : String
  listenPort : Int
deriving DecidableEq, Repr

/-- `WGPeer`: a peer of the generated configuration. -/
structure WGPeer where
  publicKey : String
  endpoint : String
  allowedIPs : List String
  persistentKeepalive : Nat
deriving DecidableEq, Repr

/-- `FullConfig`: the generated configuration, its peers in order. -/
structure FullConfig where
  interface : WGInterface
  peers : List WGPeer
deriving DecidableEq, Repr

/-- `FullConfigToConfig`: the peers keyed by public key, a later one overwriting an
earlier one. -/
def fullConfigToConfig (full : FullConfig) : Config :=
  ⟨⟨full.interface.privateKey, full.interface.address, full.interface.listenPort⟩,
    full.peers.foldl (fun peers p =>
      mapSet p.publicKey ⟨p.publicKey, p.endpoint, p.allowedIPs, p.persistentKeepalive⟩ peers) []⟩

theorem mem_fullConfigToConfig {full : FullConfig} {k : String} {p : Peer}
    (h : (k, p) ∈ (fullConfigToConfig full).peers) :
    ∃ q ∈ full.peers, k = q.publicKey ∧
      p = ⟨q.publicKey, q.endpoint, q.allowedIPs, q.persistentKeepalive⟩ := by
  suffices ∀ (qs : List WGPeer) (acc : List (String × Peer)),
      (k, p) ∈ qs.foldl (fun peers q =>
        mapSet q.publicKey ⟨q.publicKey, q.endpoint, q.allowedIPs, q.persistentKeepalive⟩ peers) acc →
      (k, p) ∈ acc ∨ ∃ q ∈ qs, k = q.publicKey ∧
        p = ⟨q.publicKey, q.endpoint, q.allowedIPs, q.persistentKeepalive⟩ by
    simpa using this full.peers [] h
  intro qs
  induction qs with
  | nil => exact fun _ => .inl
  | cons q qs ih =>
    intro acc hmem
    rcases ih _ hmem with hmem | ⟨q', hq', hq'k⟩
    · simp only [mapSet, List.mem_cons, Prod.mk.injEq, List.mem_filter] at hmem
      rcases hmem with ⟨rfl, rfl⟩ | ⟨hmem, -⟩
      · exact .inr ⟨q, List.mem_cons_self _ _, rfl, rfl⟩
      · exact .inl hmem
    · exact .inr ⟨q', List.mem_cons_of_mem _ hq', hq'k⟩

theorem fullConfigToConfig_peers_ne_nil {full : FullConfig} (h : full.peers ≠ []) :
    (fullConfigToConfig full).peers ≠ [] := by
  obtain ⟨q, qs, hq⟩ := List.exists_cons_of_ne_nil h
  suffices ∀ (qs : List WGPeer) (acc : List (String × Peer)), acc ≠ [] →
      qs.foldl (fun peers q =>
        mapSet q.publicKey ⟨q.publicKey, q.endpoint, q.allowedIPs, q.persistentKeepalive⟩ peers) acc ≠ [] by
    simpa [fullConfigToConfig, hq] using this qs _ (List.cons_ne_nil _ _)
  intro qs
  induction qs with
  | nil => exact fun _ h => h
  | cons q qs ih => exact fun _ _ => ih _ (List.cons_ne_nil _ _)

theorem hasChanges_of_keepalive {current desired : Config} {k : String} {p : Peer}
    (hk : (k, p) ∈ desired.peers)
    (hcur : ∀ c, (k, c) ∈ current.peers → c.persistentKeepalive ≠ p.persistentKeepalive) :
    (calculateDiff current desired).hasChanges = true := by
  cases hl : current.peers.lookup k with
  | none =>
    have hadd : (k, p) ∈ (calculateDiff current desired).addedPeers := by
      simp [calculateDiff, hk, hl]
    simp [ConfigDiff.hasChanges, List.length_pos_of_mem hadd]
  | some c =>
    have hne : peersEqual c p = false := by
      simp [peersEqual, hcur c (mem_of_lookup_eq_some hl)]
    have hmod : (k, p) ∈ (calculateDiff current desired).modifiedPeers := by
      simp [calculateDiff, hk, hl, hne]
    simp [ConfigDiff.hasChanges, List.length_pos_of_mem hmod]

/-! ## What `peersEqual` compares

`wg` keeps a peer's endpoint, its keepalive and its allowed IPs as a set of prefixes (an
entry of the allowed-IP trie per prefix). `peersEqual` compares the two lists by length and
by the membership of `b`'s prefixes among `a`'s, which is that set comparison when neither
list repeats a prefix, and only then. -/

/-- Two peers with the same endpoint and keepalive and the same set of allowed-IP texts,
as `GetCurrentConfig` reads them from the dump and `generateConfigForNode` writes them. -/
def Peer.SameSettings (a b : Peer) : Prop :=
  a.endpoint = b.endpoint ∧ a.persistentKeepalive = b.persistentKeepalive ∧
    (∀ ip ∈ a.allowedIPs, ip ∈ b.allowedIPs) ∧ ∀ ip ∈ b.allowedIPs, ip ∈ a.allowedIPs

instance : DecidableRel Peer.SameSettings := fun _ _ => inferInstanceAs (Decidable (_ ∧ _ ∧ _ ∧ _))

theorem Peer.SameSettings.symm {a b : Peer} (h : a.SameSettings b) : b.SameSettings a :=
  ⟨h.1.symm, h.2.1.symm, h.2.2.2, h.2.2.1⟩

theorem peersEqual_iff {a b : Peer} :
    peersEqual a b = true ↔ a.endpoint = b.endpoint ∧
      a.persistentKeepalive = b.persistentKeepalive ∧
      a.allowedIPs.length = b.allowedIPs.length ∧ ∀ ip ∈ b.allowedIPs, ip ∈ a.allowedIPs := by
  simp only [peersEqual, Bool.and_eq_true, beq_iff_eq, List.all_eq_true, List.elem_iff,
    decide_eq_true_eq, and_assoc]

/-- On duplicate-free lists the length check and the one-way membership check together
are equality of the prefix sets: `b`'s prefixes, all among `a`'s and as many, are all of
them. -/
theorem peersEqual_iff_sameSettings {a b : Peer} (ha : a.allowedIPs.Nodup)
    (hb : b.allowedIPs.Nodup) : peersEqual a b = true ↔ a.SameSettings b := by
  rw [peersEqual_iff]
  constructor
  · rintro ⟨he, hk, hlen, hba⟩
    have hperm : b.allowedIPs.Perm a.allowedIPs :=
      (List.subperm_of_subset hb hba).perm_of_length_le hlen.le
    exact ⟨he, hk, fun ip hip => hperm.mem_iff.mpr hip, hba⟩
  · rintro ⟨he, hk, hab, hba⟩
    have hperm : a.allowedIPs.Perm b.allowedIPs :=
      (List.perm_ext_iff_of_nodup ha hb).mpr fun ip => ⟨hab ip, hba ip⟩
    exact ⟨he, hk, hperm.length_eq, hba⟩

theorem mem_modifiedPeers {current desired : Config} {k : String} {p : Peer} :
    (k, p) ∈ (calculateDiff current desired).modifiedPeers ↔
      (k, p) ∈ desired.peers ∧ ∃ c, current.peers.lookup k = some c ∧ peersEqual c p = false := by
  simp only [calculateDiff, List.mem_filter]
  cases current.peers.lookup k <;> simp

/-- For peers whose allowed-IP lists repeat no prefix, `peersEqual` compares what `wg`
keeps and is symmetric, and `CalculateDiff` lists a desired peer as modified exactly when
the current peer under its key keeps other settings. -/
theorem peersEqual_sameSettings (a b : Peer) (ha : a.allowedIPs.Nodup) (hb : b.allowedIPs.Nodup)
    (current desired : Config) (hcur : ∀ e ∈ current.peers, e.2.allowedIPs.Nodup)
    (hdes : ∀ e ∈ desired.peers, e.2.allowedIPs.Nodup) :
    (peersEqual a b = true ↔ a.SameSettings b) ∧ peersEqual a b = peersEqual b a ∧
      ∀ k p, (k, p) ∈ (calculateDiff current desired).modifiedPeers ↔
        (k, p) ∈ desired.peers ∧ ∃ c, current.peers.lookup k = some c ∧ ¬ c.SameSettings p := by
  refine ⟨peersEqual_iff_sameSettings ha hb, ?_, fun k p => ?_⟩
  · rw [Bool.eq_iff_iff, peersEqual_iff_sameSettings ha hb, peersEqual_iff_sameSettings hb ha]
    exact ⟨Peer.SameSettings.symm, Peer.SameSettings.symm⟩
  · rw [mem_modifiedPeers]
    refine and_congr_right fun hp => exists_congr fun c => and_congr_right fun hc => ?_
    rw [← Bool.not_eq_true, peersEqual_iff_sameSettings (hcur _ (mem_of_lookup_eq_some hc)) (hdes _ hp)]

/-- `node2`'s peer on `node1`, with the allowed IPs `ips`. -/
def node2Peer (ips : List String) : Peer :=
  ⟨"xTIBA5rboUvnH4htodjb6e697QjLERt1NAB4mZqp8Dg=", "", ips, 5⟩

/-- `node1`'s configuration with `node2`'s peer only. -/
def node2Config (ips : List String) : Config :=
  ⟨⟨"gI6EdUSYvn8ugXOt8QQD6Yc+JyiZxIhp3GInSWRfWGE=", "10.99.0.1/16", 51820⟩,
    [("xTIBA5rboUvnH4htodjb6e697QjLERt1NAB4mZqp8Dg=", node2Peer ips)]⟩

theorem peersEqual_sameSettings_sample :
    ["10.99.0.2/32", "192.168.10.0/24"].Nodup ∧ ["192.168.10.0/24", "10.99.0.2/32"].Nodup ∧
      (∀ e ∈ (node2Config ["10.99.0.2/32", "192.168.10.0/24"]).peers, e.2.allowedIPs.Nodup) ∧
      (∀ e ∈ (node2Config ["192.168.10.0/24", "10.99.0.2/32"]).peers, e.2.allowedIPs.Nodup) ∧
      (peersEqual (node2Peer ["10.99.0.2/32", "192.168.10.0/24"])
          (node2Peer ["192.168.10.0/24", "10.99.0.2/32"]) = true ↔
        (node2Peer ["10.99.0.2/32", "192.168.10.0/24"]).SameSettings
          (node2Peer ["192.168.10.0/24", "10.99.0.2/32"])) ∧
      peersEqual (node2Peer ["10.99.0.2/32", "192.168.10.0/24"])
          (node2Peer ["192.168.10.0/24", "10.99.0.2/32"]) =
        peersEqual (node2Peer ["192.168.10.0/24", "10.99.0.2/32"])
          (node2Peer ["10.99.0.2/32", "192.168.10.0/24"]) ∧
      ∀ k p, (k, p) ∈ (calculateDiff (node2Config ["10.99.0.2/32", "192.168.10.0/24"])
          (node2Config ["192.168.10.0/24", "10.99.0.2/32"])).modifiedPeers ↔
        (k, p) ∈ (node2Config ["192.168.10.0/24", "10.99.0.2/32"]).peers ∧
          ∃ c, (node2Config ["10.99.0.2/32", "192.168.10.0/24"]).peers.lookup k = some c ∧
            ¬ c.SameSettings p :=
  have hx : ["10.99.0.2/32", "192.168.10.0/24"].Nodup := by decide
  have hy : ["192.168.10.0/24", "10.99.0.2/32"].Nodup := by decide
  have hcur : ∀ e ∈ (node2Config ["10.99.0.2/32", "192.168.10.0/24"]).peers, e.2.allowedIPs.Nodup := by
    decide
  have hdes : ∀ e ∈ (node2Config ["192.168.10.0/24", "10.99.0.2/32"]).peers, e.2.allowedIPs.Nodup := by
    decide
  ⟨hx, hy, hcur, hdes, peersEqual_sameSettings (node2Peer _) (node2Peer _) hx hy _ _ hcur hdes⟩

/-- Lists that repeat a prefix. `peersEqual` holds of `[x, y]` against `[x, x]`, though
`y` is on one side only, and fails the other way round; it fails of `[x]` against
`[x, x]`, which hold the same prefix. So `CalculateDiff` finds no change and leaves the
stale `y` on the live peer, and reports the unchanged one as modified. -/
theorem peersEqual_repeated_prefix :
    peersEqual (node2Peer ["10.99.0.2/32", "192.168.10.0/24"])
        (node2Peer ["10.99.0.2/32", "10.99.0.2/32"]) = true ∧
      ¬ (node2Peer ["10.99.0.2/32", "192.168.10.0/24"]).SameSettings
        (node2Peer ["10.99.0.2/32", "10.99.0.2/32"]) ∧
      peersEqual (node2Peer ["10.99.0.2/32", "10.99.0.2/32"])
        (node2Peer ["10.99.0.2/32", "192.168.10.0/24"]) = false ∧
      (calculateDiff (node2Config ["10.99.0.2/32", "192.168.10.0/24"])
        (node2Config ["10.99.0.2/32", "10.99.0.2/32"])).hasChanges = false ∧
      (node2Peer ["10.99.0.2/32"]).SameSettings (node2Peer ["10.99.0.2/32", "10.99.0.2/32"]) ∧
      (calculateDiff (node2Config ["10.99.0.2/32"])
        (node2Config ["10.99.0.2/32", "10.99.0.2/32"])).modifiedPeers ≠ [] := by
  decide

/-! ## `wg show <if> dump` -/

/-- What the kernel keeps per peer besides the settings `wg set` writes: the time of the
latest handshake in seconds since the epoch (`0` for none), and the bytes received
and sent. -/
structure PeerCounters where
  latestHandshake : Nat
  transferRx : Nat
  transferTx : Nat
deriving DecidableEq, Repr

/-- A live interface: its own keys, port and fwmark, the peer table `wg set` writes,
and the counters per peer key. -/
structure LiveInterface where
  privateKey : String
  publicKey : String
  listenPort : Nat
  fwmark : Nat
  device : Device
  counters : String → PeerCounters

/-- How `wg` prints a missing key, endpoint or allowed-IPs list. -/
def orNone (s : String) : String := if s = "" then "(none)" else s

/-- How `wg` prints a fwmark or a persistent keepalive: `off` for zero. -/
def orOff (n : Nat) : String := if n = 0 then "off" else toString n

/-- The interface line of the dump: private key, public key, listen port, fwmark. -/
def LiveInterface.interfaceRow (li : LiveInterface) : List String :=
  [orNone li.privateKey, orNone li.publicKey, toString li.listenPort, orOff li.fwmark]

/-- A peer line of the dump: public key, preshared key (none is set on this path),
endpoint, allowed IPs, latest handshake, bytes received, bytes sent, persistent
keepalive. -/
def peerRow (c : PeerCounters) (p : LivePeer) : List String :=
  [p.publicKey, "(none)", orNone p.endpoint, orNone (join (p.allowedIPs.map AllowedIP.text) ','),
    toString c.latestHandshake, toString c.transferRx, toString c.transferTx,
    orOff p.persistentKeepalive]

/-- The lines of the dump, in order. -/
def LiveInterface.rows (li : LiveInterface) : List (List String) :=
  li.interfaceRow :: li.device.peers.map fun p => peerRow (li.counters p.publicKey) p

/-- `wg show <if> dump`: the lines' fields separated by tabs, each line ending in a
newline. -/
def LiveInterface.dump (li : LiveInterface) : String :=
  ⟨(join (li.rows.map (join · '\t')) '\n').data ++ ['\n']⟩

/-! ## `GetCurrentConfig` -/

/-- One peer line as `GetCurrentConfig` stores it, under its first field: a line with
fewer than four fields is skipped, and the keepalive is `parts[4]` when there is one. -/
def readPeerLine (peers : List (String × Peer)) (line : String) : List (String × Peer) :=
  let parts := fields line
  if parts.length < 4 then peers
  else
    let publicKey := parts.getD 0 ""
    mapSet publicKey
      ⟨publicKey, parts.getD 2 "", split (parts.getD 3 "") ',',
        if 5 ≤ parts.length then scanInt (parts.getD 4 "") 0 else 0⟩ peers

/-- `GetCurrentConfig` on the output of `wg show <if> dump 2>/dev/null || true`: the
private key and listen port from the first line, a peer from each later one. -/
def getCurrentConfig (output : String) : Except String Config :=
  if trimSpace output = "" then .error "interface does not exist or no config"
  else
    match split (trimSpace output) '\n' with
    | [] => .error "invalid wg dump output"
    | first :: rest =>
      let parts := fields first
      .ok ⟨if 3 ≤ parts.length then ⟨parts.getD 0 "", "", scanInt (parts.getD 2 "") 0⟩
          else ⟨"", "", 0⟩,
        rest.foldl readPeerLine []⟩

/-! ## `ApplyDiff` -/

/-- The `wg set` line `addOrUpdatePeer` runs: the endpoint unless empty or `(none)`,
the allowed IPs unless there are none, the keepalive when positive. -/
def addOrUpdatePeerCmd (iface pubKey : String) (peer : Peer) : String :=
  "wg set " ++ iface ++ " peer " ++ pubKey ++
    (if peer.endpoint ≠ "" ∧ peer.endpoint ≠ "(none)" then " endpoint " ++ peer.endpoint
      else "") ++
    (if peer.allowedIPs ≠ [] then " allowed-ips " ++ join peer.allowedIPs ',' else "") ++
    (if 0 < peer.persistentKeepalive then
      " persistent-keepalive " ++ toString peer.persistentKeepalive else "")

/-- What that line sets as `wg` parses it; `none` when an allowed IP does not parse. -/
def addOrUpdatePeerSettings (peer : Peer) : Option PeerSettings :=
  (if peer.allowedIPs ≠ [] then (parseAllowedips (join peer.allowedIPs ',')).map some
    else some none).map fun ips =>
      ⟨if peer.endpoint ≠ "" ∧ peer.endpoint ≠ "(none)" then some peer.endpoint else none, ips,
        if 0 < peer.persistentKeepalive then some peer.persistentKeepalive.toNat else none⟩

/-- What `client.Run` returns for a command that exits with status 1, as `wg` does on a
line it refuses: `"command failed: %w"` around the session's `ExitError`. -/
def exitStatusOne : String := "command failed: Process exited with status 1"

/-- The remove loop of `ApplyDiff`: `wg set <if> peer K remove`, then the log line's
`pubKey[:16]`. `run` is the SSH session, `.error` with the command's error text. -/
def removePeers (run : String → Except String Unit) (iface : String) :
    List String → Device → Option (Except String Device)
  | [], dev => some (.ok dev)
  | pubKey :: keys, dev =>
    match run ("wg set " ++ iface ++ " peer " ++ pubKey ++ " remove") with
    | .error e => some (.error ("failed to remove peer: " ++ e))
    | .ok () => (sliceTo pubKey 16).bind fun _ => removePeers run iface keys (dev.removePeer pubKey)

/-- The add and the update loops of `ApplyDiff`: `addOrUpdatePeer`, then the log line's
`pubKey[:16]`. `run` answers for the session; a line that reaches `wg` and that `wg`
refuses fails with exit status 1. -/
def addOrUpdatePeers (run : String → Except String Unit) (iface : String) :
    List (String × Peer) → Device → Option (Except String Device)
  | [], dev => some (.ok dev)
  | (pubKey, peer) :: peers, dev =>
    match run (addOrUpdatePeerCmd iface pubKey peer) with
    | .error e => some (.error ("failed to configure peer: " ++ e))
    | .ok () =>
      match addOrUpdatePeerSettings peer with
      | none => some (.error ("failed to configure peer: " ++ exitStatusOne))
      | some settings => (sliceTo pubKey 16).bind fun _ =>
        addOrUpdatePeers run iface peers (dev.setPeer pubKey settings)

/-- `ApplyDiff`: refused for a changed interface; otherwise the removals, the additions
and the updates, stopping at the first error. -/
def applyDiff (run : String → Except String Unit) (iface : String) (diff : ConfigDiff)
    (dev : Device) : Option (Except String Device) :=
  if diff.interfaceChanged then some (.error "interface changes require full reconfig")
  else
    match removePeers run iface diff.removedPeers dev with
    | some (.ok dev) =>
      match addOrUpdatePeers run iface diff.addedPeers dev with
      | some (.ok dev) => addOrUpdatePeers run iface diff.modifiedPeers dev
      | r => r
    | r => r

/-! ## Printable interfaces -/

/-- A peer whose dump line `strings.Fields` cuts into its eight columns, with a key
long enough for `ApplyDiff`'s log line (a WireGuard key prints as 44 base64
characters). -/
structure LivePeer.Printable (p : LivePeer) : Prop where
  key : Token p.publicKey ∧ 16 ≤ p.publicKey.utf8ByteSize
  endpoint : Token (orNone p.endpoint)

/-- An interface whose dump `strings.Fields` cuts into its columns; the listen port is
a 16-bit number. -/
structure LiveInterface.Printable (li : LiveInterface) : Prop where
  privateKey : Token (orNone li.privateKey)
  publicKey : Token (orNone li.publicKey)
  listenPort : li.listenPort < 2^16
  peers : ∀ p ∈ li.device.peers, p.Printable

/-- Settings that keep a peer printable. -/
def PeerSettings.Printable (s : PeerSettings) : Prop := ∀ e ∈ s.endpoint, Token (orNone e)

/-- A desired peer whose `wg set` line `wg` accepts and that keeps the interface
printable: an empty or whitespace-free endpoint, and allowed IPs with neither white space
nor commas, each of which `wg` parses. -/
structure Peer.Printable (p : Peer) : Prop where
  endpoint : Token (orNone p.endpoint)
  allowedIPs : ∀ ip ∈ p.allowedIPs,
    ((∀ c ∈ ip.data, isSpace c = false) ∧ ',' ∉ ip.data) ∧ (parseAllowedip ip).isSome

theorem token_orNone {s : String} (h : ∀ c ∈ s.data, isSpace c = false) : Token (orNone s) := by
  unfold orNone
  split_ifs with hs
  · decide
  · exact ⟨fun he => hs (String.ext he), h⟩

theorem token_orOff (n : Nat) : Token (orOff n) := by
  unfold orOff
  split_ifs
  · decide
  · exact token_toString n

theorem token_orNone_join (ips : List AllowedIP) : Token (orNone (join (ips.map AllowedIP.text) ',')) :=
  token_orNone fun c hc => by
    rcases mem_join hc with rfl | ⟨ip, hip, hc⟩
    · decide
    · obtain ⟨a, -, rfl⟩ := List.mem_map.mp hip
      exact isSpace_of_mem_text hc

theorem LivePeer.Printable.set {p : LivePeer} {s : PeerSettings} (hp : p.Printable)
    (hs : s.Printable) : (p.set s).Printable where
  key := hp.key
  endpoint := by
    cases he : s.endpoint with
    | none => simpa [LivePeer.set, he] using hp.endpoint
    | some e => simpa [LivePeer.set, he] using hs e he

theorem LivePeer.Printable.release {p : LivePeer} (s : PeerSettings) (hp : p.Printable) :
    (p.release s).Printable :=
  ⟨hp.key, hp.endpoint⟩

theorem printable_setPeer {d : Device} {key : String} {s : PeerSettings}
    (hd : ∀ p ∈ d.peers, p.Printable) (hk : Token key ∧ 16 ≤ key.utf8ByteSize)
    (hs : s.Printable) : ∀ p ∈ (d.setPeer key s).peers, p.Printable := by
  simp only [Device.setPeer, setPeers]
  split_ifs
  · simp only [List.mem_map]
    rintro _ ⟨p, hp, rfl⟩
    split_ifs
    · exact (hd p hp).set hs
    · exact (hd p hp).release s
  · simp only [List.mem_append, List.mem_map, List.mem_singleton]
    rintro _ (⟨p, hp, rfl⟩ | rfl)
    · exact (hd p hp).release s
    · exact LivePeer.Printable.set (⟨hk, (by decide : Token (orNone ""))⟩ : LivePeer.Printable ⟨key, "", [], 0⟩) hs

theorem printable_removePeer {d : Device} {key : String} (hd : ∀ p ∈ d.peers, p.Printable) :
    ∀ p ∈ (d.removePeer key).peers, p.Printable :=
  fun p hp => hd p (List.mem_of_mem_filter hp)

theorem Peer.Printable.settings {p : Peer} (hp : p.Printable) :
    ∃ s, addOrUpdatePeerSettings p = some s ∧ s.Printable := by
  have hips : ∃ ips, (if p.allowedIPs ≠ [] then (parseAllowedips (join p.allowedIPs ',')).map some
      else some none) = some ips := by
    split_ifs with hne
    · obtain ⟨l, hl⟩ := Option.isSome_iff_exists.mp (parseAllowedips_join hne
        (fun ip hip => (hp.allowedIPs ip hip).1.2) fun ip hip => (hp.allowedIPs ip hip).2)
      exact ⟨some l, by rw [hl]; rfl⟩
    · exact ⟨none, rfl⟩
  obtain ⟨ips, hips⟩ := hips
  refine ⟨_, by rw [addOrUpdatePeerSettings, hips]; rfl, fun e he => ?_⟩
  simp only at he
  split_ifs at he
  · cases he
    exact hp.endpoint
  · cases he

/-! ## Reading the dump back -/

/-- What `GetCurrentConfig` reads from a peer's line: the persistent keepalive is read
from the latest-handshake column. -/
def readPeer (c : PeerCounters) (p : LivePeer) : Peer :=
  ⟨p.publicKey, orNone p.endpoint, split (orNone (join (p.allowedIPs.map AllowedIP.text) ',')) ',',
    scanInt (toString c.latestHandshake) 0⟩

/-- The keepalive read back is the latest handshake, or `0` past `int64`. -/
theorem readPeer_persistentKeepalive (c : PeerCounters) (p : LivePeer) :
    (readPeer c p).persistentKeepalive =
      if (c.latestHandshake : Int) < 2^63 then (c.latestHandshake : Int) else 0 :=
  scanInt_toString _ _

theorem tokens_peerRow {p : LivePeer} (hp : p.Printable) (c : PeerCounters) :
    ∀ f ∈ peerRow c p, Token f := by
  simp only [peerRow, List.mem_cons, List.mem_singleton, List.not_mem_nil, or_false]
  rintro f (rfl | rfl | rfl | rfl | rfl | rfl | rfl | rfl)
  exacts [hp.key.1, by decide, hp.endpoint, token_orNone_join _, token_toString _,
    token_toString _, token_toString _, token_orOff _]

theorem tokens_rows {li : LiveInterface} (h : li.Printable) : ∀ r ∈ li.rows, ∀ f ∈ r, Token f := by
  simp only [LiveInterface.rows, List.mem_cons, List.mem_map]
  rintro r (rfl | ⟨p, hp, rfl⟩)
  · simp only [LiveInterface.interfaceRow, List.mem_cons, List.mem_singleton, List.not_mem_nil,
      or_false]
    rintro f (rfl | rfl | rfl | rfl)
    exacts [h.privateKey, h.publicKey, token_toString _, token_orOff _]
  · exact tokens_peerRow (h.peers p hp) _

theorem readPeerLine_peerRow {p : LivePeer} (hp : p.Printable) (c : PeerCounters)
    (peers : List (String × Peer)) :
    readPeerLine peers (join (peerRow c p) '\t') = mapSet p.publicKey (readPeer c p) peers := by
  simp only [readPeerLine, @fields_join (peerRow c p) '\t' rfl (tokens_peerRow hp c)]
  simp [peerRow, readPeer]

theorem foldl_readPeerLine (cs : String → PeerCounters) :
    ∀ (ps : List LivePeer) (acc : List (String × Peer)), (∀ p ∈ ps, p.Printable) →
      (ps.map LivePeer.publicKey).Nodup → (∀ p ∈ ps, p.publicKey ∉ acc.map Prod.fst) →
      ((ps.map fun p => peerRow (cs p.publicKey) p).map (join · '\t')).foldl readPeerLine acc =
        (ps.map fun p => (p.publicKey, readPeer (cs p.publicKey) p)).reverse ++ acc
  | [], _, _, _, _ => rfl
  | p :: ps, acc, hp, hnd, hacc => by
    rw [List.map_cons, List.nodup_cons] at hnd
    have hfresh : acc.filter (·.1 ≠ p.publicKey) = acc :=
      List.filter_eq_self.mpr fun e he => by
        have hne : e.1 ≠ p.publicKey := fun heq =>
          hacc p (List.mem_cons_self _ _) (heq ▸ List.mem_map_of_mem Prod.fst he)
        simpa using hne
    simp only [List.map_cons, List.foldl_cons, readPeerLine_peerRow (hp p (by simp)), mapSet,
      hfresh, List.reverse_cons, List.append_assoc, List.singleton_append]
    refine foldl_readPeerLine cs ps _ (fun q hq => hp q (by simp [hq])) hnd.2 fun q hq => ?_
    simp only [List.map_cons, List.mem_cons, not_or]
    exact ⟨fun heq => hnd.1 (heq ▸ List.mem_map_of_mem _ hq), hacc q (by simp [hq])⟩

/-- What `GetCurrentConfig` reads from the dump of a printable interface: the private
key and listen port, and every peer as `readPeer` reads its line. -/
def LiveInterface.readBack (li : LiveInterface) : Config :=
  ⟨⟨orNone li.privateKey, "", li.listenPort⟩,
    (li.device.peers.map fun p => (p.publicKey, readPeer (li.counters p.publicKey) p)).reverse⟩

/-- `GetCurrentConfig` on the dump of a printable interface: the private key and the
listen port, and every peer with its endpoint and allowed IPs as printed, and with
the latest handshake read as its persistent keepalive. -/
theorem getCurrentConfig_dump {li : LiveInterface} (h : li.Printable) :
    getCurrentConfig li.dump = .ok li.readBack := by
  have htok := tokens_rows h
  have hlines : ∀ l ∈ li.rows.map (join · '\t'), Trimmed l := by
    simp only [List.mem_map]
    rintro _ ⟨r, hr, rfl⟩
    refine trimmed_join ?_ fun f hf => (htok r hr f hf).trimmed
    rintro rfl
    simp [LiveInterface.rows, peerRow, LiveInterface.interfaceRow] at hr
  have htext : Trimmed (join (li.rows.map (join · '\t')) '\n') :=
    trimmed_join (by simp [LiveInterface.rows]) hlines
  have htrim : trimSpace li.dump = join (li.rows.map (join · '\t')) '\n' :=
    trimSpace_append_newline htext
  have hne : trimSpace li.dump ≠ "" := by
    rw [htrim]
    exact fun he => htext.1 (congrArg String.data he)
  have hsplit : split (join (li.rows.map (join · '\t')) '\n') '\n' = li.rows.map (join · '\t') := by
    refine split_join (by simp [LiveInterface.rows]) ?_
    simp only [List.mem_map]
    rintro _ ⟨r, hr, rfl⟩ hc
    rcases mem_join hc with hc | ⟨f, hf, hc⟩
    · exact absurd hc (by decide)
    · exact absurd ((htok r hr f hf).2 _ hc) (by decide)
  have hport : scanInt (toString li.listenPort) 0 = li.listenPort := by
    rw [scanInt_toString, if_pos (by have := h.listenPort; omega)]
  unfold getCurrentConfig
  rw [if_neg hne, htrim, hsplit]
  simp only [LiveInterface.rows, List.map_cons]
  rw [fields_join (by decide) (htok _ (List.mem_cons_self _ _)),
    foldl_readPeerLine _ _ [] h.peers li.device.nodup (by simp), List.append_nil]
  simp [LiveInterface.interfaceRow, LiveInterface.readBack, hport]

/-! ## `ApplyDiff` with every line accepted -/

/-- The run that accepts every command. -/
def acceptAll : String → Except String Unit := fun _ => .ok ()

/-- One line of the add and update loops as `wg` applies it; `none` when it refuses it. -/
def setPeerLine (d : Device) (e : String × Peer) : Option Device :=
  (addOrUpdatePeerSettings e.2).map (d.setPeer e.1)

/-- The interface after `ApplyDiff`'s three loops; `none` when `wg` refuses a line. -/
def ConfigDiff.apply (diff : ConfigDiff) (dev : Device) : Option Device :=
  (diff.addedPeers.foldlM setPeerLine (diff.removedPeers.foldl Device.removePeer dev)).bind
    fun d => diff.modifiedPeers.foldlM setPeerLine d

theorem removePeers_ok (iface : String) :
    ∀ (keys : List String) (dev : Device), (∀ k ∈ keys, 16 ≤ k.utf8ByteSize) →
      removePeers acceptAll iface keys dev = some (.ok (keys.foldl Device.removePeer dev))
  | [], _, _ => rfl
  | k :: keys, dev, hk => by
    have hslice : sliceTo k 16 ≠ none := by
      simpa using Nat.not_lt.mpr (hk k (List.mem_cons_self _ _))
    obtain ⟨b, hb⟩ := Option.ne_none_iff_exists'.mp hslice
    simp only [removePeers, acceptAll, hb, Option.some_bind]
    exact removePeers_ok iface keys _ fun k' hk' => hk k' (List.mem_cons_of_mem _ hk')

theorem addOrUpdatePeers_ok (iface : String) :
    ∀ (peers : List (String × Peer)) {dev dev' : Device}, (∀ e ∈ peers, 16 ≤ e.1.utf8ByteSize) →
      peers.foldlM setPeerLine dev = some dev' → addOrUpdatePeers acceptAll iface peers dev = some (.ok dev')
  | [], _, _, _, h => by cases h; rfl
  | (k, peer) :: peers, dev, _, hk, h => by
    obtain ⟨mid, hmid, hrest⟩ := Option.bind_eq_some.mp h
    obtain ⟨s, hs, rfl⟩ := Option.map_eq_some'.mp hmid
    have hslice : sliceTo k 16 ≠ none := by
      simpa using Nat.not_lt.mpr (hk (k, peer) (List.mem_cons_self _ _))
    obtain ⟨b, hb⟩ := Option.ne_none_iff_exists'.mp hslice
    simp only [addOrUpdatePeers, acceptAll, hs, hb, Option.some_bind]
    exact addOrUpdatePeers_ok iface peers (fun e he => hk e (List.mem_cons_of_mem _ he)) hrest

theorem applyDiff_ok (iface : String) {diff : ConfigDiff} {dev dev' : Device}
    (hi : diff.interfaceChanged = false) (hr : ∀ k ∈ diff.removedPeers, 16 ≤ k.utf8ByteSize)
    (ha : ∀ e ∈ diff.addedPeers, 16 ≤ e.1.utf8ByteSize)
    (hm : ∀ e ∈ diff.modifiedPeers, 16 ≤ e.1.utf8ByteSize) (happly : diff.apply dev = some dev') :
    applyDiff acceptAll iface diff dev = some (.ok dev') := by
  obtain ⟨mid, hadd, hmod⟩ := Option.bind_eq_some.mp happly
  simp only [applyDiff, hi, Bool.false_eq_true, if_false, removePeers_ok iface _ dev hr,
    addOrUpdatePeers_ok iface _ ha hadd, addOrUpdatePeers_ok iface _ hm hmod]

theorem printable_foldl_removePeer :
    ∀ (keys : List String) {dev : Device}, (∀ p ∈ dev.peers, p.Printable) →
      ∀ p ∈ (keys.foldl Device.removePeer dev).peers, p.Printable
  | [], _, hd => hd
  | _ :: keys, _, hd => printable_foldl_removePeer keys (printable_removePeer hd)

theorem foldlM_setPeerLine_printable :
    ∀ (peers : List (String × Peer)) {dev : Device}, (∀ p ∈ dev.peers, p.Printable) →
      (∀ e ∈ peers, (Token e.1 ∧ 16 ≤ e.1.utf8ByteSize) ∧ e.2.Printable) →
      ∃ dev', peers.foldlM setPeerLine dev = some dev' ∧ ∀ p ∈ dev'.peers, p.Printable
  | [], dev, hd, _ => ⟨dev, rfl, hd⟩
  | e :: peers, dev, hd, he => by
    have he₀ := he e (List.mem_cons_self _ _)
    obtain ⟨s, hs, hsp⟩ := he₀.2.settings
    obtain ⟨dev', h', hp'⟩ := foldlM_setPeerLine_printable peers (printable_setPeer hd he₀.1 hsp)
      fun e' h' => he e' (List.mem_cons_of_mem _ h')
    refine ⟨dev', ?_, hp'⟩
    rw [List.foldlM_cons]
    simp only [setPeerLine, hs, Option.map_some', Option.bind_eq_bind, Option.some_bind, h']

theorem printable_applyDiff {diff : ConfigDiff} {dev : Device} (hd : ∀ p ∈ dev.peers, p.Printable)
    (ha : ∀ e ∈ diff.addedPeers, (Token e.1 ∧ 16 ≤ e.1.utf8ByteSize) ∧ e.2.Printable)
    (hm : ∀ e ∈ diff.modifiedPeers, (Token e.1 ∧ 16 ≤ e.1.utf8ByteSize) ∧ e.2.Printable) :
    ∃ dev', diff.apply dev = some dev' ∧ ∀ p ∈ dev'.peers, p.Printable := by
  obtain ⟨d₁, h₁, hp₁⟩ := foldlM_setPeerLine_printable _ (printable_foldl_removePeer _ hd) ha
  obtain ⟨d₂, h₂, hp₂⟩ := foldlM_setPeerLine_printable _ hp₁ hm
  exact ⟨d₂, by rw [ConfigDiff.apply, h₁, Option.some_bind, h₂], hp₂⟩

/-! ## The keys `ApplyDiff` leaves -/

theorem removePeers_eq_ok {run : String → Except String Unit} {iface : String} :
    ∀ {keys : List String} {dev dev' : Device}, removePeers run iface keys dev = some (.ok dev') →
      dev' = keys.foldl Device.removePeer dev
  | [], _, _, h => by cases h; rfl
  | _ :: _, _, _, h => by
    simp only [removePeers] at h
    split at h
    · cases h
    · obtain ⟨_, -, h⟩ := Option.bind_eq_some.mp h
      rw [List.foldl_cons]
      exact removePeers_eq_ok h

theorem addOrUpdatePeers_eq_ok {run : String → Except String Unit} {iface : String} :
    ∀ {peers : List (String × Peer)} {dev dev' : Device},
      addOrUpdatePeers run iface peers dev = some (.ok dev') → peers.foldlM setPeerLine dev = some dev'
  | [], _, _, h => by cases h; rfl
  | (_, _) :: _, _, _, h => by
    simp only [addOrUpdatePeers] at h
    split at h
    · cases h
    · split at h
      · cases h
      · rename_i s hs
        obtain ⟨_, -, h⟩ := Option.bind_eq_some.mp h
        rw [List.foldlM_cons]
        simp only [setPeerLine, hs, Option.map_some', Option.bind_eq_bind, Option.some_bind]
        exact addOrUpdatePeers_eq_ok h

theorem applyDiff_eq_ok {run : String → Except String Unit} {iface : String} {diff : ConfigDiff}
    {dev dev' : Device} (h : applyDiff run iface diff dev = some (.ok dev')) :
    diff.interfaceChanged = false ∧ diff.apply dev = some dev' := by
  unfold applyDiff at h
  split_ifs at h with hi
  · cases h
  refine ⟨by simpa using hi, ?_⟩
  split at h
  · rename_i d₁ hr
    split at h
    · rename_i d₂ ha
      rw [ConfigDiff.apply, ← removePeers_eq_ok hr, addOrUpdatePeers_eq_ok ha, Option.some_bind]
      exact addOrUpdatePeers_eq_ok h
    · rename_i hne
      exact absurd h (hne _)
  · rename_i hne
    exact absurd h (hne _)

theorem mem_keys_foldl_removePeer (k : String) :
    ∀ (keys : List String) (dev : Device),
      k ∈ (keys.foldl Device.removePeer dev).keys ↔ k ∉ keys ∧ k ∈ dev.keys
  | [], _ => by simp
  | key :: keys, dev => by
    rw [List.foldl_cons, mem_keys_foldl_removePeer k keys, Device.mem_keys_removePeer,
      List.mem_cons, not_or]
    exact ⟨fun ⟨h₁, h₂, h₃⟩ => ⟨⟨h₂, h₁⟩, h₃⟩, fun ⟨⟨h₂, h₁⟩, h₃⟩ => ⟨h₁, h₂, h₃⟩⟩

theorem mem_keys_foldlM_setPeerLine (k : String) :
    ∀ (peers : List (String × Peer)) {dev dev' : Device}, peers.foldlM setPeerLine dev = some dev' →
      (k ∈ dev'.keys ↔ k ∈ peers.map Prod.fst ∨ k ∈ dev.keys)
  | [], _, _, h => by cases h; simp
  | e :: peers, dev, _, h => by
    obtain ⟨mid, hmid, hrest⟩ := Option.bind_eq_some.mp h
    obtain ⟨s, -, rfl⟩ := Option.map_eq_some'.mp hmid
    rw [mem_keys_foldlM_setPeerLine k peers hrest, Device.mem_keys_setPeer, List.map_cons,
      List.mem_cons, or_assoc]
    exact or_left_comm

theorem mem_keys_apply {diff : ConfigDiff} {dev dev' : Device} (h : diff.apply dev = some dev')
    (k : String) :
    k ∈ dev'.keys ↔
      k ∈ diff.modifiedPeers.map Prod.fst ∨ k ∈ diff.addedPeers.map Prod.fst ∨
        k ∉ diff.removedPeers ∧ k ∈ dev.keys := by
  obtain ⟨mid, hadd, hmod⟩ := Option.bind_eq_some.mp h
  exact (mem_keys_foldlM_setPeerLine k _ hmod).trans <| or_congr_right <|
    (mem_keys_foldlM_setPeerLine k _ hadd).trans <| or_congr_right (mem_keys_foldl_removePeer k _ _)

theorem mem_map_fst_iff_lookup_isSome {β : Type} {l : List (String × β)} {k : String} :
    k ∈ l.map Prod.fst ↔ (l.lookup k).isSome := by
  simp only [List.lookup_isSome_iff, List.mem_map, beq_iff_eq]
  exact ⟨fun ⟨p, hp, h⟩ => ⟨p, hp, h.symm⟩, fun ⟨p, hp, h⟩ => ⟨p, hp, h.symm⟩⟩

theorem mem_keys_apply_calculateDiff {current desired : Config} {dev dev' : Device}
    (hdev : ∀ k, k ∈ dev.keys ↔ (current.peers.lookup k).isSome)
    (h : (calculateDiff current desired).apply dev = some dev') (k : String) :
    k ∈ dev'.keys ↔ (desired.peers.lookup k).isSome := by
  rw [mem_keys_apply h, hdev]
  constructor
  · rintro (hm | ha | ⟨hnr, hcur⟩)
    · obtain ⟨e, he, rfl⟩ := List.mem_map.mp hm
      exact mem_map_fst_iff_lookup_isSome.mp (List.mem_map_of_mem _ (List.mem_of_mem_filter he))
    · obtain ⟨e, he, rfl⟩ := List.mem_map.mp ha
      exact mem_map_fst_iff_lookup_isSome.mp (List.mem_map_of_mem _ (List.mem_of_mem_filter he))
    · by_contra hd
      obtain ⟨e, he, rfl⟩ := List.mem_map.mp (mem_map_fst_iff_lookup_isSome.mpr hcur)
      exact hnr (List.mem_map_of_mem _ (List.mem_filter.mpr ⟨he,
        Option.isNone_iff_eq_none.mpr (Option.not_isSome_iff_eq_none.mp hd)⟩))
  · intro hk
    obtain ⟨e, he, rfl⟩ := List.mem_map.mp (mem_map_fst_iff_lookup_isSome.mpr hk)
    cases hc : current.peers.lookup e.1 with
    | none => exact .inr (.inl (List.mem_map_of_mem _ (List.mem_filter.mpr ⟨he, by simp [hc]⟩)))
    | some _ =>
      refine .inr (.inr ⟨fun hr => ?_, by simp [hc]⟩)
      obtain ⟨e', he', heq⟩ := List.mem_map.mp hr
      have hnone := (List.mem_filter.mp he').2
      rw [heq, Option.isNone_iff_eq_none] at hnone
      exact Option.not_isSome_iff_eq_none.mpr hnone hk

end WgMesh.WireGuard
