import WgMesh.Daemon.Collision
import WgMesh.Discovery.Exchange

/-! # Start-up and the status log

What the daemon does with public keys outside the exchange: `initLocalNode` takes the
local key from the state file `/var/lib/wgmesh/<iface>.json` when it decodes, and
`RunWithDHTDiscovery` logs it as `WGPubKey[:16]`; `printStatus` logs every active peer
as `WGPubKey[:8]` every 30 s. Neither checks the length of the key it slices, and
nothing checks the keys that reach the store.

* `short_keys_panic` — a state file `{}` stops the daemon at start-up, and a HELLO
  whose `known_peers` lists a three-byte key stops it at the next status log.
-/

namespace WgMesh.Daemon

open WgMesh.Go WgMesh.Crypto WgMesh.Discovery

/-- `localNodeState`, the JSON object of the state file; the fields of `{}` decode to
empty strings. -/
structure LocalNodeState where
  wgPubKey : String
  wgPrivateKey : String
deriving DecidableEq, Repr

/-- `loadLocalNode` once the file is read and decoded. -/
def loadLocalNode (state : LocalNodeState) : LocalNode :=
  ⟨state.wgPubKey, state.wgPrivateKey, "", "", []⟩

section Startup

variable (sum256 : List UInt8 → List UInt8)

/-- `initLocalNode`: the node of a state file that decodes, with its mesh IP derived
and the advertised routes set; otherwise the generated key pair `(private, public)`. -/
def initLocalNode (cfg : Config) (loaded : Option LocalNodeState)
    (generated : String × String) : LocalNode :=
  match loaded with
  | some state =>
    { loadLocalNode state with
      meshIP := deriveMeshIP sum256 cfg.keys.meshSubnet state.wgPubKey cfg.secret
      routableNetworks := cfg.advertiseRoutes }
  | none =>
    ⟨generated.2, generated.1, deriveMeshIP sum256 cfg.keys.meshSubnet generated.2 cfg.secret, "",
      cfg.advertiseRoutes⟩

/-- `RunWithDHTDiscovery` up to its first log line, `WGPubKey[:16]`; `none` is the
panic. -/
def runWithDHTDiscoveryStart (cfg : Config) (loaded : Option LocalNodeState)
    (generated : String × String) : Option LocalNode :=
  let node := initLocalNode sum256 cfg loaded generated
  (sliceTo node.wgPubKey 16).map fun _ => node

end Startup

/-- The loop of `printStatus`: each peer's `WGPubKey[:8]`, in order, up to the first
panic. -/
def keyPrefixes : List PeerInfo → Option (List (List UInt8))
  | [] => some []
  | p :: ps => (sliceTo p.wgPubKey 8).bind fun b => (keyPrefixes ps).map (b :: ·)

/-- `printStatus` at `now`: the key prefixes it logs for the active peers. -/
def printStatus (store : PeerStore) (now : Int) : Option (List (List UInt8)) :=
  keyPrefixes (store.getActive now)

/-- A state file `{}` makes `RunWithDHTDiscovery` panic on its first log line,
whatever the configuration, the hash and the key pair it would have generated. And a
daemon that accepts a HELLO whose `known_peers` lists the key `abc` panics at its
next status log. -/
theorem short_keys_panic (sum256 : List UInt8 → List UInt8) (cfg : Config)
    (generated : String × String) (P : Primitives) :
    let nonce : Bytes := List.replicate 12 0
    let now := unix 1700000000
    let hello := sealEnvelope P messageTypeHello
      (createAnnouncement sampleMember.wgPubKey sampleMember.meshIP sampleMember.wgEndpoint []
        [⟨"abc", "10.42.0.9", "192.0.2.9:51820"⟩] now)
      sampleConfig.keys.gossipKey nonce
    runWithDHTDiscoveryStart sum256 cfg (some ⟨"", ""⟩) generated = none ∧
      printStatus (handleMessage P sampleConfig now nonce hello memberAddr
        (Node.init sampleLocal)).1.store now.nanos = none := by
  intro nonce now hello
  refine ⟨rfl, ?_⟩
  rw [handleMessage_of_ok (openEnvelope_sealEnvelope_of_fresh _ _ (by decide) rfl
    (fresh_createAnnouncement _ _ _ _ _ (by decide) (by decide) (by decide)))]
  rfl

end WgMesh.Daemon
