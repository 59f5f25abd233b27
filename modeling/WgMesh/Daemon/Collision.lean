import WgMesh.Daemon.Config
import WgMesh.Daemon.PeerStore
import WgMesh.Go.Basic

/-! # Mesh IP collisions

A node's mesh IP is `10.<subnet>.<hi>.<lo>`, the last two octets taken from SHA-256
of its public key and the secret, so two keys can land on one address.
`DetectCollisions` finds the stored peers that share an address, `DeterministicWinner`
lets the lower key keep it, and `CheckAndResolveCollisions` re-derives the local
node's address, with nonce 1, when the local node is the loser.

SHA-256 enters as a parameter `sum256` (`sha256.Sum256` of the input's bytes): nothing
here depends on which function it is.

* `mem_detectCollisions` — every reported collision is between two stored peers
  with one non-empty mesh IP and different keys;
* `checkAndResolveCollisions_of_not_stored` — as long as the local key is not a key
  of the store, collision handling leaves the local node and the interface address
  as they were;
* `collision_with_local_node_unresolved` — so a stored peer with a smaller key on
  the local node's address does not move the local node.
-/

namespace WgMesh.Daemon

open WgMesh.Go

/-! ## Detection -/

structure CollisionInfo where
  meshIP : String
  peer1 : PeerInfo
  peer2 : PeerInfo
deriving DecidableEq, Repr

/-- The loop of `DetectCollisions`: `ipMap` holds the first peer seen with each
mesh IP; a later peer with that IP and another key is reported against it. -/
def detectLoop : List (String × PeerInfo) → List PeerInfo → List CollisionInfo
  | _, [] => []
  | ipMap, peer :: peers =>
    if peer.meshIP = "" then detectLoop ipMap peers
    else
      match ipMap.lookup peer.meshIP with
      | some existing =>
        (if existing.wgPubKey ≠ peer.wgPubKey then [⟨peer.meshIP, existing, peer⟩] else []) ++
          detectLoop ipMap peers
      | none => detectLoop ((peer.meshIP, peer) :: ipMap) peers

/-- `DetectCollisions`, in the store's iteration order. -/
def PeerStore.detectCollisions (ps : PeerStore) : List CollisionInfo := detectLoop [] ps.peers

/-- `DeterministicWinner`: the winner and the loser; the lower key wins. -/
def deterministicWinner (peer1 peer2 : PeerInfo) : PeerInfo × PeerInfo :=
  if stringsCompare peer1.wgPubKey peer2.wgPubKey < 0 then (peer1, peer2) else (peer2, peer1)

theorem lookup_meshIP {ipMap : List (String × PeerInfo)} {ip : String} {p : PeerInfo}
    (hmap : ∀ e ∈ ipMap, e.2.meshIP = e.1) (h : ipMap.lookup ip = some p) : p.meshIP = ip := by
  induction ipMap with
  | nil => cases h
  | cons e ipMap ih =>
    obtain ⟨ip', q⟩ := e
    rw [List.lookup_cons] at h
    split at h
    · cases h
      rename_i heq
      rw [hmap _ (List.mem_cons_self _ _), eq_of_beq heq]
    · exact ih (fun e he => hmap e (List.mem_cons_of_mem _ he)) h

theorem mem_detectLoop {S : List PeerInfo} {ipMap : List (String × PeerInfo)}
    {peers : List PeerInfo} (hpeers : ∀ p ∈ peers, p ∈ S) (hmap : ∀ e ∈ ipMap, e.2 ∈ S)
    (hip : ∀ e ∈ ipMap, e.2.meshIP = e.1) {c : CollisionInfo} (hc : c ∈ detectLoop ipMap peers) :
    c.peer1 ∈ S ∧ c.peer2 ∈ S ∧ c.meshIP ≠ "" ∧ c.peer1.meshIP = c.meshIP ∧
      c.peer2.meshIP = c.meshIP ∧ c.peer1.wgPubKey ≠ c.peer2.wgPubKey := by
  induction peers generalizing ipMap with
  | nil => cases hc
  | cons p ps ih =>
    have hp := hpeers p (List.mem_cons_self _ _)
    have hps := fun q hq => hpeers q (List.mem_cons_of_mem _ hq)
    unfold detectLoop at hc
    split_ifs at hc with hempty
    · exact ih hps hmap hip hc
    · split at hc
      · rename_i existing hlook
        rcases List.mem_append.mp hc with hnew | hrest
        · split_ifs at hnew with hne
          · rw [List.mem_singleton] at hnew
            subst hnew
            exact ⟨hmap _ (mem_of_lookup_eq_some hlook), hp, hempty, lookup_meshIP hip hlook, rfl, hne⟩
          · cases hnew
        · exact ih hps hmap hip hrest
      · refine ih hps (fun e he => ?_) (fun e he => ?_) hc
        · rcases List.mem_cons.mp he with rfl | he
          · exact hp
          · exact hmap e he
        · rcases List.mem_cons.mp he with rfl | he
          · rfl
          · exact hip e he

theorem mem_detectCollisions {ps : PeerStore} {c : CollisionInfo}
    (hc : c ∈ ps.detectCollisions) :
    c.peer1 ∈ ps.peers ∧ c.peer2 ∈ ps.peers ∧ c.meshIP ≠ "" ∧ c.peer1.meshIP = c.meshIP ∧
      c.peer2.meshIP = c.meshIP ∧ c.peer1.wgPubKey ≠ c.peer2.wgPubKey :=
  mem_detectLoop (fun _ h => h) (fun _ h => by cases h) (fun _ h => by cases h) hc

/-- The peers `CheckAndResolveCollisions` designates as losers, one per reported
collision. -/
def PeerStore.collisionLosers (ps : PeerStore) : List PeerInfo :=
  ps.detectCollisions.map fun c => (deterministicWinner c.peer1 c.peer2).2

/-- Three holders of one address, met in the order `zzzz`, `aaaa`, `mmmm`: each later
one is paired with the first only, so `zzzz` loses twice and `mmmm` is never told to
move, though `aaaa` holds its address with a smaller key. -/
theorem collision_spares_middle_key :
    let f : PeerInfo := ⟨"zzzz-peer-key", "10.42.0.7", "192.0.2.6:51820", [], 0, []⟩
    let a : PeerInfo := ⟨"aaaa-peer-key", "10.42.0.7", "192.0.2.1:51820", [], 0, []⟩
    let m : PeerInfo := ⟨"mmmm-peer-key", "10.42.0.7", "192.0.2.13:51820", [], 0, []⟩
    let store : PeerStore := ⟨[f, a, m], by decide⟩
    store.collisionLosers = [f, f] ∧
      a.meshIP = m.meshIP ∧ a.meshIP ≠ "" ∧ stringsCompare a.wgPubKey m.wgPubKey < 0 := by
  decide

/-! ## Re-deriving an address -/

section Derivation

variable (sum256 : List UInt8 → List UInt8)

/-- The address both derivations build from their hash input: `10.<subnet[0]>.<hi>.<lo>`
from the first two bytes of its SHA-256, big-endian, with `0` and `65535` moved
inward. -/
def meshIPOfInput (meshSubnet : UInt8 × UInt8) (input : String) : String :=
  let hash := sum256 (bytesOf input)
  let suffix : UInt16 := (hash.getD 1 0).toUInt16 ||| ((hash.getD 0 0).toUInt16 <<< 8)
  let suffix : UInt16 := if suffix = 0 then 1 else if suffix = 65535 then 65534 else suffix
  "10." ++ toString meshSubnet.1 ++ "." ++ toString ((suffix >>> 8) &&& 0xFF) ++ "." ++
    toString (suffix &&& 0xFF)

/-- `crypto.DeriveMeshIP`: hashes the key followed by the secret. -/
def deriveMeshIP (meshSubnet : UInt8 × UInt8) (wgPubKey secret : String) : String :=
  meshIPOfInput sum256 meshSubnet (wgPubKey ++ secret)

/-- `DeriveMeshIPWithNonce`: hashes `"%s%s|nonce=%d"` of the key, the secret and the
nonce. -/
def deriveMeshIPWithNonce (meshSubnet : UInt8 × UInt8) (wgPubKey secret : String)
    (nonce : Int) : String :=
  meshIPOfInput sum256 meshSubnet (wgPubKey ++ secret ++ "|nonce=" ++ toString nonce)

/-- `ResolveCollision`: the loser's address with nonce 1. -/
def resolveCollision (collision : CollisionInfo) (meshSubnet : UInt8 × UInt8)
    (secret : String) : String :=
  deriveMeshIPWithNonce sum256 meshSubnet
    (deterministicWinner collision.peer1 collision.peer2).2.wgPubKey secret 1

/-- `setInterfaceAddress` on Linux: the addresses are flushed, then the new one is
added; `addrOk` says whether `ip addr add` succeeds. -/
def setInterfaceAddress (addrOk : String → Bool) (address : String) : Option String :=
  if addrOk address then some address else none

/-- One collision as `CheckAndResolveCollisions` handles it. The remote-loser branch
only computes and logs the address the loser should move to. -/
def resolveOne (cfg : Config) (addrOk : String → Bool) (state : LocalNode × Option String)
    (collision : CollisionInfo) : LocalNode × Option String :=
  let node := state.1
  if (deterministicWinner collision.peer1 collision.peer2).2.wgPubKey = node.wgPubKey then
    let newIP := deriveMeshIPWithNonce sum256 cfg.keys.meshSubnet node.wgPubKey cfg.secret 1
    ({ node with meshIP := newIP }, setInterfaceAddress addrOk (newIP ++ "/16"))
  else state

/-- `CheckAndResolveCollisions` on the local node and the interface's address. -/
def checkAndResolveCollisions (cfg : Config) (addrOk : String → Bool) (store : PeerStore)
    (node : LocalNode) (address : Option String) : LocalNode × Option String :=
  let collisions := store.detectCollisions
  if collisions.length = 0 then (node, address)
  else collisions.foldl (resolveOne sum256 cfg addrOk) (node, address)

/-- Collision handling moves the local node only when it loses a reported collision,
and collisions are reported between stored peers only: while the local key is not
stored, the local node and the interface address stay as they are. -/
theorem checkAndResolveCollisions_of_not_stored (cfg : Config) (addrOk : String → Bool)
    {store : PeerStore} {node : LocalNode} (address : Option String)
    (hnode : ∀ p ∈ store.peers, p.wgPubKey ≠ node.wgPubKey) :
    checkAndResolveCollisions sum256 cfg addrOk store node address = (node, address) := by
  dsimp only [checkAndResolveCollisions]
  split_ifs
  · rfl
  · have hfold : ∀ (cs : List CollisionInfo), (∀ c ∈ cs, c ∈ store.detectCollisions) →
        cs.foldl (resolveOne sum256 cfg addrOk) (node, address) = (node, address) := by
      intro cs hcs
      induction cs with
      | nil => rfl
      | cons c cs ih =>
        have hc := mem_detectCollisions (hcs c (List.mem_cons_self _ _))
        have hloser : (deterministicWinner c.peer1 c.peer2).2.wgPubKey ≠ node.wgPubKey := by
          unfold deterministicWinner
          split_ifs
          · exact hnode _ hc.2.1
          · exact hnode _ hc.1
        rw [List.foldl_cons, resolveOne, if_neg hloser]
        exact ih fun c' hc' => hcs c' (List.mem_cons_of_mem _ hc')
    exact hfold _ fun _ h => h

end Derivation

/-- A stored peer with a smaller key holds the local node's mesh IP; collision handling
leaves the local node on that address, whatever SHA-256 and `ip addr add` do. -/
theorem collision_with_local_node_unresolved (sum256 : List UInt8 → List UInt8)
    (addrOk : String → Bool) :
    let peer : PeerInfo := ⟨"aaaa-peer-key", "10.42.0.7", "192.0.2.7:51820", [], 0, []⟩
    let node : LocalNode := ⟨"zzzz-local-key", "", "10.42.0.7", "0.0.0.0:51820", []⟩
    let store := PeerStore.empty.update peer "dht" 0
    (∃ p ∈ store.peers, p.meshIP = node.meshIP ∧ stringsCompare p.wgPubKey node.wgPubKey < 0) ∧
      checkAndResolveCollisions sum256 sampleConfig addrOk store node (some "10.42.0.7/16") =
        (node, some "10.42.0.7/16") := by
  intro peer node store
  refine ⟨⟨store.updated peer "dht" 0, List.mem_singleton_self _, rfl, by decide⟩, ?_⟩
  exact checkAndResolveCollisions_of_not_stored sum256 sampleConfig addrOk _ (by decide)

end WgMesh.Daemon
