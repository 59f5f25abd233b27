import Mathlib.Data.List.Dedup
import WgMesh.WireGuard.AllowedIP

/-! # A WireGuard interface and the `wg set` commands the daemon issues

`wireguard.SetPeer` and `wireguard.RemovePeer` (package `wireguard`) build a
`wg set` command line and run it. This module models the command as the daemon
builds it (`WgCommand`, `WgCommand.args`) and, separately, what `wg set` does to the
interface's peer table (`Device`), as wg(8) and the kernel's allowed-IP trie do it:

* `peer K` creates the peer `K` when it is absent;
* `endpoint E` and `persistent-keepalive N` set those fields;
* `allowed-ips L` is parsed entry by entry (`parseAllowedips`), and `wg` refuses the
  whole line when an entry does not parse; otherwise `K`'s prefixes are replaced by
  those of `L`, host bits cleared, each moved to the end of `K`'s list as it is
  inserted, and each taken from every other peer that held it, since the trie maps a
  prefix to one peer;
* `remove` deletes the peer.

wg also refuses a key that is not 32 bytes in base64 and an endpoint it cannot resolve;
the model takes keys and endpoints as the daemon passes them.

The keys of the table stay distinct (`Device.nodup`), and no two peers share a prefix
(`Device.exclusive`, kept by every line: `exclusive_setPeers`). The spec lemmas are
`mem_keys_setPeer`, `mem_keys_removePeer` and `WgCommand.mem_keys_apply` for the keys,
and `peer?_setPeer` and `peer?_removePeer` for the peer under each key; from these,
`setPeer_comm`: two lines for different keys whose prefixes are disjoint commute.
-/

namespace WgMesh.WireGuard

/-- A peer as the interface holds it: the allowed prefixes are the trie's, masked, in the
order of the peer's list. -/
structure LivePeer where
  publicKey : String
  endpoint : String
  allowedIPs : List AllowedIP
  persistentKeepalive : Nat
deriving DecidableEq, Repr

/-- The fields of one `wg set <if> peer K ...` line as `wg` parsed them, `none` where the
line leaves a field out. -/
structure PeerSettings where
  endpoint : Option String
  allowedIPs : Option (List AllowedIP)
  persistentKeepalive : Option Nat
deriving DecidableEq, Repr

/-- The prefixes a line gives its peer, as the trie keeps them. -/
def PeerSettings.prefixes (s : PeerSettings) : List AllowedIP :=
  (s.allowedIPs.getD []).map AllowedIP.masked

/-- The settings written over a peer's fields: its prefixes are replaced, a prefix given
twice ending where it was given last. -/
def LivePeer.set (p : LivePeer) (s : PeerSettings) : LivePeer :=
  { p with
    endpoint := s.endpoint.getD p.endpoint
    allowedIPs := match s.allowedIPs with
      | some l => (l.map AllowedIP.masked).dedup
      | none => p.allowedIPs
    persistentKeepalive := s.persistentKeepalive.getD p.persistentKeepalive }

/-- What `allowed-ips` takes from a peer other than the one being set. -/
def LivePeer.release (p : LivePeer) (s : PeerSettings) : LivePeer :=
  { p with allowedIPs := p.allowedIPs.filter (· ∉ s.prefixes) }

@[simp] theorem LivePeer.set_publicKey (p : LivePeer) (s : PeerSettings) :
    (p.set s).publicKey = p.publicKey := rfl

@[simp] theorem LivePeer.release_publicKey (p : LivePeer) (s : PeerSettings) :
    (p.release s).publicKey = p.publicKey := rfl

@[simp] theorem LivePeer.release_endpoint (p : LivePeer) (s : PeerSettings) :
    (p.release s).endpoint = p.endpoint := rfl

@[simp] theorem LivePeer.release_persistentKeepalive (p : LivePeer) (s : PeerSettings) :
    (p.release s).persistentKeepalive = p.persistentKeepalive := rfl

/-- The peer table after a `wg set` line for `key`: set in place when present,
appended when new. -/
def setPeers (key : String) (s : PeerSettings) (ps : List LivePeer) : List LivePeer :=
  if key ∈ ps.map LivePeer.publicKey then
    ps.map fun p => if p.publicKey = key then p.set s else p.release s
  else ps.map (·.release s) ++ [LivePeer.set ⟨key, "", [], 0⟩ s]

theorem keys_setPeers (key : String) (s : PeerSettings) (ps : List LivePeer) :
    (setPeers key s ps).map LivePeer.publicKey =
      if key ∈ ps.map LivePeer.publicKey then ps.map LivePeer.publicKey
      else ps.map LivePeer.publicKey ++ [key] := by
  unfold setPeers
  split_ifs <;> simp [Function.comp_def, apply_ite LivePeer.publicKey]

theorem nodup_setPeers (key : String) (s : PeerSettings) {ps : List LivePeer}
    (h : (ps.map LivePeer.publicKey).Nodup) : ((setPeers key s ps).map LivePeer.publicKey).Nodup := by
  rw [keys_setPeers]
  split_ifs with hk
  · exact h
  · exact List.Nodup.append h (List.nodup_singleton key) (by simpa using hk)

/-! ## Cryptokey routing -/

/-- WireGuard routes a prefix to one peer: no two peers of a table allow a common
prefix. -/
def PrefixesExclusive (ps : List LivePeer) : Prop :=
  ∀ p ∈ ps, ∀ q ∈ ps, p.publicKey ≠ q.publicKey → ∀ ip ∈ p.allowedIPs, ip ∉ q.allowedIPs

theorem LivePeer.mem_release {p : LivePeer} {s : PeerSettings} {ip : AllowedIP}
    (h : ip ∈ (p.release s).allowedIPs) : ip ∈ p.allowedIPs ∧ ip ∉ s.prefixes := by
  simpa [release] using h

theorem LivePeer.mem_set {p : LivePeer} {s : PeerSettings} {ip : AllowedIP}
    (h : ip ∈ (p.set s).allowedIPs) : ip ∈ s.prefixes ∨ (s.allowedIPs = none ∧ ip ∈ p.allowedIPs) := by
  unfold set at h
  cases hs : s.allowedIPs <;> simp_all [PeerSettings.prefixes]

/-- Each peer after a `wg set` line, by the peer it was: the one the line sets holds the
line's prefixes (its own when the line gives none), and every other keeps only prefixes
the line does not give. -/
theorem mem_setPeers_cases {ps : List LivePeer} {key : String} {s : PeerSettings} {q' : LivePeer}
    (hq' : q' ∈ setPeers key s ps) :
    (q'.publicKey = key ∧ ∀ ip ∈ q'.allowedIPs, ip ∈ s.prefixes ∨
        (s.allowedIPs = none ∧ ∃ q ∈ ps, q.publicKey = key ∧ ip ∈ q.allowedIPs)) ∨
      (q'.publicKey ≠ key ∧ ∃ q ∈ ps, q.publicKey = q'.publicKey ∧
        ∀ ip ∈ q'.allowedIPs, ip ∈ q.allowedIPs ∧ ip ∉ s.prefixes) := by
  simp only [setPeers] at hq'
  split_ifs at hq' with hkey
  · obtain ⟨q, hq, rfl⟩ := List.mem_map.mp hq'
    split_ifs with hk
    · refine .inl ⟨hk, fun ip hip => ?_⟩
      rcases LivePeer.mem_set hip with h | ⟨hn, h⟩
      exacts [.inl h, .inr ⟨hn, q, hq, hk, h⟩]
    · exact .inr ⟨by simpa using hk, q, hq, by simp, fun ip hip => LivePeer.mem_release hip⟩
  · rcases List.mem_append.mp hq' with hq' | hq'
    · obtain ⟨q, hq, rfl⟩ := List.mem_map.mp hq'
      refine .inr ⟨?_, q, hq, by simp, fun ip hip => LivePeer.mem_release hip⟩
      simp only [LivePeer.release_publicKey]
      rintro rfl
      exact hkey (List.mem_map_of_mem _ hq)
    · obtain rfl := List.mem_singleton.mp hq'
      refine .inl ⟨rfl, fun ip hip => ?_⟩
      rcases LivePeer.mem_set hip with h | ⟨-, h⟩
      exacts [.inl h, absurd h (List.not_mem_nil _)]

theorem exclusive_setPeers {ps : List LivePeer} (hd : PrefixesExclusive ps) (key : String)
    (s : PeerSettings) : PrefixesExclusive (setPeers key s ps) := by
  have hpeer := @mem_setPeers_cases ps key s
  intro p' hp' q' hq' hne ip hp hq
  rcases hpeer hp' with ⟨hpk, hpip⟩ | ⟨hpk, p, hp₀, hpkey, hpip⟩ <;>
    rcases hpeer hq' with ⟨hqk, hqip⟩ | ⟨hqk, q, hq₀, hqkey, hqip⟩
  · exact hne (hpk.trans hqk.symm)
  · rcases hpip ip hp with h | ⟨-, p, hp₀, hpkey, h⟩
    · exact (hqip ip hq).2 h
    · exact hd p hp₀ q hq₀ (by rw [hpkey, hqkey]; exact Ne.symm hqk) ip h (hqip ip hq).1
  · rcases hqip ip hq with h | ⟨-, q, hq₀, hqkey, h⟩
    · exact (hpip ip hp).2 h
    · exact hd p hp₀ q hq₀ (by rw [hpkey, hqkey]; exact hpk) ip (hpip ip hp).1 h
  · exact hd p hp₀ q hq₀ (by rw [hpkey, hqkey]; exact hne) ip (hpip ip hp).1 (hqip ip hq).1

/-! ## The interface -/

/-- The peers of one interface, one per public key, no two sharing a prefix. -/
structure Device where
  peers : List LivePeer
  nodup : (peers.map LivePeer.publicKey).Nodup
  exclusive : PrefixesExclusive peers

/-- The public keys configured on the interface. -/
def Device.keys (d : Device) : List String := d.peers.map LivePeer.publicKey

/-- An interface with no peers. -/
def Device.empty : Device := ⟨[], List.nodup_nil, fun _ hp => absurd hp (List.not_mem_nil _)⟩

/-- `wg set <if> peer key ...` with settings `wg` accepted. -/
def Device.setPeer (d : Device) (key : String) (s : PeerSettings) : Device :=
  ⟨setPeers key s d.peers, nodup_setPeers key s d.nodup, exclusive_setPeers d.exclusive key s⟩

/-- `wg set <if> peer key remove`. -/
def Device.removePeer (d : Device) (key : String) : Device :=
  ⟨d.peers.filter (·.publicKey ≠ key), d.nodup.sublist ((List.filter_sublist _).map _),
    fun p hp q hq => d.exclusive p (List.mem_of_mem_filter hp) q (List.mem_of_mem_filter hq)⟩

/-- The interface routes the prefix `x` to the key `k`. -/
def Device.Routes (d : Device) (k : String) (x : AllowedIP) : Prop :=
  ∃ q ∈ d.peers, q.publicKey = k ∧ x ∈ q.allowedIPs

instance (d : Device) (k : String) (x : AllowedIP) : Decidable (d.Routes k x) :=
  inferInstanceAs (Decidable (∃ q ∈ d.peers, q.publicKey = k ∧ x ∈ q.allowedIPs))

theorem Device.routes_setPeer {d : Device} {key k : String} {s : PeerSettings} {x : AllowedIP}
    (h : (d.setPeer key s).Routes k x) : d.Routes k x ∨ (k = key ∧ x ∈ s.prefixes) := by
  obtain ⟨q', hq', rfl, hx⟩ := h
  rcases mem_setPeers_cases hq' with ⟨hk, hip⟩ | ⟨-, q, hq, hkq, hip⟩
  · rcases hip x hx with hs | ⟨-, q, hq, hkq, hxq⟩
    · exact .inr ⟨hk, hs⟩
    · exact .inl ⟨q, hq, hkq.trans hk.symm, hxq⟩
  · exact .inl ⟨q, hq, hkq, (hip x hx).1⟩

theorem Device.routes_removePeer {d : Device} {key k : String} {x : AllowedIP}
    (h : (d.removePeer key).Routes k x) : d.Routes k x :=
  let ⟨q, hq, hk, hx⟩ := h
  ⟨q, List.mem_of_mem_filter hq, hk, hx⟩

theorem Device.mem_keys_setPeer (d : Device) (key : String) (s : PeerSettings) (k : String) :
    k ∈ (d.setPeer key s).keys ↔ k = key ∨ k ∈ d.keys := by
  unfold keys setPeer
  dsimp only
  rw [keys_setPeers]
  split_ifs with hk
  · constructor
    · exact Or.inr
    · rintro (rfl | h)
      · exact hk
      · exact h
  · simp [or_comm]

theorem Device.mem_keys_removePeer (d : Device) (key k : String) :
    k ∈ (d.removePeer key).keys ↔ k ≠ key ∧ k ∈ d.keys := by
  unfold keys removePeer
  simp only [List.mem_map, List.mem_filter, decide_eq_true_eq]
  constructor
  · rintro ⟨p, ⟨hp, hne⟩, rfl⟩
    exact ⟨hne, p, hp, rfl⟩
  · rintro ⟨hne, p, hp, rfl⟩
    exact ⟨p, ⟨hp, hne⟩, rfl⟩

/-! ## The commands the daemon builds -/

/-- The two invocations of `wg` the daemon makes: `SetPeer(iface, pubKey, psk,
endpoint, allowedIPs)` and `RemovePeer(iface, pubKey)`. -/
inductive WgCommand
  | setPeer (iface pubKey : String) (psk : List UInt8) (endpoint allowedIPs : String)
  | removePeer (iface pubKey : String)
deriving DecidableEq, Repr

/-- The all-zero pre-shared key, which `SetPeer` does not pass on. -/
def zeroKey : List UInt8 := List.replicate 32 0

/-- The arguments of the `wg` invocation. (A non-zero pre-shared key goes in on
standard input, base64-encoded.) -/
def WgCommand.args : WgCommand → List String
  | .setPeer iface pubKey psk endpoint allowedIPs =>
    ["set", iface, "peer", pubKey] ++
      (if psk ≠ zeroKey then ["preshared-key", "/dev/stdin"] else []) ++
      (if endpoint ≠ "" then ["endpoint", endpoint] else []) ++
      (if allowedIPs ≠ "" then ["allowed-ips", allowedIPs] else []) ++
      ["persistent-keepalive", "25"]
  | .removePeer iface pubKey => ["set", iface, "peer", pubKey, "remove"]

/-- The public key a command is about. -/
def WgCommand.pubKey : WgCommand → String
  | .setPeer _ pubKey .. => pubKey
  | .removePeer _ pubKey => pubKey

/-- The settings `wg` reads from `SetPeer`'s arguments; `none` when an allowed IP does
not parse. -/
def setPeerSettings (endpoint allowedIPs : String) : Option PeerSettings :=
  (if allowedIPs ≠ "" then (parseAllowedips allowedIPs).map some else some none).map fun ips =>
    ⟨if endpoint ≠ "" then some endpoint else none, ips, some 25⟩

/-- What the command does to the interface when `wg` runs; `none` when it refuses the
line. -/
def WgCommand.apply : WgCommand → Device → Option Device
  | .setPeer _ pubKey _ endpoint allowedIPs, d => (setPeerSettings endpoint allowedIPs).map (d.setPeer pubKey)
  | .removePeer _ pubKey, d => some (d.removePeer pubKey)

theorem WgCommand.apply_eq_none (c : WgCommand) (d d' : Device) :
    c.apply d = none ↔ c.apply d' = none := by
  cases c <;> simp [apply]

theorem WgCommand.mem_keys_apply {c : WgCommand} {d d' : Device} (h : c.apply d = some d') (k : String) :
    k ∈ d'.keys ↔
      match c with
      | .setPeer .. => k = c.pubKey ∨ k ∈ d.keys
      | .removePeer .. => k ≠ c.pubKey ∧ k ∈ d.keys := by
  cases c with
  | setPeer =>
    obtain ⟨s, -, rfl⟩ := Option.map_eq_some'.mp h
    exact Device.mem_keys_setPeer _ _ _ _
  | removePeer =>
    cases h
    exact Device.mem_keys_removePeer _ _ _

/-! ## The interface per public key -/

/-- The peer the interface holds under a key. The peers' order in the table is the
order they were created in; what `wg` routes by is the peer of each key. -/
def Device.peer? (d : Device) (k : String) : Option LivePeer := d.peers.find? (·.publicKey = k)

theorem find?_map_publicKey {f : LivePeer → LivePeer} (hf : ∀ p, (f p).publicKey = p.publicKey)
    (ps : List LivePeer) (k : String) :
    (ps.map f).find? (·.publicKey = k) = (ps.find? (·.publicKey = k)).map f := by
  induction ps with
  | nil => rfl
  | cons p ps ih => by_cases h : p.publicKey = k <;> simp [List.find?_cons, hf, h, ih]

theorem Device.peer?_setPeer (d : Device) (key : String) (s : PeerSettings) (k : String) :
    (d.setPeer key s).peer? k =
      if k = key then some (((d.peer? key).getD ⟨key, "", [], 0⟩).set s)
      else (d.peer? k).map (·.release s) := by
  have hf : ∀ p : LivePeer, ((fun p : LivePeer => if p.publicKey = key then p.set s else p.release s) p).publicKey = p.publicKey :=
    fun p => by dsimp only; split_ifs <;> simp
  unfold peer? setPeer setPeers
  dsimp only
  split_ifs with hkey hk hk
  · subst hk
    rw [find?_map_publicKey hf]
    cases hp : d.peers.find? (·.publicKey = k) with
    | none =>
      obtain ⟨q, hq, rfl⟩ := List.mem_map.mp hkey
      exact absurd (decide_eq_true rfl) (List.find?_eq_none.mp hp q hq)
    | some p => simp [show p.publicKey = k by simpa using List.find?_some hp]
  · rw [find?_map_publicKey hf]
    refine Option.map_congr fun p hp => ?_
    have : p.publicKey = k := by simpa using List.find?_some hp
    simp [this, hk]
  · subst hk
    have hnone : d.peers.find? (·.publicKey = k) = none :=
      List.find?_eq_none.mpr fun p hp hpk => hkey (List.mem_map.mpr ⟨p, hp, by simpa using hpk⟩)
    rw [List.find?_append, find?_map_publicKey (fun p => LivePeer.release_publicKey p s), hnone]
    simp
  · rw [List.find?_append, find?_map_publicKey (fun p => LivePeer.release_publicKey p s)]
    cases d.peers.find? (·.publicKey = k) <;> simp [Ne.symm hk]

theorem find?_filter_publicKey {key k : String} (hk : k ≠ key) (ps : List LivePeer) :
    (ps.filter (·.publicKey ≠ key)).find? (·.publicKey = k) = ps.find? (·.publicKey = k) := by
  induction ps with
  | nil => rfl
  | cons p ps ih =>
    by_cases h' : p.publicKey = key
    · rw [List.filter_cons_of_neg (by simpa using h'), ih,
        List.find?_cons_of_neg _ (by simpa [h'] using hk.symm)]
    · rw [List.filter_cons_of_pos (by simpa using h'), List.find?_cons, List.find?_cons, ih]

theorem Device.peer?_removePeer (d : Device) (key k : String) :
    (d.removePeer key).peer? k = if k = key then none else d.peer? k := by
  unfold peer? removePeer
  split_ifs with hk
  · subst hk
    exact List.find?_eq_none.mpr fun p hp hpk => by simp_all
  · exact find?_filter_publicKey hk d.peers

theorem WgCommand.peer?_apply_congr (c : WgCommand) {d d' : Device} (h : d.peer? = d'.peer?) :
    (c.apply d).map Device.peer? = (c.apply d').map Device.peer? := by
  cases c with
  | setPeer =>
    simp only [apply, Option.map_map]
    refine Option.map_congr fun s _ => funext fun k => ?_
    simp only [Function.comp_apply, Device.peer?_setPeer, h]
  | removePeer =>
    simp only [apply, Option.map_some']
    exact congrArg some (funext fun k => by simp only [Device.peer?_removePeer, h])

/-! ## Two `wg set` lines that commute -/

theorem LivePeer.release_comm (p : LivePeer) (s₁ s₂ : PeerSettings) :
    (p.release s₁).release s₂ = (p.release s₂).release s₁ := by
  simp [release, List.filter_filter, Bool.and_comm]

theorem LivePeer.set_release (p : LivePeer) {s₁ s₂ : PeerSettings}
    (h : ∀ x ∈ s₂.prefixes, x ∉ s₁.prefixes) :
    (p.release s₁).set s₂ = (p.set s₂).release s₁ := by
  obtain ⟨e₂, _ | L₂, n₂⟩ := s₂
  · rfl
  · have hkeep : ((L₂.map AllowedIP.masked).dedup).filter (· ∉ s₁.prefixes) =
        (L₂.map AllowedIP.masked).dedup :=
      List.filter_eq_self.mpr fun x hx => by simpa using h x (List.mem_dedup.mp hx)
    simp only [set, release, hkeep]

theorem Device.setPeer_comm (d : Device) {k₁ k₂ : String} {s₁ s₂ : PeerSettings} (hk : k₁ ≠ k₂)
    (h : ∀ x ∈ s₁.prefixes, x ∉ s₂.prefixes) :
    ((d.setPeer k₁ s₁).setPeer k₂ s₂).peer? = ((d.setPeer k₂ s₂).setPeer k₁ s₁).peer? := by
  have h' : ∀ x ∈ s₂.prefixes, x ∉ s₁.prefixes := fun x hx hx' => h x hx' hx
  have hnew : ∀ (k : String) (s : PeerSettings), (⟨k, "", [], 0⟩ : LivePeer).release s = ⟨k, "", [], 0⟩ :=
    fun _ _ => rfl
  funext k
  simp only [peer?_setPeer]
  by_cases h₁ : k = k₁ <;> by_cases h₂ : k = k₂
  · exact absurd (h₁.symm.trans h₂) hk
  · subst h₁
    rw [if_neg h₂, if_pos rfl, if_pos rfl, if_neg hk]
    cases d.peer? k <;> simp [← LivePeer.set_release _ h, hnew]
  · subst h₂
    rw [if_pos rfl, if_neg h₁, if_neg (Ne.symm hk), if_pos rfl]
    cases d.peer? k <;> simp [← LivePeer.set_release _ h', hnew]
  · rw [if_neg h₂, if_neg h₁, if_neg h₁, if_neg h₂]
    cases d.peer? k <;> simp [LivePeer.release_comm]

theorem Device.removePeer_comm (d : Device) (k₁ k₂ : String) :
    ((d.removePeer k₁).removePeer k₂).peer? = ((d.removePeer k₂).removePeer k₁).peer? := by
  funext k
  simp only [peer?_removePeer]
  split_ifs <;> rfl

end WgMesh.WireGuard
