import WgMesh.Discovery.Exchange

/-! # LAN discovery

`LANDiscovery` (package `discovery`) multicasts the local node's sealed announcement
and merges the announcements it hears. Its `listenLoop` opens each datagram with the
gossip key, skips the local key, and resolves the sender's endpoint with
`resolveEndpoint`, its own copy of the exchange's `resolvePeerEndpoint`.

The two copies differ where the advertised endpoint parses with a real host: the LAN
copy returns the advertised text as it is, the exchange rebuilds it with
`JoinHostPort`. The sender is the address `ReadFromUDP` returns, never nil, and the
text of a non-nil IP is never empty (`IP.String()` prints an empty IP as `<nil>`).

* `resolvers_agree` — the two copies agree up to `JoinHostPort` of `SplitHostPort`,
  and each branch of the rule (spec T7) gives what it says.
-/

namespace WgMesh.Discovery

open WgMesh.Go WgMesh.Crypto WgMesh.Daemon

def lanMethod : String := "lan"

/-- `resolveEndpoint` (LAN): a parseable advertised endpoint with an empty, `0.0.0.0` or
`::` host becomes the sender's IP with its port; any other parseable one is returned
verbatim; an unparseable one becomes the sender's IP with `DefaultWGPort`. -/
def resolveEndpoint (advertised : String) (sender : UDPAddr) : String :=
  match splitHostPort advertised with
  | .ok (host, port) =>
    if host = "" ∨ host = "0.0.0.0" ∨ host = "::" then joinHostPort sender.ip port
    else advertised
  | .error _ => joinHostPort sender.ip (toString defaultWGPort)

/-- `JoinHostPort` of `SplitHostPort`: the canonical text of an endpoint that parses;
one that does not is left as it is. -/
def normalizeHostPort (endpoint : String) : String :=
  match splitHostPort endpoint with
  | .ok (host, port) => joinHostPort host port
  | .error _ => endpoint

theorem normalizeHostPort_of_split {endpoint host port : String}
    (h : splitHostPort endpoint = .ok (host, port)) :
    normalizeHostPort endpoint = joinHostPort host port := by
  rw [normalizeHostPort, h]

theorem normalizeHostPort_joinHostPort {host port : String} (hj : Joinable host port) :
    normalizeHostPort (joinHostPort host port) = joinHostPort host port :=
  normalizeHostPort_of_split (splitHostPort_joinHostPort hj)

/-! ## The three branches of both copies -/

section Branches

variable {advertised host port : String} {sender : UDPAddr}

theorem resolve_of_wildcard (hip : sender.ip ≠ "")
    (hs : splitHostPort advertised = .ok (host, port))
    (hw : host = "" ∨ host = "0.0.0.0" ∨ host = "::") :
    resolveEndpoint advertised sender = joinHostPort sender.ip port ∧
      resolvePeerEndpoint advertised sender = joinHostPort sender.ip port := by
  simp [resolveEndpoint, resolvePeerEndpoint, hs, hw, hip]

theorem resolve_of_host (hs : splitHostPort advertised = .ok (host, port))
    (hw : ¬(host = "" ∨ host = "0.0.0.0" ∨ host = "::")) :
    resolveEndpoint advertised sender = advertised ∧
      resolvePeerEndpoint advertised sender = joinHostPort host port := by
  have hhost : host ≠ "" := fun h => hw (.inl h)
  simp only [resolveEndpoint, resolvePeerEndpoint, hs, if_neg hw]
  exact ⟨trivial, if_pos hhost⟩

theorem resolve_of_error {e : AddrError} (hs : splitHostPort advertised = .error e) :
    resolveEndpoint advertised sender = joinHostPort sender.ip "51820" ∧
      resolvePeerEndpoint advertised sender = joinHostPort sender.ip "51820" := by
  simp only [resolveEndpoint, resolvePeerEndpoint, hs]
  exact ⟨rfl, rfl⟩

end Branches

/-- The LAN and exchange resolvers return the same endpoint up to `JoinHostPort` of
`SplitHostPort`, for every advertised text and every sender: a wildcard host becomes
the sender's IP with the advertised port, any other parseable endpoint keeps its host
and port, and an unparseable one becomes the sender's IP with port 51820. -/
theorem resolvers_agree (advertised : String) (sender : UDPAddr) (hip : sender.ip ≠ "") :
    normalizeHostPort (resolveEndpoint advertised sender) =
        normalizeHostPort (resolvePeerEndpoint advertised sender) ∧
      (∀ host port, splitHostPort advertised = .ok (host, port) →
        ((host = "" ∨ host = "0.0.0.0" ∨ host = "::") →
          resolveEndpoint advertised sender = joinHostPort sender.ip port ∧
            resolvePeerEndpoint advertised sender = joinHostPort sender.ip port) ∧
        (¬(host = "" ∨ host = "0.0.0.0" ∨ host = "::") →
          splitHostPort (resolveEndpoint advertised sender) = .ok (host, port) ∧
            splitHostPort (resolvePeerEndpoint advertised sender) = .ok (host, port))) ∧
      (∀ e, splitHostPort advertised = .error e →
        resolveEndpoint advertised sender = joinHostPort sender.ip "51820" ∧
          resolvePeerEndpoint advertised sender = joinHostPort sender.ip "51820") := by
  refine ⟨?_, fun host port hs => ⟨resolve_of_wildcard hip hs, fun hw => ?_⟩,
    fun e hs => resolve_of_error hs⟩
  · rcases hs : splitHostPort advertised with e | ⟨host, port⟩
    · rw [(resolve_of_error hs).1, (resolve_of_error hs).2]
    · by_cases hw : host = "" ∨ host = "0.0.0.0" ∨ host = "::"
      · rw [(resolve_of_wildcard hip hs hw).1, (resolve_of_wildcard hip hs hw).2]
      · rw [(resolve_of_host hs hw).1, (resolve_of_host hs hw).2, normalizeHostPort_of_split hs,
          normalizeHostPort_joinHostPort (joinable_of_splitHostPort hs)]
  · rw [(resolve_of_host hs hw).1, (resolve_of_host hs hw).2,
      splitHostPort_joinHostPort (joinable_of_splitHostPort hs)]
    exact ⟨hs, rfl⟩

theorem resolvers_agree_sample :
    memberAddr.ip ≠ "" ∧
      normalizeHostPort (resolveEndpoint "0.0.0.0:51821" memberAddr) =
        normalizeHostPort (resolvePeerEndpoint "0.0.0.0:51821" memberAddr) :=
  ⟨by decide, (resolvers_agree "0.0.0.0:51821" memberAddr (by decide)).1⟩

/-! ## The listen loop -/

/-- The body of `listenLoop` for one datagram from `remote`: open it with the gossip
key, skip the local key, and merge the sender under `LANMethod`. -/
def handleLANPacket (P : Primitives) (cfg : Config) (localKey : String) (now : Time)
    (data : Bytes) (remote : UDPAddr) (store : PeerStore) : PeerStore :=
  match openEnvelope P data cfg.keys.gossipKey now with
  | .error _ => store
  | .ok (_, a) =>
    if a.wgPubKey = localKey then store
    else store.update ⟨a.wgPubKey, a.meshIP, resolveEndpoint a.wgEndpoint remote,
      a.routableNetworks, 0, []⟩ lanMethod now.nanos

end WgMesh.Discovery
