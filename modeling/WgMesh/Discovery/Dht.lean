import WgMesh.Daemon.Config
import WgMesh.Go.Basic

/-! # The DHT rendezvous

Daemons of one mesh meet on the Mainline DHT under an infohash derived from the
secret. `DeriveNetworkIDWithTime` rotates that infohash hourly, "to prevent DHT
surveillance": the announce and query loops use the current and the previous hour's
IDs. The self-lookup with which `initDHTServer` bootstraps the routing table instead
uses `Keys.NetworkID`, the static `SHA-256(secret)[0:20]` of `DeriveKeys`.

What the DHT server is handed is a list of `server.Announce(infohash, port, false)`
calls; the DHT's answers and the peers it returns are left to the exchange.
SHA-256 enters as a parameter `sum256`.

* `sessions_share_static_infohash` — every session hands the DHT the static network ID
  once at start-up, so any two sessions of one mesh, whatever their times, hand the DHT
  one infohash in common.
-/

namespace WgMesh.Discovery

open WgMesh.Go WgMesh.Daemon

def dhtBootstrapNodes : List String :=
  ["router.bittorrent.com:6881", "router.utorrent.com:6881", "dht.transmissionbt.com:6881",
    "dht.libtorrent.org:25401"]

/-- `time.Hour`, in nanoseconds. -/
def hour : Int := 3600 * 1000000000

/-- `t.Unix()`: the internal seconds moved to the Unix epoch, in `int64`. -/
def Time.unixSec (t : Time) : Int := wrap64 (t.sec - unixToInternal)

/-- The hour epoch `t.Unix() / 3600`, Go's truncating division. -/
def hourEpoch (t : Time) : Int := (Time.unixSec t).tdiv 3600

section Derivation

variable (sum256 : List UInt8 → List UInt8)

/-- `crypto.DeriveNetworkIDWithTime`: `SHA-256("%s||%d" of the secret and the hour
epoch)[0:20]`. -/
def deriveNetworkIDWithTime (secret : String) (t : Time) : List UInt8 :=
  (sum256 (bytesOf (secret ++ "||" ++ toString (hourEpoch t)))).take 20

/-- `crypto.GetCurrentAndPreviousNetworkIDs` at `now`. -/
def getCurrentAndPreviousNetworkIDs (secret : String) (now : Time) :
    List UInt8 × List UInt8 :=
  (deriveNetworkIDWithTime sum256 secret now, deriveNetworkIDWithTime sum256 secret (now.add (-hour)))

/-- One call `server.Announce(infohash, port, false)`; port `0` is a lookup. -/
structure DhtRequest where
  infohash : List UInt8
  port : Nat
deriving DecidableEq, Repr

/-- The requests of `announce` (through `announceToInfohash`) at `now`: the current
ID, and the previous one when it differs. -/
def announce (secret : String) (port : Nat) (now : Time) : List DhtRequest :=
  let (current, previous) := getCurrentAndPreviousNetworkIDs sum256 secret now
  ⟨current, port⟩ :: if current ≠ previous then [⟨previous, port⟩] else []

/-- The requests of `queryPeers` (through `queryInfohash`) at `now`. -/
def queryPeers (secret : String) (now : Time) : List DhtRequest :=
  let (current, previous) := getCurrentAndPreviousNetworkIDs sum256 secret now
  ⟨current, 0⟩ :: if current ≠ previous then [⟨previous, 0⟩] else []

/-- What `initDHTServer` hands the DHT once its socket is bound, given the bootstrap
nodes that resolved: the error when none did; otherwise the self-lookup of the
bootstrap goroutine, under `Keys.NetworkID`. -/
def initDHTServer (cfg : Config) (bootstrapAddrs : List String) :
    Except String (List DhtRequest) :=
  if bootstrapAddrs.length = 0 then .error "no bootstrap nodes resolved"
  else .ok [⟨cfg.keys.networkID, 0⟩]

/-- A wake-up of `announceLoop` or `queryLoop`, at the time it reads the clock. -/
inductive DhtTick
  | announce (now : Time)
  | query (now : Time)

/-- The clock reading of a wake-up. -/
def DhtTick.now : DhtTick → Time
  | .announce now => now
  | .query now => now

/-- The requests of one wake-up, announcing the exchange port `port`. -/
def DhtTick.requests (secret : String) (port : Nat) : DhtTick → List DhtRequest
  | .announce now => Discovery.announce sum256 secret port now
  | .query now => queryPeers sum256 secret now

/-- What a session hands the DHT: `Start` runs `initDHTServer`, then the loops wake
at `ticks`; on an error, `Start` fails and nothing more is sent. -/
def session (cfg : Config) (bootstrapAddrs : List String) (port : Nat) (ticks : List DhtTick) :
    Except String (List DhtRequest) :=
  match initDHTServer cfg bootstrapAddrs with
  | .error e => .error ("failed to initialize DHT server: " ++ e)
  | .ok boot => .ok (boot ++ ticks.flatMap (DhtTick.requests sum256 cfg.secret port))

/-! ## Clock skew -/

theorem deriveNetworkIDWithTime_congr (secret : String) {t u : Time}
    (h : hourEpoch t = hourEpoch u) :
    deriveNetworkIDWithTime sum256 secret t = deriveNetworkIDWithTime sum256 secret u := by
  unfold deriveNetworkIDWithTime; rw [h]

end Derivation

theorem unixSec_of_nonneg {t : Time} (h : 0 ≤ t.unixNanos) :
    Time.unixSec t = t.sec - unixToInternal := by
  have hs := t.sec_inInt64
  have hn := t.nsec_lt
  unfold Time.unixNanos Time.nanos at h
  unfold Time.unixSec
  rw [wrap64_of_inInt64]
  unfold InInt64 unixToInternal at *; omega

theorem hourEpoch_of_nonneg {t : Time} (h : 0 ≤ t.unixNanos) :
    hourEpoch t = (t.sec - unixToInternal) / 3600 := by
  have hn := t.nsec_lt
  unfold Time.unixNanos Time.nanos at h
  rw [hourEpoch, unixSec_of_nonneg h, Int.tdiv_eq_ediv (by unfold unixToInternal at *; omega)
    (by decide)]

theorem hourEpoch_sub_hour {t : Time} (h : hour ≤ t.unixNanos) :
    hourEpoch (t.add (-hour)) = hourEpoch t - 1 := by
  have hs := t.sec_inInt64
  have hn := t.nsec_lt
  have hsec : (t.add (-hour)).sec = t.sec - 3600 := by
    rw [Time.add_sec _ (by decide)]
    unfold Time.unixNanos Time.nanos hour InInt64 unixToInternal at *
    split_ifs <;> omega
  have hnsec := (t.add (-hour)).nsec_lt
  unfold hour Time.unixNanos Time.nanos at h
  rw [hourEpoch_of_nonneg (by unfold Time.unixNanos Time.nanos; rw [hsec]; omega),
    hourEpoch_of_nonneg (by unfold Time.unixNanos Time.nanos; omega), hsec]
  unfold unixToInternal; omega

theorem hourEpoch_close {t₁ t₂ : Time} (h₁ : 0 ≤ t₁.unixNanos) (h₂ : 0 ≤ t₂.unixNanos)
    (hclose : t₁.nanos - t₂.nanos < hour ∧ t₂.nanos - t₁.nanos < hour) :
    hourEpoch t₂ = hourEpoch t₁ ∨ hourEpoch t₂ = hourEpoch t₁ + 1 ∨
      hourEpoch t₁ = hourEpoch t₂ + 1 := by
  have := t₁.nsec_lt
  have := t₂.nsec_lt
  rw [hourEpoch_of_nonneg h₁, hourEpoch_of_nonneg h₂]
  unfold Time.unixNanos Time.nanos hour unixToInternal at *
  omega

theorem previous_requested (sum256 : List UInt8 → List UInt8) (secret : String) (port : Nat)
    (t : Time) :
    (∃ r ∈ announce sum256 secret port t,
      r.infohash = deriveNetworkIDWithTime sum256 secret (t.add (-hour))) ∧
    ∃ r ∈ queryPeers sum256 secret t,
      r.infohash = deriveNetworkIDWithTime sum256 secret (t.add (-hour)) := by
  simp only [announce, queryPeers, getCurrentAndPreviousNetworkIDs]
  split_ifs with hne
  · exact ⟨⟨_, List.mem_cons_of_mem _ (List.mem_singleton_self _), rfl⟩,
      ⟨_, List.mem_cons_of_mem _ (List.mem_singleton_self _), rfl⟩⟩
  · have hne := Decidable.of_not_not hne
    exact ⟨⟨_, List.mem_cons_self _ _, hne⟩, ⟨_, List.mem_cons_self _ _, hne⟩⟩

/-- Two daemons whose clocks read less than an hour apart, both an hour or more after
the epoch, have a current or previous network ID in common: one of the IDs `announce`
publishes under at `t₁` is one `queryPeers` asks for at `t₂`. -/
theorem announce_query_share_infohash (sum256 : List UInt8 → List UInt8) (secret : String)
    (port : Nat) {t₁ t₂ : Time} (h₁ : hour ≤ t₁.unixNanos) (h₂ : hour ≤ t₂.unixNanos)
    (hclose : t₁.nanos - t₂.nanos < hour ∧ t₂.nanos - t₁.nanos < hour) :
    (∃ id ∈ [(getCurrentAndPreviousNetworkIDs sum256 secret t₁).1,
        (getCurrentAndPreviousNetworkIDs sum256 secret t₁).2],
      id ∈ [(getCurrentAndPreviousNetworkIDs sum256 secret t₂).1,
        (getCurrentAndPreviousNetworkIDs sum256 secret t₂).2]) ∧
    ∃ r₁ ∈ announce sum256 secret port t₁, ∃ r₂ ∈ queryPeers sum256 secret t₂,
      r₁.infohash = r₂.infohash := by
  have hpos : (0 : Int) ≤ hour := by decide
  rcases hourEpoch_close (Int.le_trans hpos h₁) (Int.le_trans hpos h₂) hclose with he | he | he
  · -- one hour epoch: the current IDs agree
    have hid := deriveNetworkIDWithTime_congr sum256 secret he.symm
    exact ⟨⟨_, List.mem_cons_self _ _, by simp [getCurrentAndPreviousNetworkIDs, hid]⟩, _,
      List.mem_cons_self _ _, _, List.mem_cons_self _ _, hid⟩
  · -- `t₂` is an hour epoch ahead: its previous ID is `t₁`'s current one
    have hid := deriveNetworkIDWithTime_congr sum256 secret (show hourEpoch t₁ =
      hourEpoch (t₂.add (-hour)) by have := hourEpoch_sub_hour h₂; omega)
    obtain ⟨r₂, hr₂, hr₂id⟩ := (previous_requested sum256 secret port t₂).2
    exact ⟨⟨_, List.mem_cons_self _ _, by simp [getCurrentAndPreviousNetworkIDs, hid]⟩,
      _, List.mem_cons_self _ _, r₂, hr₂, by rw [hr₂id, hid]⟩
  · -- `t₁` is an hour epoch ahead: its previous ID is `t₂`'s current one
    have hid := deriveNetworkIDWithTime_congr sum256 secret (show hourEpoch (t₁.add (-hour)) =
      hourEpoch t₂ by have := hourEpoch_sub_hour h₁; omega)
    obtain ⟨r₁, hr₁, hr₁id⟩ := (previous_requested sum256 secret port t₁).1
    exact ⟨⟨_, List.mem_cons_of_mem _ (List.mem_singleton_self _),
      by simp [getCurrentAndPreviousNetworkIDs, hid]⟩, r₁, hr₁, _, List.mem_cons_self _ _,
      by rw [hr₁id, hid]⟩

/-- Two clocks one second apart, a day after the epoch. -/
theorem announce_query_share_infohash_sample :
    hour ≤ (unix 86400).unixNanos ∧ hour ≤ (unix 86401).unixNanos ∧
      ((unix 86400).nanos - (unix 86401).nanos < hour ∧
        (unix 86401).nanos - (unix 86400).nanos < hour) ∧
      ∃ r₁ ∈ announce id "example-mesh-secret" 51821 (unix 86400),
        ∃ r₂ ∈ queryPeers id "example-mesh-secret" (unix 86401), r₁.infohash = r₂.infohash :=
  ⟨by decide, by decide, by decide,
    (announce_query_share_infohash id "example-mesh-secret" 51821 (by decide) (by decide)
      (by decide)).2⟩

/-- Any two sessions of one mesh, whatever the times at which their loops wake and the
ports they announce, both hand the DHT `SHA-256(secret)[0:20]`. -/
theorem sessions_share_static_infohash (sum256 : List UInt8 → List UInt8) (hkdf : Hkdf)
    (cfg : Config) (hkeys : deriveKeys sum256 hkdf cfg.secret = .ok cfg.keys)
    (port₁ port₂ : Nat) (ticks₁ ticks₂ : List DhtTick) :
    ∃ rs₁ rs₂, session sum256 cfg dhtBootstrapNodes port₁ ticks₁ = .ok rs₁ ∧
      session sum256 cfg dhtBootstrapNodes port₂ ticks₂ = .ok rs₂ ∧
      ⟨(sum256 (bytesOf cfg.secret)).take 20, 0⟩ ∈ rs₁ ∧
      ⟨(sum256 (bytesOf cfg.secret)).take 20, 0⟩ ∈ rs₂ := by
  rw [← deriveKeys_networkID hkeys]
  exact ⟨_, _, rfl, rfl, List.mem_cons_self _ _, List.mem_cons_self _ _⟩

/-- An HKDF that reads zeros. -/
def zeroHkdf : Hkdf := ⟨fun _ _ n => List.replicate n 0, fun _ _ n => List.length_replicate n 0⟩

/-- `sampleConfig`'s settings with the keys `deriveKeys` gives its secret, under the
identity as hash and `zeroHkdf`. -/
def derivedSampleConfig : Config :=
  { sampleConfig with
    keys := ⟨(bytesOf sampleConfig.secret).take 20, ⟨List.replicate 32 0, by simp⟩, (0, 0),
      List.replicate 32 0, 51821⟩ }

theorem derived_sessions_share_static_infohash :
    deriveKeys id zeroHkdf derivedSampleConfig.secret = .ok derivedSampleConfig.keys ∧
      ∃ rs₁ rs₂, session id derivedSampleConfig dhtBootstrapNodes 51821 [] = .ok rs₁ ∧
        session id derivedSampleConfig dhtBootstrapNodes 51821 [.announce (unix 1700000000)] =
          .ok rs₂ ∧
        ⟨(bytesOf derivedSampleConfig.secret).take 20, 0⟩ ∈ rs₁ ∧
        ⟨(bytesOf derivedSampleConfig.secret).take 20, 0⟩ ∈ rs₂ :=
  ⟨rfl, sessions_share_static_infohash id zeroHkdf derivedSampleConfig rfl 51821 51821 []
    [.announce (unix 1700000000)]⟩

end WgMesh.Discovery
