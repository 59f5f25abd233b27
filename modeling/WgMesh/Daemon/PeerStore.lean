import Mathlib.Data.List.Nodup
import Mathlib.Tactic.SplitIfs

/-! # The peer store

`PeerStore` (package `daemon`) is the one piece of state every discovery
layer writes and the reconciler reads: a map from WireGuard public key to
`PeerInfo`, with a merge on update and two age thresholds. The map is modelled as a
list of entries whose keys are distinct (`PeerStore.nodup`); the list order stands
for one iteration order of the Go map.

Times are readings of the monotonic clock in nanoseconds, the clock `time.Now()`
and `Time.Sub` use for `LastSeen`. Every operation reads the clock once, at `now`.

The spec lemmas are `get_update`, `mem_getActive`, `get_remove` and
`get_cleanupStale`/`mem_cleanupStale_removed`: callers reason through them and never
unfold the operations.
-/

namespace WgMesh.Daemon

/-- `PeerDeadTimeout`: five minutes. -/
def peerDeadTimeout : Int := 300 * 1000000000

/-- `PeerRemoveTimeout`: ten minutes. -/
def peerRemoveTimeout : Int := 600 * 1000000000

/-- `PeerInfo`, a discovered mesh peer. (`Latency` is never written by the daemon
and is left out.) -/
structure PeerInfo where
  wgPubKey : String
  meshIP : String
  endpoint : String
  routableNetworks : List String
  lastSeen : Int
  discoveredVia : List String
deriving DecidableEq, Repr

/-- The entry `Update` stores for a key it has not seen: the caller's record, stamped
with the time and the one discovery method. -/
def PeerInfo.fresh (info : PeerInfo) (discoveryMethod : String) (now : Int) : PeerInfo :=
  { info with lastSeen := now, discoveredVia := [discoveryMethod] }

/-- `Update`'s merge into an existing entry: each non-empty field of the new record
replaces the old one, `LastSeen` becomes `now`, and the method is appended unless
already listed. -/
def PeerInfo.merge (existing info : PeerInfo) (discoveryMethod : String) (now : Int) : PeerInfo :=
  { existing with
    endpoint := if info.endpoint ≠ "" then info.endpoint else existing.endpoint
    routableNetworks :=
      if info.routableNetworks.length > 0 then info.routableNetworks else existing.routableNetworks
    meshIP := if info.meshIP ≠ "" then info.meshIP else existing.meshIP
    lastSeen := now
    discoveredVia :=
      if discoveryMethod ∈ existing.discoveredVia then existing.discoveredVia
      else existing.discoveredVia ++ [discoveryMethod] }

/-- The map write of `Update` on the entry list. -/
def upsert (discoveryMethod : String) (now : Int) : List PeerInfo → PeerInfo → List PeerInfo
  | [], info => [info.fresh discoveryMethod now]
  | p :: ps, info =>
    if p.wgPubKey = info.wgPubKey then p.merge info discoveryMethod now :: ps
    else p :: upsert discoveryMethod now ps info

@[simp] theorem fresh_wgPubKey (info : PeerInfo) (m : String) (now : Int) :
    (info.fresh m now).wgPubKey = info.wgPubKey := rfl

@[simp] theorem merge_wgPubKey (p info : PeerInfo) (m : String) (now : Int) :
    (p.merge info m now).wgPubKey = p.wgPubKey := rfl

@[simp] theorem fresh_lastSeen (info : PeerInfo) (m : String) (now : Int) :
    (info.fresh m now).lastSeen = now := rfl

@[simp] theorem merge_lastSeen (p info : PeerInfo) (m : String) (now : Int) :
    (p.merge info m now).lastSeen = now := rfl

theorem keys_upsert (m : String) (now : Int) (ps : List PeerInfo) (info : PeerInfo) :
    (upsert m now ps info).map PeerInfo.wgPubKey =
      if info.wgPubKey ∈ ps.map PeerInfo.wgPubKey then ps.map PeerInfo.wgPubKey
      else ps.map PeerInfo.wgPubKey ++ [info.wgPubKey] := by
  induction ps with
  | nil => simp [upsert]
  | cons p ps ih =>
    by_cases h : p.wgPubKey = info.wgPubKey
    · simp [upsert, h]
    · simp only [upsert, h, if_false, List.map_cons, ih, List.mem_cons, Ne.symm h, false_or]
      split_ifs <;> rfl

theorem nodup_upsert (m : String) (now : Int) {ps : List PeerInfo} (info : PeerInfo)
    (h : (ps.map PeerInfo.wgPubKey).Nodup) : ((upsert m now ps info).map PeerInfo.wgPubKey).Nodup := by
  rw [keys_upsert]
  split_ifs with hk
  · exact h
  · exact List.nodup_append.mpr ⟨h, List.nodup_singleton _, List.disjoint_singleton.mpr hk⟩

theorem nodup_filter {ps : List PeerInfo} (q : PeerInfo → Bool)
    (h : (ps.map PeerInfo.wgPubKey).Nodup) : ((ps.filter q).map PeerInfo.wgPubKey).Nodup :=
  h.sublist ((List.filter_sublist ps).map _)

/-! ## The store -/

/-- `PeerStore`: the entries of the map, one per key. -/
structure PeerStore where
  peers : List PeerInfo
  nodup : (peers.map PeerInfo.wgPubKey).Nodup

/-- `NewPeerStore`. -/
def PeerStore.empty : PeerStore := ⟨[], List.nodup_nil⟩

/-- `Update(info, discoveryMethod)` at `now`. -/
def PeerStore.update (ps : PeerStore) (info : PeerInfo) (discoveryMethod : String) (now : Int) :
    PeerStore :=
  ⟨upsert discoveryMethod now ps.peers info, nodup_upsert _ _ info ps.nodup⟩

/-- `Get(pubKey)`: a copy of the entry. -/
def PeerStore.get (ps : PeerStore) (pubKey : String) : Option PeerInfo :=
  ps.peers.find? (·.wgPubKey = pubKey)

def PeerStore.getAll (ps : PeerStore) : List PeerInfo := ps.peers

/-- `GetActive` at `now`: the entries seen less than `PeerDeadTimeout` ago. -/
def PeerStore.getActive (ps : PeerStore) (now : Int) : List PeerInfo :=
  ps.peers.filter fun p => now - p.lastSeen < peerDeadTimeout

/-- `Remove(pubKey)`. -/
def PeerStore.remove (ps : PeerStore) (pubKey : String) : PeerStore :=
  ⟨ps.peers.filter (·.wgPubKey ≠ pubKey), nodup_filter _ ps.nodup⟩

/-- `CleanupStale` at `now`: deletes the entries seen more than `PeerRemoveTimeout`
ago and returns their keys, in iteration order. -/
def PeerStore.cleanupStale (ps : PeerStore) (now : Int) : PeerStore × List String :=
  (⟨ps.peers.filter (fun p => ¬ now - p.lastSeen > peerRemoveTimeout), nodup_filter _ ps.nodup⟩,
    (ps.peers.filter fun p => now - p.lastSeen > peerRemoveTimeout).map PeerInfo.wgPubKey)

def PeerStore.count (ps : PeerStore) : Nat := ps.peers.length

/-- `IsDead(pubKey)` at `now`: absent, or seen more than `PeerDeadTimeout` ago. -/
def PeerStore.isDead (ps : PeerStore) (pubKey : String) (now : Int) : Bool :=
  match ps.get pubKey with
  | none => true
  | some p => decide (now - p.lastSeen > peerDeadTimeout)

/-! ## Spec lemmas -/

/-- The entry `Update` leaves under the updated key. -/
def PeerStore.updated (ps : PeerStore) (info : PeerInfo) (discoveryMethod : String) (now : Int) :
    PeerInfo :=
  match ps.get info.wgPubKey with
  | none => info.fresh discoveryMethod now
  | some e => e.merge info discoveryMethod now

theorem find_upsert (m : String) (now : Int) (ps : List PeerInfo) (info : PeerInfo) (k : String) :
    (upsert m now ps info).find? (·.wgPubKey = k) =
      if k = info.wgPubKey then
        some (match ps.find? (·.wgPubKey = k) with
          | none => info.fresh m now
          | some e => e.merge info m now)
      else ps.find? (·.wgPubKey = k) := by
  induction ps with
  | nil => by_cases hk : k = info.wgPubKey <;> simp [upsert, hk, eq_comm]
  | cons p ps ih =>
    by_cases h : p.wgPubKey = info.wgPubKey
    · by_cases hk : k = info.wgPubKey
      · simp [upsert, h, hk]
      · simp [upsert, h, hk, Ne.symm hk]
    · by_cases hk : p.wgPubKey = k
      · have : k ≠ info.wgPubKey := hk ▸ h
        simp [upsert, h, hk, this]
      · simp [upsert, h, hk, ih]

theorem PeerStore.get_update (ps : PeerStore) (info : PeerInfo) (m : String) (now : Int)
    (k : String) :
    (ps.update info m now).get k =
      if k = info.wgPubKey then some (ps.updated info m now) else ps.get k := by
  unfold get update updated
  rw [find_upsert]
  split_ifs with hk
  · subst hk; rfl
  · rfl

theorem PeerStore.get_update_of_ne (ps : PeerStore) {info : PeerInfo} (m : String) (now : Int)
    {k : String} (hk : info.wgPubKey ≠ k) : (ps.update info m now).get k = ps.get k := by
  rw [get_update, if_neg (Ne.symm hk)]

@[simp] theorem PeerStore.updated_wgPubKey (ps : PeerStore) (info : PeerInfo) (m : String)
    (now : Int) : (ps.updated info m now).wgPubKey = info.wgPubKey := by
  unfold updated
  split
  · rfl
  · rename_i e he
    simpa using List.find?_some he

@[simp] theorem PeerStore.updated_lastSeen (ps : PeerStore) (info : PeerInfo) (m : String)
    (now : Int) : (ps.updated info m now).lastSeen = now := by
  unfold updated; split <;> rfl

theorem PeerStore.get_wgPubKey {ps : PeerStore} {k : String} {p : PeerInfo}
    (h : ps.get k = some p) : p.wgPubKey = k := by
  simpa using List.find?_some h

theorem PeerStore.mem_of_get {ps : PeerStore} {k : String} {p : PeerInfo}
    (h : ps.get k = some p) : p ∈ ps.peers :=
  List.mem_of_find?_eq_some h

theorem find_of_mem {ps : List PeerInfo} {p : PeerInfo} (hnd : (ps.map PeerInfo.wgPubKey).Nodup)
    (h : p ∈ ps) : ps.find? (·.wgPubKey = p.wgPubKey) = some p := by
  induction ps with
  | nil => simp at h
  | cons q qs ih =>
    simp only [List.map_cons, List.nodup_cons, List.mem_map] at hnd
    rcases List.mem_cons.mp h with rfl | hq
    · simp
    · have hne : q.wgPubKey ≠ p.wgPubKey := fun he => hnd.1 ⟨p, hq, he.symm⟩
      simp [hne, ih hnd.2 hq]

theorem find_filter {ps : List PeerInfo} (hnd : (ps.map PeerInfo.wgPubKey).Nodup)
    (q : PeerInfo → Bool) (k : String) :
    (ps.filter q).find? (·.wgPubKey = k) = (ps.find? (·.wgPubKey = k)).filter q := by
  induction ps with
  | nil => rfl
  | cons p ps ih =>
    simp only [List.map_cons, List.nodup_cons, List.mem_map] at hnd
    by_cases hk : p.wgPubKey = k
    · subst hk
      have hnone : (ps.filter q).find? (·.wgPubKey = p.wgPubKey) = none := by
        simp only [List.find?_eq_none, List.mem_filter, decide_eq_true_eq]
        exact fun r hr he => hnd.1 ⟨r, hr.1, he⟩
      by_cases hq : q p <;> simp [List.filter_cons, hq, hnone, Option.filter]
    · by_cases hq : q p <;> simp [List.filter_cons, hq, hk, ih hnd.2]

theorem PeerStore.get_of_mem {ps : PeerStore} {p : PeerInfo} (h : p ∈ ps.peers) :
    ps.get p.wgPubKey = some p :=
  find_of_mem ps.nodup h

theorem PeerStore.get_eq_none {ps : PeerStore} {k : String} :
    ps.get k = none ↔ ∀ p ∈ ps.peers, p.wgPubKey ≠ k := by
  simp [get, List.find?_eq_none]

theorem PeerStore.mem_getActive {ps : PeerStore} {now : Int} {p : PeerInfo} :
    p ∈ ps.getActive now ↔ p ∈ ps.peers ∧ now - p.lastSeen < peerDeadTimeout := by
  simp [getActive]

theorem PeerStore.get_remove (ps : PeerStore) (k k' : String) :
    (ps.remove k).get k' = if k' = k then none else ps.get k' := by
  unfold remove get
  dsimp only
  rw [find_filter ps.nodup]
  cases hf : ps.peers.find? (·.wgPubKey = k') with
  | none => split_ifs <;> rfl
  | some p =>
    have hp : p.wgPubKey = k' := by simpa using List.find?_some hf
    split_ifs with h <;> simp [Option.filter, hp, h]

theorem PeerStore.get_cleanupStale (ps : PeerStore) (now : Int) (k : String) :
    (ps.cleanupStale now).1.get k =
      (ps.get k).filter fun p => ¬ now - p.lastSeen > peerRemoveTimeout :=
  find_filter ps.nodup _ k

theorem PeerStore.mem_cleanupStale_removed {ps : PeerStore} {now : Int} {k : String} :
    k ∈ (ps.cleanupStale now).2 ↔
      ∃ p, ps.get k = some p ∧ now - p.lastSeen > peerRemoveTimeout := by
  unfold cleanupStale
  simp only [List.mem_map, List.mem_filter, decide_eq_true_eq]
  constructor
  · rintro ⟨p, ⟨hp, hs⟩, rfl⟩
    exact ⟨p, get_of_mem hp, hs⟩
  · rintro ⟨p, hp, hs⟩
    exact ⟨p, ⟨mem_of_get hp, hs⟩, get_wgPubKey hp⟩

/-! ## Runs of updates

The merge rule of the spec, stated field by field over the whole sequence of updates
of one key: each mutable field is the last non-empty value written, `LastSeen` the
time of the last update, and `DiscoveredVia` the methods in first-occurrence order
(`List.eraseDups`). `get_updateAll` proves that `Update` computes exactly this.
-/

/-- `Update` calls in order, each with its record, method and clock reading. -/
def PeerStore.updateAll (ps : PeerStore) : List (PeerInfo × String × Int) → PeerStore
  | [] => ps
  | (info, m, now) :: us => (ps.update info m now).updateAll us

/-- The entry the spec's merge rule gives `k` after the updates `us` of `k`. -/
def mergedEntry (k : String) (us : List (PeerInfo × String × Int)) : PeerInfo where
  wgPubKey := k
  meshIP := ((us.map (·.1.meshIP)).filter (· ≠ "")).getLast?.getD ""
  endpoint := ((us.map (·.1.endpoint)).filter (· ≠ "")).getLast?.getD ""
  routableNetworks := ((us.map (·.1.routableNetworks)).filter (·.length > 0)).getLast?.getD []
  lastSeen := (us.getLast?.map (·.2.2)).getD 0
  discoveredVia := (us.map (·.2.1)).eraseDups

theorem PeerStore.updateAll_append (ps : PeerStore) (us : List (PeerInfo × String × Int))
    (info : PeerInfo) (m : String) (now : Int) :
    ps.updateAll (us ++ [(info, m, now)]) = (ps.updateAll us).update info m now := by
  induction us generalizing ps with
  | nil => rfl
  | cons u us ih => exact ih _

theorem getLast?_filter_concat {α : Type} (p : α → Bool) (l : List α) (a : α) :
    ((l ++ [a]).filter p).getLast? = if p a then some a else (l.filter p).getLast? := by
  by_cases h : p a <;> simp [h]

section EraseDups

variable {α : Type} [BEq α] [LawfulBEq α]

theorem mem_eraseDups_loop (l bs : List α) (a : α) :
    a ∈ List.eraseDups.loop l bs ↔ a ∈ l ∨ a ∈ bs := by
  induction l generalizing bs with
  | nil => simp [List.eraseDups.loop]
  | cons b l ih =>
    unfold List.eraseDups.loop
    split <;> rename_i h
    · rw [ih, List.mem_cons, or_assoc, or_iff_right_of_imp
        (show a = b → a ∈ l ∨ a ∈ bs from fun e => .inr (e ▸ List.elem_iff.mp h))]
    · rw [ih, List.mem_cons, List.mem_cons, or_assoc, or_left_comm]

theorem nodup_eraseDups_loop (l : List α) {bs : List α} (hbs : bs.Nodup) :
    (List.eraseDups.loop l bs).Nodup := by
  induction l generalizing bs with
  | nil => exact List.nodup_reverse.mpr hbs
  | cons b l ih =>
    unfold List.eraseDups.loop
    split <;> rename_i h
    · exact ih hbs
    · exact ih (List.nodup_cons.mpr ⟨fun hb => absurd (List.elem_iff.mpr hb) (by rw [h]; decide),
        hbs⟩)

theorem eraseDups_loop_concat (l bs : List α) (a : α) :
    List.eraseDups.loop (l ++ [a]) bs =
      if a ∈ l ∨ a ∈ bs then List.eraseDups.loop l bs else List.eraseDups.loop l bs ++ [a] := by
  induction l generalizing bs with
  | nil =>
    simp only [List.nil_append, List.eraseDups.loop, List.not_mem_nil, false_or]
    by_cases h : a ∈ bs <;> simp [List.elem_iff, h]
  | cons b l ih =>
    simp only [List.cons_append, List.eraseDups.loop, List.append_eq]
    split <;> rename_i h
    · refine (ih bs).trans (if_congr ?_ rfl rfl)
      rw [List.mem_cons, or_assoc, or_iff_right_of_imp
        (show a = b → a ∈ l ∨ a ∈ bs from fun e => .inr (e ▸ List.elem_iff.mp h))]
    · refine (ih _).trans (if_congr ?_ rfl rfl)
      rw [List.mem_cons, List.mem_cons, or_assoc, or_left_comm]

theorem eraseDups_concat (l : List α) (a : α) :
    (l ++ [a]).eraseDups = if a ∈ l then l.eraseDups else l.eraseDups ++ [a] := by
  unfold List.eraseDups
  rw [eraseDups_loop_concat]
  simp

theorem mem_eraseDups {l : List α} {a : α} : a ∈ l.eraseDups ↔ a ∈ l := by
  simp [List.eraseDups, mem_eraseDups_loop]

theorem nodup_eraseDups (l : List α) : l.eraseDups.Nodup :=
  nodup_eraseDups_loop l List.nodup_nil

end EraseDups

theorem mergedEntry_concat (k : String) (us : List (PeerInfo × String × Int)) (info : PeerInfo)
    (m : String) (now : Int) (hinfo : info.wgPubKey = k) :
    mergedEntry k (us ++ [(info, m, now)]) =
      if us = [] then info.fresh m now else (mergedEntry k us).merge info m now := by
  split_ifs with hus
  · subst hus
    cases info
    subst hinfo
    simp only [mergedEntry, PeerInfo.fresh, List.nil_append, List.map_cons, List.map_nil,
      List.getLast?_singleton, Option.map_some', Option.getD_some, List.eraseDups,
      List.eraseDups.loop, List.elem_nil, List.reverse_cons, List.reverse_nil, List.nil_append]
    congr 1 <;> simp only [List.filter_cons, List.filter_nil] <;> split_ifs <;> simp_all
  · simp only [mergedEntry, PeerInfo.merge, List.map_append, List.map_cons, List.map_nil,
      getLast?_filter_concat, List.getLast?_concat, Option.map_some', Option.getD_some,
      eraseDups_concat, mem_eraseDups]
    congr 1 <;> simp only [decide_eq_true_eq] <;> split_ifs <;> simp_all

theorem PeerStore.get_updateAll {ps : PeerStore} {k : String} (hk : ps.get k = none)
    (us : List (PeerInfo × String × Int)) :
    (ps.updateAll us).get k =
      if us.filter (·.1.wgPubKey = k) = [] then none
      else some (mergedEntry k (us.filter (·.1.wgPubKey = k))) := by
  induction us using List.reverseRecOn with
  | nil => simpa using hk
  | append_singleton us u ih =>
    obtain ⟨info, m, now⟩ := u
    rw [updateAll_append, get_update, List.filter_append]
    by_cases hu : info.wgPubKey = k
    · subst hu
      have hnil : us.filter (·.1.wgPubKey = info.wgPubKey) ++ [(info, m, now)] ≠ [] := by simp
      simp only [List.filter_cons, List.filter_nil, decide_True, if_true, if_neg hnil]
      rw [mergedEntry_concat _ _ _ _ _ rfl, updated]
      split_ifs at ih ⊢ with hmine <;> rw [ih]
    · have hne : ¬ k = info.wgPubKey := fun h => hu h.symm
      simp only [List.filter_cons, List.filter_nil, decide_eq_true_eq, hu, if_false,
        List.append_nil, if_neg hne, ih]

theorem mergedEntry_perm {k : String} {us us' : List (PeerInfo × String × Int)}
    (hsame : us.map (fun u => (u.1, u.2.2)) = us'.map (fun u => (u.1, u.2.2)))
    (hperm : (us.map (·.2.1)).Perm (us'.map (·.2.1))) :
    { mergedEntry k us with discoveredVia := [] } = { mergedEntry k us' with discoveredVia := [] } ∧
      (mergedEntry k us).discoveredVia.Perm (mergedEntry k us').discoveredVia := by
  have hinfo : us.map (·.1) = us'.map (·.1) := by
    simpa using congrArg (List.map Prod.fst) hsame
  have htime : us.map (·.2.2) = us'.map (·.2.2) := by
    simpa using congrArg (List.map Prod.snd) hsame
  have hfield {β : Type} (f : PeerInfo → β) : us.map (fun u => f u.1) = us'.map (fun u => f u.1) := by
    simpa [Function.comp_def] using congrArg (List.map f) hinfo
  refine ⟨?_, ?_⟩
  · simp only [mergedEntry, hfield PeerInfo.meshIP, hfield PeerInfo.endpoint,
      hfield PeerInfo.routableNetworks, ← List.getLast?_map, htime]
  · exact (List.perm_ext_iff_of_nodup (nodup_eraseDups _) (nodup_eraseDups _)).mpr fun a => by
      simp only [mergedEntry, mem_eraseDups]
      exact hperm.mem_iff

/-- A run of updates from a store without `k` leaves `k` the entry the spec's merge rule
gives `k`'s own updates (the last non-empty `Endpoint`, `MeshIP` and
`RoutableNetworks`, the time of the last update, each method once in first-occurrence
order), whatever updates of other keys are interleaved. Another run whose updates of
`k` carry the same records at the same times, with the methods permuted, leaves the same
entry but for the order of `DiscoveredVia`. -/
theorem update_run_follows_merge_rule {ps : PeerStore} {k : String} (hk : ps.get k = none)
    (us : List (PeerInfo × String × Int)) :
    (ps.updateAll us).get k =
        (if us.filter (·.1.wgPubKey = k) = [] then none
        else some (mergedEntry k (us.filter (·.1.wgPubKey = k)))) ∧
      ∀ us' : List (PeerInfo × String × Int),
        (us'.filter (·.1.wgPubKey = k)).map (fun u => (u.1, u.2.2)) =
            (us.filter (·.1.wgPubKey = k)).map (fun u => (u.1, u.2.2)) →
        ((us'.filter (·.1.wgPubKey = k)).map (·.2.1)).Perm
            ((us.filter (·.1.wgPubKey = k)).map (·.2.1)) →
        ((ps.updateAll us').get k).map (fun e => { e with discoveredVia := [] }) =
            ((ps.updateAll us).get k).map (fun e => { e with discoveredVia := [] }) ∧
          ∀ e' e, (ps.updateAll us').get k = some e' → (ps.updateAll us).get k = some e →
            e'.discoveredVia.Perm e.discoveredVia := by
  refine ⟨PeerStore.get_updateAll hk us, fun us' hsame hperm => ?_⟩
  rw [PeerStore.get_updateAll hk us, PeerStore.get_updateAll hk us']
  have hlen := congrArg List.length hsame
  simp only [List.length_map] at hlen
  by_cases hnil : us.filter (·.1.wgPubKey = k) = []
  · rw [if_pos hnil, if_pos (List.length_eq_zero.mp (hlen.trans (by rw [hnil]; rfl)))]
    exact ⟨rfl, fun _ _ h => by cases h⟩
  · have hnil' : us'.filter (·.1.wgPubKey = k) ≠ [] := fun h => hnil
      (List.length_eq_zero.mp (hlen.symm.trans (by rw [h]; rfl)))
    rw [if_neg hnil, if_neg hnil']
    obtain ⟨hfields, hvia⟩ := @mergedEntry_perm k _ _ hsame hperm
    exact ⟨congrArg some hfields, fun e' e h' h => by cases h'; cases h; exact hvia⟩

/-- A store that receives a record twice over DHT and once over LAN. -/
theorem update_run_follows_merge_rule_sample :
    PeerStore.empty.get "peer-a-key" = none ∧
      (PeerStore.empty.updateAll [(⟨"peer-a-key", "10.42.0.2", "", [], 0, []⟩, "dht", 1),
        (⟨"peer-b-key", "10.42.0.3", "", [], 0, []⟩, "dht", 2),
        (⟨"peer-a-key", "", "192.0.2.7:51820", [], 0, []⟩, "lan", 3)]).get "peer-a-key" =
        some ⟨"peer-a-key", "10.42.0.2", "192.0.2.7:51820", [], 3, ["dht", "lan"]⟩ := by
  refine ⟨rfl, ?_⟩
  rw [(update_run_follows_merge_rule (show PeerStore.empty.get "peer-a-key" = none from rfl) _).1]
  rfl

end WgMesh.Daemon
