import Mathlib.Data.List.Nodup
import WgMesh.Go.Strings

/-! # Routes to the other nodes' networks

The deployment tool keeps the routes of the mesh interface in step with the mesh
(package `ssh`, `routes.go`): `GetCurrentRoutes` parses `ip route show dev <if>`,
`CalculateRouteDiff` compares the routes with the desired ones by network and gateway,
and `ApplyRouteDiff` deletes the routes to remove, then adds or replaces the routes to
add.

The interface's table is modelled as the kernel keeps its IPv4 routes, one per
destination (`RouteTable`), which is what `ip route show dev <if>` lists without `-6`.
Each is printed as `ip route show` prints it: a prefix of length zero as `default`, a
host route without its `/32` (`displayNetwork`), then `via` and the gateway when there
is one, then the route's other attributes. An IPv6 network, which holds a colon, never
enters the table.

* `getCurrentRoutes_show` — the parse gives back every route, its destination through
  `normalizeNetwork`;
* `mem_toAdd`, `mem_toRemove` — when the current routes have one route per network and
  the desired routes one gateway per network, the diff adds exactly the desired routes
  not present and removes exactly the gatewayed current routes not desired;
* `routes_fixpoint` — then one `ApplyRouteDiff` reaches a table whose diff is empty.
-/

namespace WgMesh.Deploy

open WgMesh.Go

/-! ## The code -/

/-- `RouteEntry`: a destination network and its gateway, `""` for a direct route. -/
@[ext] structure RouteEntry where
  network : String
  gateway : String
deriving DecidableEq, Repr

/-- `makeRouteKey`: `network|gateway`. -/
def makeRouteKey (network gateway : String) : String := network ++ "|" ++ gateway

/-- `normalizeNetwork`: a destination without a prefix length gets `/32` when it has
three dots and `/128` when it has a colon. -/
def normalizeNetwork (network : String) : String :=
  if '/' ∉ network.data then
    if network.data.count '.' = 3 then network ++ "/32"
    else if ':' ∈ network.data then network ++ "/128"
    else network
  else network

/-- The gateway of a route line: the field after the first `via` that has a field
after it, or `""`. -/
def viaGateway : List String → String
  | "via" :: gateway :: _ => gateway
  | _ :: parts => viaGateway parts
  | [] => ""

/-- The body of `GetCurrentRoutes`' loop: a blank line is skipped, and the first field of
another is the network. -/
def routeOfLine (line : String) : Option RouteEntry :=
  if trimSpace line = "" then none
  else
    match fields line with
    | [] => none
    | network :: rest => some ⟨normalizeNetwork network, viaGateway (network :: rest)⟩

/-- `GetCurrentRoutes` on the output of `ip route show dev <if>`: one route per
non-blank line. -/
def getCurrentRoutes (output : String) : List RouteEntry :=
  (split (trimSpace output) '\n').filterMap routeOfLine

/-- A Go map filled by a range loop over routes: a later route overwrites an earlier
one under the same key. -/
def routeMap (key : RouteEntry → String) (routes : List RouteEntry) : List (String × RouteEntry) :=
  routes.foldl (fun m r => mapSet (key r) r m) []

/-- The key `CalculateRouteDiff` matches routes by. -/
def routeKey (r : RouteEntry) : String := makeRouteKey r.network r.gateway

/-- `CalculateRouteDiff`. Each desired route whose key the current routes lack is
added, and the current route of its network is removed first when it has another,
non-empty gateway; then each current route whose key and network are both no longer
desired is removed when it has a gateway. -/
def calculateRouteDiff (current desired : List RouteEntry) : List RouteEntry × List RouteEntry :=
  let currentMap := routeMap routeKey current
  let desiredMap := routeMap routeKey desired
  let currentByNetwork := routeMap RouteEntry.network current
  let desiredByNetwork := routeMap RouteEntry.network desired
  let missing := desiredMap.filter fun e => (currentMap.lookup e.1).isNone
  let regatewayed := missing.filterMap fun e =>
    match currentByNetwork.lookup e.2.network with
    | some currentRoute =>
      if currentRoute.gateway ≠ e.2.gateway ∧ currentRoute.gateway ≠ "" then some currentRoute
      else none
    | none => none
  let obsolete := (currentMap.filter fun e => (desiredMap.lookup e.1).isNone ∧
    (desiredByNetwork.lookup e.2.network).isNone ∧ e.2.gateway ≠ "").map Prod.snd
  (missing.map Prod.snd, regatewayed ++ obsolete)

/-- The command `ApplyRouteDiff` runs to remove a route. -/
def delRouteCmd (iface : String) (route : RouteEntry) : String :=
  if route.gateway ≠ "" then
    "ip route del " ++ route.network ++ " via " ++ route.gateway ++ " dev " ++ iface ++
      " 2>/dev/null || true"
  else "ip route del " ++ route.network ++ " dev " ++ iface ++ " 2>/dev/null || true"

/-- The command `ApplyRouteDiff` runs to add a route, replacing the one there is. -/
def addRouteCmd (iface : String) (route : RouteEntry) : String :=
  if route.gateway ≠ "" then
    "ip route add " ++ route.network ++ " via " ++ route.gateway ++ " dev " ++ iface ++
      " || ip route replace " ++ route.network ++ " via " ++ route.gateway ++ " dev " ++ iface
  else
    "ip route add " ++ route.network ++ " dev " ++ iface ++ " || ip route replace " ++
      route.network ++ " dev " ++ iface

/-! ## The interface's routes -/

/-- A route of the interface as `ip route show dev <if>` prints it: the destination, the
gateway (`""` for a direct route), and the other attributes (`proto`, `scope`, `src`,
`metric` and their values). -/
structure KernelRoute where
  dst : String
  gateway : String
  attrs : List String
deriving DecidableEq, Repr

/-- The IPv4 routes of the mesh interface, at most one per destination. -/
structure RouteTable where
  routes : List KernelRoute
  nodup : (routes.map KernelRoute.dst).Nodup
  inet : ∀ r ∈ routes, ':' ∉ r.dst.data

/-- How `ip route show` prints an IPv4 destination: `default` for a prefix of length
zero, and a host route without its `/32`. An IPv6 network, which holds a colon, is left
as written. -/
def displayNetwork (network : String) : String :=
  let d := network.data
  if ':' ∈ d then network
  else if "/0".data.isSuffixOf d then "default"
  else if "/32".data.isSuffixOf d ∧ '/' ∉ d.take (d.length - 3) then ⟨d.take (d.length - 3)⟩
  else network

example : displayNetwork "0.0.0.0/0" = "default" ∧ displayNetwork "10.99.0.2/32" = "10.99.0.2" ∧
    displayNetwork "192.168.10.0/24" = "192.168.10.0/24" := by decide

theorem displayNetwork_cases (network : String) :
    displayNetwork network = "default" ∨ (displayNetwork network).data <+: network.data := by
  simp only [displayNetwork]
  split_ifs
  · exact .inr (List.prefix_refl _)
  · exact .inl rfl
  · exact .inr (List.take_prefix _ _)
  · exact .inr (List.prefix_refl _)

theorem colon_mem_displayNetwork {network : String} :
    ':' ∈ (displayNetwork network).data ↔ ':' ∈ network.data := by
  simp only [displayNetwork]
  split_ifs with h
  · rfl
  · exact iff_of_false (by decide) h
  · exact ⟨List.mem_of_mem_take, (absurd · h)⟩
  · rfl

/-- The fields of the line `ip route show dev <if>` prints for a route. -/
def KernelRoute.words (r : KernelRoute) : List String :=
  r.dst :: ((if r.gateway = "" then [] else ["via", r.gateway]) ++ r.attrs)

/-- The line `ip route show dev <if>` prints for a route. -/
def KernelRoute.line (r : KernelRoute) : String := join r.words ' '

/-- `ip route show dev <if>`: one line per route, each ending in a newline. -/
def RouteTable.ipRouteShow (t : RouteTable) : String :=
  ⟨(t.routes.map fun r => r.line.data ++ ['\n']).flatten⟩

/-- An interface with no route. -/
def RouteTable.empty : RouteTable := ⟨[], List.nodup_nil, fun _ h => absurd h (List.not_mem_nil _)⟩

/-- `ip route del <network> [via <gateway>] dev <if>`: the route to the network, when
its gateway is the one named; nothing when there is none. An IPv6 network names no
route of the table. -/
def RouteTable.del (t : RouteTable) (route : RouteEntry) : RouteTable :=
  ⟨t.routes.filter fun r =>
      !(r.dst = displayNetwork route.network ∧ (route.gateway = "" ∨ r.gateway = route.gateway)),
    t.nodup.sublist ((List.filter_sublist _).map _), fun r hr => t.inet r (List.mem_of_mem_filter hr)⟩

/-- The route `ip route add` or `ip route replace` installs. -/
def addedRoute (route : RouteEntry) : KernelRoute :=
  ⟨displayNetwork route.network, route.gateway, if route.gateway = "" then ["scope", "link"] else []⟩

theorem nodup_add (t : RouteTable) (route : RouteEntry) :
    ((t.routes.filter fun r => r.dst ≠ displayNetwork route.network) ++ [addedRoute route]).map
      KernelRoute.dst |>.Nodup := by
  rw [List.map_append, List.nodup_append]
  refine ⟨t.nodup.sublist ((List.filter_sublist _).map _), List.nodup_singleton _, ?_⟩
  simp only [List.map_cons, List.map_nil, List.disjoint_singleton, List.mem_map, List.mem_filter,
    not_exists, not_and]
  rintro r ⟨-, hr⟩ hdst
  exact (of_decide_eq_true hr) (by simpa [addedRoute] using hdst)

theorem inet_add (t : RouteTable) {route : RouteEntry} (h : ':' ∉ route.network.data) :
    ∀ r ∈ (t.routes.filter fun r => r.dst ≠ displayNetwork route.network) ++ [addedRoute route],
      ':' ∉ r.dst.data := by
  intro r hr
  rcases List.mem_append.mp hr with hr | hr
  · exact t.inet r (List.mem_of_mem_filter hr)
  · rw [List.mem_singleton.mp hr]
    exact mt colon_mem_displayNetwork.mp h

/-- `ip route add <network> ... || ip route replace <network> ...`: the network routed
as the entry says, in place of the route it had. An IPv6 network does not enter the
table. -/
def RouteTable.add (t : RouteTable) (route : RouteEntry) : RouteTable :=
  if h : ':' ∈ route.network.data then t
  else ⟨(t.routes.filter fun r => r.dst ≠ displayNetwork route.network) ++ [addedRoute route],
    nodup_add t route, inet_add t h⟩

/-! ## `ApplyRouteDiff` -/

/-- The table `ApplyRouteDiff`'s commands leave when they all succeed: the removals, then
the additions. -/
def RouteTable.applyDiff (t : RouteTable) (toAdd toRemove : List RouteEntry) : RouteTable :=
  toAdd.foldl RouteTable.add (toRemove.foldl RouteTable.del t)

/-- The remove loop: a failed removal is only a warning. -/
def removeRoutes (run : String → Except String Unit) (iface : String) :
    List RouteEntry → RouteTable → RouteTable
  | [], t => t
  | route :: routes, t =>
    removeRoutes run iface routes
      (match run (delRouteCmd iface route) with
        | .ok () => t.del route
        | .error _ => t)

/-- The add loop: a failed addition ends `ApplyRouteDiff` with an error. -/
def addRoutes (run : String → Except String Unit) (iface : String) :
    List RouteEntry → RouteTable → Except String RouteTable
  | [], t => .ok t
  | route :: routes, t =>
    match run (addRouteCmd iface route) with
    | .error e => .error ("failed to add route for " ++ route.network ++ ": " ++ e)
    | .ok () => addRoutes run iface routes (t.add route)

/-- `ApplyRouteDiff`: nothing when there is nothing to do; otherwise the removals, the
additions, and IP forwarding switched on. `run` is the SSH session. -/
def applyRouteDiff (run : String → Except String Unit) (iface : String)
    (toAdd toRemove : List RouteEntry) (t : RouteTable) : Except String RouteTable :=
  if toAdd.length + toRemove.length = 0 then .ok t
  else
    match addRoutes run iface toAdd (removeRoutes run iface toRemove t) with
    | .error e => .error e
    | .ok t =>
      match run "sysctl -w net.ipv4.ip_forward=1 > /dev/null" with
      | .ok () => .ok t
      | .error e => .error ("failed to enable IP forwarding: " ++ e)

/-! ## What the diff adds and removes -/

section RouteMap

variable {key : RouteEntry → String} {routes : List RouteEntry}

theorem mem_routeMap {e : String × RouteEntry} (h : e ∈ routeMap key routes) :
    e.1 = key e.2 ∧ e.2 ∈ routes := by
  obtain ⟨k, v⟩ := e
  rcases @mem_foldl_mapSet _ _ key id k v routes [] h with h | ⟨r, hr, hk, hv⟩
  · cases h
  · exact ⟨hk.symm.trans (congrArg key hv), hv ▸ hr⟩

theorem lookup_routeMap_eq_none {k : String} :
    (routeMap key routes).lookup k = none ↔ ∀ r ∈ routes, key r ≠ k := by
  rw [← Option.not_isSome_iff_eq_none, routeMap, lookup_foldl_mapSet_isSome]
  simp

theorem lookup_routeMap_of_mem (hu : ∀ r ∈ routes, ∀ r' ∈ routes, key r = key r' → r = r')
    {r : RouteEntry} (hr : r ∈ routes) : (routeMap key routes).lookup (key r) = some r := by
  obtain ⟨v, hv⟩ := Option.isSome_iff_exists.mp
    ((@lookup_foldl_mapSet_isSome _ _ key id (key r) routes []).mpr (.inr ⟨r, hr, rfl⟩))
  have hv' : (routeMap key routes).lookup (key r) = some v := hv
  have hmem := mem_routeMap (mem_of_lookup_eq_some hv')
  rw [hv', hu v hmem.2 r hr hmem.1.symm]

theorem mem_routeMap_of_mem (hu : ∀ r ∈ routes, ∀ r' ∈ routes, key r = key r' → r = r')
    {r : RouteEntry} (hr : r ∈ routes) : (key r, r) ∈ routeMap key routes :=
  mem_of_lookup_eq_some (lookup_routeMap_of_mem hu hr)

end RouteMap

/-- Routes `CalculateRouteDiff` tells apart: one route per network, and no `|` in a
network, so that `makeRouteKey` keys the routes one to one. -/
structure Keyed (routes : List RouteEntry) : Prop where
  bar : ∀ r ∈ routes, '|' ∉ r.network.data
  oneGateway : ∀ r ∈ routes, ∀ r' ∈ routes, r.network = r'.network → r = r'

theorem routeKey_inj {r r' : RouteEntry} (h : '|' ∉ r.network.data) (h' : '|' ∉ r'.network.data)
    (hk : routeKey r = routeKey r') : r = r' := by
  have hdata : r.network.data ++ '|' :: r.gateway.data = r'.network.data ++ '|' :: r'.gateway.data := by
    simpa [routeKey, makeRouteKey] using congrArg String.data hk
  have hlen : r.network.data.length = r'.network.data.length := by
    simpa [index_append_cons h, index_append_cons h'] using congrArg (index '|') hdata
  obtain ⟨hn, hg⟩ := List.append_inj hdata hlen
  exact RouteEntry.ext (String.ext hn) (String.ext (List.cons.inj hg).2)

theorem Keyed.routeKey_inj {routes : List RouteEntry} (h : Keyed routes) :
    ∀ r ∈ routes, ∀ r' ∈ routes, routeKey r = routeKey r' → r = r' :=
  fun r hr r' hr' => Deploy.routeKey_inj (h.bar r hr) (h.bar r' hr')

section Diff

variable {current desired : List RouteEntry} (hc : Keyed current) (hd : Keyed desired)
include hc hd

theorem mem_toAdd {r : RouteEntry} :
    r ∈ (calculateRouteDiff current desired).1 ↔ r ∈ desired ∧ r ∉ current := by
  simp only [calculateRouteDiff, List.mem_map, List.mem_filter, Option.isNone_iff_eq_none,
    lookup_routeMap_eq_none]
  constructor
  · rintro ⟨e, ⟨he, hnone⟩, rfl⟩
    obtain ⟨hk, hmem⟩ := mem_routeMap he
    exact ⟨hmem, fun hcur => hnone e.2 hcur hk.symm⟩
  · rintro ⟨hmem, hcur⟩
    refine ⟨_, ⟨mem_routeMap_of_mem hd.routeKey_inj hmem, fun c hc' hk => ?_⟩, rfl⟩
    exact hcur (routeKey_inj (hc.bar c hc') (hd.bar r hmem) hk ▸ hc')

theorem mem_toRemove {c : RouteEntry} :
    c ∈ (calculateRouteDiff current desired).2 ↔ c ∈ current ∧ c ∉ desired ∧ c.gateway ≠ "" := by
  simp only [calculateRouteDiff, List.mem_append, List.mem_filterMap, List.mem_filter,
    List.mem_map, Option.isNone_iff_eq_none, lookup_routeMap_eq_none, decide_eq_true_eq]
  constructor
  · rintro (⟨e, ⟨he, -⟩, hsome⟩ | ⟨e, ⟨he, hnone, -, hgw⟩, rfl⟩)
    · obtain ⟨-, hr⟩ := mem_routeMap he
      split at hsome
      · rename_i c' hc'
        split_ifs at hsome with hne
        cases hsome
        obtain ⟨hnet, hmem⟩ := mem_routeMap (mem_of_lookup_eq_some hc')
        refine ⟨hmem, fun hdes => hne.1 ?_, hne.2⟩
        rw [hd.oneGateway _ hdes _ hr hnet.symm]
      · cases hsome
    · obtain ⟨hk, hmem⟩ := mem_routeMap he
      exact ⟨hmem, fun hdes => hnone e.2 hdes hk.symm, hgw⟩
  · rintro ⟨hmem, hdes, hgw⟩
    by_cases hnet : ∃ r ∈ desired, r.network = c.network
    · obtain ⟨r, hr, hrn⟩ := hnet
      have hrc : r ∉ current := fun hrc => hdes (hc.oneGateway r hrc c hmem hrn ▸ hr)
      refine .inl ⟨(routeKey r, r), ⟨mem_routeMap_of_mem hd.routeKey_inj hr, fun c' hc' hk =>
        hrc (routeKey_inj (hc.bar c' hc') (hd.bar r hr) hk ▸ hc')⟩, ?_⟩
      have hlook : (routeMap RouteEntry.network current).lookup r.network = some c :=
        hrn ▸ lookup_routeMap_of_mem hc.oneGateway hmem
      have hne : c.gateway ≠ r.gateway := fun hg => hdes (RouteEntry.ext hrn hg.symm ▸ hr)
      simp only [hlook, if_pos (And.intro hne hgw)]
    · refine .inr ⟨(routeKey c, c), ⟨mem_routeMap_of_mem hc.routeKey_inj hmem, fun r hr hk => ?_,
        fun r hr hn => hnet ⟨r, hr, hn⟩, hgw⟩, rfl⟩
      exact hdes (routeKey_inj (hd.bar r hr) (hc.bar c hmem) hk ▸ hr)

theorem calculateRouteDiff_eq_nil :
    calculateRouteDiff current desired = ([], []) ↔
      (∀ r ∈ desired, r ∈ current) ∧ ∀ c ∈ current, c.gateway ≠ "" → c ∈ desired := by
  rw [Prod.ext_iff, List.eq_nil_iff_forall_not_mem, List.eq_nil_iff_forall_not_mem]
  simp only [mem_toAdd hc hd, mem_toRemove hc hd, not_and, not_not]
  constructor <;> rintro ⟨h1, h2⟩ <;> refine ⟨h1, fun c hc => ?_⟩
  · exact fun hg => by_contra fun hnd => hg (h2 c hc hnd)
  · exact fun hnd => by_contra fun hg => hnd (h2 c hc hg)
end Diff

/-! ## What `ApplyRouteDiff` leaves -/

section Apply

variable {run : String → Except String Unit} (hrun : ∀ c, run c = .ok ()) (iface : String)
include hrun

theorem removeRoutes_ok (routes : List RouteEntry) (t : RouteTable) :
    removeRoutes run iface routes t = routes.foldl RouteTable.del t := by
  induction routes generalizing t with
  | nil => rfl
  | cons route routes ih => simp only [removeRoutes, hrun, List.foldl_cons, ih]

theorem addRoutes_ok (routes : List RouteEntry) (t : RouteTable) :
    addRoutes run iface routes t = .ok (routes.foldl RouteTable.add t) := by
  induction routes generalizing t with
  | nil => rfl
  | cons route routes ih => simp only [addRoutes, hrun, List.foldl_cons, ih]

theorem applyRouteDiff_ok (toAdd toRemove : List RouteEntry) (t : RouteTable) :
    applyRouteDiff run iface toAdd toRemove t = .ok (t.applyDiff toAdd toRemove) := by
  unfold applyRouteDiff
  split_ifs with h
  · obtain ⟨rfl, rfl⟩ : toAdd = [] ∧ toRemove = [] := by simpa using h
    rfl
  · simp only [removeRoutes_ok hrun, addRoutes_ok hrun, hrun, RouteTable.applyDiff]

end Apply

theorem mem_del {t : RouteTable} {c : RouteEntry} {kr : KernelRoute} :
    kr ∈ (t.del c).routes ↔
      kr ∈ t.routes ∧ ¬(kr.dst = displayNetwork c.network ∧ (c.gateway = "" ∨ kr.gateway = c.gateway)) := by
  simp only [RouteTable.del, List.mem_filter, Bool.not_eq_true', decide_eq_false_iff_not]

theorem mem_add {t : RouteTable} {r : RouteEntry} {kr : KernelRoute} :
    kr ∈ (t.add r).routes ↔
      (kr ∈ t.routes ∧ kr.dst ≠ displayNetwork r.network) ∨ (':' ∉ r.network.data ∧ kr = addedRoute r) := by
  unfold RouteTable.add
  split_ifs with h
  · refine ⟨fun hkr => .inl ⟨hkr, fun hdst => t.inet kr hkr ?_⟩, fun hkr => ?_⟩
    · exact hdst ▸ colon_mem_displayNetwork.mpr h
    · rcases hkr with ⟨hkr, -⟩ | ⟨hn, -⟩
      exacts [hkr, absurd h hn]
  · simp [h]

theorem mem_foldl_del {kr : KernelRoute} : ∀ {routes : List RouteEntry} {t : RouteTable},
    kr ∈ (routes.foldl RouteTable.del t).routes ↔ kr ∈ t.routes ∧
      ∀ c ∈ routes, ¬(kr.dst = displayNetwork c.network ∧ (c.gateway = "" ∨ kr.gateway = c.gateway))
  | [], _ => by simp
  | c :: routes, t => by
    rw [List.foldl_cons, mem_foldl_del, mem_del]
    simp only [List.mem_cons, forall_eq_or_imp, and_assoc]

theorem mem_foldl_add {kr : KernelRoute} : ∀ {routes : List RouteEntry} {t : RouteTable},
    kr ∈ (routes.foldl RouteTable.add t).routes →
      (kr ∈ t.routes ∧ ∀ r ∈ routes, kr.dst ≠ displayNetwork r.network) ∨ ∃ r ∈ routes, kr = addedRoute r
  | [], _, h => .inl ⟨h, by simp⟩
  | r :: routes, t, h => by
    rw [List.foldl_cons] at h
    rcases mem_foldl_add h with ⟨h, hne⟩ | ⟨r', hr', rfl⟩
    · rcases mem_add.mp h with ⟨h, hr⟩ | ⟨-, rfl⟩
      · exact .inl ⟨h, by simpa [hr] using hne⟩
      · exact .inr ⟨_, List.mem_cons_self _ _, rfl⟩
    · exact .inr ⟨r', List.mem_cons_of_mem _ hr', rfl⟩

theorem mem_foldl_add_of_mem {kr : KernelRoute} : ∀ {routes : List RouteEntry} {t : RouteTable},
    kr ∈ t.routes → (∀ r ∈ routes, kr.dst ≠ displayNetwork r.network) →
      kr ∈ (routes.foldl RouteTable.add t).routes
  | [], _, h, _ => h
  | r :: routes, t, h, hne =>
    @mem_foldl_add_of_mem kr routes (t.add r) (mem_add.mpr (.inl ⟨h, hne r (List.mem_cons_self _ _)⟩))
      fun r' hr' => hne r' (List.mem_cons_of_mem _ hr')

theorem exists_added_of_mem {r : RouteEntry} (h4 : ':' ∉ r.network.data) :
    ∀ {routes : List RouteEntry} {t : RouteTable},
    r ∈ routes → ∃ r' ∈ routes, displayNetwork r'.network = displayNetwork r.network ∧
      addedRoute r' ∈ (routes.foldl RouteTable.add t).routes
  | r'' :: routes, t, hr => by
    rw [List.foldl_cons]
    by_cases hlater : ∃ r' ∈ routes, displayNetwork r'.network = displayNetwork r.network
    · obtain ⟨r', hr', hdst⟩ := hlater
      have h4' : ':' ∉ r'.network.data := fun hc =>
        h4 (colon_mem_displayNetwork.mp (hdst ▸ colon_mem_displayNetwork.mpr hc))
      obtain ⟨r₀, hr₀, hdst₀, hmem⟩ := @exists_added_of_mem r' h4' routes (t.add r'') hr'
      exact ⟨r₀, List.mem_cons_of_mem _ hr₀, hdst₀.trans hdst, hmem⟩
    · push_neg at hlater
      have hr'' : r = r'' ∨ r ∈ routes := List.mem_cons.mp hr
      rcases hr'' with rfl | hr'
      · exact ⟨r, List.mem_cons_self _ _, rfl, mem_foldl_add_of_mem (mem_add.mpr (.inr ⟨h4, rfl⟩))
          fun r' hr' => (hlater r' hr').symm⟩
      · exact absurd rfl (hlater r hr')

/-! ## Reading the table back -/

/-- A route whose printed fields `strings.Fields` keeps apart: the destination and the
attributes are tokens other than `via`, and the gateway is empty or a token. -/
structure KernelRoute.Printable (r : KernelRoute) : Prop where
  dst : Token r.dst ∧ r.dst ≠ "via"
  gateway : r.gateway = "" ∨ Token r.gateway
  attrs : ∀ a ∈ r.attrs, Token a ∧ a ≠ "via"

instance (r : KernelRoute) : Decidable r.Printable :=
  decidable_of_iff ((Token r.dst ∧ r.dst ≠ "via") ∧ (r.gateway = "" ∨ Token r.gateway) ∧
      ∀ a ∈ r.attrs, Token a ∧ a ≠ "via")
    ⟨fun ⟨h₁, h₂, h₃⟩ => ⟨h₁, h₂, h₃⟩, fun ⟨h₁, h₂, h₃⟩ => ⟨h₁, h₂, h₃⟩⟩

/-- The entry `GetCurrentRoutes` reads for a route. -/
def KernelRoute.entry (r : KernelRoute) : RouteEntry := ⟨normalizeNetwork r.dst, r.gateway⟩

theorem viaGateway_cons_of_ne {part : String} (h : part ≠ "via") (parts : List String) :
    viaGateway (part :: parts) = viaGateway parts := by
  cases parts <;> simp [viaGateway, h]

theorem viaGateway_of_forall_ne : ∀ {parts : List String}, (∀ p ∈ parts, p ≠ "via") →
    viaGateway parts = ""
  | [], _ => rfl
  | p :: parts, h => by
    rw [viaGateway_cons_of_ne (h p (List.mem_cons_self _ _))]
    exact viaGateway_of_forall_ne fun q hq => h q (List.mem_cons_of_mem _ hq)

namespace KernelRoute.Printable

variable {r : KernelRoute} (h : r.Printable)
include h

theorem tokens : ∀ w ∈ r.words, Token w := by
  simp only [words, List.mem_cons, List.mem_append, forall_eq_or_imp]
  refine ⟨h.dst.1, fun w hw => hw.elim (fun hw => ?_) fun hw => (h.attrs w hw).1⟩
  split_ifs at hw with hg
  · cases hw
  · simp only [List.mem_cons, List.mem_singleton, List.not_mem_nil, or_false] at hw
    rcases hw with rfl | rfl
    · decide
    · exact h.gateway.resolve_left hg

theorem viaGateway_words : viaGateway r.words = r.gateway := by
  rw [words, viaGateway_cons_of_ne h.dst.2]
  split_ifs with hg
  · exact hg ▸ viaGateway_of_forall_ne fun a ha => (h.attrs a ha).2
  · rfl

theorem trimmed_line : Trimmed r.line :=
  trimmed_join (List.cons_ne_nil _ _) fun w hw => (h.tokens w hw).trimmed

theorem newline_not_mem_line : '\n' ∉ r.line.data := fun hc => by
  rcases mem_join hc with hc | ⟨w, hw, hc⟩
  · exact absurd hc (by decide)
  · exact absurd ((h.tokens w hw).2 _ hc) (by decide)

theorem routeOfLine_line : routeOfLine r.line = some r.entry := by
  have hne : r.line ≠ "" := fun he => h.trimmed_line.1 (congrArg String.data he)
  rw [routeOfLine, trimSpace_of_trimmed h.trimmed_line, if_neg hne, line,
    fields_join (by decide) h.tokens]
  simp only [words]
  rw [← words, h.viaGateway_words]
  rfl

end KernelRoute.Printable

theorem getCurrentRoutes_show {t : RouteTable} (h : ∀ r ∈ t.routes, r.Printable) :
    getCurrentRoutes t.ipRouteShow = t.routes.map KernelRoute.entry := by
  by_cases hnil : t.routes = []
  · simp only [RouteTable.ipRouteShow, hnil, List.map_nil, List.flatten_nil]
    rfl
  have hlines : t.routes.map KernelRoute.line ≠ [] := by simpa using hnil
  have htext : Trimmed (join (t.routes.map KernelRoute.line) '\n') :=
    trimmed_join hlines (by simpa using fun r hr => (h r hr).trimmed_line)
  have hshow : t.ipRouteShow = ⟨(join (t.routes.map KernelRoute.line) '\n').data ++ ['\n']⟩ := by
    rw [RouteTable.ipRouteShow, ← flatten_lines hlines, List.map_map]
    rfl
  have hsplit : split (join (t.routes.map KernelRoute.line) '\n') '\n' = t.routes.map KernelRoute.line :=
    split_join hlines (by simpa using fun r hr => (h r hr).newline_not_mem_line)
  rw [getCurrentRoutes, hshow, trimSpace_append_newline htext, hsplit, List.filterMap_map,
    ← List.filterMap_eq_map]
  refine List.filterMap_congr fun r hr => ?_
  rw [Function.comp_apply, Function.comp_apply]
  exact (h r hr).routeOfLine_line

/-! ## One `ApplyRouteDiff` settles the table -/

theorem bar_of_mem_normalizeNetwork {network : String} (h : '|' ∈ (normalizeNetwork network).data) :
    '|' ∈ network.data := by
  unfold normalizeNetwork at h
  split_ifs at h <;> simp_all [String.data_append]

theorem displayNetwork_prefix {network : String}
    (h : normalizeNetwork (displayNetwork network) = network) :
    (displayNetwork network).data <+: network.data := by
  rcases displayNetwork_cases network with hd | hd
  · rw [← h, hd]
    exact List.prefix_refl _
  · exact hd

/-- A table `GetCurrentRoutes` reads back whole and `CalculateRouteDiff` keys one to one:
printable routes, each destination printed again from the network read from it, and no
`|` in a destination. -/
structure RouteTable.Readable (t : RouteTable) : Prop where
  printable : ∀ r ∈ t.routes, r.Printable
  roundTrip : ∀ r ∈ t.routes, displayNetwork (normalizeNetwork r.dst) = r.dst
  bar : ∀ r ∈ t.routes, '|' ∉ r.dst.data

instance (t : RouteTable) : Decidable t.Readable :=
  decidable_of_iff ((∀ r ∈ t.routes, r.Printable) ∧
      (∀ r ∈ t.routes, displayNetwork (normalizeNetwork r.dst) = r.dst) ∧ ∀ r ∈ t.routes, '|' ∉ r.dst.data)
    ⟨fun ⟨h₁, h₂, h₃⟩ => ⟨h₁, h₂, h₃⟩, fun ⟨h₁, h₂, h₃⟩ => ⟨h₁, h₂, h₃⟩⟩

theorem RouteTable.Readable.keyed {t : RouteTable} (h : t.Readable) :
    Keyed (t.routes.map KernelRoute.entry) := by
  refine ⟨fun e he hbar => ?_, fun e he e' he' hnet => ?_⟩
  · obtain ⟨r, hr, rfl⟩ := List.mem_map.mp he
    exact h.bar r hr (bar_of_mem_normalizeNetwork hbar)
  · obtain ⟨r, hr, rfl⟩ := List.mem_map.mp he
    obtain ⟨r', hr', rfl⟩ := List.mem_map.mp he'
    have hdst : r.dst = r'.dst := by
      rw [← h.roundTrip r hr, ← h.roundTrip r' hr']
      exact congrArg displayNetwork hnet
    rw [List.inj_on_of_nodup_map t.nodup hr hr' hdst]

/-- Desired routes one `ApplyRouteDiff` settles: one gateway per network, each network an
IPv4 one and a token other than `via` that reads back from its printed form (which
`default` does not), and each gateway empty or a token. -/
structure Settles (desired : List RouteEntry) : Prop where
  keyed : Keyed desired
  inet : ∀ r ∈ desired, ':' ∉ r.network.data
  network : ∀ r ∈ desired,
    Token r.network ∧ r.network ≠ "via" ∧ normalizeNetwork (displayNetwork r.network) = r.network
  gateway : ∀ r ∈ desired, r.gateway = "" ∨ Token r.gateway

namespace Settles

variable {desired : List RouteEntry} (hd : Settles desired)
include hd

theorem entry_addedRoute {r : RouteEntry} (hr : r ∈ desired) : (addedRoute r).entry = r :=
  RouteEntry.ext (hd.network r hr).2.2 rfl

theorem eq_of_displayNetwork {r r' : RouteEntry} (hr : r ∈ desired) (hr' : r' ∈ desired)
    (h : displayNetwork r.network = displayNetwork r'.network) : r = r' := by
  refine hd.keyed.oneGateway r hr r' hr' ?_
  rw [← (hd.network r hr).2.2, ← (hd.network r' hr').2.2, h]

theorem readable_addedRoute {r : RouteEntry} (hr : r ∈ desired) :
    (addedRoute r).Printable ∧
      displayNetwork (normalizeNetwork (addedRoute r).dst) = (addedRoute r).dst ∧
      '|' ∉ (addedRoute r).dst.data := by
  obtain ⟨⟨hne, hspace⟩, hvia, hround⟩ := hd.network r hr
  have hpre := displayNetwork_prefix hround
  -- the printed network is a prefix of the network, and neither `""` nor `via`, which
  -- `normalizeNetwork` would read back as themselves
  have hdst : Token (displayNetwork r.network) ∧ displayNetwork r.network ≠ "via" := by
    refine ⟨⟨fun hnil => hne ?_, fun c hc => hspace c (hpre.subset hc)⟩, fun hv => hvia ?_⟩
    · rw [← hround, show displayNetwork r.network = "" from String.ext hnil]
      rfl
    · rw [← hround, hv]
      rfl
  have hattrs : ∀ a ∈ (addedRoute r).attrs, Token a ∧ a ≠ "via" := by
    simp only [addedRoute]
    split_ifs <;> decide
  exact ⟨⟨hdst, hd.gateway r hr, hattrs⟩, congrArg displayNetwork hround,
    fun hc => hd.keyed.bar r hr (hpre.subset hc)⟩

end Settles

section Fixpoint

/-! From a readable table and desired routes that settle, the table the diff leaves. The
diff is `calculateRouteDiff` of the routes read back, `t.routes.map KernelRoute.entry`. -/

variable {t : RouteTable} {desired : List RouteEntry} (ht : t.Readable) (hd : Settles desired)
include ht hd

theorem eq_entry_of_del {kr : KernelRoute} {c : RouteEntry} (hkr : kr ∈ t.routes)
    (hc : c ∈ (calculateRouteDiff (t.routes.map KernelRoute.entry) desired).2)
    (hhit : kr.dst = displayNetwork c.network ∧ (c.gateway = "" ∨ kr.gateway = c.gateway)) :
    c = kr.entry := by
  obtain ⟨hc', -, hgw⟩ := (mem_toRemove ht.keyed hd.keyed).mp hc
  obtain ⟨kr', hkr', rfl⟩ := List.mem_map.mp hc'
  obtain rfl : kr = kr' :=
    List.inj_on_of_nodup_map t.nodup hkr hkr' (hhit.1.trans (ht.roundTrip kr' hkr'))
  rfl

theorem mem_applyDiff_of_mem {kr : KernelRoute} (hkr : kr ∈ t.routes)
    (hnot : kr.entry ∉ (calculateRouteDiff (t.routes.map KernelRoute.entry) desired).2)
    (hne : ∀ r ∈ (calculateRouteDiff (t.routes.map KernelRoute.entry) desired).1,
      kr.dst ≠ displayNetwork r.network) :
    kr ∈ (t.applyDiff (calculateRouteDiff (t.routes.map KernelRoute.entry) desired).1
      (calculateRouteDiff (t.routes.map KernelRoute.entry) desired).2).routes :=
  mem_foldl_add_of_mem
    (mem_foldl_del.mpr ⟨hkr, fun _ hc hhit => hnot (eq_entry_of_del ht hd hkr hc hhit ▸ hc)⟩) hne

theorem mem_applyDiff {kr : KernelRoute}
    (h : kr ∈ (t.applyDiff (calculateRouteDiff (t.routes.map KernelRoute.entry) desired).1
      (calculateRouteDiff (t.routes.map KernelRoute.entry) desired).2).routes) :
    (kr ∈ t.routes ∧ kr.entry ∉ (calculateRouteDiff (t.routes.map KernelRoute.entry) desired).2) ∨
      ∃ r ∈ desired, kr = addedRoute r := by
  rcases mem_foldl_add h with ⟨hkr, -⟩ | ⟨r, hr, rfl⟩
  · obtain ⟨hkr, hnot⟩ := mem_foldl_del.mp hkr
    exact .inl ⟨hkr, fun hc => hnot _ hc ⟨(ht.roundTrip kr hkr).symm, .inr rfl⟩⟩
  · exact .inr ⟨r, ((mem_toAdd ht.keyed hd.keyed).mp hr).1, rfl⟩

theorem readable_applyDiff :
    (t.applyDiff (calculateRouteDiff (t.routes.map KernelRoute.entry) desired).1
      (calculateRouteDiff (t.routes.map KernelRoute.entry) desired).2).Readable := by
  refine ⟨fun kr hkr => ?_, fun kr hkr => ?_, fun kr hkr => ?_⟩ <;>
    rcases mem_applyDiff ht hd hkr with ⟨hkr, -⟩ | ⟨r, hr, rfl⟩
  exacts [ht.printable kr hkr, (hd.readable_addedRoute hr).1, ht.roundTrip kr hkr,
    (hd.readable_addedRoute hr).2.1, ht.bar kr hkr, (hd.readable_addedRoute hr).2.2]

theorem routed_applyDiff {r : RouteEntry} (hr : r ∈ desired) :
    ∃ kr ∈ (t.applyDiff (calculateRouteDiff (t.routes.map KernelRoute.entry) desired).1
        (calculateRouteDiff (t.routes.map KernelRoute.entry) desired).2).routes,
      kr.dst = displayNetwork r.network ∧ kr.gateway = r.gateway := by
  have hadd := @mem_toAdd _ _ ht.keyed hd.keyed
  by_cases hcur : r ∈ t.routes.map KernelRoute.entry
  · -- the route read back stays: it is desired, and no other desired route shares its destination
    obtain ⟨kr, hkr, rfl⟩ := List.mem_map.mp hcur
    have hround := (ht.roundTrip kr hkr).symm
    refine ⟨kr, mem_applyDiff_of_mem ht hd hkr
      (fun hc => ((mem_toRemove ht.keyed hd.keyed).mp hc).2.1 hr) fun r' hr' hdst => ?_, hround, rfl⟩
    have : r' = kr.entry := hd.eq_of_displayNetwork (hadd.mp hr').1 hr (hdst.symm.trans hround)
    exact (hadd.mp hr').2 (this ▸ hcur)
  · -- the route is added, and the last addition to its destination is itself
    obtain ⟨r', hr', hdst, hmem⟩ := @exists_added_of_mem r (hd.inet r hr) _
      ((calculateRouteDiff (t.routes.map KernelRoute.entry) desired).2.foldl RouteTable.del t)
      (hadd.mpr ⟨hr, hcur⟩)
    rw [hd.eq_of_displayNetwork (hadd.mp hr').1 hr hdst] at hmem
    exact ⟨addedRoute r, hmem, rfl, rfl⟩

theorem desired_of_mem_applyDiff {kr : KernelRoute}
    (hkr : kr ∈ (t.applyDiff (calculateRouteDiff (t.routes.map KernelRoute.entry) desired).1
      (calculateRouteDiff (t.routes.map KernelRoute.entry) desired).2).routes)
    (hgw : kr.gateway ≠ "") : kr.entry ∈ desired := by
  rcases mem_applyDiff ht hd hkr with ⟨hkr, hnot⟩ | ⟨r, hr, rfl⟩
  · exact by_contra fun hnd =>
      hnot ((mem_toRemove ht.keyed hd.keyed).mpr ⟨List.mem_map_of_mem _ hkr, hnd, hgw⟩)
  · exact (hd.entry_addedRoute hr).symm ▸ hr

theorem calculateRouteDiff_applyDiff :
    calculateRouteDiff ((t.applyDiff (calculateRouteDiff (t.routes.map KernelRoute.entry) desired).1
      (calculateRouteDiff (t.routes.map KernelRoute.entry) desired).2).routes.map KernelRoute.entry)
        desired = ([], []) := by
  rw [calculateRouteDiff_eq_nil (readable_applyDiff ht hd).keyed hd.keyed]
  refine ⟨fun r hr => ?_, fun _ hc hgw => ?_⟩
  · obtain ⟨kr, hkr, hdst, hgw⟩ := routed_applyDiff ht hd hr
    exact List.mem_map.mpr ⟨kr, hkr, RouteEntry.ext
      (by rw [KernelRoute.entry, hdst, (hd.network r hr).2.2]) hgw⟩
  · obtain ⟨kr, hkr, rfl⟩ := List.mem_map.mp hc
    exact desired_of_mem_applyDiff ht hd hkr hgw

/-- From a readable table, one `ApplyRouteDiff` of the diff against desired routes that
settle reaches a readable table whose diff is empty. In that table every desired network
is routed through its gateway, every route with a gateway is desired, and every direct
route to a network not desired is kept. -/
theorem routes_fixpoint {run : String → Except String Unit} (hrun : ∀ c, run c = .ok ())
    (iface : String) :
    ∃ t', applyRouteDiff run iface (calculateRouteDiff (getCurrentRoutes t.ipRouteShow) desired).1
        (calculateRouteDiff (getCurrentRoutes t.ipRouteShow) desired).2 t = .ok t' ∧
      t'.Readable ∧ calculateRouteDiff (getCurrentRoutes t'.ipRouteShow) desired = ([], []) ∧
      (∀ r ∈ desired, ∃ kr ∈ t'.routes, kr.dst = displayNetwork r.network ∧ kr.gateway = r.gateway) ∧
      (∀ kr ∈ t'.routes, kr.gateway ≠ "" → kr.entry ∈ desired) ∧
      (∀ kr ∈ t.routes, kr.gateway = "" → (∀ r ∈ desired, r.network ≠ kr.entry.network) →
        kr ∈ t'.routes) := by
  rw [getCurrentRoutes_show ht.printable]
  refine ⟨_, applyRouteDiff_ok hrun iface _ _ t, readable_applyDiff ht hd, ?_,
    fun r hr => routed_applyDiff ht hd hr, fun kr hkr => desired_of_mem_applyDiff ht hd hkr,
    fun kr hkr hgw hnet => ?_⟩
  · rw [getCurrentRoutes_show (readable_applyDiff ht hd).printable]
    exact calculateRouteDiff_applyDiff ht hd
  · -- a direct route is never removed, and no desired route shares its destination
    have hadd := @mem_toAdd _ _ ht.keyed hd.keyed
    refine mem_applyDiff_of_mem ht hd hkr
      (fun hc => ((mem_toRemove ht.keyed hd.keyed).mp hc).2.2 hgw) fun r hr hdst => ?_
    exact hnet r (hadd.mp hr).1 (by rw [KernelRoute.entry, hdst, (hd.network r (hadd.mp hr).1).2.2])

end Fixpoint

end WgMesh.Deploy
