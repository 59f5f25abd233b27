import WgMesh.Deploy.MeshDeploy
import WgMesh.Deploy.WgQuick

/-! # The configuration file `Deploy` writes, replayed at boot

`Deploy` writes `/etc/wireguard/<if>.conf` with `GenerateWgQuickConfig` on every run, so
that the routes come back at boot: in the README's words, "All routes are embedded in the
config file via `PostUp` commands". The file gives every desired route the hook
`ip route add <network> via <gateway> dev %i || true`, whatever its gateway, while the live
path (`ApplyRouteDiff`, and `syncRoutesForNode` when it cannot read the routes) writes
`ip route add <network> dev <if>` for a route without one. `collectAllRoutesForNode` gives
the node's own networks the empty gateway, and for them the hook reads `via  dev`: `ip`
takes `dev` for the gateway, fails, and `|| true` hides the failure.

* `wgQuickPostUp_generate` — wg-quick reads back from the file one hook per route, in
  order, then the `sysctl` hook;
* `runHook_postUpRouteHook` — a hook adds its route when the route has a gateway and its
  destination is free, and changes nothing otherwise;
* `persisted_routes_drop_direct` — from an empty table the hooks install exactly the routes
  with a gateway among those `ApplyRouteDiff` installs, so that each of the node's own
  networks is routed after a deploy and not after a reboot.

The proof runs both paths through the interpreter of `WgMesh.Deploy.WgQuick` and compares
the two tables route by route, from the one fact that the desired routes are told apart
by their printed destinations.
-/

namespace WgMesh.Deploy

open WgMesh.Go WgMesh.WireGuard

/-! ## `GenerateWgQuickConfig` -/

/-- A line `<key> = <value>` of the file. -/
def keyLine (key value : String) : String := key ++ " = " ++ value

/-- The `PostUp` hook `GenerateWgQuickConfig` writes for a route. -/
def postUpRouteHook (route : RouteEntry) : String :=
  "ip route add " ++ route.network ++ " via " ++ route.gateway ++ " dev %i || true"

/-- The `PreDown` hook it writes for a route. -/
def preDownRouteHook (route : RouteEntry) : String :=
  "ip route del " ++ route.network ++ " via " ++ route.gateway ++ " dev %i || true"

/-- The section of a peer: the endpoint, the allowed IPs and the keepalive only when set. -/
def peerSection (peer : WGPeer) : List String :=
  ["[Peer]", keyLine "PublicKey" peer.publicKey] ++
    (if peer.endpoint ≠ "" then [keyLine "Endpoint" peer.endpoint] else []) ++
    (if peer.allowedIPs ≠ [] then [keyLine "AllowedIPs" (", ".intercalate peer.allowedIPs)] else []) ++
    (if 0 < peer.persistentKeepalive then
      [keyLine "PersistentKeepalive" (toString peer.persistentKeepalive)] else []) ++
    [""]

/-- The lines `GenerateWgQuickConfig` writes, one per `WriteString` (the `len(routes) > 0`
guards only skip loops over no route). -/
def wgQuickConfigLines (config : FullConfig) (routes : List RouteEntry) : List String :=
  ["[Interface]", keyLine "Address" config.interface.address,
      keyLine "ListenPort" (toString config.interface.listenPort),
      keyLine "PrivateKey" config.interface.privateKey] ++
    routes.map (fun route => keyLine "PostUp" (postUpRouteHook route)) ++
    routes.map (fun route => keyLine "PreDown" (preDownRouteHook route)) ++
    [keyLine "PostUp" "sysctl -w net.ipv4.ip_forward=1", ""] ++
    config.peers.flatMap peerSection

/-- `GenerateWgQuickConfig`: the lines, each ended by a newline. -/
def generateWgQuickConfig (config : FullConfig) (routes : List RouteEntry) : String :=
  ⟨((wgQuickConfigLines config routes).map fun line => line.data ++ ['\n']).flatten⟩

/-- A configuration each field of which stays on its line of the file. -/
def OneLine (config : FullConfig) : Prop :=
  '\n' ∉ config.interface.address.data ∧ '\n' ∉ config.interface.privateKey.data ∧
    ∀ peer ∈ config.peers, '\n' ∉ peer.publicKey.data ∧ '\n' ∉ peer.endpoint.data ∧
      ∀ ip ∈ peer.allowedIPs, '\n' ∉ ip.data

instance (config : FullConfig) : Decidable (OneLine config) := by
  unfold OneLine; infer_instance

/-- What `ip route add <network> via <gateway> dev <if> || true` leaves: the route added
when it has a gateway and its destination is free; otherwise `ip` fails and `true` leaves
the table. -/
def RouteTable.postUp (t : RouteTable) (route : RouteEntry) : RouteTable :=
  if route.gateway ≠ "" ∧ ∀ r ∈ t.routes, r.dst ≠ displayNetwork route.network then t.add route
  else t

/-! ## Reading the file back -/

theorem wgQuickKeyValue_keyLine {key : String} (hkey : Token key ∧ '#' ∉ key.data ∧ '=' ∉ key.data)
    (value : String) :
    wgQuickKeyValue (keyLine key value) = (key, trimSpace ⟨value.data.takeWhile (· ≠ '#')⟩) :=
  wgQuickKeyValue_line (by simp [keyLine, String.data_append]) hkey.1 hkey.2

theorem key_keyLine {key : String} (hkey : Token key ∧ '#' ∉ key.data ∧ '=' ∉ key.data)
    (value : String) : (wgQuickKeyValue (keyLine key value)).1 = key :=
  congrArg Prod.fst (wgQuickKeyValue_keyLine hkey value)

theorem mem_intercalate_go {c : Char} {sep : String} : ∀ {acc : String} {elems : List String},
    c ∈ (String.intercalate.go acc sep elems).data →
      c ∈ acc.data ∨ c ∈ sep.data ∨ ∃ e ∈ elems, c ∈ e.data
  | _, [], h => .inl h
  | acc, e :: elems, h => by
    rcases @mem_intercalate_go c sep (acc ++ sep ++ e) elems h with h | h | ⟨e', he', h⟩
    · simp only [String.data_append, List.mem_append] at h
      rcases h with (h | h) | h
      exacts [.inl h, .inr (.inl h), .inr (.inr ⟨e, List.mem_cons_self _ _, h⟩)]
    · exact .inr (.inl h)
    · exact .inr (.inr ⟨e', List.mem_cons_of_mem _ he', h⟩)

theorem mem_intercalate {c : Char} {sep : String} {elems : List String}
    (h : c ∈ (sep.intercalate elems).data) : c ∈ sep.data ∨ ∃ e ∈ elems, c ∈ e.data := by
  cases elems with
  | nil => simp [String.intercalate] at h
  | cons e elems =>
    rcases mem_intercalate_go h with h | h | ⟨e', he', h⟩
    exacts [.inr ⟨e, List.mem_cons_self _ _, h⟩, .inl h, .inr ⟨e', List.mem_cons_of_mem _ he', h⟩]

theorem newline_not_mem_toString_nat (n : Nat) : '\n' ∉ (toString n).data :=
  fun h => absurd ((token_toString n).2 _ h) (by decide)

theorem newline_not_mem_toString_int (i : Int) : '\n' ∉ (toString i).data := by
  cases i with
  | ofNat n => exact newline_not_mem_toString_nat n
  | negSucc n =>
    show '\n' ∉ ("-" ++ toString (n + 1)).data
    simpa [String.data_append] using newline_not_mem_toString_nat (n + 1)

theorem newline_not_mem_lines {config : FullConfig} {routes : List RouteEntry} (hc : OneLine config)
    (hr : ∀ r ∈ routes, r.Inet) : ∀ line ∈ wgQuickConfigLines config routes, '\n' ∉ line.data := by
  have hnl : prefixChar '\n' = false := rfl
  have hroute : ∀ r ∈ routes, '\n' ∉ r.network.data ∧ '\n' ∉ r.gateway.data := fun r hr' =>
    ⟨not_mem_of_isPrefix (hr r hr').network hnl,
      (hr r hr').gateway.elim (fun h => by simp [h]) fun h => not_mem_of_isPrefix (isPrefix_of_isAddress h) hnl⟩
  have hkey : ∀ {key value : String}, '\n' ∉ key.data → '\n' ∉ value.data →
      '\n' ∉ (keyLine key value).data := fun hk hv => by
    simp [keyLine, String.data_append, hk, hv]
  obtain ⟨ha, hk, hp⟩ := hc
  intro line hline
  simp only [wgQuickConfigLines, peerSection, List.mem_append, List.mem_cons, List.mem_map,
    List.mem_flatMap, List.mem_ite_nil_right, List.mem_singleton, List.not_mem_nil, or_false] at hline
  rcases hline with ((((rfl | rfl | rfl | rfl) | ⟨r, hr', rfl⟩) | ⟨r, hr', rfl⟩) | rfl | rfl) |
      ⟨p, hp', ((((rfl | rfl) | ⟨-, rfl⟩) | ⟨-, rfl⟩) | ⟨-, rfl⟩) | rfl⟩
  · decide
  · exact hkey (by decide) ha
  · exact hkey (by decide) (newline_not_mem_toString_int _)
  · exact hkey (by decide) hk
  · exact hkey (by decide) (by simp [postUpRouteHook, String.data_append, hroute r hr'])
  · exact hkey (by decide) (by simp [preDownRouteHook, String.data_append, hroute r hr'])
  · decide
  · decide
  · decide
  · exact hkey (by decide) (hp p hp').1
  · exact hkey (by decide) (hp p hp').2.1
  · exact hkey (by decide) fun h =>
      (mem_intercalate h).elim (by decide) fun ⟨ip, hip, h⟩ => (hp p hp').2.2 ip hip h
  · exact hkey (by decide) (newline_not_mem_toString_nat _)
  · decide

theorem wgQuickKeyValue_postUp {route : RouteEntry} (hr : route.Inet) :
    wgQuickKeyValue (keyLine "PostUp" (postUpRouteHook route)) = ("PostUp", postUpRouteHook route) := by
  have hhash : prefixChar '#' = false := rfl
  have hnet := not_mem_of_isPrefix hr.network hhash
  have hgw : '#' ∉ route.gateway.data :=
    hr.gateway.elim (fun h => by simp [h]) fun h => not_mem_of_isPrefix (isPrefix_of_isAddress h) hhash
  have htrim : Trimmed (postUpRouteHook route) := by
    have hdata : (postUpRouteHook route).data = 'i' :: ("p route add ".data ++ route.network.data ++
        " via ".data ++ route.gateway.data ++ " dev %i || tru".data) ++ ['e'] := by
      simp [postUpRouteHook, String.data_append]
    refine ⟨by simp [hdata], fun c hc => ?_, fun c hc => ?_⟩
    · rw [hdata, List.cons_append, List.head?_cons, Option.mem_def, Option.some.injEq] at hc
      subst hc; rfl
    · rw [hdata, List.getLast?_concat, Option.mem_def, Option.some.injEq] at hc
      subst hc; rfl
  rw [wgQuickKeyValue_keyLine (by decide), List.takeWhile_eq_self_iff.mpr, trimSpace_of_trimmed htrim]
  simp only [postUpRouteHook, String.data_append, List.mem_append, decide_eq_true_eq]
  rintro c ((((hc | hc) | hc) | hc) | hc) rfl
  exacts [absurd hc (by decide), hnet hc, absurd hc (by decide), hgw hc, absurd hc (by decide)]

theorem key_ne_postUp_of_mem_peerSection {peer : WGPeer} {line : String} (h : line ∈ peerSection peer) :
    (wgQuickKeyValue line).1 ≠ "PostUp" := by
  simp only [peerSection, List.mem_append, List.mem_cons, List.mem_ite_nil_right, List.mem_singleton,
    List.not_mem_nil, or_false] at h
  rcases h with ((((rfl | rfl) | ⟨-, rfl⟩) | ⟨-, rfl⟩) | ⟨-, rfl⟩) | rfl
  all_goals first | decide | (rw [key_keyLine (by decide)]; decide)

theorem postUpHooks_sysctl (rest : List String) :
    postUpHooks true ([keyLine "PostUp" "sysctl -w net.ipv4.ip_forward=1", ""] ++ rest) =
      "sysctl -w net.ipv4.ip_forward=1" :: postUpHooks true rest := rfl

theorem wgQuickPostUp_generate {config : FullConfig} {routes : List RouteEntry} (hc : OneLine config)
    (hr : ∀ r ∈ routes, r.Inet) :
    wgQuickPostUp (generateWgQuickConfig config routes) =
      routes.map postUpRouteHook ++ ["sysctl -w net.ipv4.ip_forward=1"] := by
  have hplain : ∀ {key : String} (value : String), key ∈ ["Address", "ListenPort", "PrivateKey", "PreDown"] →
      (wgQuickKeyValue (keyLine key value)).1 ≠ "PostUp" ∧
        (wgQuickKeyValue (keyLine key value)).1 ≠ "[Interface]" ∧
        hasPrefix (wgQuickKeyValue (keyLine key value)).1 "[" = false := by
    intro key value hkey
    simp only [List.mem_cons, List.not_mem_nil, or_false] at hkey
    rcases hkey with rfl | rfl | rfl | rfl <;> (rw [key_keyLine (by decide)]; decide)
  rw [wgQuickPostUp, generateWgQuickConfig, split_lines (newline_not_mem_lines hc hr)]
  simp only [wgQuickConfigLines, List.append_assoc]
  rw [List.cons_append, postUpHooks_interface, postUpHooks_append_plain _ ?header,
    postUpHooks_append_postUp _ ?hooks, postUpHooks_append_plain _ ?preDown, postUpHooks_sysctl,
    postUpHooks_eq_nil ?peers]
  · simp only [List.map_map]
    exact congrArg (· ++ _) (List.map_congr_left fun r hr' => congrArg Prod.snd (wgQuickKeyValue_postUp (hr r hr')))
  case header =>
    simp only [List.mem_cons, List.not_mem_nil, or_false]
    rintro l (rfl | rfl | rfl) <;> exact hplain _ (by simp)
  case hooks =>
    simp only [List.mem_map]
    rintro l ⟨r, hr', rfl⟩
    rw [wgQuickKeyValue_postUp (hr r hr')]
  case preDown =>
    simp only [List.mem_map]
    rintro l ⟨r, -, rfl⟩
    exact hplain _ (by simp)
  case peers =>
    simp only [List.mem_append, List.mem_flatMap, List.mem_singleton]
    rintro l (⟨p, -, hl⟩ | rfl)
    exacts [key_ne_postUp_of_mem_peerSection hl, by decide]

/-! ## Running the hooks -/

theorem expandInterface_cons_of_ne {iface : String} {c : Char} (hc : c ≠ '%') (rest : List Char) :
    expandInterface iface (c :: rest) = c :: expandInterface iface rest := by
  cases rest <;> simp [expandInterface, hc]

theorem expandInterface_append {iface : String} {l : List Char} (h : '%' ∉ l) (rest : List Char) :
    expandInterface iface (l ++ rest) = l ++ expandInterface iface rest := by
  induction l with
  | nil => rfl
  | cons c l ih =>
    rw [List.cons_append, expandInterface_cons_of_ne (fun hc => h (hc ▸ List.mem_cons_self _ _)),
      ih fun hl => h (List.mem_cons_of_mem _ hl), List.cons_append]

section Hooks

variable {iface : String} (hiface : Token iface ∧ iface ≠ "||")
include hiface

/-- A route's hook adds the route when it has a gateway and its destination is free;
without a gateway it reads `via  dev`, `ip` fails, and `true` leaves the table. -/
theorem runHook_postUpRouteHook {route : RouteEntry} (hr : route.Inet) (t : RouteTable) :
    runHook iface t (postUpRouteHook route) = some (t.postUp route) := by
  obtain ⟨network, gateway⟩ := route
  have hpct : prefixChar '%' = false := rfl
  -- the hook, `%i` expanded, is its words joined by spaces
  have hexp : '%' ∉ gateway.data →
      (⟨expandInterface iface (postUpRouteHook ⟨network, gateway⟩).data⟩ : String) =
        join (["ip", "route", "add", network, "via", gateway, "dev", iface] ++ "||" :: ["true"]) ' ' := by
    intro hgw
    apply String.ext
    simp only [postUpRouteHook, String.data_append, List.append_assoc]
    rw [expandInterface_append (by decide), expandInterface_append (not_mem_of_isPrefix hr.network hpct),
      expandInterface_append (by decide), expandInterface_append hgw]
    simp [join, List.intercalate, expandInterface]
  rcases hr.gateway with hgw | hgw
  · -- `ip route add <network> via  dev <if> || true`: `ip` takes `dev` for the gateway
    obtain rfl : gateway = "" := hgw
    have hvars : ∀ w ∈ [network, "", iface], (Token w ∨ w = "") ∧ w ≠ "||" := by
      simp [word_of_isPrefix hr.network, hiface]
    have hnil : network.data ≠ [] ∧ iface.data ≠ [] := ⟨(word_of_isPrefix hr.network).1.1, hiface.1.1⟩
    rw [runHook, hexp (by decide), runCommand_or (words_ok (by decide) hvars (by simp)) (by decide)]
    simp [List.isEmpty_iff, hnil, runSimple_ipRoute, runSimple_true, ipRoute, routeArgs_via_dev hr.network,
      RouteTable.postUp]
  · -- `ip route add <network> via <gateway> dev <if> || true`
    have hne : gateway ≠ "" := fun h => by simp [h, isAddress] at hgw
    have hwords : ["ip", "route", "add", network, "via", gateway, "dev", iface] =
        routeWords "add" iface ⟨network, gateway⟩ := by simp [routeWords, hne]
    rw [runHook, hexp (not_mem_of_isPrefix (isPrefix_of_isAddress hgw) hpct), hwords,
      runCommand_or_tokens (routeWords_ok (.inl rfl) hiface hr) (by decide), runSimple_routeWords hr,
      RouteTable.postUp]
    by_cases hfree : ∀ r ∈ t.routes, r.dst ≠ displayNetwork network
    · rw [if_pos (Or.inr ⟨rfl, hfree⟩), if_pos ⟨hne, hfree⟩]
      rfl
    · rw [if_neg fun h => h.elim (by decide) fun h => hfree h.2, if_neg fun h => hfree h.2]
      rfl

theorem wgQuickUp_generate {config : FullConfig} {routes : List RouteEntry} (hc : OneLine config)
    (hr : ∀ r ∈ routes, r.Inet) (t : RouteTable) :
    wgQuickUp iface (generateWgQuickConfig config routes) t = some (routes.foldl RouteTable.postUp t) := by
  rw [wgQuickUp, wgQuickPostUp_generate hc hr, List.foldlM_append,
    foldlM_map_some t fun r hr' t => runHook_postUpRouteHook hiface (hr r hr') t]
  rfl

end Hooks

/-! ## The table at boot and the live table -/

section Settled

/-! Routes told apart by their printed destinations, run on a table that holds only routes
added for some of them: each step adds at most its own route. -/

variable {S : List RouteEntry}

theorem mem_foldl_settled {step : RouteTable → RouteEntry → RouteTable} {P : RouteEntry → Prop}
    (hstep : ∀ t r, (∀ kr ∈ t.routes, ∃ r ∈ S, kr = addedRoute r) → r ∈ S →
      ∀ kr, kr ∈ (step t r).routes ↔ kr ∈ t.routes ∨ (P r ∧ kr = addedRoute r)) :
    ∀ {routes : List RouteEntry} {t : RouteTable}, (∀ r ∈ routes, r ∈ S) →
      (∀ kr ∈ t.routes, ∃ r ∈ S, kr = addedRoute r) →
      ∀ kr, kr ∈ (routes.foldl step t).routes ↔ kr ∈ t.routes ∨ ∃ r ∈ routes, P r ∧ kr = addedRoute r
  | [], _, _, _, _ => by simp
  | r :: routes, t, hrs, ht, kr => by
    have hr := hrs r (List.mem_cons_self _ _)
    have ht' : ∀ kr ∈ (step t r).routes, ∃ r ∈ S, kr = addedRoute r := fun kr hkr =>
      ((hstep t r ht hr kr).mp hkr).elim (ht kr) fun h => ⟨r, hr, h.2⟩
    rw [List.foldl_cons, mem_foldl_settled hstep (fun r' h => hrs r' (List.mem_cons_of_mem _ h)) ht' kr,
      hstep t r ht hr kr]
    simp only [List.mem_cons, or_and_right, exists_or, exists_eq_left, or_assoc]

variable (hS : ∀ r ∈ S, ∀ r' ∈ S, displayNetwork r.network = displayNetwork r'.network → r = r')
include hS

theorem eq_addedRoute_of_dst {t : RouteTable} (ht : ∀ kr ∈ t.routes, ∃ r ∈ S, kr = addedRoute r)
    {r : RouteEntry} (hr : r ∈ S) {kr : KernelRoute} (hkr : kr ∈ t.routes)
    (hdst : kr.dst = displayNetwork r.network) : kr = addedRoute r := by
  obtain ⟨r', hr', rfl⟩ := ht kr hkr
  rw [hS r' hr' r hr hdst]

theorem mem_add_settled {t : RouteTable} (ht : ∀ kr ∈ t.routes, ∃ r ∈ S, kr = addedRoute r)
    {r : RouteEntry} (hr : r ∈ S) (h4 : ':' ∉ r.network.data) (kr : KernelRoute) :
    kr ∈ (t.add r).routes ↔ kr ∈ t.routes ∨ (True ∧ kr = addedRoute r) := by
  rw [mem_add, true_and, eq_true h4, true_and]
  refine ⟨Or.imp_left And.left, Or.rec (fun hkr => ?_) .inr⟩
  by_cases hdst : kr.dst = displayNetwork r.network
  exacts [.inr (eq_addedRoute_of_dst hS ht hr hkr hdst), .inl ⟨hkr, hdst⟩]

theorem mem_postUp_settled {t : RouteTable} (ht : ∀ kr ∈ t.routes, ∃ r ∈ S, kr = addedRoute r)
    {r : RouteEntry} (hr : r ∈ S) (h4 : ':' ∉ r.network.data) (kr : KernelRoute) :
    kr ∈ (t.postUp r).routes ↔ kr ∈ t.routes ∨ (r.gateway ≠ "" ∧ kr = addedRoute r) := by
  unfold RouteTable.postUp
  split_ifs with h
  · simpa [h.1] using mem_add_settled hS ht hr h4 kr
  · -- no gateway, or the destination is routed already, by the route itself
    refine ⟨.inl, Or.rec id fun ⟨hgw, hkr⟩ => ?_⟩
    obtain ⟨kr', hkr', hdst⟩ : ∃ kr' ∈ t.routes, kr'.dst = displayNetwork r.network := by
      simpa [hgw] using h
    exact hkr ▸ eq_addedRoute_of_dst hS ht hr hkr' hdst ▸ hkr'

end Settled

theorem keyed_nil : Keyed [] :=
  ⟨fun _ h => absurd h (List.not_mem_nil _), fun _ h => absurd h (List.not_mem_nil _)⟩

theorem calculateRouteDiff_nil_snd {desired : List RouteEntry} (hd : Keyed desired) :
    (calculateRouteDiff [] desired).2 = [] :=
  List.eq_nil_iff_forall_not_mem.mpr fun c hc => List.not_mem_nil c ((mem_toRemove keyed_nil hd).mp hc).1

section Boot

variable {desired : List RouteEntry} (hd : Settles desired)
include hd

theorem mem_boot (kr : KernelRoute) :
    kr ∈ (desired.foldl RouteTable.postUp RouteTable.empty).routes ↔
      ∃ r ∈ desired, r.gateway ≠ "" ∧ kr = addedRoute r := by
  rw [mem_foldl_settled (fun t r ht hr kr => mem_postUp_settled (fun _ h _ h' => hd.eq_of_displayNetwork h h')
    ht hr (hd.inet r hr) kr) (fun _ h => h) (fun _ h => absurd h (List.not_mem_nil _)) kr]
  simp only [RouteTable.empty, List.not_mem_nil, false_or]

theorem mem_live (kr : KernelRoute) :
    kr ∈ ((calculateRouteDiff [] desired).1.foldl RouteTable.add RouteTable.empty).routes ↔
      ∃ r ∈ desired, kr = addedRoute r := by
  have hadd := @mem_toAdd _ _ keyed_nil hd.keyed
  rw [mem_foldl_settled (fun t r ht hr kr => mem_add_settled (fun _ h _ h' => hd.eq_of_displayNetwork h h')
    ht hr (hd.inet r hr) kr) (fun r h => (hadd.mp h).1) (fun _ h => absurd h (List.not_mem_nil _)) kr]
  simp only [RouteTable.empty, List.not_mem_nil, false_or, true_and, hadd, and_assoc]
  simp

/-- For desired routes that settle and that `ip` reads, both paths from an empty table: the
hooks of the file leave the desired routes with a gateway, and `ApplyRouteDiff`, whose
commands the interpreter runs to the same table as the route model, leaves all of them. -/
theorem persisted_routes {config : FullConfig} {iface : String} (hc : OneLine config)
    (hr : ∀ r ∈ desired, r.Inet) (hiface : Token iface ∧ iface ≠ "||") :
    ∃ boot live, wgQuickUp iface (generateWgQuickConfig config desired) RouteTable.empty = some boot ∧
      applyRouteDiff acceptAll iface (calculateRouteDiff [] desired).1 (calculateRouteDiff [] desired).2
        RouteTable.empty = .ok live ∧
      ((calculateRouteDiff [] desired).1.map (addRouteCmd iface)).foldlM (runCommand iface)
        RouteTable.empty = some live ∧
      ∀ kr, (kr ∈ boot.routes ↔ ∃ r ∈ desired, r.gateway ≠ "" ∧ kr = addedRoute r) ∧
        (kr ∈ live.routes ↔ ∃ r ∈ desired, kr = addedRoute r) := by
  have hadd : ∀ r ∈ (calculateRouteDiff [] desired).1, r.Inet :=
    fun r h => hr r ((mem_toAdd keyed_nil hd.keyed).mp h).1
  refine ⟨_, _, wgQuickUp_generate hiface hc hr _, ?_, foldlM_runCommand_addRouteCmd hiface hadd _,
    fun kr => ⟨mem_boot hd kr, mem_live hd kr⟩⟩
  rw [@applyRouteDiff_ok acceptAll (fun _ => rfl), RouteTable.applyDiff, calculateRouteDiff_nil_snd hd.keyed]
  rfl

end Boot

/-- The routes of the file `Deploy` writes, replayed at boot, against those `ApplyRouteDiff`
installs on an empty table: the boot installs exactly the routes with a gateway. Each network
of the node's own, to which `collectAllRoutesForNode` gives no gateway, is routed through the
interface after a deploy and has no route after a reboot. -/
theorem persisted_routes_drop_direct {m : Mesh} {node : Node}
    (hd : Settles (m.collectAllRoutesForNode node))
    (hinet : ∀ r ∈ m.collectAllRoutesForNode node, r.Inet)
    (hconfig : OneLine (m.generateConfigForNode node))
    (hiface : Token m.interfaceName ∧ m.interfaceName ≠ "||") :
    ∃ boot live,
      wgQuickUp m.interfaceName (generateWgQuickConfig (m.generateConfigForNode node)
          (m.collectAllRoutesForNode node)) RouteTable.empty = some boot ∧
      applyRouteDiff acceptAll m.interfaceName (calculateRouteDiff [] (m.collectAllRoutesForNode node)).1
          (calculateRouteDiff [] (m.collectAllRoutesForNode node)).2 RouteTable.empty = .ok live ∧
      ((calculateRouteDiff [] (m.collectAllRoutesForNode node)).1.map (addRouteCmd m.interfaceName)).foldlM
          (runCommand m.interfaceName) RouteTable.empty = some live ∧
      (∀ kr, kr ∈ boot.routes ↔ kr ∈ live.routes ∧ kr.gateway ≠ "") ∧
      ∀ network ∈ node.routableNetworks,
        addedRoute ⟨network, ""⟩ ∈ live.routes ∧ ∀ kr ∈ boot.routes, kr.dst ≠ displayNetwork network := by
  obtain ⟨boot, live, hboot, happly, hrun, hmem⟩ := persisted_routes hd hconfig hinet hiface
  refine ⟨boot, live, hboot, happly, hrun, fun kr => ?_, fun network hnet => ?_⟩
  · rw [(hmem kr).1, (hmem kr).2]
    constructor
    · rintro ⟨r, hr, hgw, rfl⟩
      exact ⟨⟨r, hr, rfl⟩, hgw⟩
    · rintro ⟨⟨r, hr, rfl⟩, hgw⟩
      exact ⟨r, hr, hgw, rfl⟩
  · -- the node's own network is a desired route without a gateway
    have hown : (⟨network, ""⟩ : RouteEntry) ∈ m.collectAllRoutesForNode node :=
      List.mem_append_left _ (List.mem_map_of_mem _ hnet)
    refine ⟨(hmem _).2.mpr ⟨_, hown, rfl⟩, fun kr hkr hdst => ?_⟩
    obtain ⟨r, hr, hgw, rfl⟩ := (hmem kr).1.mp hkr
    exact hgw (congrArg RouteEntry.gateway (hd.eq_of_displayNetwork hr hown hdst))

theorem persisted_routes_drop_direct_sample :
    Settles (sampleMesh.collectAllRoutesForNode sampleNode2) ∧
      (∀ r ∈ sampleMesh.collectAllRoutesForNode sampleNode2, r.Inet) ∧
      OneLine (sampleMesh.generateConfigForNode sampleNode2) ∧
      (Token sampleMesh.interfaceName ∧ sampleMesh.interfaceName ≠ "||") ∧
      ∃ boot live,
        wgQuickUp sampleMesh.interfaceName (generateWgQuickConfig (sampleMesh.generateConfigForNode sampleNode2)
            (sampleMesh.collectAllRoutesForNode sampleNode2)) RouteTable.empty = some boot ∧
        applyRouteDiff acceptAll sampleMesh.interfaceName
            (calculateRouteDiff [] (sampleMesh.collectAllRoutesForNode sampleNode2)).1
            (calculateRouteDiff [] (sampleMesh.collectAllRoutesForNode sampleNode2)).2 RouteTable.empty = .ok live ∧
        ((calculateRouteDiff [] (sampleMesh.collectAllRoutesForNode sampleNode2)).1.map
            (addRouteCmd sampleMesh.interfaceName)).foldlM (runCommand sampleMesh.interfaceName)
            RouteTable.empty = some live ∧
        (∀ kr, kr ∈ boot.routes ↔ kr ∈ live.routes ∧ kr.gateway ≠ "") ∧
        ∀ network ∈ sampleNode2.routableNetworks,
          addedRoute ⟨network, ""⟩ ∈ live.routes ∧ ∀ kr ∈ boot.routes, kr.dst ≠ displayNetwork network :=
  have hd : Settles (sampleMesh.collectAllRoutesForNode sampleNode2) :=
    ⟨⟨by decide, by decide⟩, by decide, by decide, by decide⟩
  have hinet : ∀ r ∈ sampleMesh.collectAllRoutesForNode sampleNode2, r.Inet := by decide
  have hconfig : OneLine (sampleMesh.generateConfigForNode sampleNode2) := by decide
  have hiface : Token sampleMesh.interfaceName ∧ sampleMesh.interfaceName ≠ "||" := by decide
  ⟨hd, hinet, hconfig, hiface, persisted_routes_drop_direct hd hinet hconfig hiface⟩


end WgMesh.Deploy
