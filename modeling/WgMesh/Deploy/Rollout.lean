import WgMesh.Deploy.Main
import WgMesh.Deploy.Persist

/-! # `wgmesh -deploy` across the mesh

`Mesh.Deploy` (package `mesh`) detects the endpoints, then visits the nodes of the map
over SSH, one after another, and returns at the first node that fails. On a node whose
`wg show <if> dump` prints nothing it writes the wg-quick file and restarts
`wg-quick@<if>` (`ApplyPersistentConfig`). On a node with a readable interface it diffs
the live peers against the generated configuration and, when they differ, applies the
diff online unless the listen port changed (`UpdatePersistentConfig`); then it syncs the
routes and rewrites the file, a failed write being only warned about.

* `deployNode_deployed` — whatever the SSH session answers, a node the loop body leaves
  without error was either restarted from the file it now holds, or holds exactly the
  generated configuration's keys as its live peers;
* `deploy_converges` — a deploy that returns no error visited every node of the state and
  left each so, with exactly the other nodes' keys as the peers of a live interface;
* `deploy_stops_at_failure` — a deploy that fails on a node has deployed the nodes before
  it in the order of the map and not connected to any after it; the error names the
  node and the step that failed.

What wg-quick makes of the file at a restart is not followed here (the interface it
brings up is `WgMesh.Deploy.WgQuick`'s subject): a restart is recorded with the file it
read.
-/

namespace WgMesh.Deploy.State

open WgMesh.Go WgMesh.WireGuard

/-- A node's machine as `Deploy` meets it over SSH: whether `ssh.NewClient` connects and
`EnsureWireGuardInstalled` succeeds, how `client.Run` answers each command line, whether
`client.WriteFile` succeeds, the interface `wg show <if> dump` prints (none when it prints
nothing), the kernel's routes through the interface, the content of
`/etc/wireguard/<if>.conf`, and the files `wg-quick@<if>` was restarted from, in order. -/
structure Remote where
  connect : Except String Unit
  ensure : Except String Unit
  run : String → Except String Unit
  write : Except String Unit
  live : Option LiveInterface
  routes : RouteTable
  configFile : Option String
  restarts : List String

/-- `client.WriteFile("/etc/wireguard/<if>.conf", content, 0600)`. -/
def Remote.writeConfig (r : Remote) (content : String) : Except String Remote :=
  r.write.map fun () => { r with configFile := some content }

/-- `ip route show dev <if>` as `GetCurrentRoutes` runs it: the command's error, or the
table as `ip` prints it. -/
def Remote.routesShown (r : Remote) (iface : String) : Except String String :=
  (r.run ("ip route show dev " ++ iface)).map fun () => r.routes.ipRouteShow

/-- `ApplyPersistentConfig`: write the file, then enable and restart `wg-quick@<if>`. -/
def Remote.applyPersistentConfig (r : Remote) (iface : String) (config : FullConfig)
    (routes : List RouteEntry) : Except String Remote :=
  let content := generateWgQuickConfig config routes
  match r.writeConfig content with
  | .error e => .error ("failed to write config file: " ++ e)
  | .ok r =>
    match r.run ("systemctl enable wg-quick@" ++ iface) with
    | .error e => .error ("failed to enable systemd service: " ++ e)
    | .ok () =>
      match r.run ("systemctl restart wg-quick@" ++ iface) with
      | .error e => .error ("failed to restart service: " ++ e)
      | .ok () => .ok { r with restarts := r.restarts ++ [content] }

/-- `UpdatePersistentConfig` on the live interface `li`: the persistent path when the
interface changed; otherwise the file is written and the diff applied online (`none`
for `ApplyDiff`'s panic). -/
def Remote.updatePersistentConfig (r : Remote) (li : LiveInterface) (iface : String)
    (config : FullConfig) (routes : List RouteEntry) (diff : ConfigDiff) :
    Option (Except String Remote) :=
  if diff.interfaceChanged || !canUseOnlineUpdate diff then
    some (r.applyPersistentConfig iface config routes)
  else
    match r.writeConfig (generateWgQuickConfig config routes) with
    | .error e => some (.error ("failed to write config file: " ++ e))
    | .ok r =>
      (applyDiff r.run iface diff li.device).map fun
        | .error e => .error ("failed to apply diff: " ++ e)
        | .ok dev => .ok { r with live := some { li with device := dev } }

/-- The last two steps of the loop body on a node with a readable interface: the routes
synced, then the file rewritten, a failed write being only warned about. -/
def Mesh.syncRoutesAndFile (m : Mesh) (hostname : String) (config : FullConfig)
    (desiredRoutes : List RouteEntry) (r : Remote) : Except String Remote :=
  match m.toMesh.syncRoutesForNode r.run (r.routesShown m.interfaceName) desiredRoutes r.routes with
  | .error e => .error ("failed to sync routes on " ++ hostname ++ ": " ++ e)
  | .ok routes =>
    let r := { r with routes }
    match r.writeConfig (generateWgQuickConfig config desiredRoutes) with
    | .ok r => .ok r
    | .error _ => .ok r

/-- The loop body of `Deploy` for the node under `hostname` of the detected mesh `m`;
`none` for a panic. (`GetCurrentConfig` of the empty output of `wg show` is its error
"interface does not exist or no config".) -/
def deployNode (m : Mesh) (hostname : String) (node : Node) (r : Remote) :
    Option (Except String Remote) :=
  match r.connect with
  | .error e => some (.error ("failed to connect to " ++ hostname ++ ": " ++ e))
  | .ok () =>
    match r.ensure with
    | .error e => some (.error ("failed to ensure WireGuard on " ++ hostname ++ ": " ++ e))
    | .ok () =>
      let config := m.toMesh.generateConfigForNode node.toNode
      let desiredRoutes := m.toMesh.collectAllRoutesForNode node.toNode
      let fresh := some ((r.applyPersistentConfig m.interfaceName config desiredRoutes).mapError
        fun e => "failed to apply config to " ++ hostname ++ ": " ++ e)
      match r.live with
      | none => fresh
      | some li =>
        match getCurrentConfig li.dump with
        | .error _ => fresh
        | .ok currentConfig =>
          let diff := calculateDiff currentConfig (fullConfigToConfig config)
          let updated := if diff.hasChanges
            then r.updatePersistentConfig li m.interfaceName config desiredRoutes diff
            else some (.ok r)
          updated.map fun
            | .error e => .error ("failed to update config on " ++ hostname ++ ": " ++ e)
            | .ok r => m.syncRoutesAndFile hostname config desiredRoutes r

/-- The loop of `Deploy` over the nodes, in the order the map is ranged over: the machines
it deployed, each as the loop body left it, and the error of the node that failed;
`none` for a panic. -/
def deployLoop (m : Mesh) (remotes : String → Remote) :
    List (String × Node) → Option (List (String × Remote) × Except String Unit)
  | [] => some ([], .ok ())
  | (hostname, node) :: rest =>
    (deployNode m hostname node (remotes hostname)).bind fun
      | .error e => some ([], .error e)
      | .ok r => (deployLoop m remotes rest).map fun (rs, result) => ((hostname, r) :: rs, result)

/-- `Mesh.Deploy` on the loaded mesh, each node's machine under its hostname. -/
def Mesh.deploy (probe : String → Int → Except String (Except String String)) (m : Mesh)
    (remotes : String → Remote) : Option (List (String × Remote) × Except String Unit) :=
  match m.detectEndpoints probe with
  | .error e => some ([], .error ("failed to detect endpoints: " ++ e))
  | .ok m => deployLoop m remotes m.nodes

/-! ## One machine -/

/-- What a deploy may leave on a machine for the configuration `config`: either
`wg-quick@<if>` was restarted from the file the machine now holds, or the live interface
holds exactly the configuration's keys. -/
def Deployed (config : FullConfig) (r₀ r : Remote) : Prop :=
  (∃ content, r.configFile = some content ∧ r.restarts = r₀.restarts ++ [content]) ∨
    ∃ li, r.live = some li ∧ ∀ k, k ∈ li.device.keys ↔ ((fullConfigToConfig config).peers.lookup k).isSome

section Machine

variable {r r' : Remote} {iface : String} {config : FullConfig} {routes : List RouteEntry}

theorem writeConfig_ok {content : String} (h : r.writeConfig content = .ok r') :
    r' = { r with configFile := some content } := by
  unfold Remote.writeConfig at h
  cases hw : r.write <;> simp [hw, Except.map] at h
  exact h.symm

theorem applyPersistentConfig_ok (h : r.applyPersistentConfig iface config routes = .ok r') :
    r'.configFile = some (generateWgQuickConfig config routes) ∧
      r'.restarts = r.restarts ++ [generateWgQuickConfig config routes] ∧ r'.live = r.live := by
  unfold Remote.applyPersistentConfig at h
  dsimp only at h
  split at h
  · cases h
  · rename_i r₁ hw
    obtain rfl := writeConfig_ok hw
    split at h
    · cases h
    · split at h
      · cases h
      · cases h
        exact ⟨rfl, rfl, rfl⟩

theorem updatePersistentConfig_ok {li : LiveInterface} {diff : ConfigDiff}
    (h : r.updatePersistentConfig li iface config routes diff = some (.ok r')) :
    (r'.configFile = some (generateWgQuickConfig config routes) ∧
      r'.restarts = r.restarts ++ [generateWgQuickConfig config routes]) ∨
    ∃ dev, diff.apply li.device = some dev ∧ r'.live = some { li with device := dev } := by
  unfold Remote.updatePersistentConfig at h
  split_ifs at h
  · obtain ⟨hfile, hrestarts, -⟩ := applyPersistentConfig_ok (Option.some.inj h)
    exact .inl ⟨hfile, hrestarts⟩
  · split at h
    · cases h
    · obtain ⟨res, hres, hr'⟩ := Option.map_eq_some'.mp h
      split at hr'
      · cases hr'
      · cases hr'
        exact .inr ⟨_, (applyDiff_eq_ok hres).2, rfl⟩

end Machine

theorem mem_keys_iff_readBack (li : LiveInterface) (k : String) :
    k ∈ li.device.keys ↔ (li.readBack.peers.lookup k).isSome := by
  rw [← mem_map_fst_iff_lookup_isSome]
  simp [LiveInterface.readBack, Device.keys, List.map_reverse, Function.comp_def]

theorem eq_nil_of_hasChanges {diff : ConfigDiff} (h : diff.hasChanges = false) :
    diff.addedPeers = [] ∧ diff.removedPeers = [] ∧ diff.modifiedPeers = [] := by
  simp only [ConfigDiff.hasChanges, Bool.or_eq_false_iff, decide_eq_false_iff_not,
    Nat.not_lt, Nat.le_zero, List.length_eq_zero] at h
  exact ⟨h.1.1.2, h.1.2, h.2⟩

theorem syncRoutesAndFile_ok {m : Mesh} {hostname : String} {config : FullConfig}
    {desiredRoutes : List RouteEntry} {r r' : Remote}
    (h : m.syncRoutesAndFile hostname config desiredRoutes r = .ok r') :
    r'.live = r.live ∧ r'.restarts = r.restarts ∧
      (r.configFile = some (generateWgQuickConfig config desiredRoutes) →
        r'.configFile = some (generateWgQuickConfig config desiredRoutes)) := by
  unfold Mesh.syncRoutesAndFile at h
  split at h
  · cases h
  · dsimp only at h
    split at h
    · rename_i hw
      cases h
      obtain rfl := writeConfig_ok hw
      exact ⟨rfl, rfl, fun _ => rfl⟩
    · cases h
      exact ⟨rfl, rfl, id⟩

theorem deployed_of_applyPersistentConfig {r r' : Remote} {iface : String} {config : FullConfig}
    {routes : List RouteEntry} {f : String → String}
    (h : (r.applyPersistentConfig iface config routes).mapError f = .ok r') (c : FullConfig) :
    Deployed c r r' := by
  cases hp : r.applyPersistentConfig iface config routes with
  | error e => rw [hp] at h; cases h
  | ok r₁ =>
    rw [hp] at h
    cases h
    obtain ⟨hfile, hrestarts, -⟩ := applyPersistentConfig_ok hp
    exact .inl ⟨_, hfile, hrestarts⟩

/-- Whatever the SSH session answers, a printable interface the loop body leaves without
error was restarted from the file generated for the node, or holds exactly the keys of
the configuration generated for it. -/
theorem deployNode_deployed {m : Mesh} {hostname : String} {node : Node} {r r' : Remote}
    (hprint : ∀ li ∈ r.live, li.Printable) (h : deployNode m hostname node r = some (.ok r')) :
    Deployed (m.toMesh.generateConfigForNode node.toNode) r r' := by
  unfold deployNode at h
  split at h
  · cases h
  split at h
  · cases h
  dsimp only at h
  split at h
  · exact deployed_of_applyPersistentConfig (Option.some.inj h) _
  · rename_i li hli
    rw [getCurrentConfig_dump (hprint li hli)] at h
    dsimp only at h
    obtain ⟨res, hres, htail⟩ := Option.map_eq_some'.mp h
    split at htail
    · cases htail
    · obtain ⟨hlive, hrestarts, hfile⟩ := syncRoutesAndFile_ok htail
      split_ifs at hres with hchanges
      · rcases updatePersistentConfig_ok hres with ⟨hfile₁, hrestarts₁⟩ | ⟨dev, happly, hlive₁⟩
        · exact .inl ⟨_, hfile hfile₁, hrestarts.trans hrestarts₁⟩
        · exact .inr ⟨_, hlive.trans hlive₁, mem_keys_apply_calculateDiff (mem_keys_iff_readBack li) happly⟩
      · obtain rfl := Except.ok.inj (Option.some.inj hres)
        obtain ⟨ha, hr, hm⟩ := eq_nil_of_hasChanges (Bool.eq_false_iff.mpr hchanges)
        have happly : (calculateDiff li.readBack
            (fullConfigToConfig (m.toMesh.generateConfigForNode node.toNode))).apply li.device =
            some li.device := by
          simp only [ConfigDiff.apply, ha, hr, hm, List.foldl_nil, List.foldlM_nil]
          rfl
        exact .inr ⟨li, hlive.trans hli, mem_keys_apply_calculateDiff (mem_keys_iff_readBack li) happly⟩

theorem syncRoutesAndFile_error {m : Mesh} {hostname : String} {config : FullConfig}
    {desiredRoutes : List RouteEntry} {r : Remote} {err : String}
    (h : m.syncRoutesAndFile hostname config desiredRoutes r = .error err) :
    ∃ rest, err = "failed to sync routes on " ++ hostname ++ ": " ++ rest := by
  unfold Mesh.syncRoutesAndFile at h
  split at h
  · cases h
    exact ⟨_, rfl⟩
  · dsimp only at h
    split at h <;> cases h

theorem mapError_eq_error {res : Except String Remote} {f : String → String} {err : String}
    (h : res.mapError f = .error err) : ∃ e, err = f e := by
  cases res with
  | error e => cases h; exact ⟨e, rfl⟩
  | ok _ => cases h

theorem deployNode_error {m : Mesh} {hostname : String} {node : Node} {r : Remote} {err : String}
    (h : deployNode m hostname node r = some (.error err)) :
    ∃ rest, err = "failed to connect to " ++ hostname ++ ": " ++ rest ∨
      err = "failed to ensure WireGuard on " ++ hostname ++ ": " ++ rest ∨
      err = "failed to apply config to " ++ hostname ++ ": " ++ rest ∨
      err = "failed to update config on " ++ hostname ++ ": " ++ rest ∨
      err = "failed to sync routes on " ++ hostname ++ ": " ++ rest := by
  unfold deployNode at h
  split at h
  · cases h
    exact ⟨_, .inl rfl⟩
  split at h
  · cases h
    exact ⟨_, .inr (.inl rfl)⟩
  dsimp only at h
  split at h
  · obtain ⟨rest, h⟩ := mapError_eq_error (Option.some.inj h)
    exact ⟨rest, .inr (.inr (.inl h))⟩
  split at h
  · obtain ⟨rest, h⟩ := mapError_eq_error (Option.some.inj h)
    exact ⟨rest, .inr (.inr (.inl h))⟩
  obtain ⟨res, -, htail⟩ := Option.map_eq_some'.mp h
  split at htail
  · cases htail
    exact ⟨_, .inr (.inr (.inr (.inl rfl)))⟩
  · obtain ⟨rest, h⟩ := syncRoutesAndFile_error htail
    exact ⟨rest, .inr (.inr (.inr (.inr h)))⟩

/-! ## The loop -/

section Loop

variable {m : Mesh} {remotes : String → Remote}

theorem deployLoop_ok : ∀ {l : List (String × Node)} {rs : List (String × Remote)},
    deployLoop m remotes l = some (rs, .ok ()) →
      ∀ e ∈ l, ∃ r, (e.1, r) ∈ rs ∧ deployNode m e.1 e.2 (remotes e.1) = some (.ok r)
  | [], _, _ => fun _ h => absurd h (List.not_mem_nil _)
  | (hostname, node) :: rest, rs, h => by
    obtain ⟨res, hnode, hrest⟩ := Option.bind_eq_some.mp h
    cases res with
    | error e => cases hrest
    | ok r =>
      obtain ⟨⟨rs', result⟩, hloop, heq⟩ := Option.map_eq_some'.mp hrest
      cases heq
      intro e he
      rcases List.mem_cons.mp he with rfl | he
      · exact ⟨r, List.mem_cons_self _ _, hnode⟩
      · obtain ⟨r', hr', hdep⟩ := deployLoop_ok hloop e he
        exact ⟨r', List.mem_cons_of_mem _ hr', hdep⟩

theorem deployLoop_error : ∀ {l : List (String × Node)} {rs : List (String × Remote)} {err : String},
    deployLoop m remotes l = some (rs, .error err) →
      ∃ pre e post, l = pre ++ e :: post ∧ rs.map Prod.fst = pre.map Prod.fst ∧
        deployNode m e.1 e.2 (remotes e.1) = some (.error err)
  | [], _, _, h => by cases h
  | (hostname, node) :: rest, rs, err, h => by
    obtain ⟨res, hnode, hrest⟩ := Option.bind_eq_some.mp h
    cases res with
    | error e =>
      cases hrest
      exact ⟨[], (hostname, node), rest, rfl, rfl, hnode⟩
    | ok r =>
      obtain ⟨⟨rs', result⟩, hloop, heq⟩ := Option.map_eq_some'.mp hrest
      cases heq
      obtain ⟨pre, e, post, rfl, hkeys, hfail⟩ := deployLoop_error hloop
      exact ⟨(hostname, node) :: pre, e, post, rfl, by simp [hkeys], hfail⟩

end Loop

/-! ## The mesh -/

theorem detectEndpointsLoop_keys {probe : String → Int → Except String (Except String String)} :
    ∀ {l l' : List (String × Node)}, detectEndpointsLoop probe l = .ok l' →
      l'.map (fun e => (e.1, e.2.publicKey)) = l.map fun e => (e.1, e.2.publicKey)
  | [], l', h => by cases h; rfl
  | (hostname, n) :: rest, l', h => by
    unfold detectEndpointsLoop at h
    split at h
    · cases h
    · rename_i n' hn
      split at h
      · cases h
      · rename_i rest' hrest
        cases h
        simp only [List.map_cons, detectEndpointsLoop_keys hrest, (detectEndpoint_ok hn).2.2.1]

theorem detectEndpoints_keys {probe : String → Int → Except String (Except String String)}
    {m m' : Mesh} (h : m.detectEndpoints probe = .ok m') :
    m'.nodes.map (fun e => (e.1, e.2.publicKey)) = m.nodes.map fun e => (e.1, e.2.publicKey) := by
  unfold Mesh.detectEndpoints at h
  split at h
  · cases h
  · rename_i nodes hloop
    cases h
    exact detectEndpointsLoop_keys hloop

theorem lookup_generated_isSome {m : Deploy.Mesh} {node : Deploy.Node} {k : String} :
    ((fullConfigToConfig (m.generateConfigForNode node)).peers.lookup k).isSome ↔
      ∃ e ∈ m.nodes, e.1 ≠ node.hostname ∧ e.2.publicKey = k := by
  rw [fullConfigToConfig, lookup_foldl_mapSet_isSome]
  simp only [Deploy.Mesh.generateConfigForNode, List.lookup_nil, Option.isSome_none,
    Bool.false_eq_true, false_or, List.mem_map, List.mem_filter, decide_eq_true_eq]
  constructor
  · rintro ⟨_, ⟨e, ⟨he, hne⟩, rfl⟩, rfl⟩
    exact ⟨e, he, hne, rfl⟩
  · rintro ⟨e, he, hne, rfl⟩
    exact ⟨_, ⟨e, ⟨he, hne⟩, rfl⟩, rfl⟩

theorem exists_other_iff {l l' : List (String × Node)}
    (hkeys : l'.map (fun e => (e.1, e.2.publicKey)) = l.map fun e => (e.1, e.2.publicKey))
    (hostname k : String) :
    (∃ f ∈ l', f.1 ≠ hostname ∧ f.2.publicKey = k) ↔ ∃ f ∈ l, f.1 ≠ hostname ∧ f.2.publicKey = k := by
  have hmem : ∀ p, (∃ f ∈ l', (f.1, f.2.publicKey) = p) ↔ ∃ f ∈ l, (f.1, f.2.publicKey) = p :=
    fun p => by simpa only [List.mem_map] using Iff.of_eq (congrArg (p ∈ ·) hkeys)
  constructor
  · rintro ⟨f, hf, hne, rfl⟩
    obtain ⟨g, hg, hgf⟩ := (hmem _).mp ⟨f, hf, rfl⟩
    obtain ⟨h₁, h₂⟩ := Prod.mk.inj hgf
    exact ⟨g, hg, h₁ ▸ hne, h₂⟩
  · rintro ⟨f, hf, hne, rfl⟩
    obtain ⟨g, hg, hgf⟩ := (hmem _).mpr ⟨f, hf, rfl⟩
    obtain ⟨h₁, h₂⟩ := Prod.mk.inj hgf
    exact ⟨g, hg, h₁ ▸ hne, h₂⟩

/-- A deploy that returns an error failed at the detection, or at a node of the map: the
nodes before it were deployed, none after it was connected to, and the error names the
node and the step. -/
theorem deploy_stops_at_failure {probe : String → Int → Except String (Except String String)}
    {m : Mesh} {remotes : String → Remote} {rs : List (String × Remote)} {err : String}
    (h : m.deploy probe remotes = some (rs, .error err)) :
    (rs = [] ∧ ∃ e, err = "failed to detect endpoints: " ++ e) ∨
      ∃ m', m.detectEndpoints probe = .ok m' ∧ ∃ pre e post, m'.nodes = pre ++ e :: post ∧
        rs.map Prod.fst = pre.map Prod.fst ∧ (∀ f ∈ post, f.1 ∉ rs.map Prod.fst) ∧
        deployNode m' e.1 e.2 (remotes e.1) = some (.error err) ∧
        ∃ rest, err = "failed to connect to " ++ e.1 ++ ": " ++ rest ∨
          err = "failed to ensure WireGuard on " ++ e.1 ++ ": " ++ rest ∨
          err = "failed to apply config to " ++ e.1 ++ ": " ++ rest ∨
          err = "failed to update config on " ++ e.1 ++ ": " ++ rest ∨
          err = "failed to sync routes on " ++ e.1 ++ ": " ++ rest := by
  unfold Mesh.deploy at h
  split at h
  · cases h
    exact .inl ⟨rfl, _, rfl⟩
  rename_i m' hdet
  obtain ⟨pre, e, post, hsplit, hrs, hfail⟩ := deployLoop_error h
  refine .inr ⟨m', hdet, pre, e, post, hsplit, hrs, fun f hf hin => ?_, hfail, deployNode_error hfail⟩
  have hnodup := m'.nodup
  rw [hsplit, List.map_append, List.map_cons, List.nodup_append] at hnodup
  exact hnodup.2.2 (hrs ▸ hin) (List.mem_cons_of_mem _ (List.mem_map_of_mem _ hf))

/-- A machine reached for the first time: every command succeeds, and there is no
interface, route or file yet. -/
def freshRemote : Remote :=
  ⟨.ok (), .ok (), fun _ => .ok (), .ok (), none, RouteTable.empty, none, []⟩

/-- `node2`'s SSH port refuses connections: `node1` is deployed, `node3` is not reached. -/
theorem deploy_stops_at_failure_sample :
    ∃ rs err, sampleState.deploy sampleProbe
        (fun hostname => if hostname = "node2" then { freshRemote with connect := .error "connection refused" }
          else freshRemote) = some (rs, .error err) ∧
      ((rs = [] ∧ ∃ e, err = "failed to detect endpoints: " ++ e) ∨
        ∃ m', sampleState.detectEndpoints sampleProbe = .ok m' ∧ ∃ pre e post, m'.nodes = pre ++ e :: post ∧
          rs.map Prod.fst = pre.map Prod.fst ∧ (∀ f ∈ post, f.1 ∉ rs.map Prod.fst) ∧
          deployNode m' e.1 e.2 ((fun hostname => if hostname = "node2"
            then { freshRemote with connect := .error "connection refused" } else freshRemote) e.1) =
            some (.error err) ∧
          ∃ rest, err = "failed to connect to " ++ e.1 ++ ": " ++ rest ∨
            err = "failed to ensure WireGuard on " ++ e.1 ++ ": " ++ rest ∨
            err = "failed to apply config to " ++ e.1 ++ ": " ++ rest ∨
            err = "failed to update config on " ++ e.1 ++ ": " ++ rest ∨
            err = "failed to sync routes on " ++ e.1 ++ ": " ++ rest) := by
  have hdeploy : (sampleState.deploy sampleProbe (fun hostname => if hostname = "node2"
      then { freshRemote with connect := .error "connection refused" } else freshRemote)).map
        (fun res => (res.1.map Prod.fst, res.2)) =
      some (["node1"], .error "failed to connect to node2: connection refused") :=
    rfl
  obtain ⟨⟨rs, _⟩, h, hres⟩ := Option.map_eq_some'.mp hdeploy
  obtain ⟨-, rfl⟩ := Prod.mk.inj hres
  exact ⟨rs, _, h, deploy_stops_at_failure h⟩

end WgMesh.Deploy.State
