import WgMesh.Deploy.Routes

/-! # What `wg-quick up` does with a configuration file

`ApplyPersistentConfig` writes `/etc/wireguard/<if>.conf` and enables `wg-quick@<if>`, so
that at boot `wg-quick up <if>` brings the interface up from the file. The routes the
file asks for are `PostUp` hooks; between the file and the routing table stand three
programs, modelled here:

* wg-quick's `parse_options`: each line is cut at its first `#` (a comment) and then at
  its first `=` into a key and a value, both trimmed. A key starting with `[` opens a
  section, and the value of every `PostUp` line of the `[Interface]` section is a hook,
  in order (`wgQuickPostUp`);
* `execute_hooks`: `%i` replaced by the interface name, and the hook run by `bash`: the
  words of the hook, the simple commands between `||` tried in turn until one succeeds
  (`runHook`). wg-quick runs under `set -e`, so a hook that fails stops the boot
  (`wgQuickUp`);
* `ip route add|replace`: iproute2's argument loop (`via` takes an address, `dev` a
  device, any other word is the destination; a gateway of the other address family than
  the destination's is refused), then the kernel: `add` fails with "File exists" on a
  destination that is routed already, and `replace` puts the route in place of the one
  there is, `RouteTable.add` (`ipRoute`).

What is left out concerns text the deployment tool does not write. Words are cut at
`isSpace` (bash's quoting and expansions are not modelled). An address or a prefix is
told by its characters: hexadecimal digits, `.` and `:`, and `/` in a prefix; one with a
colon is IPv6. `true` and `sysctl` are the only other commands. The table is the mesh
interface's IPv4 routes, so `add` is refused only for a destination routed there; a route
to the destination through another device, which makes the kernel refuse it too, is not
seen. Before it runs the hooks, wg-quick's `add_route` routes each peer's allowed IPs
through the interface; those routes are not part of the model.

* `runCommand_addRouteCmd` — the interpreter gives the command `ApplyRouteDiff` runs to
  add a route the effect the route model gives it, `RouteTable.add`; so the live path,
  modelled with every command succeeding, is the path this interpreter runs.
-/

namespace WgMesh.Deploy

open WgMesh.Go

/-! ## `parse_options` -/

/-- wg-quick's reading of a line: the text before the first `#`, cut at its first `=` into
a key and a value, both trimmed (a line without `=` is its own key and value). -/
def wgQuickKeyValue (line : String) : String × String :=
  let stripped := line.data.takeWhile (· ≠ '#')
  (trimSpace ⟨stripped.takeWhile (· ≠ '=')⟩,
    trimSpace ⟨if '=' ∈ stripped then (stripped.dropWhile (· ≠ '=')).tail else stripped⟩)

/-- The `PostUp` hooks of the lines, `inInterface` telling whether they start inside the
`[Interface]` section: a key starting with `[` leaves it, `[Interface]` enters it. -/
def postUpHooks (inInterface : Bool) : List String → List String
  | [] => []
  | line :: lines =>
    let kv := wgQuickKeyValue line
    let inInterface := kv.1 == "[Interface]" || (inInterface && !hasPrefix kv.1 "[")
    if inInterface && kv.1 == "PostUp" then kv.2 :: postUpHooks inInterface lines
    else postUpHooks inInterface lines

/-- The `PostUp` hooks of a configuration file, read line by line. -/
def wgQuickPostUp (config : String) : List String := postUpHooks false (split config '\n')

/-! ## `ip route` -/

/-- A character `ip` reads in an address: a hexadecimal digit, `.` or `:`. -/
def addressChar (c : Char) : Bool := c.isDigit || c ∈ "abcdefABCDEF.:".data

/-- A character `ip` reads in a prefix: an address character or `/`. -/
def prefixChar (c : Char) : Bool := addressChar c || c == '/'

/-- A word `ip` reads as an address. -/
def isAddress (word : String) : Bool := !word.data.isEmpty && word.data.all addressChar

/-- A word `ip` reads as a prefix: an address, with `/` and a length or without. -/
def isPrefix (word : String) : Bool := !word.data.isEmpty && word.data.all prefixChar

/-- A route `ip` reads from the commands as an IPv4 route: its network a prefix, its
gateway empty or an address, and neither holding a colon. -/
structure RouteEntry.Inet (route : RouteEntry) : Prop where
  network : isPrefix route.network
  gateway : route.gateway = "" ∨ isAddress route.gateway
  inet : ':' ∉ route.network.data ∧ ':' ∉ route.gateway.data

instance (route : RouteEntry) : Decidable route.Inet :=
  decidable_of_iff (isPrefix route.network ∧ (route.gateway = "" ∨ isAddress route.gateway) ∧
      ':' ∉ route.network.data ∧ ':' ∉ route.gateway.data)
    ⟨fun ⟨h₁, h₂, h₃⟩ => ⟨h₁, h₂, h₃⟩, fun ⟨h₁, h₂, h₃⟩ => ⟨h₁, h₂, h₃⟩⟩

/-- What `ip route add|replace` reads from its arguments: the destination, the gateway
(empty for none) and the device. -/
structure RouteArgs where
  dst : Option String
  gateway : String
  dev : Option String
deriving DecidableEq, Repr

/-- iproute2's argument loop for `ip route add|replace`: `via` takes the next word as the
gateway, which must be an address; `dev` takes the next word as the device; any other
word is the destination, which must be a prefix and be given once. `none` is `ip`
exiting with an error. -/
def routeArgs (args : RouteArgs) : List String → Option RouteArgs
  | [] => some args
  | word :: words =>
    if word = "via" then
      match words with
      | gateway :: words => if isAddress gateway then routeArgs { args with gateway } words else none
      | [] => none
    else if word = "dev" then
      match words with
      | dev :: words => routeArgs { args with dev := some dev } words
      | [] => none
    else if args.dst.isNone && isPrefix word then routeArgs { args with dst := some word } words
    else none

/-- `ip route <cmd> <args>` for `add` and `replace`, on the interface `iface`: the device
must be `iface`, a gateway must be of the destination's family, and `add` fails on a
destination the table routes already. -/
def ipRoute (iface : String) (t : RouteTable) : List String → Option RouteTable
  | cmd :: args =>
    match routeArgs ⟨none, "", none⟩ args with
    | some ⟨some dst, gateway, some dev⟩ =>
      if dev = iface ∧ (gateway = "" ∨ (':' ∈ dst.data ↔ ':' ∈ gateway.data)) ∧
          (cmd = "replace" ∨ cmd = "add" ∧ ∀ r ∈ t.routes, r.dst ≠ displayNetwork dst) then
        some (t.add ⟨dst, gateway⟩)
      else none
    | _ => none
  | [] => none

/-! ## `bash` -/

/-- A simple command by its words: `ip route`, `true`, or `sysctl` (which changes no
route); any other command fails. -/
def runSimple (iface : String) (t : RouteTable) : List String → Option RouteTable
  | "ip" :: "route" :: args => ipRoute iface t args
  | ["true"] => some t
  | "sysctl" :: _ => some t
  | _ => none

theorem runSimple_ipRoute (iface : String) (t : RouteTable) (args : List String) :
    runSimple iface t ("ip" :: "route" :: args) = ipRoute iface t args := rfl

theorem runSimple_true (iface : String) (t : RouteTable) : runSimple iface t ["true"] = some t := rfl

/-- `a || b || ...`: the commands in turn until one succeeds; a command that fails
changes nothing. -/
def runOr (iface : String) (t : RouteTable) : List (List String) → Option RouteTable
  | [] => none
  | cmd :: cmds => (runSimple iface t cmd).orElse fun _ => runOr iface t cmds

/-- A command line as `bash` runs it: its words, and the commands between `||`. -/
def runCommand (iface : String) (t : RouteTable) (line : String) : Option RouteTable :=
  runOr iface t ((fields line).splitOn "||")

/-- `${hook//%i/$INTERFACE}`: every `%i` replaced by the interface name. -/
def expandInterface (iface : String) : List Char → List Char
  | '%' :: 'i' :: rest => iface.data ++ expandInterface iface rest
  | c :: rest => c :: expandInterface iface rest
  | [] => []

/-- `execute_hooks` for one hook: `%i` expanded, then the line run. -/
def runHook (iface : String) (t : RouteTable) (hook : String) : Option RouteTable :=
  runCommand iface t ⟨expandInterface iface hook.data⟩

/-- `wg-quick up <iface>` from the configuration file `config`, from the hooks on: the
`PostUp` hooks in order; under `set -e` a hook that fails stops it. -/
def wgQuickUp (iface config : String) (t : RouteTable) : Option RouteTable :=
  (wgQuickPostUp config).foldlM (runHook iface) t

/-! ## Reading `<key> = <value>` lines -/

theorem wgQuickKeyValue_line {line key value : String}
    (hline : line.data = key.data ++ ' ' :: '=' :: ' ' :: value.data) (hkey : Token key)
    (hk : '#' ∉ key.data ∧ '=' ∉ key.data) :
    wgQuickKeyValue line = (key, trimSpace ⟨value.data.takeWhile (· ≠ '#')⟩) := by
  have hhash : ∀ c ∈ key.data, decide (c ≠ '#') = true :=
    fun c hc => decide_eq_true fun h => hk.1 (h ▸ hc)
  have heq : ∀ c ∈ key.data, decide (c ≠ '=') = true :=
    fun c hc => decide_eq_true fun h => hk.2 (h ▸ hc)
  have hstrip : line.data.takeWhile (· ≠ '#') =
      key.data ++ ' ' :: '=' :: ' ' :: value.data.takeWhile (· ≠ '#') := by
    rw [hline, List.takeWhile_append_of_pos hhash]
    rfl
  simp only [wgQuickKeyValue, hstrip, List.takeWhile_append_of_pos heq,
    List.dropWhile_append_of_pos heq]
  refine Prod.ext (trimSpace_append_space hkey.trimmed rfl) ?_
  simp [trimSpace, List.dropWhile_cons_of_pos (show isSpace ' ' = true by decide)]

theorem postUpHooks_append_plain {b : Bool} {lines : List String} (rest : List String)
    (h : ∀ l ∈ lines, (wgQuickKeyValue l).1 ≠ "PostUp" ∧ (wgQuickKeyValue l).1 ≠ "[Interface]" ∧
      hasPrefix (wgQuickKeyValue l).1 "[" = false) :
    postUpHooks b (lines ++ rest) = postUpHooks b rest := by
  induction lines with
  | nil => rfl
  | cons l lines ih =>
    obtain ⟨h1, h2, h3⟩ := h l (List.mem_cons_self _ _)
    simp [postUpHooks, h1, beq_false_of_ne h2, h3, ih fun l hl => h l (List.mem_cons_of_mem _ hl)]

theorem postUpHooks_append_postUp {lines : List String} (rest : List String)
    (h : ∀ l ∈ lines, (wgQuickKeyValue l).1 = "PostUp") :
    postUpHooks true (lines ++ rest) = lines.map (fun l => (wgQuickKeyValue l).2) ++ postUpHooks true rest := by
  induction lines with
  | nil => rfl
  | cons l lines ih =>
    have hl := h l (List.mem_cons_self _ _)
    have hsection : hasPrefix "PostUp" "[" = false := rfl
    simp [postUpHooks, hl, hsection, ih fun l hl => h l (List.mem_cons_of_mem _ hl)]

theorem postUpHooks_eq_nil : ∀ {b : Bool} {lines : List String},
    (∀ l ∈ lines, (wgQuickKeyValue l).1 ≠ "PostUp") → postUpHooks b lines = []
  | _, [], _ => rfl
  | _, l :: lines, h => by
    simp [postUpHooks, h l (List.mem_cons_self _ _),
      postUpHooks_eq_nil fun l hl => h l (List.mem_cons_of_mem _ hl)]

theorem postUpHooks_interface {b : Bool} (lines : List String) :
    postUpHooks b ("[Interface]" :: lines) = postUpHooks true lines := rfl

/-! ## Prefixes and addresses as words -/

theorem prefixChar_of_isPrefix {word : String} (h : isPrefix word) {c : Char} (hc : c ∈ word.data) :
    prefixChar c := by
  simp only [isPrefix, Bool.and_eq_true, List.all_eq_true] at h
  exact h.2 c hc

theorem isPrefix_of_isAddress {word : String} (h : isAddress word) : isPrefix word := by
  simp only [isAddress, isPrefix, Bool.and_eq_true, List.all_eq_true] at h ⊢
  exact ⟨h.1, fun c hc => by simp [prefixChar, h.2 c hc]⟩

theorem isSpace_of_prefixChar {c : Char} (h : prefixChar c) : isSpace c = false := by
  have hlit : ∀ c ∈ "abcdefABCDEF.:".data, isSpace c = false := by decide
  simp only [prefixChar, addressChar, Bool.or_eq_true, decide_eq_true_eq, beq_iff_eq] at h
  rcases h with (h | h) | rfl
  exacts [isSpace_of_isDigit h, hlit c h, rfl]

theorem token_of_isPrefix {word : String} (h : isPrefix word) : Token word := by
  refine ⟨fun hnil => ?_, fun c hc => isSpace_of_prefixChar (prefixChar_of_isPrefix h hc)⟩
  simp [isPrefix, hnil] at h

theorem not_mem_of_isPrefix {word : String} (h : isPrefix word) {c : Char} (hc : prefixChar c = false) :
    c ∉ word.data := fun hmem => by simp [prefixChar_of_isPrefix h hmem] at hc

theorem ne_of_isPrefix {word w : String} (h : isPrefix word) (hw : isPrefix w = false) : word ≠ w :=
  fun heq => by simp [heq, hw] at h

/-! ## The commands the deployment tool writes -/

section Commands

variable {iface network gateway : String} {t : RouteTable}

theorem routeArgs_via (hn : isPrefix network) (hg : isAddress gateway) (dev : String) :
    routeArgs ⟨none, "", none⟩ [network, "via", gateway, "dev", dev] =
      some ⟨some network, gateway, some dev⟩ := by
  simp [routeArgs, ne_of_isPrefix hn (rfl : isPrefix "via" = false), ne_of_isPrefix hn (rfl : isPrefix "dev" = false), hn, hg]

theorem routeArgs_dev (hn : isPrefix network) (dev : String) :
    routeArgs ⟨none, "", none⟩ [network, "dev", dev] = some ⟨some network, "", some dev⟩ := by
  simp [routeArgs, ne_of_isPrefix hn (rfl : isPrefix "via" = false), ne_of_isPrefix hn (rfl : isPrefix "dev" = false), hn]

/-- `via dev`: `ip` takes `dev` for the gateway, which is no address. -/
theorem routeArgs_via_dev (hn : isPrefix network) (dev : String) :
    routeArgs ⟨none, "", none⟩ [network, "via", "dev", dev] = none := by
  simp [routeArgs, ne_of_isPrefix hn (rfl : isPrefix "via" = false), ne_of_isPrefix hn (rfl : isPrefix "dev" = false), hn]

theorem ipRoute_of_routeArgs {args : List String} {dst : String}
    (h : routeArgs ⟨none, "", none⟩ args = some ⟨some dst, gateway, some iface⟩)
    (hfam : gateway = "" ∨ (':' ∈ dst.data ↔ ':' ∈ gateway.data)) (cmd : String) :
    ipRoute iface t (cmd :: args) =
      if cmd = "replace" ∨ cmd = "add" ∧ ∀ r ∈ t.routes, r.dst ≠ displayNetwork dst then
        some (t.add ⟨dst, gateway⟩)
      else none := by
  simp [ipRoute, h, hfam]

theorem splitOn_or {xs ys : List String} (hx : "||" ∉ xs) (hy : "||" ∉ ys) :
    (xs ++ "||" :: ys).splitOn "||" = [xs, ys] := by
  have hx' : ∀ x ∈ xs, ¬(x == "||") = true := fun x hx' h => hx (beq_iff_eq.mp h ▸ hx')
  have hy' : ∀ y ∈ ys, ¬(y == "||") = true := fun y hy' h => hy (beq_iff_eq.mp h ▸ hy')
  rw [List.splitOn, List.splitOnP_first _ xs hx' _ (by simp), List.splitOnP_eq_single _ ys hy']

theorem word_of_isPrefix {word : String} (h : isPrefix word) : Token word ∧ word ≠ "||" :=
  ⟨token_of_isPrefix h, ne_of_isPrefix h rfl⟩

theorem words_ok {P : String → Prop} {ws vars : List String}
    (hlit : ∀ w ∈ ["ip", "route", "add", "replace", "via", "dev", "true"], P w) (hvars : ∀ w ∈ vars, P w)
    (hws : ∀ w ∈ ws, w ∈ vars ∨ w ∈ ["ip", "route", "add", "replace", "via", "dev", "true"]) :
    ∀ w ∈ ws, P w :=
  fun w hw => (hws w hw).elim (hvars w) (hlit w)

/-- A command line of words joined by spaces, two simple commands around `||`: `bash` runs
the first, and the second when the first fails. An empty word, two spaces, is no word. -/
theorem runCommand_or {xs ys : List String} (hx : ∀ w ∈ xs, (Token w ∨ w = "") ∧ w ≠ "||")
    (hy : ∀ w ∈ ys, Token w ∧ w ≠ "||") :
    runCommand iface t (join (xs ++ "||" :: ys) ' ') =
      (runSimple iface t (xs.filter fun w => !w.data.isEmpty)).orElse fun _ =>
        (runSimple iface t ys).orElse fun _ => none := by
  have hspace : ∀ w ∈ xs ++ "||" :: ys, ∀ c ∈ w.data, isSpace c = false := by
    intro w hw c hc
    rcases List.mem_append.mp hw with hw | hw
    · rcases (hx w hw).1 with h | rfl
      exacts [h.2 c hc, absurd hc (List.not_mem_nil c)]
    · rcases List.mem_cons.mp hw with rfl | hw
      exacts [by revert c; decide, (hy w hw).1.2 c hc]
  have hys : ys.filter (fun w => !w.data.isEmpty) = ys :=
    List.filter_eq_self.mpr fun w hw => by simp [List.isEmpty_iff, (hy w hw).1.1]
  rw [runCommand, fields_join_filter (by decide) hspace, List.filter_append,
    List.filter_cons_of_pos (by decide), hys,
    splitOn_or (fun h => (hx _ (List.mem_of_mem_filter h)).2 rfl) fun h => (hy _ h).2 rfl]
  rfl

theorem runCommand_or_tokens {xs ys : List String} (hx : ∀ w ∈ xs, Token w ∧ w ≠ "||")
    (hy : ∀ w ∈ ys, Token w ∧ w ≠ "||") :
    runCommand iface t (join (xs ++ "||" :: ys) ' ') =
      (runSimple iface t xs).orElse fun _ => (runSimple iface t ys).orElse fun _ => none := by
  rw [runCommand_or (fun w hw => ⟨.inl (hx w hw).1, (hx w hw).2⟩) hy,
    List.filter_eq_self.mpr fun w hw => by simp [List.isEmpty_iff, (hx w hw).1.1]]

/-- The words of `ip route <cmd> <network> [via <gateway>] dev <if>` as `ApplyRouteDiff`
writes the command: `via` only for a route with a gateway. -/
def routeWords (cmd iface : String) (route : RouteEntry) : List String :=
  ["ip", "route", cmd, route.network] ++ (if route.gateway = "" then [] else ["via", route.gateway]) ++
    ["dev", iface]

theorem addRouteCmd_eq_join (iface : String) (route : RouteEntry) :
    addRouteCmd iface route =
      join (routeWords "add" iface route ++ "||" :: routeWords "replace" iface route) ' ' := by
  unfold addRouteCmd routeWords
  split_ifs <;> (apply String.ext; simp_all [join, List.intercalate, String.data_append])

theorem routeWords_ok {cmd : String} (hcmd : cmd = "add" ∨ cmd = "replace")
    (hiface : Token iface ∧ iface ≠ "||") {route : RouteEntry} (hr : route.Inet) :
    ∀ w ∈ routeWords cmd iface route, Token w ∧ w ≠ "||" := by
  have hgw : route.gateway ≠ "" → Token route.gateway ∧ route.gateway ≠ "||" :=
    fun hne => word_of_isPrefix (isPrefix_of_isAddress (hr.gateway.resolve_left hne))
  have hcmd' : Token cmd ∧ cmd ≠ "||" := by rcases hcmd with rfl | rfl <;> decide
  intro w hw
  simp only [routeWords, List.mem_append, List.mem_cons, List.not_mem_nil, or_false] at hw
  rcases hw with ((rfl | rfl | rfl | rfl) | hw) | rfl | rfl
  · decide
  · decide
  · exact hcmd'
  · exact word_of_isPrefix hr.network
  · split_ifs at hw with hne
    · exact absurd hw (List.not_mem_nil w)
    · rcases List.mem_pair.mp hw with rfl | rfl
      exacts [by decide, hgw hne]
  · decide
  · exact hiface

theorem runSimple_routeWords {cmd : String} {route : RouteEntry} (hr : route.Inet) :
    runSimple iface t (routeWords cmd iface route) =
      if cmd = "replace" ∨ cmd = "add" ∧ ∀ r ∈ t.routes, r.dst ≠ displayNetwork route.network then
        some (t.add route)
      else none := by
  obtain ⟨network, gateway⟩ := route
  by_cases hgw : gateway = ""
  · subst hgw
    exact ipRoute_of_routeArgs (routeArgs_dev hr.network iface) (.inl rfl) cmd
  · simp only [routeWords, hgw, if_false, List.cons_append, List.nil_append, List.singleton_append]
    exact ipRoute_of_routeArgs (routeArgs_via hr.network (hr.gateway.resolve_left hgw) iface)
      (.inr (iff_of_false hr.inet.1 hr.inet.2)) cmd

theorem add_or_replace (fresh : Prop) [Decidable fresh] (x : RouteTable) :
    ((if "add" = "replace" ∨ "add" = "add" ∧ fresh then some x else none).orElse fun _ =>
      (if "replace" = "replace" ∨ "replace" = "add" ∧ fresh then some x else none).orElse
        fun _ => none) = some x := by
  by_cases fresh <;> simp [*]

theorem runCommand_addRouteCmd (hiface : Token iface ∧ iface ≠ "||") {route : RouteEntry}
    (hr : route.Inet) (t : RouteTable) :
    runCommand iface t (addRouteCmd iface route) = some (t.add route) := by
  rw [addRouteCmd_eq_join, runCommand_or_tokens (routeWords_ok (.inl rfl) hiface hr)
    (routeWords_ok (.inr rfl) hiface hr), runSimple_routeWords hr, runSimple_routeWords hr, add_or_replace]

end Commands

theorem foldlM_map_some {α : Type} {cmd : α → String} {run : RouteTable → String → Option RouteTable}
    {step : RouteTable → α → RouteTable} :
    ∀ {xs : List α} (t : RouteTable), (∀ x ∈ xs, ∀ t, run t (cmd x) = some (step t x)) →
      (xs.map cmd).foldlM run t = some (xs.foldl step t)
  | [], _, _ => rfl
  | x :: xs, t, h => by
    rw [List.map_cons, List.foldlM_cons, h x (List.mem_cons_self _ _), Option.bind_eq_bind,
      Option.some_bind, foldlM_map_some _ fun y hy => h y (List.mem_cons_of_mem _ hy)]
    rfl

theorem foldlM_runCommand_addRouteCmd {iface : String} (hiface : Token iface ∧ iface ≠ "||")
    {routes : List RouteEntry} (hr : ∀ r ∈ routes, r.Inet) (t : RouteTable) :
    (routes.map (addRouteCmd iface)).foldlM (runCommand iface) t = some (routes.foldl RouteTable.add t) :=
  foldlM_map_some t fun r hr' t => runCommand_addRouteCmd hiface (hr r hr') t

end WgMesh.Deploy
