import WgMesh.Go.Flag
import WgMesh.Daemon.Config

/-! # The systemd service

`wgmesh install-service` parses its flags, then `InstallSystemdService` writes the
secret to `/etc/wgmesh/secret.env` and a unit whose `ExecStart=` runs `wgmesh join` with
every setting that differs from `join`'s defaults; the secret itself stays out of the
unit, which passes `${WGMESH_SECRET}` from its `EnvironmentFile=`. Three programs read
what `install-service` writes: systemd reads the unit and splits `ExecStart=` into
words, `main` dispatches on the word `join`, and `joinCmd` parses the rest with its
flag set.

systemd is modelled for the text this unit can hold: a line is trimmed of blanks, one
`ExecStart=` assignment is taken, its value is split into words at blanks, and a word
`${NAME}` is the variable's value. Quoting, escapes, specifiers, other `$` expansions,
line continuations and prefixes on the program path are left out, as `none`; so is the
parsing of the environment file, whose value for the secret is the parameter `env`.

* `installService_runs_join` — for every invocation of `install-service` that succeeds
  and whose settings are words systemd keeps whole, the unit starts `join` with the
  interface, port and routes `install-service` was given (an omitted one at the same
  default) and with the secret from the environment, but with privacy mode off, whatever
  `--privacy` said: `GenerateSystemdUnit` never writes that flag;
* `installService_blank_route` — `--advertise-routes` with a value that has no comma
  and trims to nothing gives one empty route, which `GenerateSystemdUnit` writes as an
  empty last word; systemd drops it, and `join` fails with `flag needs an argument`, at
  every start of the service.

`wgmesh qr` prints the secret as a `wgmesh://v1/` URI, pasting it raw:

* `qr_uri_configures_as_secret` — for a secret with no `?` and no space at either end the
  URI configures a node as the secret does;
* `formatSecretURI_cut_at_query` — a secret `join` accepts that holds a `?` is cut there
  once wrapped, and the node given the URI fails to derive its keys.
-/

namespace WgMesh.Daemon

open WgMesh.Go

/-! ## `install-service` and the unit it writes -/

structure SystemdServiceConfig where
  secret : String
  interfaceName : String
  listenPort : Int
  advertiseRoutes : List String
  privacy : Bool
  binaryPath : String
deriving DecidableEq, Repr

/-- How a subcommand ends before its work: the flag set's exit on a parse error, or
`os.Exit(1)` after the lines it prints to standard error. -/
inductive CmdExit
  | flag (e : FlagError)
  | usage (message : String)
deriving DecidableEq, Repr

/-- The flags `installServiceCmd` defines, with their defaults. -/
def installServiceFlags : List (String × FlagValue) :=
  [("secret", .string ""), ("interface", .string "wg0"), ("listen-port", .int 51820),
    ("advertise-routes", .string ""), ("privacy", .bool false)]

/-- The `--advertise-routes` value as `installServiceCmd` and `joinCmd` read it: split
at commas, each piece trimmed; no routes for the empty value. -/
def parseRoutes (advertiseRoutes : String) : List String :=
  if advertiseRoutes ≠ "" then (split advertiseRoutes ',').map trimSpace else []

/-- `installServiceCmd` up to `InstallSystemdService`: the configuration it passes. -/
def installServiceCmd (args : List String) : Except CmdExit SystemdServiceConfig :=
  match parseFlags installServiceFlags args with
  | .error e => .error (.flag e)
  | .ok (flags, _) =>
    if stringFlag flags "secret" = "" then
      .error (.usage "Error: --secret is required\nUsage: wgmesh install-service --secret <SECRET>")
    else
      .ok ⟨stringFlag flags "secret", stringFlag flags "interface", intFlag flags "listen-port",
        parseRoutes (stringFlag flags "advertise-routes"), boolFlag flags "privacy", ""⟩

/-- The lines of `systemdUnitTemplate` before the `ExecStart=` line. -/
def unitLinesBefore : List String :=
  ["[Unit]", "Description=WireGuard Mesh Network (wgmesh)", "After=network-online.target",
    "Wants=network-online.target", "", "[Service]", "Type=simple",
    "EnvironmentFile=/etc/wgmesh/secret.env"]

/-- The lines of `systemdUnitTemplate` after the `ExecStart=` line; the template ends
with a newline. -/
def unitLinesAfter : List String :=
  ["Restart=always", "RestartSec=5", "LimitNOFILE=65535", "", "# Security hardening",
    "NoNewPrivileges=no", "ProtectSystem=full", "ProtectHome=true",
    "ReadWritePaths=/var/lib/wgmesh", "", "[Install]", "WantedBy=multi-user.target", ""]

/-- `systemdUnitTemplate` executed with the given `ExecStart` (`text/template` writes a
string field as it is). -/
def unitText (execStart : String) : String :=
  join (unitLinesBefore ++ ("ExecStart=" ++ execStart) :: unitLinesAfter) '\n'

/-- The word of `ExecStart` for the secret: a reference to the unit's environment. -/
def secretRef : String := "${WGMESH_SECRET}"

/-- The words `GenerateSystemdUnit` puts on `ExecStart` after the binary: `join`, the
secret by reference, then each setting that is not `join`'s default. -/
def execStartArgs (cfg : SystemdServiceConfig) : List String :=
  ["join", "--secret", secretRef] ++
    (if cfg.interfaceName ≠ "" ∧ cfg.interfaceName ≠ defaultInterface then
      ["--interface", cfg.interfaceName] else []) ++
    (if cfg.listenPort ≠ 0 ∧ cfg.listenPort ≠ defaultWGPort then
      ["--listen-port", toString cfg.listenPort] else []) ++
    (if cfg.advertiseRoutes ≠ [] then ["--advertise-routes", join cfg.advertiseRoutes ','] else [])

/-- `GenerateSystemdUnit`. `binary` is where the binary is found when the configuration
names none: `exec.LookPath("wgmesh")`, else `filepath.Abs(os.Args[0])`, or the latter's
error. (The template is a constant, whose parse and execution do not fail.) -/
def generateSystemdUnit (binary : Except String String) (cfg : SystemdServiceConfig) :
    Except String String :=
  match (if cfg.binaryPath = "" then binary else .ok cfg.binaryPath) with
  | .error e => .error ("could not determine wgmesh binary path: " ++ e)
  | .ok path => .ok (unitText (join (path :: execStartArgs cfg) ' '))

/-- `/etc/wgmesh/secret.env`. -/
def secretEnv (secret : String) : String := "WGMESH_SECRET=" ++ secret ++ "\n"

/-- `InstallSystemdService` when its file writes and `systemctl` calls succeed: the
environment file and the unit it installs. -/
def installSystemdService (binary : Except String String) (cfg : SystemdServiceConfig) :
    Except String (String × String) :=
  match generateSystemdUnit binary cfg with
  | .error e => .error ("failed to generate unit file: " ++ e)
  | .ok unit => .ok (secretEnv cfg.secret, unit)

/-! ## `join` -/

/-- The flags `joinCmd` defines, with their defaults. -/
def joinFlags : List (String × FlagValue) :=
  [("secret", .string ""), ("advertise-routes", .string ""), ("listen-port", .int 51820),
    ("interface", .string "wg0"), ("log-level", .string "info"), ("privacy", .bool false)]

/-- The `DaemonOpts` `joinCmd` passes to `NewConfig`. -/
structure JoinOptions where
  secret : String
  interfaceName : String
  wgListenPort : Int
  advertiseRoutes : List String
  logLevel : String
  privacy : Bool
deriving DecidableEq, Repr

/-- `joinCmd` up to `NewConfig`: the options it passes. -/
def joinCmd (args : List String) : Except CmdExit JoinOptions :=
  match parseFlags joinFlags args with
  | .error e => .error (.flag e)
  | .ok (flags, _) =>
    if stringFlag flags "secret" = "" then
      .error (.usage "Error: --secret is required\nUsage: wgmesh join --secret <SECRET>")
    else
      .ok ⟨stringFlag flags "secret", stringFlag flags "interface", intFlag flags "listen-port",
        parseRoutes (stringFlag flags "advertise-routes"), stringFlag flags "log-level",
        boolFlag flags "privacy"⟩

/-! ## `qr` -/

/-- The flags `qrCmd` defines, with their defaults. -/
def qrFlags : List (String × FlagValue) := [("secret", .string "")]

/-- `qrCmd` up to its output: the URI it prints and draws, the secret itself when it is
already a `wgmesh://` URI and `FormatSecretURI` of it otherwise. -/
def qrCmd (args : List String) : Except CmdExit String :=
  match parseFlags qrFlags args with
  | .error e => .error (.flag e)
  | .ok (flags, _) =>
    if stringFlag flags "secret" = "" then
      .error (.usage "Error: --secret is required\nUsage: wgmesh qr --secret <SECRET>")
    else
      .ok (if hasPrefix (stringFlag flags "secret") uriPrefix then stringFlag flags "secret"
        else formatSecretURI (stringFlag flags "secret"))

/-! ## What systemd reads -/

/-- The characters systemd splits `ExecStart=` at and strips from a line. -/
def isBlank (c : Char) : Bool := c = ' ' ∨ c = '\t' ∨ c = '\n' ∨ c = '\r'

/-- Characters of an `ExecStart=` word that systemd interprets: quotes and `\`, `%`
specifiers, `$` variables, and `;` between commands. -/
def isExecSpecial (c : Char) : Bool := c ∈ ['"', '\'', '\\', '%', '$', ';']

/-- The prefixes systemd reads on the program path of `ExecStart=`. -/
def execPrefixes : List Char := ['@', '-', ':', '+', '!']

/-- A line of a unit file as systemd's parser takes it, blanks at both ends dropped. -/
def stripBlanks (l : List Char) : List Char := (l.dropWhile isBlank).rdropWhile isBlank

/-- The value of an assignment of `key` on a stripped line, blanks around it dropped. -/
def assignment (key : String) (line : List Char) : Option String :=
  match index '=' line with
  | some i => if stripBlanks (line.take i) = key.data then some ⟨stripBlanks (line.drop (i + 1))⟩ else none
  | none => none

/-- The value of `ExecStart=` in a unit file: the only assignment of it on a line that
is not a comment. `none` when there is none or more than one (systemd refuses a second
`ExecStart=` for `Type=simple`), and when a line ends in `\`, a continuation the model
leaves out. -/
def unitExecStart (unit : String) : Option String :=
  let lines := (split unit '\n').map fun l => stripBlanks l.data
  if lines.any (fun l => l.getLast? == some '\\') then none
  else
    match (lines.filter fun l => l.head? ∉ [some '#', some ';']).filterMap (assignment "ExecStart") with
    | [v] => some v
    | _ => none

/-- One word of `ExecStart=` as systemd passes it: `${NAME}` is the variable's value
(empty when unset); a word with another special character is outside the model. -/
def execWord (env : String → String) (w : List Char) : Option String :=
  match w with
  | '$' :: '\x7b' :: rest =>
    if rest.getLast? = some '\x7d' ∧ ∀ c ∈ rest.dropLast, c.isAlphanum ∨ c = '_' then
      some (env ⟨rest.dropLast⟩)
    else none
  | _ => if w.any isExecSpecial then none else some ⟨w⟩

/-- The command line systemd runs for an `ExecStart=` value: its words split at blanks,
variables replaced; `none` for a value outside the model, a prefix on the program
included. -/
def execStartArgv (env : String → String) (line : String) : Option (List String) :=
  match (line.data.splitOnP isBlank).filter fun w => !w.isEmpty with
  | [] => none
  | w :: ws => if w.head? ∈ execPrefixes.map some then none else (w :: ws).mapM (execWord env)

/-- What the service runs at each start: `main` dispatches on `join` and `joinCmd`
parses the words after it. `none` when the unit does not run `join` or holds what the
model leaves out. -/
def serviceJoin (env : String → String) (unit : String) : Option (Except CmdExit JoinOptions) :=
  match (unitExecStart unit).bind (execStartArgv env) with
  | some (_ :: "join" :: args) => some (joinCmd args)
  | _ => none

/-! ## Reading the unit back -/

/-- Text with no blank at either end, which systemd's line parser keeps as it is. -/
def Stripped (l : List Char) : Prop :=
  (∀ c ∈ l.head?, isBlank c = false) ∧ ∀ c ∈ l.getLast?, isBlank c = false


theorem rdropWhile_append_of_all {p : Char → Bool} (l : List Char) {b : List Char}
    (hb : ∀ c ∈ b, p c = true) : (l ++ b).rdropWhile p = l.rdropWhile p := by
  induction b using List.reverseRecOn with
  | nil => simp
  | append_singleton b x ih =>
    rw [← List.append_assoc, List.rdropWhile_concat_pos _ _ _ (hb x (by simp))]
    exact ih fun c hc => hb c (by simp [hc])


theorem stripBlanks_append {l b : List Char} (hl : Stripped l) (hb : ∀ c ∈ b, isBlank c = true) :
    stripBlanks (l ++ b) = l := by
  unfold stripBlanks
  cases l with
  | nil => simp [List.dropWhile_eq_nil_iff.mpr hb]
  | cons c cs =>
    rw [List.cons_append, List.dropWhile_cons_of_neg (by simpa using hl.1 c rfl), ← List.cons_append,
      rdropWhile_append_of_all _ hb, List.rdropWhile_eq_self_iff]
    intro hne
    simpa using hl.2 _ (List.getLast?_eq_getLast _ hne)


theorem unitLinesBefore_facts :
    unitLinesBefore.map (fun l => stripBlanks l.data) = unitLinesBefore.map String.data ∧
    (unitLinesBefore.map String.data).any (fun l => l.getLast? == some '\\') = false ∧
    ((unitLinesBefore.map String.data).filter fun l => l.head? ∉ [some '#', some ';']).filterMap
      (assignment "ExecStart") = [] ∧ ∀ e ∈ unitLinesBefore, '\n' ∉ e.data := by decide

theorem unitLinesAfter_facts :
    unitLinesAfter.map (fun l => stripBlanks l.data) = unitLinesAfter.map String.data ∧
    (unitLinesAfter.map String.data).any (fun l => l.getLast? == some '\\') = false ∧
    ((unitLinesAfter.map String.data).filter fun l => l.head? ∉ [some '#', some ';']).filterMap
      (assignment "ExecStart") = [] ∧ ∀ e ∈ unitLinesAfter, '\n' ∉ e.data := by decide

theorem assignment_execStart {l : List Char} (hl : Stripped l) :
    assignment "ExecStart" ("ExecStart=".data ++ l) = some ⟨l⟩ := by
  have hidx : index '=' ("ExecStart=".data ++ l) = some 9 :=
    index_append_cons (s := "ExecStart".data) (by decide) l
  have hdrop : ("ExecStart=".data ++ l).drop (9 + 1) = l := rfl
  simp only [assignment, hidx, hdrop]
  rw [List.take_append_of_le_length (by decide), if_pos (by decide)]
  rw [show stripBlanks l = l by simpa using stripBlanks_append (b := []) hl (by simp)]

theorem unitExecStart_unitText {l b : List Char} (hl : Stripped l) (hb : ∀ c ∈ b, c = ' ')
    (hnl : '\n' ∉ l) (hbs : '\\' ∉ l) : unitExecStart (unitText ⟨l ++ b⟩) = some ⟨l⟩ := by
  obtain ⟨hs₁, ha₁, hf₁, hn₁⟩ := unitLinesBefore_facts
  obtain ⟨hs₂, ha₂, hf₂, hn₂⟩ := unitLinesAfter_facts
  have hline : Stripped ("ExecStart=".data ++ l) := by
    refine ⟨by simp [isBlank], ?_⟩
    cases l using List.reverseRecOn with
    | nil => simp [isBlank]
    | append_singleton l c =>
      intro x hx
      rw [← List.append_assoc, List.getLast?_concat] at hx
      exact hl.2 x (by simpa using hx)
  have hsplit : split (unitText ⟨l ++ b⟩) '\n' =
      unitLinesBefore ++ ("ExecStart=" ++ ⟨l ++ b⟩) :: unitLinesAfter := by
    refine split_join (by simp) fun e he => ?_
    simp only [List.mem_append, List.mem_cons] at he
    rcases he with he | rfl | he
    · exact hn₁ e he
    · intro hmem
      rw [show ("ExecStart=" ++ (⟨l ++ b⟩ : String)).data = "ExecStart=".data ++ (l ++ b) from rfl,
        List.mem_append, List.mem_append] at hmem
      rcases hmem with h | h | h
      · exact absurd h (by decide)
      · exact hnl h
      · exact absurd (hb _ h) (by decide)
    · exact hn₂ e he
  have hstrip : stripBlanks ("ExecStart=" ++ (⟨l ++ b⟩ : String)).data = "ExecStart=".data ++ l := by
    rw [show ("ExecStart=" ++ (⟨l ++ b⟩ : String)).data = ("ExecStart=".data ++ l) ++ b by
      simp [String.append]]
    exact stripBlanks_append hline fun c hc => by simp [hb c hc, isBlank]
  have hlast : (("ExecStart=".data ++ l).getLast? == some '\\') = false := by
    cases l using List.reverseRecOn with
    | nil => rfl
    | append_singleton l c =>
      have hc : c ≠ '\\' := fun h => hbs (h ▸ List.mem_append_right l (List.mem_singleton_self c))
      rw [← List.append_assoc, List.getLast?_concat]
      simpa using hc
  unfold unitExecStart
  simp only [hsplit, List.map_append, List.map_cons, hs₁, hs₂, hstrip, List.any_append, List.any_cons,
    ha₁, ha₂, hlast, Bool.false_or, Bool.or_false, if_false]
  rw [List.filter_append, List.filter_cons_of_pos (by simp), List.filterMap_append,
    List.filterMap_cons_some (assignment_execStart hl), hf₁, hf₂]
  rfl


/-- Text systemd passes on unchanged as one word of `ExecStart=`: not empty, and no blank
or special character. -/
def ExecWord (s : String) : Prop :=
  s.data ≠ [] ∧ ∀ c ∈ s.data, isBlank c = false ∧ isExecSpecial c = false

instance (s : String) : Decidable (ExecWord s) := inferInstanceAs (Decidable (_ ∧ _))

theorem execWord_of_execWord (env : String → String) {w : String} (h : ExecWord w) :
    execWord env w.data = some w := by
  obtain ⟨c, cs, hw⟩ := List.exists_cons_of_ne_nil h.1
  have hany : w.data.any isExecSpecial = false :=
    List.any_eq_false.mpr fun c hc => by simp [(h.2 c hc).2]
  unfold execWord
  split
  · rename_i rest heq
    exact absurd (h.2 '$' (by simp [heq])).2 (by decide)
  · rw [hany]; rfl

theorem mapM_execWord (env : String → String) :
    ∀ {ws : List String}, (∀ w ∈ ws, ExecWord w) → (ws.map String.data).mapM (execWord env) = some ws
  | [], _ => rfl
  | w :: ws, h => by
    rw [List.map_cons, List.mapM_cons, execWord_of_execWord env (h w (List.mem_cons_self _ _)),
      mapM_execWord env fun w' hw' => h w' (List.mem_cons_of_mem _ hw')]
    rfl

theorem execWord_secretRef (env : String → String) :
    execWord env secretRef.data = some (env "WGMESH_SECRET") := rfl

theorem execStartArgv_join (env : String → String) {ws : List String} (hws : ws ≠ [])
    (hw : ∀ w ∈ ws, w.data ≠ [] ∧ ∀ c ∈ w.data, isBlank c = false)
    (hhead : ∀ w ∈ ws.head?, w.data.head? ∉ execPrefixes.map some) :
    execStartArgv env (join ws ' ') = (ws.map String.data).mapM (execWord env) := by
  have hsplit : (join ws ' ').data.splitOnP isBlank = ws.map String.data :=
    splitOnP_intercalate (by decide) (by simpa using hws) (by simpa using fun w hw' => (hw w hw').2)
  have hfilter : (ws.map String.data).filter (fun w => !w.isEmpty) = ws.map String.data :=
    List.filter_eq_self.mpr (by simpa [List.isEmpty_iff] using fun w hw' => (hw w hw').1)
  obtain ⟨w, ws', rfl⟩ := List.exists_cons_of_ne_nil hws
  unfold execStartArgv
  rw [hsplit, hfilter, List.map_cons]
  dsimp only
  rw [if_neg (hhead w rfl)]


theorem stripped_join {sep : Char} :
    ∀ {ws : List String}, ws ≠ [] → (∀ w ∈ ws, w.data ≠ [] ∧ Stripped w.data) →
      Stripped (join ws sep).data
  | [], hne, _ => absurd rfl hne
  | [w], _, h => by simpa [join, List.intercalate] using (h w (by simp)).2
  | w :: w' :: ws, _, h => by
    obtain ⟨hne, hhead, -⟩ := h w (by simp)
    obtain ⟨-, hlast⟩ : Stripped (join (w' :: ws) sep).data :=
      stripped_join (List.cons_ne_nil w' ws) fun m hm => h m (by simp [hm])
    have hne' : (join (w' :: ws) sep).data ≠ [] := by
      have hw' := (h w' (by simp)).1
      cases ws with
      | nil => simpa [join, List.intercalate] using hw'
      | cons w'' ws => simp [join_cons_cons_data, hw']
    rw [join_cons_cons_data]
    refine ⟨by rwa [List.head?_append_of_ne_nil _ hne], ?_⟩
    rwa [← List.singleton_append, ← List.append_assoc, List.getLast?_append_of_ne_nil _ hne']


theorem mem_parseRoutes {adv r : String} (h : r ∈ parseRoutes adv) : ',' ∉ r.data ∧ trimSpace r = r := by
  unfold parseRoutes at h
  split_ifs at h
  · obtain ⟨x, hx, rfl⟩ := List.mem_map.mp h
    exact ⟨fun hc => sep_not_mem_split hx (mem_of_mem_trimSpace hc), trimSpace_trimSpace x⟩
  · cases h


theorem parseRoutes_join {routes : List String} (hne : join routes ',' ≠ "")
    (h : ∀ r ∈ routes, ',' ∉ r.data ∧ trimSpace r = r) : parseRoutes (join routes ',') = routes := by
  have hr : routes ≠ [] := by rintro rfl; exact hne rfl
  unfold parseRoutes
  rw [if_pos hne, split_join hr fun r hr' => (h r hr').1]
  exact (List.map_congr_left fun r hr' => (h r hr').2).trans (List.map_id _)


theorem parseRoutes_blank {v : String} (hne : v ≠ "") (hc : ',' ∉ v.data) (hb : trimSpace v = "") :
    parseRoutes v = [""] := by
  have hsplit : split v ',' = [v] := by
    have hj : join [v] ',' = v := by simp [join, List.intercalate]
    simpa [hj] using @split_join [v] ',' (List.cons_ne_nil _ _) (by simpa using hc)
  rw [parseRoutes, if_pos hne, hsplit, List.map_singleton, hb]

/-- The interface and port `GenerateSystemdUnit` may write, after the secret: the flag set
`joinCmd` holds then keeps the secret and each setting at the value `NewConfig` would
give the unit's configuration, and the other flags at their defaults. -/
theorem parseFlags_unitPairs (s : String) {cfg : SystemdServiceConfig} (hport : InInt64 cfg.listenPort)
    (rest : List String) :
    ∃ F, parseFlags joinFlags ("--secret" :: s ::
        ((if cfg.interfaceName ≠ "" ∧ cfg.interfaceName ≠ defaultInterface then
          ["--interface", cfg.interfaceName] else []) ++
        ((if cfg.listenPort ≠ 0 ∧ cfg.listenPort ≠ defaultWGPort then
          ["--listen-port", toString cfg.listenPort] else []) ++ rest))) = parseFlags F rest ∧
      stringFlag F "secret" = s ∧
      stringFlag F "interface" = (if cfg.interfaceName = "" then defaultInterface else cfg.interfaceName) ∧
      intFlag F "listen-port" = (if cfg.listenPort = 0 then (defaultWGPort : Int) else cfg.listenPort) ∧
      F.lookup "advertise-routes" = some (.string "") ∧ stringFlag F "log-level" = "info" ∧
      boolFlag F "privacy" = false := by
  set c₁ := cfg.interfaceName ≠ "" ∧ cfg.interfaceName ≠ defaultInterface
  set c₂ := cfg.listenPort ≠ 0 ∧ cfg.listenPort ≠ (defaultWGPort : Int)
  set F₀ := setFlag "secret" (.string s) joinFlags
  set F₁ := if c₁ then setFlag "interface" (.string cfg.interfaceName) F₀ else F₀
  have h₀ : F₀.lookup "interface" = some (.string "wg0") := by rw [lookup_setFlag]; rfl
  have h₁ : F₁.lookup "listen-port" = some (.int 51820) := by
    rw [lookup_ite_setFlag (by decide), lookup_setFlag]; rfl
  refine ⟨if c₂ then setFlag "listen-port" (.int cfg.listenPort) F₁ else F₁, ?_, ?_, ?_, ?_, ?_, ?_, ?_⟩
  · rw [parseFlags_value (show argKind "--secret" = .flag "secret" none from rfl)
      (show joinFlags.lookup "secret" = some (.string "") from rfl) rfl
      (show (FlagValue.string "").set s = .ok (.string s) from rfl),
      parseFlags_ite c₁ (show argKind "--interface" = .flag "interface" none from rfl) h₀ rfl
        (fun _ => show (FlagValue.string "wg0").set cfg.interfaceName = .ok (.string cfg.interfaceName) from rfl),
      parseFlags_ite c₂ (show argKind "--listen-port" = .flag "listen-port" none from rfl) h₁ rfl
        (fun _ => show (FlagValue.int 51820).set (toString cfg.listenPort) = .ok (.int cfg.listenPort) by
          simp [FlagValue.set, parseInt0_toString hport, Except.map])]
  · simp only [stringFlag, lookup_ite_setFlag (show "secret" ≠ "listen-port" by decide), F₁,
      lookup_ite_setFlag (show "secret" ≠ "interface" by decide), F₀, lookup_setFlag, if_true]
    rfl
  · simp only [stringFlag, lookup_ite_setFlag (show "interface" ≠ "listen-port" by decide),
      lookup_ite_setFlag_self h₀, c₁]
    by_cases h : cfg.interfaceName = ""
    · simp [h, defaultInterface]
    · by_cases h' : cfg.interfaceName = defaultInterface
      · simp only [h, h', ne_eq, not_false_eq_true, not_true_eq_false, and_false, if_false]; rfl
      · simp [h, h']
  · simp only [intFlag, lookup_ite_setFlag_self h₁, c₂]
    by_cases h : cfg.listenPort = 0
    · simp [h, defaultWGPort]
    · by_cases h' : cfg.listenPort = defaultWGPort
      · simp only [h, h', ne_eq, not_false_eq_true, not_true_eq_false, and_false, if_false]; rfl
      · simp [h, h']
  · rw [lookup_ite_setFlag (by decide), lookup_ite_setFlag (by decide), lookup_setFlag]; rfl
  · simp only [stringFlag, lookup_ite_setFlag (show "log-level" ≠ "listen-port" by decide), F₁,
      lookup_ite_setFlag (show "log-level" ≠ "interface" by decide), F₀, lookup_setFlag]
    rfl
  · simp only [boolFlag, lookup_ite_setFlag (show "privacy" ≠ "listen-port" by decide), F₁,
      lookup_ite_setFlag (show "privacy" ≠ "interface" by decide), F₀, lookup_setFlag]
    rfl

theorem execStartArgs_drop (cfg : SystemdServiceConfig) :
    (execStartArgs cfg).drop 3 =
      (if cfg.interfaceName ≠ "" ∧ cfg.interfaceName ≠ defaultInterface then
        ["--interface", cfg.interfaceName] else []) ++
      ((if cfg.listenPort ≠ 0 ∧ cfg.listenPort ≠ defaultWGPort then
        ["--listen-port", toString cfg.listenPort] else []) ++
      (if cfg.advertiseRoutes ≠ [] then ["--advertise-routes", join cfg.advertiseRoutes ','] else [])) := by
  simp [execStartArgs]

/-- `joinCmd` on the words of `ExecStart` after `join`, the secret's value in place of its
reference: the options the unit was written from, with `join`'s defaults for the ones it
leaves out. -/
theorem joinCmd_execStartArgs {s : String} (hs : s ≠ "") {cfg : SystemdServiceConfig}
    (hport : InInt64 cfg.listenPort) (hroutes : ∀ r ∈ cfg.advertiseRoutes, ',' ∉ r.data ∧ trimSpace r = r)
    (hjoin : cfg.advertiseRoutes ≠ [] → join cfg.advertiseRoutes ',' ≠ "") :
    joinCmd ("--secret" :: s :: ((execStartArgs cfg).drop 3)) =
      .ok ⟨s, if cfg.interfaceName = "" then defaultInterface else cfg.interfaceName,
        if cfg.listenPort = 0 then defaultWGPort else cfg.listenPort, cfg.advertiseRoutes, "info", false⟩ := by
  obtain ⟨F, hF, hsecret, hiface, hlisten, hadv, hlog, hpriv⟩ := parseFlags_unitPairs s hport
    ((if cfg.advertiseRoutes ≠ [] then ["--advertise-routes", join cfg.advertiseRoutes ','] else []) ++ [])
  set c₃ := cfg.advertiseRoutes ≠ []
  set F₃ := if c₃ then setFlag "advertise-routes" (.string (join cfg.advertiseRoutes ',')) F else F
  have hread : ∀ k, k ≠ "advertise-routes" → F₃.lookup k = F.lookup k := fun k hk =>
    lookup_ite_setFlag hk _ _
  unfold joinCmd
  rw [execStartArgs_drop, ← List.append_nil (if c₃ then _ else _), hF,
    parseFlags_ite c₃ (show argKind "--advertise-routes" = .flag "advertise-routes" none from rfl) hadv rfl
      (fun _ => show (FlagValue.string "").set (join cfg.advertiseRoutes ',') =
        .ok (.string (join cfg.advertiseRoutes ',')) from rfl)]
  show (if stringFlag F₃ "secret" = "" then _ else _) = _
  simp only [stringFlag, intFlag, boolFlag, hread _ (show "secret" ≠ "advertise-routes" by decide),
    hread _ (show "interface" ≠ "advertise-routes" by decide),
    hread _ (show "listen-port" ≠ "advertise-routes" by decide),
    hread _ (show "log-level" ≠ "advertise-routes" by decide),
    hread _ (show "privacy" ≠ "advertise-routes" by decide), lookup_ite_setFlag_self hadv]
  simp only [stringFlag, intFlag, boolFlag] at hsecret hiface hlisten hlog hpriv
  rw [hsecret, if_neg hs, hiface, hlisten, hlog, hpriv]
  congr 2
  split_ifs with h
  · exact parseRoutes_join (hjoin h) hroutes
  · rw [not_not.mp h]; rfl

/-- When the routes join to nothing, the unit's last word is empty and systemd drops it:
`--advertise-routes` ends the command line without its value. -/
theorem joinCmd_blankRoutes (s : String) {cfg : SystemdServiceConfig} (hport : InInt64 cfg.listenPort) :
    joinCmd ("--secret" :: s ::
        ((if cfg.interfaceName ≠ "" ∧ cfg.interfaceName ≠ defaultInterface then
          ["--interface", cfg.interfaceName] else []) ++
        ((if cfg.listenPort ≠ 0 ∧ cfg.listenPort ≠ defaultWGPort then
          ["--listen-port", toString cfg.listenPort] else []) ++ ["--advertise-routes"]))) =
      .error (.flag (.needsArgument "advertise-routes")) := by
  obtain ⟨F, hF, -, -, -, hadv, -, -⟩ := parseFlags_unitPairs s hport ["--advertise-routes"]
  unfold joinCmd
  rw [hF, parseFlags_needsArgument (show argKind "--advertise-routes" = .flag "advertise-routes" none from rfl)
    hadv rfl]

/-! ## The words of `ExecStart` -/

/-- A word `GenerateSystemdUnit` may write, as the line reader needs it: not empty, no
blank, no backslash. -/
def LineWord (w : String) : Prop := w.data ≠ [] ∧ ∀ c ∈ w.data, isBlank c = false ∧ c ≠ '\\'

instance (w : String) : Decidable (LineWord w) := inferInstanceAs (Decidable (_ ∧ _))

theorem ExecWord.lineWord {w : String} (h : ExecWord w) : LineWord w :=
  ⟨h.1, fun c hc => ⟨(h.2 c hc).1, fun hbs => absurd (h.2 c hc).2 (by rw [hbs]; decide)⟩⟩

theorem lineWord_secretRef : LineWord secretRef := by decide

theorem stripped_of_forall {l : List Char} (h : ∀ c ∈ l, isBlank c = false) : Stripped l :=
  ⟨fun c hc => h c (List.mem_of_mem_head? hc), fun c hc => h c (List.mem_of_mem_getLast? hc)⟩

theorem unitExecStart_join {ws : List String} (hne : ws ≠ []) (hws : ∀ w ∈ ws, LineWord w)
    {b : List Char} (hb : ∀ c ∈ b, c = ' ') :
    unitExecStart (unitText ⟨(join ws ' ').data ++ b⟩) = some (join ws ' ') := by
  have hchar : ∀ c ∈ (join ws ' ').data, isBlank c = false ∧ c ≠ '\\' ∨ c = ' ' := fun c hc => by
    rcases mem_join hc with rfl | ⟨w, hw, hcw⟩
    · exact .inr rfl
    · exact .inl ((hws w hw).2 c hcw)
  refine unitExecStart_unitText (stripped_join hne fun w hw => ⟨(hws w hw).1,
    stripped_of_forall fun c hc => ((hws w hw).2 c hc).1⟩) hb (fun hnl => ?_) (fun hbs => ?_)
  · rcases hchar _ hnl with h | h
    · exact absurd h.1 (by decide)
    · exact absurd h (by decide)
  · rcases hchar _ hbs with h | h
    · exact h.2 rfl
    · exact absurd h (by decide)

theorem not_blank_of_isDigit {c : Char} (h : c.isDigit) : isBlank c = false ∧ isExecSpecial c = false := by
  constructor
  · unfold isBlank
    simp only [decide_eq_false_iff_not]
    rintro (rfl | rfl | rfl | rfl) <;> exact absurd h (by decide)
  · unfold isExecSpecial
    simp only [decide_eq_false_iff_not, List.mem_cons, List.not_mem_nil, or_false]
    rintro (rfl | rfl | rfl | rfl | rfl | rfl) <;> exact absurd h (by decide)

theorem execWord_toString (i : Int) : ExecWord (toString i) := by
  have hnat : ∀ n : Nat, ExecWord (toString n) := fun n => by
    obtain ⟨pre, heq, hne, hdig, -⟩ := toDigitsCore_ten (n + 1) n [] (Nat.lt_succ_self n)
    have hs : (toString n).data = pre := by simpa using heq
    exact ⟨hs ▸ hne, fun c hc => not_blank_of_isDigit (hdig c (hs ▸ hc))⟩
  cases i with
  | ofNat n => exact hnat n
  | negSucc n =>
    have hs : (toString (Int.negSucc n)).data = '-' :: (toString (n + 1)).data := rfl
    refine ⟨by simp [hs], fun c hc => ?_⟩
    rw [hs, List.mem_cons] at hc
    rcases hc with rfl | hc
    · decide
    · exact (hnat (n + 1)).2 c hc

theorem join_append_empty {sep : Char} :
    ∀ {ws : List String}, ws ≠ [] → (join (ws ++ [""]) sep).data = (join ws sep).data ++ [sep]
  | [], h => absurd rfl h
  | [w], _ => by simp [join, List.intercalate]
  | w :: w' :: ws, _ => by
    rw [List.cons_append, List.cons_append, join_cons_cons_data, ← List.cons_append,
      join_append_empty (List.cons_ne_nil w' ws), join_cons_cons_data]
    simp

/-! ## `install-service` and `join` -/

/-- The interface and port words `GenerateSystemdUnit` may write are words systemd keeps
whole, when the interface name is one. -/
theorem execWord_settingWords {cfg : SystemdServiceConfig}
    (hiface : cfg.interfaceName = "" ∨ ExecWord cfg.interfaceName) {w : String}
    (hw : w ∈ (if cfg.interfaceName ≠ "" ∧ cfg.interfaceName ≠ defaultInterface then
        ["--interface", cfg.interfaceName] else []) ++
      (if cfg.listenPort ≠ 0 ∧ cfg.listenPort ≠ defaultWGPort then
        ["--listen-port", toString cfg.listenPort] else [])) : ExecWord w := by
  rcases List.mem_append.mp hw with hw | hw <;> split_ifs at hw with h <;>
    simp only [List.mem_cons, List.not_mem_nil, or_false] at hw
  · rcases hw with rfl | rfl
    exacts [by decide, hiface.resolve_left h.1]
  · rcases hw with rfl | rfl
    exacts [by decide, execWord_toString _]

theorem installServiceCmd_ok {args : List String} {cfg : SystemdServiceConfig}
    (h : installServiceCmd args = .ok cfg) :
    cfg.binaryPath = "" ∧ InInt64 cfg.listenPort ∧
      ∀ r ∈ cfg.advertiseRoutes, ',' ∉ r.data ∧ trimSpace r = r := by
  unfold installServiceCmd at h
  split at h
  · cases h
  · rename_i flags rest hp
    split_ifs at h
    cases h
    refine ⟨rfl, intFlag_inInt64 hp (fun e he i hi => ?_) _, fun r hr => mem_parseRoutes hr⟩
    simp only [installServiceFlags, List.mem_cons, List.mem_singleton, List.not_mem_nil, or_false] at he
    rcases he with rfl | rfl | rfl | rfl | rfl <;> cases hi
    decide

/-! ## The service systemd runs -/

theorem execStartArgv_unit (env : String → String) {path : String} (hpath : ExecWord path)
    (hlead : path.data.head? ∉ execPrefixes.map some) {rest : List String}
    (hrest : ∀ w ∈ rest, ExecWord w) :
    execStartArgv env (join (path :: "join" :: "--secret" :: secretRef :: rest) ' ') =
      some (path :: "join" :: "--secret" :: env "WGMESH_SECRET" :: rest) := by
  have hwords : ∀ w ∈ path :: "join" :: "--secret" :: secretRef :: rest, LineWord w := by
    intro w hw
    simp only [List.mem_cons] at hw
    rcases hw with rfl | rfl | rfl | rfl | hw
    exacts [hpath.lineWord, by decide, by decide, lineWord_secretRef, (hrest w hw).lineWord]
  rw [execStartArgv_join env (List.cons_ne_nil _ _)
      (fun w hw => ⟨(hwords w hw).1, fun c hc => ((hwords w hw).2 c hc).1⟩)
      (fun w hw => by cases hw; exact hlead),
    List.map_cons, List.mapM_cons, execWord_of_execWord env hpath, List.map_cons, List.mapM_cons,
    execWord_of_execWord env (show ExecWord "join" by decide), List.map_cons, List.mapM_cons,
    execWord_of_execWord env (show ExecWord "--secret" by decide), List.map_cons, List.mapM_cons,
    execWord_secretRef, mapM_execWord env hrest]
  rfl

theorem serviceJoin_unitText (env : String → String) {path : String} (hpath : ExecWord path)
    (hlead : path.data.head? ∉ execPrefixes.map some) {rest : List String}
    (hrest : ∀ w ∈ rest, ExecWord w) {b : List Char} (hb : ∀ c ∈ b, c = ' ') :
    serviceJoin env (unitText ⟨(join (path :: "join" :: "--secret" :: secretRef :: rest) ' ').data ++ b⟩) =
      some (joinCmd ("--secret" :: env "WGMESH_SECRET" :: rest)) := by
  have hwords : ∀ w ∈ path :: "join" :: "--secret" :: secretRef :: rest, LineWord w := by
    intro w hw
    simp only [List.mem_cons] at hw
    rcases hw with rfl | rfl | rfl | rfl | hw
    exacts [hpath.lineWord, by decide, by decide, lineWord_secretRef, (hrest w hw).lineWord]
  unfold serviceJoin
  rw [unitExecStart_join (List.cons_ne_nil _ _) hwords hb, Option.some_bind,
    execStartArgv_unit env hpath hlead hrest]
  rfl

theorem execStartArgs_eq (cfg : SystemdServiceConfig) :
    execStartArgs cfg = "join" :: "--secret" :: secretRef :: (execStartArgs cfg).drop 3 := by
  simp [execStartArgs]

/-- Every invocation of `install-service` that succeeds, with a binary path and settings
systemd keeps as single words, installs a service that runs `join` with the interface,
port and routes it was given (an omitted one at `NewConfig`'s default, as `install-service`
would have it) and with the secret systemd reads from the environment file, at the `info`
log level and with privacy mode off, whatever `--privacy` said. -/
theorem installService_runs_join {args : List String} {cfg : SystemdServiceConfig}
    (hcfg : installServiceCmd args = .ok cfg) {path : String} (hpath : ExecWord path)
    (hlead : path.data.head? ∉ execPrefixes.map some)
    (hiface : cfg.interfaceName = "" ∨ ExecWord cfg.interfaceName)
    (hroutes : cfg.advertiseRoutes = [] ∨ ExecWord (join cfg.advertiseRoutes ','))
    (env : String → String) (hsecret : env "WGMESH_SECRET" ≠ "") :
    ∃ unit, installSystemdService (.ok path) cfg = .ok (secretEnv cfg.secret, unit) ∧
      serviceJoin env unit = some (.ok ⟨env "WGMESH_SECRET",
        if cfg.interfaceName = "" then defaultInterface else cfg.interfaceName,
        if cfg.listenPort = 0 then defaultWGPort else cfg.listenPort, cfg.advertiseRoutes, "info", false⟩) := by
  obtain ⟨hbin, hport, hclean⟩ := installServiceCmd_ok hcfg
  have hrest : ∀ w ∈ (execStartArgs cfg).drop 3, ExecWord w := by
    intro w hw
    rw [execStartArgs_drop, ← List.append_assoc] at hw
    rcases List.mem_append.mp hw with hw | hw
    · exact execWord_settingWords hiface hw
    · split_ifs at hw with h <;> simp only [List.mem_cons, List.not_mem_nil, or_false] at hw
      rcases hw with rfl | rfl
      exacts [by decide, hroutes.resolve_left h]
  refine ⟨unitText (join (path :: execStartArgs cfg) ' '), by
    simp [installSystemdService, generateSystemdUnit, hbin], ?_⟩
  have hunit := serviceJoin_unitText env hpath hlead hrest (b := []) (by simp)
  rw [List.append_nil, ← execStartArgs_eq] at hunit
  rw [hunit, joinCmd_execStartArgs hsecret hport hclean fun h => fun he =>
    (hroutes.resolve_left h).1 (congrArg String.data he)]

/-- An invocation with every setting and `--privacy`. -/
def sampleInstallArgs : List String :=
  ["--secret", "mesh-secret-value", "--interface", "wg1", "--listen-port", "51821",
    "--advertise-routes", "192.168.0.0/24, 10.0.0.0/8", "--privacy"]

/-- What `install-service` passes on for `sampleInstallArgs`. -/
def sampleServiceConfig : SystemdServiceConfig :=
  ⟨"mesh-secret-value", "wg1", 51821, ["192.168.0.0/24", "10.0.0.0/8"], true, ""⟩

/-- systemd's environment for the service, with the secret from its file. -/
def sampleEnv (name : String) : String := if name = "WGMESH_SECRET" then "mesh-secret-value" else ""

theorem installService_runs_join_sample :
    installServiceCmd sampleInstallArgs = .ok sampleServiceConfig ∧ ExecWord "/usr/local/bin/wgmesh" ∧
      "/usr/local/bin/wgmesh".data.head? ∉ execPrefixes.map some ∧
      (sampleServiceConfig.interfaceName = "" ∨ ExecWord sampleServiceConfig.interfaceName) ∧
      (sampleServiceConfig.advertiseRoutes = [] ∨ ExecWord (join sampleServiceConfig.advertiseRoutes ',')) ∧
      sampleEnv "WGMESH_SECRET" ≠ "" ∧
      ∃ unit, installSystemdService (.ok "/usr/local/bin/wgmesh") sampleServiceConfig =
          .ok (secretEnv sampleServiceConfig.secret, unit) ∧
        serviceJoin sampleEnv unit = some (.ok ⟨sampleEnv "WGMESH_SECRET",
          if sampleServiceConfig.interfaceName = "" then defaultInterface else sampleServiceConfig.interfaceName,
          if sampleServiceConfig.listenPort = 0 then defaultWGPort else sampleServiceConfig.listenPort,
          sampleServiceConfig.advertiseRoutes, "info", false⟩) :=
  have hcfg : installServiceCmd sampleInstallArgs = .ok sampleServiceConfig := rfl
  ⟨hcfg, by decide, by decide, .inr (by decide), .inr (by decide), by decide,
    installService_runs_join hcfg (by decide) (by decide) (.inr (by decide)) (.inr (by decide)) sampleEnv
      (by decide)⟩

/-- `--advertise-routes` with a value that has no comma and trims to nothing:
`install-service` keeps one empty route, `GenerateSystemdUnit` writes it as an empty last
word, systemd drops that word, and at every start of the service `join` exits on
`flag needs an argument`. -/
theorem installService_blank_route {args flagArgs : List String} {flags : List (String × FlagValue)}
    (hflags : parseFlags installServiceFlags args = .ok (flags, flagArgs))
    (hsecret : stringFlag flags "secret" ≠ "")
    (hroute : stringFlag flags "advertise-routes" ≠ "" ∧ ',' ∉ (stringFlag flags "advertise-routes").data ∧
      trimSpace (stringFlag flags "advertise-routes") = "")
    {path : String} (hpath : ExecWord path) (hlead : path.data.head? ∉ execPrefixes.map some)
    (hiface : stringFlag flags "interface" = "" ∨ ExecWord (stringFlag flags "interface"))
    (env : String → String) :
    ∃ cfg unit, installServiceCmd args = .ok cfg ∧ cfg.advertiseRoutes = [""] ∧
      installSystemdService (.ok path) cfg = .ok (secretEnv cfg.secret, unit) ∧
      serviceJoin env unit = some (.error (.flag (.needsArgument "advertise-routes"))) := by
  set cfg : SystemdServiceConfig := ⟨stringFlag flags "secret", stringFlag flags "interface",
    intFlag flags "listen-port", parseRoutes (stringFlag flags "advertise-routes"),
    boolFlag flags "privacy", ""⟩
  have hcfg : installServiceCmd args = .ok cfg := by
    simp only [installServiceCmd, hflags, if_neg hsecret]
  have hblank : cfg.advertiseRoutes = [""] := parseRoutes_blank hroute.1 hroute.2.1 hroute.2.2
  replace hiface : cfg.interfaceName = "" ∨ ExecWord cfg.interfaceName := hiface
  clear_value cfg
  obtain ⟨hbin, hport, -⟩ := installServiceCmd_ok hcfg
  set rest := (if cfg.interfaceName ≠ "" ∧ cfg.interfaceName ≠ defaultInterface then
      ["--interface", cfg.interfaceName] else []) ++
    ((if cfg.listenPort ≠ 0 ∧ cfg.listenPort ≠ defaultWGPort then
      ["--listen-port", toString cfg.listenPort] else []) ++ ["--advertise-routes"]) with hrest_eq
  have hrest : ∀ w ∈ rest, ExecWord w := by
    intro w hw
    rw [hrest_eq, ← List.append_assoc] at hw
    rcases List.mem_append.mp hw with hw | hw
    · exact execWord_settingWords hiface hw
    · rw [List.mem_singleton.mp hw]; decide
  have hargs : path :: execStartArgs cfg = (path :: "join" :: "--secret" :: secretRef :: rest) ++ [""] := by
    simp [execStartArgs, hblank, rest, join, List.intercalate]
  have hunit : join (path :: execStartArgs cfg) ' ' =
      ⟨(join (path :: "join" :: "--secret" :: secretRef :: rest) ' ').data ++ [' ']⟩ := by
    rw [hargs]
    exact String.ext (join_append_empty (List.cons_ne_nil _ _))
  refine ⟨cfg, unitText (join (path :: execStartArgs cfg) ' '), hcfg, hblank, by
    simp [installSystemdService, generateSystemdUnit, hbin], ?_⟩
  rw [hunit, serviceJoin_unitText env hpath hlead hrest (by simp), joinCmd_blankRoutes _ hport]

/-- An invocation whose routes are a blank. -/
def blankRouteArgs : List String := ["--secret", "mesh-secret-value", "--advertise-routes", " "]

/-- The flags `install-service` holds after `blankRouteArgs`. -/
def blankRouteFlags : List (String × FlagValue) :=
  [("secret", .string "mesh-secret-value"), ("interface", .string "wg0"), ("listen-port", .int 51820),
    ("advertise-routes", .string " "), ("privacy", .bool false)]

theorem installService_blank_route_sample :
    parseFlags installServiceFlags blankRouteArgs = .ok (blankRouteFlags, []) ∧
      ExecWord "/usr/local/bin/wgmesh" ∧ "/usr/local/bin/wgmesh".data.head? ∉ execPrefixes.map some ∧
      ∃ cfg unit, installServiceCmd blankRouteArgs = .ok cfg ∧ cfg.advertiseRoutes = [""] ∧
        installSystemdService (.ok "/usr/local/bin/wgmesh") cfg = .ok (secretEnv cfg.secret, unit) ∧
        serviceJoin sampleEnv unit = some (.error (.flag (.needsArgument "advertise-routes"))) :=
  have hflags : parseFlags installServiceFlags blankRouteArgs = .ok (blankRouteFlags, []) := rfl
  ⟨hflags, by decide, by decide,
    installService_blank_route hflags (by decide) (by decide) (by decide) (by decide) (.inr (by decide))
      sampleEnv⟩

/-! ## The URI `qr` prints -/

/-- The URI `qr` prints for a secret with no `?` and no space at either end configures a
node as the secret itself does. -/
theorem qr_uri_configures_as_secret {args rest : List String} {flags : List (String × FlagValue)}
    (hflags : parseFlags qrFlags args = .ok (flags, rest)) (hne : stringFlag flags "secret" ≠ "")
    (hq : '?' ∉ (stringFlag flags "secret").data)
    (hsp : trimSpace (stringFlag flags "secret") = stringFlag flags "secret") :
    ∃ uri, qrCmd args = .ok uri ∧ ∀ sum256 hkdf (opts : DaemonOpts),
      newConfig sum256 hkdf { opts with secret := uri } =
        newConfig sum256 hkdf { opts with secret := stringFlag flags "secret" } := by
  simp only [qrCmd, hflags, if_neg hne]
  refine ⟨_, rfl, fun sum256 hkdf opts => ?_⟩
  split_ifs with hpre
  · rfl
  · exact ((parseSecret_formatSecretURI hq hsp (Bool.eq_false_iff.mpr hpre) "").2 sum256 hkdf opts).1

theorem qr_uri_configures_as_secret_sample :
    parseFlags qrFlags ["--secret", "my-mesh-secret-abc123"] =
        .ok ([("secret", .string "my-mesh-secret-abc123")], []) ∧
      ∃ uri, qrCmd ["--secret", "my-mesh-secret-abc123"] = .ok uri ∧ ∀ sum256 hkdf (opts : DaemonOpts),
        newConfig sum256 hkdf { opts with secret := uri } =
          newConfig sum256 hkdf { opts with secret := "my-mesh-secret-abc123" } :=
  have hflags : parseFlags qrFlags ["--secret", "my-mesh-secret-abc123"] =
      .ok ([("secret", .string "my-mesh-secret-abc123")], []) := rfl
  ⟨hflags, qr_uri_configures_as_secret hflags (by decide) (by decide) (by decide)⟩

/-- A secret with a `?` that `join` accepts: `qr` prints its URI, which parses to the part
before the `?`, too short for `DeriveKeys`; the node given the raw secret starts, the node
given the URI does not. -/
theorem formatSecretURI_cut_at_query :
    joinCmd ["--secret", "my-mesh-secret?abc123"] =
        .ok ⟨"my-mesh-secret?abc123", "wg0", 51820, [], "info", false⟩ ∧
      qrCmd ["--secret", "my-mesh-secret?abc123"] = .ok (formatSecretURI "my-mesh-secret?abc123") ∧
      parseSecret "my-mesh-secret?abc123" = "my-mesh-secret?abc123" ∧
      parseSecret (formatSecretURI "my-mesh-secret?abc123") = "my-mesh-secret" ∧
      ∀ sum256 hkdf (opts : DaemonOpts),
        (∃ c, newConfig sum256 hkdf { opts with secret := "my-mesh-secret?abc123" } = .ok c ∧
          c.secret = "my-mesh-secret?abc123") ∧
        newConfig sum256 hkdf { opts with secret := formatSecretURI "my-mesh-secret?abc123" } =
          .error "failed to derive keys: secret must be at least 16 characters" :=
  ⟨rfl, rfl, by decide, by decide, fun _ _ _ => ⟨⟨_, rfl, rfl⟩, rfl⟩⟩

end WgMesh.Daemon
