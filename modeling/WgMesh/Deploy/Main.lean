import WgMesh.Go.Flag
import WgMesh.Deploy.State

/-! # The centralized command line

Without a subcommand, `main` (package `main`) parses the flags of the centralized mode
with `flag.CommandLine` (`ExitOnError`), asks for a password when `-encrypt` is set, and
runs one command on the state file `-state` names: `-init` before anything else, then a
non-empty `-add`, a non-empty `-remove`, `-list` and `-deploy`, and the usage text when
none is set. `-add` and `-remove` load the file, change the mesh and save it; an error
ends the program before `Save`, so the file keeps what it held.

With a password set, `Load` and `Save` pass the JSON text through `crypto.Decrypt` and
`crypto.Encrypt`, whose code is not among the sources; the encryption notes describe
AES-256-GCM under a PBKDF2 key, which authenticates. A file is modelled as the mesh and
the password that sealed it (`""` for plain JSON), and it opens under that password
only.

* `main_afterRun` — an invocation does to the file it names what `State.afterRun` does
  with the command its flags select, seen through the password it runs with, and
  leaves every other file alone; in particular `-init` replaces whatever the file held;
* `main_consistent` — over every sequence of invocations, with any arguments, host
  names, key pairs, passwords and write failures, every state file on the machine holds
  a consistent mesh.

`-deploy` first runs `detectEndpoints`: each node but the local one is reached over SSH
and asked for its public IP, and only a node whose answer is empty or its SSH host gets
an endpoint. `AddNode` writes none, so the local node and every node behind NAT keep
theirs empty:

* `deploy_pair_without_endpoints` — on every state the commands write, two nodes that
  are each local or not found public get each other as peers with no endpoint, so
  neither can start a handshake with the other.
-/

namespace WgMesh.Deploy.State

open WgMesh.Go

/-- The subcommands `main` hands its first argument to. -/
def subcommands : List String :=
  ["join", "init", "status", "test-peer", "qr", "install-service", "uninstall-service",
    "rotate-secret"]

/-- The flags of the centralized mode, with their defaults. -/
def mainFlags : List (String × FlagValue) :=
  [("state", .string "mesh-state.json"), ("add", .string ""), ("remove", .string ""),
    ("list", .bool false), ("deploy", .bool false), ("init", .bool false),
    ("encrypt", .bool false)]

/-- A state file: the mesh `Save` wrote, sealed under the password set then (`""`: plain
JSON). -/
structure StateFile where
  password : String
  mesh : Mesh

/-- `Load` with `password` set (`""`: none). A sealed file opens under the password that
sealed it only; a plain file is no ciphertext, and a sealed one is no JSON. -/
def load (password : String) : Option StateFile → Except String Mesh
  | none => .error "failed to read state file"
  | some f =>
    if f.password = password then .ok f.mesh
    else if password = "" then .error "failed to parse state file"
    else .error "failed to decrypt state file"

/-- What an invocation reads besides its arguments: `os.Hostname`, the key pair
`GenerateKeyPair` returns, what the password prompt returns (`ReadPasswordTwice` for
`-init`, with its mismatch error, else `ReadPassword`), and whether `os.WriteFile` can
open the state file. -/
structure Invocation where
  args : List String
  hostname : Except String String
  keys : Except String (String × String)
  password : Except String String
  writeOk : Bool

/-- How `main` ends. -/
inductive Outcome
  /-- A subcommand takes the rest of the arguments. -/
  | subcommand (name : String) (args : List String)
  /-- `flag.Parse` failed: exit status 2 (0 for `-help`). -/
  | flagError (e : FlagError)
  /-- A message on standard error and exit status 1. -/
  | failure (message : String)
  /-- A success line. -/
  | success (message : String)
  /-- `m.List()` on the loaded mesh. -/
  | list (m : Mesh)
  /-- `m.Deploy()` on the loaded mesh. -/
  | deploy (m : Mesh)
  /-- `printUsage` and exit status 1. -/
  | usage

/-- `Save` to `path` under `password`. -/
def save (inv : Invocation) (files : String → Option StateFile) (path password : String)
    (m : Mesh) : Except String (String → Option StateFile) :=
  if inv.writeOk then .ok (Function.update files path (some ⟨password, m⟩))
  else .error "failed to write state file"

/-- The password `SetEncryptionPassword` sets: the prompt's answer under `-encrypt`,
otherwise none. -/
def sessionPassword (inv : Invocation) (flags : List (String × FlagValue)) :
    Except String String :=
  if boolFlag flags "encrypt" then inv.password else .ok ""

/-- `main` past the subcommand check: the outcome and the files after. -/
def centralMain (inv : Invocation) (files : String → Option StateFile) :
    Outcome × (String → Option StateFile) :=
  match parseFlags mainFlags inv.args with
  | .error e => (.flagError e, files)
  | .ok (flags, _) =>
    let stateFile := stringFlag flags "state"
    match sessionPassword inv flags with
    | .error e => (.failure ("Failed to read password: " ++ e), files)
    | .ok password =>
      if boolFlag flags "init" then
        match initializeMesh inv.hostname with
        | .error e => (.failure ("Failed to initialize mesh: " ++ e), files)
        | .ok m =>
          match save inv files stateFile password m with
          | .error e => (.failure ("Failed to initialize mesh: " ++ e), files)
          | .ok files => (.success "Mesh initialized successfully", files)
      else
        match load password (files stateFile) with
        | .error e => (.failure ("Failed to load mesh state: " ++ e), files)
        | .ok m =>
          if stringFlag flags "add" ≠ "" then
            match m.addNode (stringFlag flags "add") inv.keys with
            | .error e => (.failure ("Failed to add node: " ++ e), files)
            | .ok m =>
              match save inv files stateFile password m with
              | .error e => (.failure ("Failed to save state: " ++ e), files)
              | .ok files => (.success "Node added successfully", files)
          else if stringFlag flags "remove" ≠ "" then
            match m.removeNode (stringFlag flags "remove") with
            | .error e => (.failure ("Failed to remove node: " ++ e), files)
            | .ok m =>
              match save inv files stateFile password m with
              | .error e => (.failure ("Failed to save state: " ++ e), files)
              | .ok files => (.success "Node removed successfully", files)
          else if boolFlag flags "list" then (.list m, files)
          else if boolFlag flags "deploy" then (.deploy m, files)
          else (.usage, files)

/-- `main`: a subcommand named by the first argument, or the centralized mode. -/
def main (inv : Invocation) (files : String → Option StateFile) :
    Outcome × (String → Option StateFile) :=
  match inv.args with
  | cmd :: rest => if cmd ∈ subcommands then (.subcommand cmd rest, files) else centralMain inv files
  | [] => centralMain inv files

/-- The files after invocations in turn. -/
def runMain (files : String → Option StateFile) (invs : List Invocation) :
    String → Option StateFile :=
  invs.foldl (fun files inv => (main inv files).2) files

/-! ## The command an invocation runs -/

/-- The state-changing command the flags select: `-init` first, then a non-empty
`-add`, then a non-empty `-remove`; none for `-list`, `-deploy` and the usage text. -/
def selectedCommand (inv : Invocation) (flags : List (String × FlagValue)) : Option Command :=
  if boolFlag flags "init" then some (.init inv.hostname)
  else if stringFlag flags "add" ≠ "" then some (.add (stringFlag flags "add") inv.keys)
  else if stringFlag flags "remove" ≠ "" then some (.remove (stringFlag flags "remove"))
  else none

/-- The mesh a file opens to under `password`. -/
def opened (password : String) (file : Option StateFile) : Option Mesh :=
  (load password file).toOption

section Central

variable {inv : Invocation} {files : String → Option StateFile} {path password : String}

theorem opened_some_self (m : Mesh) : opened password (some ⟨password, m⟩) = some m := by
  simp [opened, load, Except.toOption]

theorem opened_of_load {m : Mesh} (h : load password (files path) = .ok m) :
    opened password (files path) = some m := by
  rw [opened, h]
  rfl

theorem opened_of_load_error {e : String} (h : load password (files path) = .error e) :
    opened password (files path) = none := by
  rw [opened, h]
  rfl

/-- What an invocation whose writes succeed does to the files: `path` is left or
rewritten under `password`, the mesh it opens to is the selected command's `afterRun`,
and no other file changes. -/
theorem centralMain_afterRun {flags : List (String × FlagValue)} {rest : List String}
    (hparse : parseFlags mainFlags inv.args = .ok (flags, rest))
    (hpw : sessionPassword inv flags = .ok password) (hw : inv.writeOk = true) :
    let path := stringFlag flags "state"
    let files' := (centralMain inv files).2
    (∀ p, p ≠ path → files' p = files p) ∧
      (files' path = files path ∨ ∃ m, files' path = some ⟨password, m⟩) ∧
      opened password (files' path) =
        runAll (opened password (files path)) (selectedCommand inv flags).toList := by
  intro path files'
  have hwrite : ∀ m, save inv files path password m =
      .ok (Function.update files path (some ⟨password, m⟩)) := fun _ => if_pos hw
  -- the files after a write of `m`
  have written : ∀ m, (∀ p, p ≠ path → Function.update files path (some ⟨password, m⟩) p = files p) ∧
      (Function.update files path (some ⟨password, m⟩) path = files path ∨
        ∃ m', Function.update files path (some ⟨password, m⟩) path = some ⟨password, m'⟩) ∧
      opened password (Function.update files path (some ⟨password, m⟩) path) = some m :=
    fun m => ⟨fun p hp => Function.update_noteq hp _ _, .inr ⟨m, Function.update_same _ _ _⟩,
      by rw [Function.update_same, opened_some_self]⟩
  have unchanged : (∀ p, p ≠ path → files p = files p) ∧
      (files path = files path ∨ ∃ m, files path = some ⟨password, m⟩) := ⟨fun _ _ => rfl, .inl rfl⟩
  simp only [files', centralMain, hparse, hpw]
  unfold selectedCommand
  by_cases hinit : boolFlag flags "init" = true
  · simp only [hinit, if_true, Option.toList, runAll, List.foldl]
    cases hm : initializeMesh inv.hostname with
    | error e => exact ⟨unchanged.1, unchanged.2, by simp [afterRun, hm]⟩
    | ok m =>
      simp only [hwrite, afterRun, hm]
      exact written m
  simp only [hinit, Bool.false_eq_true, if_false]
  cases hload : load password (files path) with
  | error e =>
    have hopen := opened_of_load_error hload
    refine ⟨unchanged.1, unchanged.2, ?_⟩
    split_ifs <;> simp [Option.toList, runAll, afterRun, hopen]
  | ok m =>
    have hopen := opened_of_load hload
    dsimp only
    by_cases hadd : stringFlag flags "add" ≠ ""
    · simp only [if_pos hadd, Option.toList, runAll, List.foldl, afterRun, hopen]
      cases hm : m.addNode (stringFlag flags "add") inv.keys with
      | error e => exact ⟨unchanged.1, unchanged.2, hopen⟩
      | ok m' =>
        simp only [hwrite]
        exact written m'
    by_cases hrem : stringFlag flags "remove" ≠ ""
    · simp only [if_neg hadd, if_pos hrem, Option.toList, runAll, List.foldl, afterRun, hopen]
      cases hm : m.removeNode (stringFlag flags "remove") with
      | error e => exact ⟨unchanged.1, unchanged.2, hopen⟩
      | ok m' =>
        simp only [hwrite]
        exact written m'
    · simp only [if_neg hadd, if_neg hrem, Option.toList, runAll, List.foldl]
      split_ifs <;> exact ⟨unchanged.1, unchanged.2, rfl⟩

theorem centralMain_of_not_writeOk (hw : inv.writeOk = false) : (centralMain inv files).2 = files := by
  have hsave : ∀ path password m, save inv files path password m = .error "failed to write state file" :=
    fun _ _ _ => if_neg (by simp [hw])
  unfold centralMain
  simp only [hsave]
  repeat' split
  all_goals rfl

end Central

/-! ## Every state file over every sequence of invocations -/

/-- Every state file on the machine holds a consistent mesh. -/
def FilesConsistent (files : String → Option StateFile) : Prop :=
  ∀ p f, files p = some f → f.mesh.Consistent

theorem consistent_of_opened {files : String → Option StateFile} (h : FilesConsistent files)
    (password path : String) : ∀ m ∈ opened password (files path), m.Consistent := by
  intro m hm
  unfold opened load at hm
  split at hm
  · cases hm
  · rename_i f hf
    split_ifs at hm
    · cases hm
      exact h path f hf
    all_goals cases hm

theorem main_preserves {files : String → Option StateFile} (h : FilesConsistent files)
    (inv : Invocation) : FilesConsistent (main inv files).2 := by
  have central : FilesConsistent (centralMain inv files).2 := by
    cases hparse : parseFlags mainFlags inv.args with
    | error e => simpa only [centralMain, hparse] using h
    | ok r =>
      obtain ⟨flags, rest⟩ := r
      cases hpw : sessionPassword inv flags with
      | error e => simpa only [centralMain, hparse, hpw] using h
      | ok password =>
        cases hw : inv.writeOk with
        | false => rwa [centralMain_of_not_writeOk hw]
        | true =>
          obtain ⟨hother, hpath, hopen⟩ := @centralMain_afterRun inv files password flags rest hparse hpw hw
          intro p f hf
          by_cases hp : p = stringFlag flags "state"
          · subst hp
            rcases hpath with hsame | ⟨m, hm⟩
            · exact h _ f (hsame ▸ hf)
            · rw [hm] at hf hopen
              cases hf
              rw [opened_some_self] at hopen
              exact consistent_runAll _ (consistent_of_opened h password _) _ hopen.symm
          · exact h p f (hother p hp ▸ hf)
  unfold main
  split
  · split_ifs
    · exact h
    · exact central
  · exact central

/-- Over every sequence of invocations, with any arguments, host names, key pairs,
passwords and write failures, every state file holds a consistent mesh. -/
theorem main_consistent (invs : List Invocation) {files : String → Option StateFile}
    (h : FilesConsistent files) : FilesConsistent (runMain files invs) := by
  induction invs generalizing files with
  | nil => exact h
  | cons inv invs ih => exact ih (main_preserves h inv)

/-- `-init` on the machine `node1`, `-add` of one node, and an `-encrypt -add` whose
password opens no file of the run. -/
def sampleInvocations : List Invocation :=
  [⟨["-init"], .ok "node1", .error "not asked", .error "not asked", true⟩,
    ⟨["-add", "node1:10.99.0.1:192.168.1.10"], .ok "node1", .ok ("priv1", "pub1"),
      .error "not asked", true⟩,
    ⟨["-encrypt", "-add", "node2:10.99.0.2:192.168.1.20"], .ok "node1", .ok ("priv2", "pub2"),
      .ok "typed-password", true⟩]

theorem main_consistent_sample :
    FilesConsistent (fun _ => none) ∧ FilesConsistent (runMain (fun _ => none) sampleInvocations) :=
  have h : FilesConsistent (fun _ => none) := fun _ _ h => nomatch h
  ⟨h, main_consistent sampleInvocations h⟩

/-- An invocation of the centralized mode whose writes succeed does to the file `-state`
names what `afterRun` does with the command its flags select, seen through the password
it runs with; it leaves that file or rewrites it under that password, and leaves every
other file alone. -/
theorem main_afterRun {inv : Invocation} {files : String → Option StateFile}
    (hcentral : ∀ cmd ∈ inv.args.head?, cmd ∉ subcommands) {flags : List (String × FlagValue)}
    {rest : List String} (hparse : parseFlags mainFlags inv.args = .ok (flags, rest))
    {password : String} (hpw : sessionPassword inv flags = .ok password)
    (hw : inv.writeOk = true) :
    let path := stringFlag flags "state"
    let files' := (main inv files).2
    (∀ p, p ≠ path → files' p = files p) ∧
      (files' path = files path ∨ ∃ m, files' path = some ⟨password, m⟩) ∧
      opened password (files' path) =
        runAll (opened password (files path)) (selectedCommand inv flags).toList := by
  have hmain : main inv files = centralMain inv files := by
    unfold main
    split
    · rename_i cmd rest' hargs
      rw [if_neg (hcentral cmd (by simp [hargs]))]
    · rfl
  rw [hmain]
  exact centralMain_afterRun hparse hpw hw

/-- `-init` on the machine `node1` over a state file that holds the sample mesh. -/
def initInvocation : Invocation := ⟨["-init"], .ok "node1", .error "not asked", .error "not asked", true⟩

def sampleFiles : String → Option StateFile :=
  Function.update (fun _ => none) "mesh-state.json" (some ⟨"", sampleState⟩)

theorem main_afterRun_init :
    (∀ cmd ∈ initInvocation.args.head?, cmd ∉ subcommands) ∧
      parseFlags mainFlags initInvocation.args = .ok (setFlag "init" (.bool true) mainFlags, []) ∧
      sessionPassword initInvocation (setFlag "init" (.bool true) mainFlags) = .ok "" ∧
      initInvocation.writeOk = true ∧
      let flags := setFlag "init" (.bool true) mainFlags
      let path := stringFlag flags "state"
      let files' := (main initInvocation sampleFiles).2
      (∀ p, p ≠ path → files' p = sampleFiles p) ∧
        (files' path = sampleFiles path ∨ ∃ m, files' path = some ⟨"", m⟩) ∧
        opened "" (files' path) =
          runAll (opened "" (sampleFiles path)) (selectedCommand initInvocation flags).toList :=
  have hc : ∀ cmd ∈ initInvocation.args.head?, cmd ∉ subcommands := by decide
  have hp : parseFlags mainFlags initInvocation.args =
      .ok (setFlag "init" (.bool true) mainFlags, []) := rfl
  ⟨hc, hp, rfl, rfl, main_afterRun hc hp rfl rfl⟩


/-! ## `-deploy`: the endpoints -/

/-- Whether `detectEndpoints` takes a node for public: `ssh.NewClient` connected and
`ssh.DetectPublicIP` returned no address or the SSH host. `probe` answers for an SSH
host and port: the connection's error, or what the detection returned. -/
def detectedPublic (probe : String → Int → Except String (Except String String)) (n : Node) :
    Bool :=
  match probe n.sshHost n.sshPort with
  | .ok (.ok publicIP) => publicIP = "" ∨ publicIP = n.sshHost
  | _ => false

/-- The loop body of `detectEndpoints` for the node under `hostname`: the local node is
skipped; a failed connection stops the loop; a failed detection, or an address other than
the SSH host, marks the node behind NAT; otherwise its endpoint is the SSH host and the
node's listen port. -/
def detectEndpoint (probe : String → Int → Except String (Except String String))
    (hostname : String) (n : Node) : Except String Node :=
  if n.isLocal then .ok n
  else
    match probe n.sshHost n.sshPort with
    | .error e => .error ("failed to connect to " ++ hostname ++ ": " ++ e)
    | .ok (.error _) => .ok { n with behindNAT := true }
    | .ok (.ok publicIP) =>
      if publicIP ≠ "" ∧ publicIP ≠ n.sshHost then .ok { n with behindNAT := true }
      else .ok { n with publicEndpoint := n.sshHost ++ ":" ++ toString n.listenPort }

/-- The loop of `detectEndpoints`, in the order the map is ranged over. -/
def detectEndpointsLoop (probe : String → Int → Except String (Except String String)) :
    List (String × Node) → Except String (List (String × Node))
  | [] => .ok []
  | (hostname, n) :: rest =>
    match detectEndpoint probe hostname n with
    | .error e => .error e
    | .ok n' =>
      match detectEndpointsLoop probe rest with
      | .error e => .error e
      | .ok rest' => .ok ((hostname, n') :: rest')

theorem detectEndpointsLoop_ok {probe : String → Int → Except String (Except String String)} :
    ∀ {l l' : List (String × Node)}, detectEndpointsLoop probe l = .ok l' →
      l'.map Prod.fst = l.map Prod.fst ∧
        ∀ e' ∈ l', ∃ e ∈ l, e'.1 = e.1 ∧ detectEndpoint probe e.1 e.2 = .ok e'.2
  | [], l', h => by cases h; exact ⟨rfl, fun _ h => nomatch h⟩
  | (hostname, n) :: rest, l', h => by
    unfold detectEndpointsLoop at h
    split at h
    · cases h
    · rename_i n' hn
      split at h
      · cases h
      · rename_i rest' hrest
        cases h
        obtain ⟨hkeys, hmem⟩ := detectEndpointsLoop_ok hrest
        refine ⟨by simp [hkeys], fun e' he' => ?_⟩
        rcases List.mem_cons.mp he' with rfl | he'
        · exact ⟨_, List.mem_cons_self _ _, rfl, hn⟩
        · obtain ⟨e, he, hrel⟩ := hmem e' he'
          exact ⟨e, List.mem_cons_of_mem _ he, hrel⟩

/-- `detectEndpoints` on the loaded mesh (the changes stay in memory: `main` does not save
after `-deploy`). -/
def Mesh.detectEndpoints (probe : String → Int → Except String (Except String String))
    (m : Mesh) : Except String Mesh :=
  match h : detectEndpointsLoop probe m.nodes with
  | .error e => .error e
  | .ok nodes => .ok { m with nodes := nodes, nodup := (detectEndpointsLoop_ok h).1.symm ▸ m.nodup }

section Endpoints

variable {probe : String → Int → Except String (Except String String)}

theorem detectEndpoint_ok {hostname : String} {n n' : Node}
    (h : detectEndpoint probe hostname n = .ok n') :
    n'.hostname = n.hostname ∧ n'.meshIP = n.meshIP ∧ n'.publicKey = n.publicKey ∧
      n'.isLocal = n.isLocal ∧ n'.listenPort = n.listenPort ∧
      n'.routableNetworks = n.routableNetworks ∧ detectedPublic probe n' = detectedPublic probe n ∧
      n'.publicEndpoint = if !n.isLocal && detectedPublic probe n
        then n.sshHost ++ ":" ++ toString n.listenPort else n.publicEndpoint := by
  unfold detectEndpoint at h
  split_ifs at h with hl
  · cases h
    simp [hl]
  · unfold detectedPublic
    split at h
    · cases h
    · rename_i heq
      cases h
      simp [hl, heq]
    · rename_i publicIP heq
      split_ifs at h with hip
      · cases h
        have hnat : ¬(publicIP = "" ∨ publicIP = n.sshHost) := by tauto
        simp [hl, heq, hnat]
      · cases h
        have hpub : publicIP = "" ∨ publicIP = n.sshHost := by tauto
        simp [hl, heq, hpub]

theorem detectEndpoints_ok {m m' : Mesh} (h : m.detectEndpoints probe = .ok m') :
    m'.localHostname = m.localHostname ∧ m'.listenPort = m.listenPort ∧
      ∀ e' ∈ m'.nodes, ∃ e ∈ m.nodes, e'.1 = e.1 ∧ detectEndpoint probe e.1 e.2 = .ok e'.2 := by
  unfold Mesh.detectEndpoints at h
  split at h
  · cases h
  · rename_i nodes hloop
    cases h
    exact ⟨rfl, rfl, (detectEndpointsLoop_ok hloop).2⟩

theorem consistent_detectEndpoints {m m' : Mesh} (hc : m.Consistent)
    (h : m.detectEndpoints probe = .ok m') : m'.Consistent := by
  obtain ⟨hlocal, hport, back⟩ := detectEndpoints_ok h
  refine ⟨fun e' he' => ?_, fun e' he' => ?_, fun e' he' => ?_⟩ <;>
    obtain ⟨e, he, hkey, hdet⟩ := back e' he' <;>
    obtain ⟨hh, -, -, hl, hp, -, -, -⟩ := detectEndpoint_ok hdet
  · rw [hh, hkey, hc.keyed e he]
  · rw [hl, hkey, hlocal, hc.isLocal e he]
  · rw [hp, hport, hc.listenPort e he]

theorem endpoints_afterRun {file : Option Mesh} (hf : ∀ m ∈ file, ∀ e ∈ m.nodes, e.2.publicEndpoint = "")
    (cmd : Command) : ∀ m ∈ afterRun file cmd, ∀ e ∈ m.nodes, e.2.publicEndpoint = "" := by
  rcases afterRun_cases file cmd with h | ⟨m', h, hwrite⟩
  · rw [h]
    exact hf
  rw [h]
  intro x hx
  obtain rfl := Option.mem_some_iff.mp hx
  rcases hwrite with ⟨_, hinit⟩ | ⟨m, hm, ⟨_, _, hadd⟩ | ⟨_, hrem⟩⟩
  · unfold initializeMesh at hinit
    split at hinit <;> cases hinit
    exact fun e he => nomatch he
  · obtain ⟨_, _, _, _, _, _, _, _, _, _, _, rfl⟩ := addNode_ok_cases hadd
    intro e he
    rcases List.mem_append.mp he with he | he
    · exact hf m hm e he
    · rw [List.mem_singleton.mp he]
      rfl
  · unfold Mesh.removeNode at hrem
    split at hrem <;> cases hrem
    exact fun e he => hf m hm e (List.mem_filter.mp he).1

theorem endpoints_runAll : ∀ (cmds : List Command) {file : Option Mesh},
    (∀ m ∈ file, ∀ e ∈ m.nodes, e.2.publicEndpoint = "") →
      ∀ m ∈ runAll file cmds, ∀ e ∈ m.nodes, e.2.publicEndpoint = ""
  | [], _, hf => hf
  | cmd :: cmds, _, hf => endpoints_runAll cmds (endpoints_afterRun hf cmd)

theorem endpoint_detected_empty {m m' : Mesh} (hf : ∀ e ∈ m.nodes, e.2.publicEndpoint = "")
    (h : m.detectEndpoints probe = .ok m') {x : String × Node} (hx : x ∈ m'.nodes)
    (hnot : x.2.isLocal ∨ detectedPublic probe x.2 = false) : x.2.publicEndpoint = "" := by
  obtain ⟨e, he, -, hdet⟩ := (detectEndpoints_ok h).2.2 x hx
  obtain ⟨-, -, -, hl, -, -, hpub, hend⟩ := detectEndpoint_ok hdet
  rw [hend, if_neg, hf e he]
  rw [← hl, ← hpub]
  rcases hnot with hnot | hnot <;> simp [hnot]

end Endpoints

/-- `-deploy` on any state the commands wrote: when two nodes are each the local node or
not found public, the configuration of each lists the other with no endpoint, so
neither side of the pair can start a handshake. -/
theorem deploy_pair_without_endpoints (cmds : List Command) {m m' : Mesh}
    (hm : m ∈ runAll none cmds) {probe : String → Int → Except String (Except String String)}
    (h : m.detectEndpoints probe = .ok m') {a b : String × Node} (ha : a ∈ m'.nodes)
    (hb : b ∈ m'.nodes) (hab : a.1 ≠ b.1)
    (hna : a.2.isLocal ∨ detectedPublic probe a.2 = false)
    (hnb : b.2.isLocal ∨ detectedPublic probe b.2 = false) :
    (∃ p ∈ (m'.toMesh.generateConfigForNode a.2.toNode).peers,
        p.publicKey = b.2.publicKey ∧ p.endpoint = "") ∧
      ∃ p ∈ (m'.toMesh.generateConfigForNode b.2.toNode).peers,
        p.publicKey = a.2.publicKey ∧ p.endpoint = "" := by
  have hc := consistent_detectEndpoints (consistent_runAll cmds (fun _ h => absurd h (by simp)) m hm) h
  have hf := endpoints_runAll cmds (fun _ h => absurd h (by simp)) m hm
  have listed : ∀ {x y : String × Node}, x ∈ m'.nodes → y ∈ m'.nodes → x.1 ≠ y.1 →
      y.2.publicEndpoint = "" → ∃ p ∈ (m'.toMesh.generateConfigForNode x.2.toNode).peers,
        p.publicKey = y.2.publicKey ∧ p.endpoint = "" := fun hx hy hxy hend => by
    rw [generateConfigForNode_peers hc hx]
    exact ⟨_, List.mem_map_of_mem _ (List.mem_erase_of_ne (fun h => hxy (by rw [h])) |>.mpr hy),
      rfl, hend⟩
  exact ⟨listed ha hb hab (endpoint_detected_empty hf h hb hnb),
    listed hb ha (Ne.symm hab) (endpoint_detected_empty hf h ha hna)⟩

/-- Detection over the sample state: `node2` is behind NAT, `node3` reports no public
address. -/
def sampleProbe (sshHost : String) (_ : Int) : Except String (Except String String) :=
  if sshHost = "192.168.1.20" then .ok (.ok "203.0.113.7") else .ok (.ok "")

/-- The state `-deploy` works on after the detection. -/
def sampleDetected : Mesh :=
  ⟨"wg0", "10.99.0.0/16", 51820,
    [("node1", ⟨"node1", ⟨10, 99, 0, 1⟩, "pub1", "priv1", "192.168.1.10", 22, "", 51820, false, [], true⟩),
      ("node2", ⟨"node2", ⟨10, 99, 0, 2⟩, "pub2", "priv2", "192.168.1.20", 2222, "", 51820, true, [], false⟩),
      ("node3", ⟨"node3", ⟨10, 99, 0, 3⟩, "pub3", "priv3", "192.168.1.30", 22, "192.168.1.30:51820", 51820,
        false, [], false⟩)],
    "node1", by decide⟩

theorem deploy_pair_without_endpoints_sample :
    sampleState ∈ runAll none sampleCommands ∧
      sampleState.detectEndpoints sampleProbe = .ok sampleDetected ∧
      sampleDetected.nodes[0] ∈ sampleDetected.nodes ∧ sampleDetected.nodes[1] ∈ sampleDetected.nodes ∧
      sampleDetected.nodes[0].1 ≠ sampleDetected.nodes[1].1 ∧
      (sampleDetected.nodes[0].2.isLocal ∨ detectedPublic sampleProbe sampleDetected.nodes[0].2 = false) ∧
      (sampleDetected.nodes[1].2.isLocal ∨ detectedPublic sampleProbe sampleDetected.nodes[1].2 = false) ∧
      (∃ p ∈ (sampleDetected.toMesh.generateConfigForNode sampleDetected.nodes[0].2.toNode).peers,
          p.publicKey = sampleDetected.nodes[1].2.publicKey ∧ p.endpoint = "") ∧
        ∃ p ∈ (sampleDetected.toMesh.generateConfigForNode sampleDetected.nodes[1].2.toNode).peers,
          p.publicKey = sampleDetected.nodes[0].2.publicKey ∧ p.endpoint = "" :=
  have hm : sampleState ∈ runAll none sampleCommands := rfl
  have h : sampleState.detectEndpoints sampleProbe = .ok sampleDetected := rfl
  ⟨hm, h, List.getElem_mem _, List.getElem_mem _, by decide, .inl rfl, .inr (by decide),
    deploy_pair_without_endpoints sampleCommands hm h (List.getElem_mem _) (List.getElem_mem _)
      (by decide) (.inl rfl) (.inr (by decide))⟩

end WgMesh.Deploy.State
