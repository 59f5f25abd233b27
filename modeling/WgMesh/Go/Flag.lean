import WgMesh.Go.Strings

/-! # Command-line flags: the `flag` package and `strconv`

The subcommands of `wgmesh` read their options with a `flag.FlagSet` in
`ExitOnError` mode: `join`, `install-service`, `init` and `rotate-secret`. This module
models `FlagSet.Parse` as Go 1.23 has it, for the three kinds of flag the commands
define (`String`, `Int` and `Bool`; `Duration` is used by no modelled command):

* `argKind` is the first half of `parseOne`: an argument that is not a flag stops the
  parse, `--` stops it after itself, and `-name` or `--name`, with an optional `=value`,
  is a flag;
* `parseFlags` is the loop: a flag that takes a value takes the rest of its argument
  after `=` or else the next argument whatever it holds; a boolean flag is `true`
  unless it carries `=value`;
* `parseInt0` is `strconv.ParseInt(s, 0, 64)`, what an `Int` flag's `Set` calls: a
  sign, a base prefix (`0b`, `0o`, `0x`, or a bare leading `0` for octal), digits with
  `_` separators, and the `int64` range.

An error is kept as the failure `parseOne` reports; with `ExitOnError` the program
prints it and exits with status 2 (0 for `-help`).

* `parseInt0_toString` — `%d` text of an `int64` reads back as the number;
* `parseFlags_value` — `--name value` sets a flag that takes a value and goes on after
  both arguments.
-/

namespace WgMesh.Go

/-! ## `strconv` -/

/-- `lower(c)` of `strconv`: the byte with the bit that tells ASCII upper and lower case
apart set. -/
def lower (c : Char) : Nat := c.toNat ||| 32

/-- The value `ParseUint` gives a digit: `0`–`9`, then the letters of either case from
10; `none` for any other byte. -/
def digitVal (c : Char) : Option Nat :=
  if c.isDigit then some (c.toNat - '0'.toNat)
  else if 'a'.toNat ≤ lower c ∧ lower c ≤ 'z'.toNat then some (lower c - 'a'.toNat + 10)
  else none

/-- The two errors of `strconv`: `ErrSyntax` and `ErrRange`. -/
inductive NumError
  | errSyntax
  | errRange
deriving DecidableEq, Repr

/-- The base `ParseUint` reads from the prefix of the digits when called with base 0:
`0b`, `0o` or `0x` in either case before at least one more byte, else octal after a
leading `0`, else decimal. -/
def basePrefix : List Char → Nat × List Char
  | '0' :: b :: c :: rest =>
    if lower b = 'b'.toNat then (2, c :: rest)
    else if lower b = 'o'.toNat then (8, c :: rest)
    else if lower b = 'x'.toNat then (16, c :: rest)
    else (8, b :: c :: rest)
  | '0' :: rest => (8, rest)
  | s => (10, s)

/-- The digit loop of `ParseUint` for base 0 and 64 bits, from the value `n` read so far
and whether an `_` was skipped: a byte that is no digit of the base is a syntax error,
and a value that leaves 64 bits a range error, whichever comes first. -/
def parseUintDigits (base : Nat) : Nat → Bool → List Char → Except NumError (Nat × Bool)
  | n, underscores, [] => .ok (n, underscores)
  | n, underscores, c :: cs =>
    if c = '_' then parseUintDigits base n true cs
    else
      match digitVal c with
      | none => .error .errSyntax
      | some d =>
        if base ≤ d then .error .errSyntax
        else if (2 ^ 64 - 1) / base + 1 ≤ n ∨ 2 ^ 64 ≤ n * base + d then .error .errRange
        else parseUintDigits base (n * base + d) underscores cs

/-- The loop of `underscoreOK` after the prefix; `saw` is the class of the last byte:
`'^'` at the start, `'0'` for a digit or the base prefix, `'_'`, or `'!'`. -/
def underscoreLoop (hex : Bool) : Char → List Char → Bool
  | saw, [] => saw != '_'
  | saw, c :: cs =>
    if c.isDigit || (hex && 'a'.toNat ≤ lower c && lower c ≤ 'f'.toNat) then
      underscoreLoop hex '0' cs
    else if c = '_' then saw == '0' && underscoreLoop hex '_' cs
    else saw != '_' && underscoreLoop hex '!' cs

/-- `underscoreOK`: every `_` of a base-0 number stands between digits, or between the
base prefix and a digit. -/
def underscoreOK (s : List Char) : Bool :=
  let s := (scanSign s).2
  match s with
  | '0' :: b :: rest =>
    if lower b = 'b'.toNat ∨ lower b = 'o'.toNat ∨ lower b = 'x'.toNat then
      underscoreLoop (lower b == 'x'.toNat) '0' rest
    else underscoreLoop false '^' s
  | _ => underscoreLoop false '^' s

/-- `strconv.ParseUint(s, 0, 64)`. -/
def parseUint0 (s : List Char) : Except NumError Nat :=
  if s = [] then .error .errSyntax
  else
    match parseUintDigits (basePrefix s).1 0 false (basePrefix s).2 with
    | .error e => .error e
    | .ok (n, underscores) => if underscores && !underscoreOK s then .error .errSyntax else .ok n

/-- `strconv.ParseInt(s, 0, 64)`: an optional sign, then `ParseUint`, then the `int64`
range. -/
def parseInt0 (s : String) : Except NumError Int :=
  if s.data = [] then .error .errSyntax
  else
    let (neg, u) := scanSign s.data
    match parseUint0 u with
    | .error e => .error e
    | .ok un =>
      if !neg ∧ 2 ^ 63 ≤ un then .error .errRange
      else if neg ∧ 2 ^ 63 < un then .error .errRange
      else .ok (if neg then -(un : Int) else un)

def parseBool (s : String) : Option Bool :=
  if s ∈ ["1", "t", "T", "true", "TRUE", "True"] then some true
  else if s ∈ ["0", "f", "F", "false", "FALSE", "False"] then some false
  else none

/-! ### Reading back what `%d` prints -/

theorem le_foldl_digit (ds : List Char) (n : Nat) :
    n ≤ ds.foldl (fun n c => 10 * n + (c.toNat - '0'.toNat)) n := by
  induction ds generalizing n with
  | nil => exact le_refl n
  | cons c cs ih => exact le_trans (by omega) (ih (10 * n + (c.toNat - '0'.toNat)))

theorem digitVal_of_isDigit {c : Char} (h : c.isDigit) : digitVal c = some (c.toNat - '0'.toNat) := by
  simp [digitVal, h]

theorem parseUintDigits_ten {ds : List Char} (hds : ∀ c ∈ ds, c.isDigit) :
    ∀ {n : Nat} (underscores : Bool),
      ds.foldl (fun n c => 10 * n + (c.toNat - '0'.toNat)) n < 2 ^ 64 →
      parseUintDigits 10 n underscores ds =
        .ok (ds.foldl (fun n c => 10 * n + (c.toNat - '0'.toNat)) n, underscores) := by
  induction ds with
  | nil => intro n _ _; rfl
  | cons c cs ih =>
    intro n underscores hlt
    have hc : c.isDigit := hds c (List.mem_cons_self _ _)
    have hd : c.toNat - '0'.toNat < 10 := by
      simp only [Char.isDigit, Bool.and_eq_true, decide_eq_true_eq] at hc
      have : c.toNat ≤ 57 := hc.2
      show c.toNat - 48 < 10
      omega
    have hnu : c ≠ '_' := by
      rintro rfl
      exact absurd hc (by decide)
    have hstep := le_foldl_digit cs (10 * n + (c.toNat - '0'.toNat))
    simp only [List.foldl_cons] at hlt ⊢
    rw [parseUintDigits, if_neg hnu, digitVal_of_isDigit hc]
    dsimp only
    rw [if_neg (by omega), if_neg (by omega), Nat.mul_comm n 10]
    exact ih (fun c hc => hds c (List.mem_cons_of_mem _ hc)) underscores hlt

theorem toDigitsCore_head (fuel n : Nat) (ds : List Char) (hn : n < fuel) (hpos : 0 < n) :
    ∃ c pre, Nat.toDigitsCore 10 fuel n ds = c :: pre ∧ c ≠ '0' := by
  induction fuel generalizing n ds with
  | zero => omega
  | succ fuel ih =>
    rw [toDigitsCore_succ]
    split_ifs with h0
    · have hlt : n < 10 := by omega
      refine ⟨_, _, rfl, ?_⟩
      rw [Nat.mod_eq_of_lt hlt]
      have key : ∀ k < 10, 0 < k → Nat.digitChar k ≠ '0' := by decide
      exact key n hlt hpos
    · exact ih (n / 10) _ (by omega) (by omega)

theorem basePrefix_of_ne {c : Char} (hc : c ≠ '0') (s : List Char) :
    basePrefix (c :: s) = (10, c :: s) := by
  unfold basePrefix
  split <;> simp_all

theorem parseUint0_toString {n : Nat} (h : n < 2 ^ 64) : parseUint0 (toString n).data = .ok n := by
  rcases Nat.eq_zero_or_pos n with rfl | hpos
  · rfl
  obtain ⟨pre, heq, hne, hdig, hval⟩ := toDigitsCore_ten (n + 1) n [] (Nat.lt_succ_self n)
  obtain ⟨c, cs, heq', hc⟩ := toDigitsCore_head (n + 1) n [] (Nat.lt_succ_self n) hpos
  have hs : (toString n).data = c :: cs := heq'
  have hpre : pre = c :: cs := by simpa [← heq'] using heq.symm
  subst hpre
  have hval' : (c :: cs).foldl (fun n c => 10 * n + (c.toNat - '0'.toNat)) 0 = n := hval
  have hloop := parseUintDigits_ten hdig false (by rw [hval']; exact h)
  rw [hval'] at hloop
  simp [parseUint0, hs, basePrefix_of_ne hc, hloop]

theorem scanSign_of_isDigit {c : Char} (hc : c.isDigit) (s : List Char) :
    scanSign (c :: s) = (false, c :: s) := by
  unfold scanSign
  split <;> first | rfl | (cases ‹c :: _ = _›; exact absurd hc (by decide))

theorem parseInt0_toString {i : Int} (h : InInt64 i) : parseInt0 (toString i) = .ok i := by
  unfold InInt64 at h
  cases i with
  | ofNat m =>
    have hm : m < 2 ^ 63 := by simp only [Int.ofNat_eq_coe] at h; omega
    obtain ⟨pre, heq, hne, hdig, -⟩ := toDigitsCore_ten (m + 1) m [] (Nat.lt_succ_self m)
    obtain ⟨c, cs, rfl⟩ := List.exists_cons_of_ne_nil hne
    have hs : (toString m).data = c :: cs := by simpa using heq
    have hsign := scanSign_of_isDigit (hdig c (List.mem_cons_self _ _)) cs
    show parseInt0 (toString m) = .ok (m : Int)
    simp only [parseInt0, hs, hsign]
    rw [← hs, parseUint0_toString (by omega)]
    simp only [hs, reduceCtorEq, if_false]
    rw [if_neg (by omega), if_neg (by simp)]
  | negSucc m =>
    have hm : m + 1 ≤ 2 ^ 63 := by rw [Int.negSucc_eq] at h; omega
    have hs : (toString (Int.negSucc m)).data = '-' :: (toString (m + 1)).data := rfl
    simp only [parseInt0, hs, scanSign]
    rw [parseUint0_toString (by omega)]
    simp [Int.negSucc_eq]
    omega

theorem parseInt0_inInt64 {s : String} {i : Int} (h : parseInt0 s = .ok i) : InInt64 i := by
  unfold parseInt0 at h
  split_ifs at h
  generalize scanSign s.data = p at h
  obtain ⟨neg, u⟩ := p
  dsimp only at h
  split at h
  · cases h
  · unfold InInt64
    split_ifs at h with h1 h2 hneg <;> cases h
    · simp only [hneg, true_and, not_lt] at h2
      omega
    · simp only [hneg, Bool.not_false, true_and, not_le] at h1
      omega

/-! ## `flag.FlagSet` -/

/-- A defined flag with its current value: `FlagSet.String`, `FlagSet.Int` or
`FlagSet.Bool`. -/
inductive FlagValue
  | string (v : String)
  | int (v : Int)
  | bool (v : Bool)
deriving DecidableEq, Repr

/-- `IsBoolFlag`. -/
def FlagValue.isBool : FlagValue → Bool
  | .bool _ => true
  | _ => false

/-- `Value.Set` of each kind. -/
def FlagValue.set : FlagValue → String → Except NumError FlagValue
  | .string _, s => .ok (.string s)
  | .int _, s => (parseInt0 s).map .int
  | .bool _, s =>
    match parseBool s with
    | some b => .ok (.bool b)
    | none => .error .errSyntax

/-- The failures of `parseOne`. -/
inductive FlagError
  /-- `bad flag syntax: %s` -/
  | badSyntax (arg : String)
  /-- `ErrHelp`, for an undefined `-help` or `-h` -/
  | help
  /-- `flag provided but not defined: -%s` -/
  | notDefined (name : String)
  /-- `invalid boolean value %q for -%s: %v` -/
  | invalidBool (value name : String)
  /-- `flag needs an argument: -%s` -/
  | needsArgument (name : String)
  /-- `invalid value %q for flag -%s: %v` -/
  | invalidValue (value name : String) (e : NumError)
deriving DecidableEq, Repr

/-- What `parseOne` makes of an argument. -/
inductive ArgKind
  /-- Not a flag: the parse stops before it. -/
  | stop
  /-- `--`: the parse stops after it. -/
  | terminator
  /-- A name that is empty or starts with `-` or `=`. -/
  | bad
  /-- A flag, with the text after its first `=` if there is one. -/
  | flag (name : String) (value : Option String)
deriving DecidableEq, Repr

/-- The first half of `parseOne`: one or two leading `-`, then the name up to the first
`=` after its first byte. -/
def argKind (s : String) : ArgKind :=
  match s.data with
  | '-' :: c :: rest =>
    if c = '-' ∧ rest = [] then .terminator
    else
      match (if c = '-' then rest else c :: rest) with
      | [] => .bad
      | n :: ns =>
        if n = '-' ∨ n = '=' then .bad
        else
          match index '=' ns with
          | some i => .flag ⟨n :: ns.take i⟩ (some ⟨ns.drop (i + 1)⟩)
          | none => .flag ⟨n :: ns⟩ none
  | _ => .stop

/-- The flag set after `Set` stored `v` under `name`. -/
def setFlag (name : String) (v : FlagValue) (flags : List (String × FlagValue)) :
    List (String × FlagValue) :=
  flags.map fun e => if e.1 = name then (name, v) else e

/-- `FlagSet.Parse`: `parseOne` until it stops; the flags' values and the arguments
left. -/
def parseFlags (flags : List (String × FlagValue)) :
    List String → Except FlagError (List (String × FlagValue) × List String)
  | [] => .ok (flags, [])
  | s :: args =>
    match argKind s with
    | .stop => .ok (flags, s :: args)
    | .terminator => .ok (flags, args)
    | .bad => .error (.badSyntax s)
    | .flag name value =>
      match flags.lookup name with
      | none => .error (if name = "help" ∨ name = "h" then .help else .notDefined name)
      | some fv =>
        if fv.isBool then
          match fv.set (value.getD "true") with
          | .ok fv' => parseFlags (setFlag name fv' flags) args
          | .error _ => .error (.invalidBool (value.getD "true") name)
        else
          match value, args with
          | some v, args =>
            match fv.set v with
            | .ok fv' => parseFlags (setFlag name fv' flags) args
            | .error e => .error (.invalidValue v name e)
          | none, v :: args =>
            match fv.set v with
            | .ok fv' => parseFlags (setFlag name fv' flags) args
            | .error e => .error (.invalidValue v name e)
          | none, [] => .error (.needsArgument name)

/-- The value of a `String` flag. -/
def stringFlag (flags : List (String × FlagValue)) (name : String) : String :=
  match flags.lookup name with
  | some (.string v) => v
  | _ => ""

/-- The value of an `Int` flag. -/
def intFlag (flags : List (String × FlagValue)) (name : String) : Int :=
  match flags.lookup name with
  | some (.int v) => v
  | _ => 0

/-- The value of a `Bool` flag. -/
def boolFlag (flags : List (String × FlagValue)) (name : String) : Bool :=
  match flags.lookup name with
  | some (.bool v) => v
  | _ => false

/-! ### What a parse does -/

theorem lookup_setFlag (name : String) (v : FlagValue) (k : String) (flags : List (String × FlagValue)) :
    (setFlag name v flags).lookup k =
      if k = name then (flags.lookup k).map fun _ => v else flags.lookup k := by
  induction flags with
  | nil => split_ifs <;> rfl
  | cons e es ih =>
    obtain ⟨a, b⟩ := e
    have hcons : setFlag name v ((a, b) :: es) =
        (if a = name then (name, v) else (a, b)) :: setFlag name v es := rfl
    rw [hcons]
    by_cases hk : k = a
    · subst hk
      by_cases ha : k = name <;> simp [ha]
    · have hbeq : (k == a) = false := by simpa using hk
      by_cases ha : a = name
      · subst ha
        simp only [if_true, List.lookup_cons, hbeq, ih, if_neg hk]
      · simp only [ha, if_false, List.lookup_cons, hbeq, ih]

theorem parseFlags_value {flags : List (String × FlagValue)} {a name v : String} {fv fv' : FlagValue}
    (ha : argKind a = .flag name none) (hl : flags.lookup name = some fv) (hb : fv.isBool = false)
    (hs : fv.set v = .ok fv') (rest : List String) :
    parseFlags flags (a :: v :: rest) = parseFlags (setFlag name fv' flags) rest := by
  rw [parseFlags, ha]
  simp only [hl, hb, hs, Bool.false_eq_true, if_false]

theorem parseFlags_ite {flags : List (String × FlagValue)} {a name v : String} {fv fv' : FlagValue}
    (c : Prop) [Decidable c] (ha : argKind a = .flag name none) (hl : flags.lookup name = some fv)
    (hb : fv.isBool = false) (hs : c → fv.set v = .ok fv') (rest : List String) :
    parseFlags flags ((if c then [a, v] else []) ++ rest) =
      parseFlags (if c then setFlag name fv' flags else flags) rest := by
  split_ifs with h
  · exact parseFlags_value ha hl hb (hs h) rest
  · rfl

theorem lookup_ite_setFlag {c : Prop} [Decidable c] {name k : String} (hk : k ≠ name) (v : FlagValue)
    (flags : List (String × FlagValue)) :
    (if c then setFlag name v flags else flags).lookup k = flags.lookup k := by
  split_ifs
  · rw [lookup_setFlag, if_neg hk]
  · rfl

theorem lookup_ite_setFlag_self {c : Prop} [Decidable c] {name : String} {v d : FlagValue}
    {flags : List (String × FlagValue)} (hd : flags.lookup name = some d) :
    (if c then setFlag name v flags else flags).lookup name = some (if c then v else d) := by
  split_ifs
  · rw [lookup_setFlag, if_pos rfl, hd]; rfl
  · exact hd

theorem parseFlags_needsArgument {flags : List (String × FlagValue)} {a name : String} {fv : FlagValue}
    (ha : argKind a = .flag name none) (hl : flags.lookup name = some fv) (hb : fv.isBool = false) :
    parseFlags flags [a] = .error (.needsArgument name) := by
  rw [parseFlags, ha]
  simp only [hl, hb, Bool.false_eq_true, if_false]

theorem parseFlags_preserves (P : List (String × FlagValue) → Prop)
    (hP : ∀ flags name (fv : FlagValue) v fv', P flags → fv.set v = .ok fv' → P (setFlag name fv' flags)) :
    ∀ (flags : List (String × FlagValue)) (args : List String) {res : List (String × FlagValue)}
      {rest : List String}, parseFlags flags args = .ok (res, rest) → P flags → P res := by
  intro flags args
  induction flags, args using parseFlags.induct with
  | case1 => intro _ _ h hp; cases h; exact hp
  | case2 _ _ _ hk => intro _ _ h hp; simp [parseFlags, hk] at h; rw [← h.1]; exact hp
  | case3 _ _ _ hk => intro _ _ h hp; simp [parseFlags, hk] at h; rw [← h.1]; exact hp
  | case4 _ _ _ hk => intro _ _ h; simp [parseFlags, hk] at h
  | case5 _ _ _ _ _ hk hl => intro _ _ h; simp [parseFlags, hk, hl] at h
  | case6 _ _ _ _ _ hk _ hl hb _ hs ih => intro _ _ h hp; simp [parseFlags, hk, hl, hb, hs] at h; exact ih h (hP _ _ _ _ _ hp hs)
  | case7 _ _ _ _ _ hk _ hl hb _ hs => intro _ _ h; simp [parseFlags, hk, hl, hb, hs] at h
  | case8 _ _ _ _ hl hb _ _ _ hs hk ih => intro _ _ h hp; simp [parseFlags, hk, hl, hb, hs] at h; exact ih h (hP _ _ _ _ _ hp hs)
  | case9 _ _ _ _ hl hb _ _ _ hs hk => intro _ _ h; simp [parseFlags, hk, hl, hb, hs] at h
  | case10 _ _ _ _ hl hb _ _ _ hs hk ih => intro _ _ h hp; simp [parseFlags, hk, hl, hb, hs] at h; exact ih h (hP _ _ _ _ _ hp hs)
  | case11 _ _ _ _ hl hb _ _ _ hs hk => intro _ _ h; simp [parseFlags, hk, hl, hb, hs] at h
  | case12 _ _ _ _ hl hb hk => intro _ _ h; simp [parseFlags, hk, hl, hb] at h

theorem set_eq_int {fv : FlagValue} {v : String} {i : Int} (h : fv.set v = .ok (.int i)) :
    parseInt0 v = .ok i := by
  cases fv with
  | string => cases h
  | int =>
    cases hp : parseInt0 v <;>
      simp only [FlagValue.set, hp, Except.map, Except.ok.injEq, FlagValue.int.injEq, reduceCtorEq] at h
    rw [h]
  | bool => simp only [FlagValue.set] at h; split at h <;> cases h

theorem intFlag_inInt64 {flags res : List (String × FlagValue)} {args rest : List String}
    (h : parseFlags flags args = .ok (res, rest)) (h0 : ∀ e ∈ flags, ∀ i, e.2 = .int i → InInt64 i)
    (name : String) : InInt64 (intFlag res name) := by
  have hres := parseFlags_preserves (fun fl => ∀ e ∈ fl, ∀ i, e.2 = .int i → InInt64 i)
    (fun fl n _ _ fv' hp hs e he i hi => by
      obtain ⟨e', he', rfl⟩ := List.mem_map.mp he
      split_ifs at hi with hn
      · cases hi
        exact parseInt0_inInt64 (set_eq_int hs)
      · exact hp e' he' i hi) flags args h h0
  unfold intFlag
  split
  · exact hres _ (mem_of_lookup_eq_some ‹_›) _ rfl
  · decide

end WgMesh.Go
