import WgMesh.Go.Net

/-! # Allowed IPs as `wg` reads them, the kernel keeps them and `wg show` prints them

The daemon and the deployment pass a peer's allowed IPs to `wg set` as text. wg(8)
(`parse_allowedips` in wireguard-tools' `config.c`) splits the value at every comma and
parses each entry: the address before the first `/` with `inet_pton` (IPv6 when it
holds a `:`), then the prefix length after it, which must be all digits and at most the
family's width, `32` or `128` when there is no `/`. One entry that does not parse makes
`wg` refuse the whole line. The kernel's allowed-IP trie keeps a prefix with the bits
past its length cleared, so `10.0.0.7/24` and `10.0.0.0/24` are one prefix, and
`wg show` prints it back with `inet_ntop`. `inet_pton` and `inet_ntop` are glibc's.

* `isSpace_of_mem_text` — the printed form of every prefix is free of white space, so a
  dump line keeps its columns;
* `parseAllowedips_join` — a list of entries without commas joined with commas parses
  when each entry does;
* `parseAllowedip_str` — the text Go prints for an IPv4 address, with `/32`, parses as
  that host.
-/

namespace WgMesh.WireGuard

open WgMesh.Go

/-- The address family of an allowed IP. -/
inductive Family
  | inet
  | inet6
deriving DecidableEq, Repr

/-- The width of a family's addresses, in bits. -/
def Family.bits : Family → Nat
  | .inet => 32
  | .inet6 => 128

/-- `struct wgallowedip`: a family, the address (its bytes read as a big-endian number)
and the prefix length. -/
structure AllowedIP where
  family : Family
  addr : Nat
  cidr : Nat
deriving DecidableEq, Repr

/-! ## `inet_pton` -/

/-- glibc's `inet_pton4`, one character at a time: `octet` is the octet being read, `done`
the value of the octets before it, `octets` how many octets were begun and `sawDigit`
whether the current one has a digit. Four decimal octets between single dots, without a
leading zero, each at most 255. -/
def inetPton4Loop (done octet octets : Nat) (sawDigit : Bool) : List Char → Option Nat
  | [] => if octets < 4 then none else some (done * 256 + octet)
  | c :: rest =>
    if c.isDigit then
      if sawDigit ∧ octet = 0 then none
      else if 255 < octet * 10 + (c.toNat - '0'.toNat) then none
      else if sawDigit then inetPton4Loop done (octet * 10 + (c.toNat - '0'.toNat)) octets true rest
      else if 4 < octets + 1 then none
      else inetPton4Loop done (octet * 10 + (c.toNat - '0'.toNat)) (octets + 1) true rest
    else if c = '.' ∧ sawDigit then
      if octets = 4 then none else inetPton4Loop (done * 256 + octet) 0 octets false rest
    else none

/-- `inet_pton(AF_INET, ...)`. -/
def inetPton4 (s : List Char) : Option Nat := inetPton4Loop 0 0 0 false s

/-- glibc's `hex_digit_value`. -/
def hexDigitValue (c : Char) : Option Nat :=
  if c.isDigit then some (c.toNat - '0'.toNat)
  else if 97 ≤ c.toNat ∧ c.toNat ≤ 102 then some (c.toNat - 87)
  else if 65 ≤ c.toNat ∧ c.toNat ≤ 70 then some (c.toNat - 55)
  else none

/-- The loop of glibc's `inet_pton6`, by 16-bit groups: `tp` holds the groups written,
`colonp` where `::` stands, `curtok` the text from the start of the current group (which
`inet_pton4` reads to the end when a `.` comes), and `digits` and `val` the hex digits of
the group being read. It ends with the groups, `::`'s place, and the group still
unwritten. -/
def inetPton6Loop (tp : List Nat) (colonp : Option Nat) (curtok : List Char) (digits val : Nat) :
    List Char → Option (List Nat × Option Nat × Nat × Nat)
  | [] => some (tp, colonp, digits, val)
  | c :: rest =>
    match hexDigitValue c with
    | some d =>
      if digits = 4 then none
      else if 65535 < val * 16 + d then none
      else inetPton6Loop tp colonp curtok (digits + 1) (val * 16 + d) rest
    | none =>
      if c = ':' then
        if digits = 0 then
          if colonp.isSome then none else inetPton6Loop tp (some tp.length) rest 0 0 rest
        else if rest = [] then none
        else if 8 < tp.length + 1 then none
        else inetPton6Loop (tp ++ [val]) colonp rest 0 0 rest
      else if c = '.' ∧ tp.length + 2 ≤ 8 then
        (inetPton4 curtok).map fun v4 => (tp ++ [v4 / 65536, v4 % 65536], colonp, 0, 0)
      else none

/-- `inet_pton(AF_INET6, ...)`: a leading `:` must be `::`; after the loop the last group
is written, `::` is widened to the missing zero groups, and there must be eight. -/
def inetPton6 (s : List Char) : Option Nat := do
  let src ← match s with
    | [] => none
    | ':' :: rest => if rest.head? = some ':' then some rest else none
    | _ => some s
  let (tp, colonp, digits, val) ← inetPton6Loop [] none src 0 0 src
  let tp ← if digits = 0 then some tp else if 8 < tp.length + 1 then none else some (tp ++ [val])
  let tp ← match colonp with
    | none => some tp
    | some i =>
      if tp.length = 8 then none
      else some (tp.take i ++ List.replicate (8 - tp.length) 0 ++ tp.drop i)
  if tp.length = 8 then some (tp.foldl (fun a w => a * 65536 + w) 0) else none

/-! ## `parse_allowedips` -/

/-- wg's `parse_ip`: text with a `:` is an IPv6 address, any other an IPv4 one. -/
def parseIp (value : String) : Option (Family × Nat) :=
  if ':' ∈ value.data then (inetPton6 value.data).map fun a => (.inet6, a)
  else (inetPton4 value.data).map fun a => (.inet, a)

/-- The prefix length after a `/`: `strtoul` of text that starts with a digit and holds
nothing else, at most the family's width. -/
def parseCidr (family : Family) (mask : List Char) : Option Nat :=
  if mask ≠ [] ∧ mask.all Char.isDigit ∧ digitsValue mask ≤ family.bits then
    some (digitsValue mask)
  else none

/-- One entry of `parse_allowedips`: the address before the first `/`, and the prefix
length after it or the family's width. -/
def parseAllowedip (entry : String) : Option AllowedIP :=
  match index '/' entry.data with
  | some i =>
    (parseIp ⟨entry.data.take i⟩).bind fun a =>
      (parseCidr a.1 (entry.data.drop (i + 1))).map fun cidr => ⟨a.1, a.2, cidr⟩
  | none => (parseIp entry).map fun a => ⟨a.1, a.2, a.1.bits⟩

/-- wg's `parse_allowedips`: the empty value gives no prefixes (and still replaces the
peer's); any other must parse entry by entry, or the line is refused. -/
def parseAllowedips (value : String) : Option (List AllowedIP) :=
  if value = "" then some [] else (split value ',').mapM parseAllowedip

/-! ## The kernel's trie and `wg show` -/

/-- The prefix as the allowed-IP trie keeps it, the bits past `cidr` cleared. -/
def AllowedIP.masked (ip : AllowedIP) : AllowedIP :=
  { ip with addr := ip.addr / 2 ^ (ip.family.bits - ip.cidr) * 2 ^ (ip.family.bits - ip.cidr) }

/-- `inet_ntop(AF_INET, ...)`: the four bytes in decimal, between dots. -/
def inetNtop4 (a : Nat) : String :=
  toString (a / 2 ^ 24 % 256) ++ "." ++ toString (a / 2 ^ 16 % 256) ++ "." ++
    toString (a / 2 ^ 8 % 256) ++ "." ++ toString (a % 256)

/-- Of two runs of zero groups `(base, len)`, the one `inet_ntop6` keeps: a later one only
when it is longer. -/
def longerRun : Option (Nat × Nat) → Option (Nat × Nat) → Option (Nat × Nat)
  | some c, some b => if b.2 < c.2 then some c else some b
  | some c, none => some c
  | none, b => b

/-- The loop of `inet_ntop6` that finds the first longest run of zero groups: `cur` is the
run being read and `best` the one kept so far. -/
def zeroRun (cur best : Option (Nat × Nat)) : Nat → List Nat → Option (Nat × Nat)
  | _, [] => longerRun cur best
  | i, w :: ws =>
    if w = 0 then zeroRun (some ((cur.map Prod.fst).getD i, (cur.map Prod.snd).getD 0 + 1)) best (i + 1) ws
    else zeroRun none (longerRun cur best) (i + 1) ws

/-- The printing loop of `inet_ntop6`: the groups in hex between colons, one `:` for the
run `best`, and the last two groups as an IPv4 address when `embedded`. -/
def inetNtop6Loop (best : Option (Nat × Nat)) (embedded : Bool) (v4 : Nat) :
    Nat → List Nat → List Char
  | _, [] => []
  | i, w :: ws =>
    if best.any fun r => r.1 ≤ i ∧ i < r.1 + r.2 then
      (if best.any (·.1 = i) then [':'] else []) ++ inetNtop6Loop best embedded v4 (i + 1) ws
    else
      (if i ≠ 0 then [':'] else []) ++
        if i = 6 ∧ embedded then (inetNtop4 v4).data
        else Nat.toDigits 16 w ++ inetNtop6Loop best embedded v4 (i + 1) ws

/-- `inet_ntop(AF_INET6, ...)`: a run of two zero groups or more becomes `::`, and an
address of the form `::a.b.c.d` or `::ffff:a.b.c.d` ends in its IPv4 form. -/
def inetNtop6 (a : Nat) : String :=
  let words := (List.range 8).map fun i => a / 65536 ^ (7 - i) % 65536
  let best := (zeroRun none none 0 words).filter fun r => 2 ≤ r.2
  let embedded := best.any fun r => r.1 = 0 ∧ (r.2 = 6 ∨ r.2 = 5 ∧ words.getD 5 0 = 65535)
  ⟨inetNtop6Loop best embedded (a % 2 ^ 32) 0 words ++
    if best.any fun r => r.1 + r.2 = 8 then [':'] else []⟩

/-- How `wg show` prints an allowed IP: the address, `/`, the prefix length. -/
def AllowedIP.text (ip : AllowedIP) : String :=
  (match ip.family with
    | .inet => inetNtop4 ip.addr
    | .inet6 => inetNtop6 ip.addr) ++ "/" ++ toString ip.cidr

example : (parseAllowedip "192.168.10.7/24").map (·.masked.text) = some "192.168.10.0/24" := by
  decide

example : (parseAllowedip "fd00:0:0:0:0:0:0:1/64").map (·.masked.text) = some "fd00::/64" := by
  decide

/-! ## The printed form -/

/-- The characters `wg show` prints an allowed IP with. -/
def ipTextChars : List Char := "0123456789abcdef.:/".data

theorem mem_toDigitsCore {b : Nat} (hb0 : 0 < b) (hb : b ≤ 16) {c : Char} :
    ∀ {fuel n : Nat} {ds : List Char}, c ∈ Nat.toDigitsCore b fuel n ds → c ∈ ds ∨ c ∈ ipTextChars
  | 0, _, _, h => .inl h
  | fuel + 1, n, ds, h => by
    have hd : Nat.digitChar (n % b) ∈ ipTextChars :=
      (show ∀ k < 16, Nat.digitChar k ∈ ipTextChars by decide) _
        (lt_of_lt_of_le (Nat.mod_lt _ hb0) hb)
    have hcons : c ∈ Nat.digitChar (n % b) :: ds → c ∈ ds ∨ c ∈ ipTextChars := fun h => by
      rcases List.mem_cons.mp h with rfl | h
      exacts [.inr hd, .inl h]
    have hstep : Nat.toDigitsCore b (fuel + 1) n ds = if n / b = 0 then Nat.digitChar (n % b) :: ds
        else Nat.toDigitsCore b fuel (n / b) (Nat.digitChar (n % b) :: ds) := rfl
    rw [hstep] at h
    split_ifs at h
    · exact hcons h
    · exact (mem_toDigitsCore hb0 hb h).elim hcons .inr

theorem mem_toDigits {b : Nat} (hb0 : 0 < b) (hb : b ≤ 16) {n : Nat} {c : Char}
    (h : c ∈ Nat.toDigits b n) : c ∈ ipTextChars :=
  (mem_toDigitsCore hb0 hb h).resolve_left (List.not_mem_nil _)

theorem mem_toString_nat {n : Nat} {c : Char} (h : c ∈ (toString n).data) : c ∈ ipTextChars :=
  mem_toDigits (by decide) (by decide) h

theorem mem_inetNtop4 {a : Nat} {c : Char} (h : c ∈ (inetNtop4 a).data) : c ∈ ipTextChars := by
  simp only [inetNtop4, String.data_append, List.mem_append] at h
  have hdot : '.' ∈ ipTextChars := by decide
  rcases h with ((((((h | h) | h) | h) | h) | h) | h)
  all_goals first | exact mem_toString_nat h | (simp at h; exact h ▸ hdot)

theorem mem_inetNtop6Loop {best : Option (Nat × Nat)} {embedded : Bool} {v4 : Nat} {c : Char} :
    ∀ {i : Nat} {ws : List Nat}, c ∈ inetNtop6Loop best embedded v4 i ws → c ∈ ipTextChars
  | _, [], h => absurd h (List.not_mem_nil _)
  | i, w :: ws, h => by
    have hcolon : ':' ∈ ipTextChars := by decide
    simp only [inetNtop6Loop] at h
    split_ifs at h <;>
      simp only [List.mem_append, List.mem_singleton, List.not_mem_nil, false_or, or_false] at h
    all_goals
      first
      | exact mem_inetNtop6Loop h
      | (rcases h with rfl | h; exacts [hcolon, mem_inetNtop6Loop h])
      | (rcases h with rfl | h; exacts [hcolon, mem_inetNtop4 h])
      | (rcases h with rfl | h | h; exacts [hcolon, mem_toDigits (by decide) le_rfl h,
          mem_inetNtop6Loop h])
      | (rcases h with h | h; exacts [mem_toDigits (by decide) le_rfl h, mem_inetNtop6Loop h])
      | exact mem_inetNtop4 h

theorem mem_text {ip : AllowedIP} {c : Char} (h : c ∈ ip.text.data) : c ∈ ipTextChars := by
  obtain ⟨family, addr, cidr⟩ := ip
  simp only [AllowedIP.text, String.data_append, List.mem_append] at h
  rcases h with (h | h) | h
  · cases family with
    | inet => exact mem_inetNtop4 h
    | inet6 =>
      simp only [inetNtop6, List.mem_append] at h
      rcases h with h | h
      · exact mem_inetNtop6Loop h
      · split_ifs at h <;> simp at h
        exact h ▸ (by decide : ':' ∈ ipTextChars)
  · simp at h
    exact h ▸ (by decide : '/' ∈ ipTextChars)
  · exact mem_toString_nat h

theorem isSpace_of_mem_text {ip : AllowedIP} {c : Char} (h : c ∈ ip.text.data) : isSpace c = false :=
  (show ∀ c ∈ ipTextChars, isSpace c = false by decide) c (mem_text h)

/-! ## Values of several entries -/

theorem mapM_isSome {α β : Type} {f : α → Option β} :
    ∀ {l : List α}, (∀ a ∈ l, (f a).isSome) → (l.mapM f).isSome
  | [], _ => rfl
  | a :: l, h => by
    obtain ⟨b, hb⟩ := Option.isSome_iff_exists.mp (h a (List.mem_cons_self _ _))
    obtain ⟨bs, hbs⟩ := Option.isSome_iff_exists.mp (mapM_isSome fun x hx => h x (List.mem_cons_of_mem _ hx))
    rw [List.mapM_cons, hb, hbs]
    rfl

theorem parseAllowedips_join {ips : List String} (hne : ips ≠ []) (hc : ∀ ip ∈ ips, ',' ∉ ip.data)
    (hp : ∀ ip ∈ ips, (parseAllowedip ip).isSome) : (parseAllowedips (join ips ',')).isSome := by
  unfold parseAllowedips
  split_ifs
  · rfl
  · rw [split_join hne hc]
    exact mapM_isSome hp

/-! ## IPv4 addresses as Go prints them -/

theorem inetPton4Loop_first {done octets : Nat} {c : Char} (hc : c.isDigit) (hn : octets < 4)
    (rest : List Char) :
    inetPton4Loop done 0 octets false (c :: rest) =
      inetPton4Loop done (c.toNat - '0'.toNat) (octets + 1) true rest := by
  have hle : c.toNat ≤ 57 := by
    simp only [Char.isDigit, Bool.and_eq_true, decide_eq_true_eq] at hc
    exact hc.2
  simp [inetPton4Loop, hc, show ¬ 255 < c.toNat - 48 by omega, show ¬ 4 < octets + 1 by omega]

theorem inetPton4Loop_next {done octet octets : Nat} {c : Char} (hc : c.isDigit) (hpos : 0 < octet)
    (hle : octet * 10 + (c.toNat - '0'.toNat) ≤ 255) (rest : List Char) :
    inetPton4Loop done octet octets true (c :: rest) =
      inetPton4Loop done (octet * 10 + (c.toNat - '0'.toNat)) octets true rest := by
  simp [inetPton4Loop, hc, hpos.ne', show ¬ 255 < octet * 10 + (c.toNat - 48) from Nat.not_lt.mpr hle]

theorem inetPton4Loop_dot {done octet octets : Nat} (hn : octets ≠ 4) (rest : List Char) :
    inetPton4Loop done octet octets true ('.' :: rest) =
      inetPton4Loop (done * 256 + octet) 0 octets false rest := by
  simp [inetPton4Loop, hn, show ('.').isDigit = false from rfl]

theorem inetPton4Loop_appendDecimal (x : UInt8) {done octets : Nat} (hn : octets < 4)
    (rest : List Char) :
    inetPton4Loop done 0 octets false (appendDecimal x ++ rest) =
      inetPton4Loop done x.toNat (octets + 1) true rest := by
  have hx := UInt8.toNat_lt_size x
  unfold UInt8.size at hx
  obtain ⟨h0, v0⟩ := digitChar_ten (x.toNat % 10) (by omega)
  obtain ⟨h1, v1⟩ := digitChar_ten (x.toNat / 10 % 10) (by omega)
  obtain ⟨h2, v2⟩ := digitChar_ten (x.toNat / 100) (by omega)
  by_cases h100 : 100 ≤ x.toNat
  · simp only [appendDecimal, h100, show 10 ≤ x.toNat by omega, if_true, List.singleton_append,
      List.cons_append, List.nil_append]
    rw [inetPton4Loop_first h2 hn, v2, inetPton4Loop_next h1 (by omega) (by omega), v1,
      inetPton4Loop_next h0 (by omega) (by omega), v0]
    congr 1
    omega
  by_cases h10 : 10 ≤ x.toNat
  · simp only [appendDecimal, h100, h10, if_true, if_false, List.singleton_append,
      List.cons_append, List.nil_append]
    rw [inetPton4Loop_first h1 hn, v1, inetPton4Loop_next h0 (by omega) (by omega), v0]
    congr 1
    omega
  · simp only [appendDecimal, h100, h10, if_false, List.singleton_append, List.nil_append]
    rw [inetPton4Loop_first h0 hn, v0]
    congr 1
    omega

theorem inetPton4_str (ip : IPv4) :
    inetPton4 ip.str.data =
      some (((ip.a.toNat * 256 + ip.b.toNat) * 256 + ip.c.toNat) * 256 + ip.d.toNat) := by
  rw [inetPton4, IPv4.str, inetPton4Loop_appendDecimal _ (by decide), inetPton4Loop_dot (by decide),
    inetPton4Loop_appendDecimal _ (by decide), inetPton4Loop_dot (by decide),
    inetPton4Loop_appendDecimal _ (by decide), inetPton4Loop_dot (by decide),
    ← List.append_nil (appendDecimal ip.d), inetPton4Loop_appendDecimal _ (by decide)]
  simp [inetPton4Loop]

theorem parseAllowedip_str (ip : IPv4) :
    parseAllowedip (ip.str ++ "/32") =
      some ⟨.inet, ((ip.a.toNat * 256 + ip.b.toNat) * 256 + ip.c.toNat) * 256 + ip.d.toNat, 32⟩ := by
  have hnot : ∀ c, c.isDigit = false → c ≠ '.' → c ∉ ip.str.data := fun c hd hdot h =>
    (mem_str h).elim (fun h' => by rw [hd] at h'; cases h') hdot
  have hdata : (ip.str ++ "/32").data = ip.str.data ++ '/' :: "32".data := rfl
  unfold parseAllowedip
  rw [hdata, index_append_cons (hnot '/' rfl (by decide))]
  dsimp only
  rw [List.take_left, List.append_cons,
    List.drop_left' (by simp only [List.length_append, List.length_singleton])]
  simp only [parseIp, if_neg (hnot ':' rfl (by decide)), inetPton4_str]
  rfl

end WgMesh.WireGuard
