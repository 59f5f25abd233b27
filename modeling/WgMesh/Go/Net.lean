import WgMesh.Go.Strings

/-! # `net.ParseIP` and `net.IP.String` for IPv4

The mesh state keeps each node's mesh IP as a `net.IP`. `AddNode` reads it from the
command line with `net.ParseIP`, the state file stores the text `IP.String()` prints
(read back by `json.Unmarshal` with `ParseIP`), and the deployment writes
`MeshIP.String()` into every configuration it generates.

Since Go 1.22 `ParseIP` is `netip.ParseAddr`, whose parser is chosen by the first `.`,
`:` or `%` of the text. `AddNode` passes a piece of a split on `:`, so only the IPv4
parser is reached: `parseIPv4Fields` reads four decimal octets between single dots,
each of one to three digits, without a leading zero and at most 255. `String` prints
each byte with `appendDecimal`.

* `parseIP_str` — the text of an address parses back to the address;
* `str_of_parseIP` — and it is the only text that does: the parser accepts exactly the
  printed forms, so a mesh IP that parses is printed back as it was typed.
-/

namespace WgMesh.Go

/-- A `net.IP` holding an IPv4 address, by its four bytes. -/
structure IPv4 where
  a : UInt8
  b : UInt8
  c : UInt8
  d : UInt8
deriving DecidableEq, Repr

/-- `netip.parseIPv4Fields`, one character at a time: `val` and `digLen` are the octet
being read and its number of digits, `done` the octets before it, and `prev` the
character before (`none` at the start of the text). `none` is a parse error. -/
def ipv4Fields (val digLen : Nat) (done : List UInt8) (prev : Option Char) :
    List Char → Option IPv4
  | [] =>
    -- fewer than three dots: "IPv4 address too short"
    match done with
    | [a, b, c] => some ⟨a, b, c, val.toUInt8⟩
    | _ => none
  | c :: rest =>
    if c.isDigit then
      -- "IPv4 field has octet with leading zero", "IPv4 field has value >255"
      if digLen = 1 ∧ val = 0 then none
      else if 255 < val * 10 + (c.toNat - '0'.toNat) then none
      else ipv4Fields (val * 10 + (c.toNat - '0'.toNat)) (digLen + 1) done (some c) rest
    else if c = '.' then
      -- "IPv4 field must have at least one digit", "IPv4 address too long"
      if prev = none ∨ rest = [] ∨ prev = some '.' then none
      else if done.length = 3 then none
      else ipv4Fields 0 0 (done ++ [val.toUInt8]) (some c) rest
    else none

/-- The parser `netip.ParseAddr` chooses: the first `.`, `:` or `%` of the text. -/
def addrSeparator : List Char → Option Char
  | [] => none
  | c :: rest => if c = '.' ∨ c = ':' ∨ c = '%' then some c else addrSeparator rest

/-- `net.ParseIP` on text without `:`: the IPv4 parser when the first separator is a
dot; a `%` ("missing IPv6 address") or no separator at all is an error. The IPv6 parser,
for text with a `:`, is not modelled (`none` stands for it); `AddNode` never reaches it. -/
def parseIP (s : String) : Option IPv4 :=
  match addrSeparator s.data with
  | some '.' => ipv4Fields 0 0 [] none s.data
  | _ => none

/-- `appendDecimal` (package `net/netip`): a byte in decimal, one to three digits from
the table `digits`, which `Nat.digitChar` is below 16. -/
def appendDecimal (x : UInt8) : List Char :=
  (if 100 ≤ x.toNat then [Nat.digitChar (x.toNat / 100)] else []) ++
    (if 10 ≤ x.toNat then [Nat.digitChar (x.toNat / 10 % 10)] else []) ++
      [Nat.digitChar (x.toNat % 10)]

/-- `IP.String()` of an IPv4 address: its bytes in decimal, between dots. -/
def IPv4.str (ip : IPv4) : String :=
  ⟨appendDecimal ip.a ++ '.' :: (appendDecimal ip.b ++ '.' :: (appendDecimal ip.c ++ '.' ::
    appendDecimal ip.d))⟩

/-! ## Digits -/

theorem digitChar_eq_ofNat : ∀ k, k < 10 → Nat.digitChar k = Char.ofNat ('0'.toNat + k) := by
  decide

theorem digitChar_of_isDigit {c : Char} (hc : c.isDigit) : Nat.digitChar (c.toNat - '0'.toNat) = c := by
  simp only [Char.isDigit, Bool.and_eq_true, decide_eq_true_eq] at hc
  have h1 : 48 ≤ c.toNat := hc.1
  have h2 : c.toNat ≤ 57 := hc.2
  have h0 : '0'.toNat = 48 := rfl
  rw [digitChar_eq_ofNat _ (by omega), h0, show 48 + (c.toNat - 48) = c.toNat by omega,
    Char.ofNat_toNat]

theorem toNat_toUInt8 {n : Nat} (h : n ≤ 255) : n.toUInt8.toNat = n :=
  UInt8.toNat_ofNat_of_lt (by unfold UInt8.size; omega)

theorem toNat_toUInt8_self (x : UInt8) : x.toNat.toUInt8 = x :=
  UInt8.toNat.inj (toNat_toUInt8 (Nat.lt_succ_iff.mp (UInt8.toNat_lt_size x)))

theorem isDigit_of_mem_appendDecimal {x : UInt8} {c : Char} (h : c ∈ appendDecimal x) : c.isDigit := by
  have hdig : ∀ k, k < 10 → (Nat.digitChar k).isDigit := fun k hk => (digitChar_ten k hk).1
  have hx := UInt8.toNat_lt_size x
  unfold UInt8.size at hx
  simp only [appendDecimal, List.mem_append, List.mem_ite_nil_right, List.mem_singleton] at h
  rcases h with ((⟨-, rfl⟩ | ⟨-, rfl⟩) | rfl) <;> exact hdig _ (by omega)

theorem mem_str {ip : IPv4} {c : Char} (h : c ∈ ip.str.data) : c.isDigit ∨ c = '.' := by
  simp only [IPv4.str, List.mem_append, List.mem_cons] at h
  rcases h with h | rfl | h | rfl | h | rfl | h
  all_goals first | exact .inr rfl | exact .inl (isDigit_of_mem_appendDecimal h)

theorem appendDecimal_snoc {v k : Nat} (hv : 0 < v) (hk : k < 10) (hle : v * 10 + k ≤ 255) :
    appendDecimal v.toUInt8 ++ [Nat.digitChar k] = appendDecimal (v * 10 + k).toUInt8 := by
  have hv' := toNat_toUInt8 (show v ≤ 255 by omega)
  simp only [appendDecimal, hv', toNat_toUInt8 hle]
  have hkmod : (v * 10 + k) % 10 = k := by omega
  have hkdiv : (v * 10 + k) / 10 % 10 = v % 10 := by omega
  rw [hkmod, hkdiv]
  by_cases h10 : 10 ≤ v
  · have hdiv : (v * 10 + k) / 100 = v / 10 % 10 := by omega
    simp [show 100 ≤ v * 10 + k by omega, show ¬100 ≤ v by omega, h10, hdiv,
      show 10 ≤ v * 10 + k by omega]
  · simp [show ¬100 ≤ v * 10 + k by omega, show ¬100 ≤ v by omega, h10,
      show 10 ≤ v * 10 + k by omega, show v % 10 = v by omega]

theorem appendDecimal_ne_nil (x : UInt8) : appendDecimal x ≠ [] := by
  simp [appendDecimal]

theorem appendDecimal_digit {k : Nat} (hk : k < 10) : appendDecimal k.toUInt8 = [Nat.digitChar k] := by
  simp [appendDecimal, toNat_toUInt8 (show k ≤ 255 by omega), show ¬100 ≤ k by omega,
    show ¬10 ≤ k by omega, Nat.mod_eq_of_lt hk]

/-! ## Reading octets -/

section Fields

variable {done : List UInt8} {prev : Option Char}

theorem ipv4Fields_digit {val digLen : Nat} {c : Char} (hc : c.isDigit) (hz : ¬(digLen = 1 ∧ val = 0))
    (hle : val * 10 + (c.toNat - '0'.toNat) ≤ 255) (rest : List Char) :
    ipv4Fields val digLen done prev (c :: rest) =
      ipv4Fields (val * 10 + (c.toNat - '0'.toNat)) (digLen + 1) done (some c) rest := by
  simp only [ipv4Fields, hc, if_true, if_neg hz, if_neg (Nat.not_lt.mpr hle)]

theorem ipv4Fields_dot {val digLen : Nat} {c : Char} (hc : c ≠ '.') {rest : List Char}
    (hrest : rest ≠ []) (hdone : done.length ≠ 3) :
    ipv4Fields val digLen done (some c) ('.' :: rest) =
      ipv4Fields 0 0 (done ++ [val.toUInt8]) (some '.') rest := by
  have hdot : ('.').isDigit = false := rfl
  simp [ipv4Fields, hdot, hc, hrest, hdone]

theorem ipv4Fields_appendDecimal (x : UInt8) (rest : List Char) :
    ∃ c, c.isDigit ∧ ipv4Fields 0 0 done prev (appendDecimal x ++ rest) =
      ipv4Fields x.toNat (appendDecimal x).length done (some c) rest := by
  have hx := UInt8.toNat_lt_size x
  unfold UInt8.size at hx
  obtain ⟨h0, v0⟩ := digitChar_ten (x.toNat % 10) (by omega)
  obtain ⟨h1, v1⟩ := digitChar_ten (x.toNat / 10 % 10) (by omega)
  obtain ⟨h2, v2⟩ := digitChar_ten (x.toNat / 100) (by omega)
  refine ⟨_, h0, ?_⟩
  by_cases h100 : 100 ≤ x.toNat
  · simp only [appendDecimal, h100, show 10 ≤ x.toNat by omega, if_true, List.singleton_append,
      List.cons_append, List.nil_append]
    rw [ipv4Fields_digit h2 (by omega) (by omega), ipv4Fields_digit h1 (by omega) (by omega),
      ipv4Fields_digit h0 (by omega) (by omega), v0, v1, v2]
    congr 1
    omega
  by_cases h10 : 10 ≤ x.toNat
  · simp only [appendDecimal, h100, h10, if_true, if_false, List.singleton_append,
      List.cons_append, List.nil_append]
    rw [ipv4Fields_digit h1 (by omega) (by omega), ipv4Fields_digit h0 (by omega) (by omega), v0, v1]
    congr 1
    omega
  · simp only [appendDecimal, h100, h10, if_false, List.singleton_append, List.nil_append]
    rw [ipv4Fields_digit h0 (by omega) (by omega), v0]
    congr 1
    omega

/-- The printed octets read so far, each with its dot. -/
def octetsText (done : List UInt8) : List Char := (done.map fun x => appendDecimal x ++ ['.']).flatten

theorem ipv4Fields_text : ∀ {s : List Char} {val digLen : Nat} {done : List UInt8}
    {prev : Option Char} {ip : IPv4}, ipv4Fields val digLen done prev s = some ip → val ≤ 255 →
    (digLen = 0 → val = 0 ∧ (prev = none ∨ prev = some '.') ∧ (done ≠ [] → s ≠ [])) →
    (1 < digLen → 0 < val) →
    octetsText done ++ (if digLen = 0 then [] else appendDecimal val.toUInt8) ++ s = ip.str.data
  | [], val, digLen, done, prev, ip, h, _, h0, _ => by
    unfold ipv4Fields at h
    split at h
    · cases h
      have hd : digLen ≠ 0 := fun hd => (h0 hd).2.2 (List.cons_ne_nil _ _) rfl
      simp [octetsText, IPv4.str, hd]
    · cases h
  | c :: rest, val, digLen, done, prev, ip, h, hv, h0, h1 => by
    unfold ipv4Fields at h
    split_ifs at h with hc hz hgt hdot hp hlen
    · -- a digit: the octet's text grows by it
      have ih := ipv4Fields_text h (by omega) (fun h => absurd h (Nat.succ_ne_zero _)) fun hlt =>
        Nat.pos_of_ne_zero fun h' => by
          rcases Nat.lt_or_ge 1 digLen with hd | hd
          · have := h1 hd
            omega
          · exact hz ⟨by omega, by omega⟩
      have hcur : (if digLen = 0 then [] else appendDecimal val.toUInt8) ++ [c] =
          appendDecimal (val * 10 + (c.toNat - '0'.toNat)).toUInt8 := by
        have hk := (digitChar_ten (c.toNat - '0'.toNat)).mt
        have hdig : c.toNat - '0'.toNat < 10 := by
          simp only [Char.isDigit, Bool.and_eq_true, decide_eq_true_eq] at hc
          have : c.toNat ≤ 57 := hc.2
          show c.toNat - 48 < 10
          omega
        split_ifs with hd
        · rw [(h0 hd).1, Nat.zero_mul, Nat.zero_add, appendDecimal_digit hdig, digitChar_of_isDigit hc]
          rfl
        · have hpos : 0 < val := by
            rcases Nat.lt_or_ge 1 digLen with hd' | hd'
            · exact h1 hd'
            · exact Nat.pos_of_ne_zero fun h' => hz ⟨by omega, h'⟩
          rw [← appendDecimal_snoc hpos hdig (by omega), digitChar_of_isDigit hc]
      rw [if_neg (Nat.succ_ne_zero _)] at ih
      rw [← ih, ← hcur]
      simp
    · -- a dot after a digit closes the octet
      have hd : digLen ≠ 0 := fun hd => hp ((h0 hd).2.1.elim .inl fun h => .inr (.inr h))
      have ih := ipv4Fields_text h (by omega) (fun _ => ⟨rfl, .inr (congrArg some hdot), fun _ h => hp (.inr (.inl h))⟩)
        fun h => absurd h (by omega)
      rw [← ih]
      simp [octetsText, hd, hdot]

end Fields

/-! ## The round trip -/

theorem addrSeparator_digits {l : List Char} (h : ∀ c ∈ l, c.isDigit) (rest : List Char) :
    addrSeparator (l ++ rest) = addrSeparator rest := by
  induction l with
  | nil => rfl
  | cons c l ih =>
    have hc := h c (List.mem_cons_self _ _)
    have hsep : ¬(c = '.' ∨ c = ':' ∨ c = '%') := by
      rintro (rfl | rfl | rfl) <;> exact absurd hc (by decide)
    simp only [List.cons_append, addrSeparator, if_neg hsep]
    exact ih fun c hc => h c (List.mem_cons_of_mem _ hc)

theorem ne_dot_of_isDigit {c : Char} (h : c.isDigit) : c ≠ '.' := by
  rintro rfl
  exact absurd h (by decide)

theorem parseIP_str (ip : IPv4) : parseIP ip.str = some ip := by
  have hsep : addrSeparator ip.str.data = some '.' :=
    (addrSeparator_digits (fun c hc => isDigit_of_mem_appendDecimal hc) _).trans rfl
  unfold parseIP
  rw [hsep]
  obtain ⟨c₁, h₁, e₁⟩ := @ipv4Fields_appendDecimal [] none ip.a
    ('.' :: (appendDecimal ip.b ++ '.' :: (appendDecimal ip.c ++ '.' :: appendDecimal ip.d)))
  obtain ⟨c₂, h₂, e₂⟩ := @ipv4Fields_appendDecimal [ip.a.toNat.toUInt8] (some '.') ip.b
    ('.' :: (appendDecimal ip.c ++ '.' :: appendDecimal ip.d))
  obtain ⟨c₃, h₃, e₃⟩ := @ipv4Fields_appendDecimal [ip.a.toNat.toUInt8, ip.b.toNat.toUInt8] (some '.')
    ip.c ('.' :: appendDecimal ip.d)
  obtain ⟨c₄, -, e₄⟩ := @ipv4Fields_appendDecimal
    [ip.a.toNat.toUInt8, ip.b.toNat.toUInt8, ip.c.toNat.toUInt8] (some '.') ip.d []
  rw [List.append_nil] at e₄
  rw [IPv4.str, e₁, ipv4Fields_dot (ne_dot_of_isDigit h₁) (by simp) (by simp), List.nil_append, e₂,
    ipv4Fields_dot (ne_dot_of_isDigit h₂) (by simp) (by simp), List.singleton_append, e₃,
    ipv4Fields_dot (ne_dot_of_isDigit h₃) (appendDecimal_ne_nil _) (by simp), List.cons_append,
    List.singleton_append, e₄]
  simp [ipv4Fields, toNat_toUInt8_self]

/-- A text `ParseIP` accepts is the printed form of the address it returns: the parser
takes no other spelling (no leading zero, no sign, no space). -/
theorem str_of_parseIP {s : String} {ip : IPv4} (h : parseIP s = some ip) : ip.str = s := by
  unfold parseIP at h
  split at h
  · exact String.ext (ipv4Fields_text h (Nat.zero_le _)
      (fun _ => ⟨rfl, .inl rfl, fun h' => absurd rfl h'⟩) (fun h' => absurd h' (by decide))).symm
  · cases h

theorem parseIP_eq_some_iff {s : String} {ip : IPv4} : parseIP s = some ip ↔ ip.str = s :=
  ⟨str_of_parseIP, fun h => h ▸ parseIP_str ip⟩

end WgMesh.Go
