import Mathlib.Data.List.DropRight
import Mathlib.Tactic.SplitIfs

/-! # Go built-ins: strings, maps, and the host:port helpers of `net`

The daemon handles public keys and endpoints as Go strings and keeps its tables in
Go maps:

* `key[:n]` for a log line panics when the key has fewer than `n` bytes
  (`sliceTo`); `strings.Compare` orders bytes (`stringsCompare`);
* a map is an association list with one entry per key (`mapSet`, `mapDelete`,
  `List.lookup`);
* `net.SplitHostPort` and `net.JoinHostPort`, through which every endpoint passes
  before it is stored, are modelled from the Go sources, errors included, over the
  characters of the string: the delimiters `:`, `[` and `]` are ASCII, so byte and
  character positions agree on them.

The result used later is the round trip `splitHostPort_joinHostPort`: the host and
port of a joined endpoint are the ones it was joined from.
-/

namespace WgMesh.Go

/-! ## Slicing -/

/-- The bytes of a Go string: its UTF-8 encoding. -/
def bytesOf (s : String) : List UInt8 := s.data.flatMap String.utf8EncodeChar

/-- `s[:n]`: the first `n` bytes of `s`, or a run-time panic (`none`) when `s` has
fewer. -/
def sliceTo (s : String) (n : Nat) : Option (List UInt8) :=
  if n ≤ s.utf8ByteSize then some ((bytesOf s).take n) else none

@[simp] theorem sliceTo_eq_none {s : String} {n : Nat} :
    sliceTo s n = none ↔ s.utf8ByteSize < n := by
  unfold sliceTo
  split <;> simp <;> omega

/-- `s[lo:hi]` on the bytes of a string, or a run-time panic (`none`) when `lo > hi` or
`hi > len(s)`. -/
def sliceBytes (s : List UInt8) (lo hi : Nat) : Option (List UInt8) :=
  if lo ≤ hi ∧ hi ≤ s.length then some ((s.take hi).drop lo) else none

/-! ## Comparing -/

/-- Byte-wise lexicographic comparison, `-1`, `0` or `1`. -/
def compareBytes : List UInt8 → List UInt8 → Int
  | [], [] => 0
  | [], _ :: _ => -1
  | _ :: _, [] => 1
  | a :: as, b :: bs =>
    if a.toNat < b.toNat then -1 else if b.toNat < a.toNat then 1 else compareBytes as bs

def stringsCompare (a b : String) : Int := compareBytes (bytesOf a) (bytesOf b)

/-! ## Maps -/

/-- A Go map write on an association list. -/
def mapSet {α : Type} (k : String) (v : α) (m : List (String × α)) : List (String × α) :=
  (k, v) :: m.filter (·.1 ≠ k)

/-- A Go map delete on an association list. -/
def mapDelete {α : Type} (k : String) (m : List (String × α)) : List (String × α) :=
  m.filter (·.1 ≠ k)

theorem mem_of_lookup_eq_some {α β : Type} [BEq α] [LawfulBEq α] {m : List (α × β)} {k : α}
    {v : β} (h : m.lookup k = some v) : (k, v) ∈ m := by
  induction m with
  | nil => cases h
  | cons e m ih =>
    obtain ⟨k', v'⟩ := e
    rw [List.lookup_cons] at h
    split at h
    · rename_i heq
      cases h
      rw [eq_of_beq heq]
      exact List.mem_cons_self _ _
    · exact List.mem_cons_of_mem _ (ih h)

theorem mem_foldl_mapSet {α β : Type} {key : α → String} {val : α → β} {k : String} {v : β}
    {l : List α} {acc : List (String × β)}
    (h : (k, v) ∈ l.foldl (fun m a => mapSet (key a) (val a) m) acc) :
    (k, v) ∈ acc ∨ ∃ a ∈ l, key a = k ∧ val a = v := by
  induction l generalizing acc with
  | nil => exact .inl h
  | cons a l ih =>
    rcases ih h with h | ⟨a', ha', hk⟩
    · simp only [mapSet, List.mem_cons, Prod.mk.injEq, List.mem_filter] at h
      rcases h with ⟨rfl, rfl⟩ | ⟨h, -⟩
      · exact .inr ⟨a, List.mem_cons_self _ _, rfl, rfl⟩
      · exact .inl h
    · exact .inr ⟨a', List.mem_cons_of_mem _ ha', hk⟩

theorem lookup_mapSet_isSome {β : Type} {k k' : String} {v : β} {m : List (String × β)} :
    ((mapSet k' v m).lookup k).isSome ↔ k = k' ∨ (m.lookup k).isSome := by
  simp only [List.lookup_isSome_iff, mapSet, List.mem_cons, List.mem_filter, beq_iff_eq]
  constructor
  · rintro ⟨p, rfl | ⟨hp, -⟩, rfl⟩
    · exact .inl rfl
    · exact .inr ⟨p, hp, rfl⟩
  · rintro (rfl | ⟨p, hp, rfl⟩)
    · exact ⟨_, .inl rfl, rfl⟩
    · by_cases hk : p.1 = k'
      · exact ⟨_, .inl rfl, hk⟩
      · exact ⟨p, .inr ⟨hp, by simpa using hk⟩, rfl⟩

theorem lookup_foldl_mapSet_isSome {α β : Type} {key : α → String} {val : α → β} {k : String} :
    ∀ {l : List α} {acc : List (String × β)},
      ((l.foldl (fun m a => mapSet (key a) (val a) m) acc).lookup k).isSome ↔
        (acc.lookup k).isSome ∨ ∃ a ∈ l, key a = k
  | [], _ => by simp
  | a :: l, acc => by
    rw [List.foldl_cons, @lookup_foldl_mapSet_isSome _ _ key val k l, lookup_mapSet_isSome]
    simp only [List.mem_cons, or_and_right, exists_or, exists_eq_left, eq_comm (a := k)]
    constructor
    · rintro ((h | h) | h)
      · exact .inr (.inl h)
      · exact .inl h
      · exact .inr (.inr h)
    · rintro (h | h | h)
      · exact .inl (.inr h)
      · exact .inl (.inl h)
      · exact .inr h

/-! ## Searching for a delimiter -/

/-- `bytealg.IndexByteString`: the first position of `c`. -/
def index (c : Char) : List Char → Option Nat
  | [] => none
  | d :: s => if d = c then some 0 else (index c s).map (· + 1)

/-- `bytealg.LastIndexByteString`: the last position of `c`. -/
def lastIndex (c : Char) : List Char → Option Nat
  | [] => none
  | d :: s =>
    match lastIndex c s with
    | some i => some (i + 1)
    | none => if d = c then some 0 else none

theorem index_append_cons {c : Char} {s : List Char} (hs : c ∉ s) (t : List Char) :
    index c (s ++ c :: t) = some s.length := by
  induction s with
  | nil => simp [index]
  | cons d s ih =>
    rw [List.mem_cons, not_or] at hs
    simp [index, Ne.symm hs.1, ih hs.2]

theorem index_eq_none {c : Char} {s : List Char} (hs : c ∉ s) : index c s = none := by
  induction s with
  | nil => rfl
  | cons d s ih =>
    rw [List.mem_cons, not_or] at hs
    simp [index, ih hs.2, Ne.symm hs.1]

theorem lastIndex_eq_none {c : Char} {s : List Char} (hs : c ∉ s) : lastIndex c s = none := by
  induction s with
  | nil => rfl
  | cons d s ih =>
    rw [List.mem_cons, not_or] at hs
    simp [lastIndex, ih hs.2, Ne.symm hs.1]

theorem lastIndex_append_cons {c : Char} (s : List Char) {t : List Char} (ht : c ∉ t) :
    lastIndex c (s ++ c :: t) = some s.length := by
  induction s with
  | nil => simp [lastIndex, lastIndex_eq_none ht]
  | cons d s ih => simp [lastIndex, ih]

/-! ## `net.SplitHostPort` and `net.JoinHostPort` -/

/-- The errors of `net.SplitHostPort`, one per text it reports. -/
inductive AddrError
  /-- "missing port in address" -/
  | missingPort
  /-- "too many colons in address" -/
  | tooManyColons
  /-- "missing ']' in address" -/
  | missingBracket
  /-- "unexpected '[' in address" -/
  | unexpectedOpen
  /-- "unexpected ']' in address" -/
  | unexpectedClose
deriving DecidableEq, Repr

/-- The host part of `SplitHostPort` and the positions `j`, `k` after which no `[`,
resp. `]`, may stand. -/
def splitHost (s : List Char) (i : Nat) : Except AddrError (List Char × Nat × Nat) :=
  if s.head? = some '[' then
    match index ']' s with
    | none => .error .missingBracket
    | some e =>
      if e + 1 = s.length then .error .missingPort
      else if e + 1 = i then .ok ((s.take e).drop 1, 1, e + 1)
      else if s.get? (e + 1) = some ':' then .error .tooManyColons
      else .error .missingPort
  else
    if ':' ∈ s.take i then .error .tooManyColons else .ok (s.take i, 0, 0)

/-- `net.SplitHostPort`: the port starts after the last colon; a host with colons
must be bracketed. -/
def splitHostPort (hostport : String) : Except AddrError (String × String) :=
  let s := hostport.data
  match lastIndex ':' s with
  | none => .error .missingPort
  | some i =>
    match splitHost s i with
    | .error e => .error e
    | .ok (host, j, k) =>
      if '[' ∈ s.drop j then .error .unexpectedOpen
      else if ']' ∈ s.drop k then .error .unexpectedClose
      else .ok (⟨host⟩, ⟨s.drop (i + 1)⟩)

/-- `net.JoinHostPort`: a host with a colon is taken for an IPv6 literal and
bracketed. -/
def joinHostPort (host port : String) : String :=
  if ':' ∈ host.data then "[" ++ host ++ "]:" ++ port else host ++ ":" ++ port

/-- The host of an endpoint, when it parses. -/
def hostOf (endpoint : String) : Option String :=
  match splitHostPort endpoint with
  | .ok (host, _) => some host
  | .error _ => none

/-- What `JoinHostPort` may be given back to `SplitHostPort`: no brackets in the host,
and none of the three delimiters in the port. -/
def Joinable (host port : String) : Prop :=
  '[' ∉ host.data ∧ ']' ∉ host.data ∧ ':' ∉ port.data ∧ '[' ∉ port.data ∧ ']' ∉ port.data

instance (host port : String) : Decidable (Joinable host port) :=
  inferInstanceAs (Decidable (_ ∧ _))

theorem splitHostPort_joinHostPort {host port : String} (hj : Joinable host port) :
    splitHostPort (joinHostPort host port) = .ok (host, port) := by
  obtain ⟨h⟩ := host
  obtain ⟨p⟩ := port
  obtain ⟨hho, hhc, hpc, hpo, hpcl⟩ := hj
  dsimp only at hho hhc hpc hpo hpcl
  unfold joinHostPort splitHostPort
  split_ifs with hcolon
  · -- a bracketed IPv6 literal
    have he : index ']' ('[' :: (h ++ ']' :: ':' :: p)) = some (h.length + 1) := by
      simp [index, index_append_cons hhc]
    have hi : lastIndex ':' ('[' :: (h ++ ']' :: ':' :: p)) = some (h.length + 2) := by
      simpa using lastIndex_append_cons ('[' :: (h ++ [']'])) hpc
    simp [String.data_append, hi, splitHost, he, List.take_left' rfl, List.drop_append,
      hho, hhc, hpo, hpcl]
  · -- a plain host
    have hhead : (h ++ ':' :: p).head? ≠ some '[' := by
      cases h with
      | nil => simp
      | cons c cs => simp [Ne.symm (List.ne_of_not_mem_cons hho)]
    have hs : (String.mk h ++ ":" ++ String.mk p).data = h ++ ':' :: p := by
      simp [String.data_append]
    simp only [hs, lastIndex_append_cons _ hpc, splitHost, if_neg hhead]
    simp [List.take_left' rfl, List.drop_append, hcolon, hho, hhc, hpo, hpcl]

theorem not_mem_of_lastIndex_eq_none {c : Char} {s : List Char} (h : lastIndex c s = none) :
    c ∉ s := by
  induction s with
  | nil => simp
  | cons d s ih =>
    unfold lastIndex at h
    split at h
    · cases h
    · rename_i hs
      split_ifs at h with hd
      rw [List.mem_cons, not_or]
      exact ⟨fun hc => hd hc.symm, ih hs⟩

theorem not_mem_drop_of_lastIndex {c : Char} {s : List Char} {i : Nat}
    (h : lastIndex c s = some i) : c ∉ s.drop (i + 1) := by
  induction s generalizing i with
  | nil => cases h
  | cons d s ih =>
    unfold lastIndex at h
    split at h
    · rename_i j hj
      cases h
      simpa using ih hj
    · rename_i hs
      split_ifs at h
      cases h
      simpa using not_mem_of_lastIndex_eq_none hs

theorem not_mem_take_of_index {c : Char} {s : List Char} {e : Nat} (h : index c s = some e) :
    c ∉ s.take e := by
  induction s generalizing e with
  | nil => cases h
  | cons d s ih =>
    unfold index at h
    split_ifs at h with hd
    · cases h; simp
    · obtain ⟨e', he', rfl⟩ := Option.map_eq_some'.mp h
      simp only [List.take_succ_cons, List.mem_cons, not_or]
      exact ⟨Ne.symm hd, ih he'⟩

theorem joinable_of_splitHostPort {hostport host port : String}
    (h : splitHostPort hostport = .ok (host, port)) : Joinable host port := by
  unfold splitHostPort at h
  dsimp only at h
  split at h
  · cases h
  · rename_i i hi
    have hport : ':' ∉ hostport.data.drop (i + 1) := not_mem_drop_of_lastIndex hi
    split at h
    · cases h
    · rename_i j k hsplit
      split_ifs at h with ho hc
      cases h
      unfold splitHost at hsplit
      split_ifs at hsplit with hb
      · split at hsplit
        · cases hsplit
        · rename_i e he
          split_ifs at hsplit with h₁ h₂
          cases hsplit
          have hcl := not_mem_take_of_index he
          refine ⟨fun hm => ho ?_, fun hm => hcl (List.mem_of_mem_drop hm), hport,
            fun hm => ho (List.drop_subset_drop_left _ (by omega) hm),
            fun hm => hc (List.drop_subset_drop_left _ (by omega) hm)⟩
          rw [List.drop_take] at hm
          exact List.mem_of_mem_take hm
      · cases hsplit
        exact ⟨fun hm => ho (List.mem_of_mem_take hm), fun hm => hc (List.mem_of_mem_take hm),
          hport, fun hm => ho (List.mem_of_mem_drop hm), fun hm => hc (List.mem_of_mem_drop hm)⟩

/-! ## `strings.TrimSpace`, `HasPrefix`, `TrimPrefix` and `SplitN` -/

/-- `unicode.IsSpace`: in Latin-1 the characters `\t \n \v \f \r`, space, U+0085 and
U+00A0; above it, the other characters of the White_Space table. -/
def isSpace (c : Char) : Bool :=
  let r := c.toNat
  if r ≤ 0xFF then r ∈ [0x09, 0x0A, 0x0B, 0x0C, 0x0D, 0x20, 0x85, 0xA0]
  else r = 0x1680 ∨ (0x2000 ≤ r ∧ r ≤ 0x200A) ∨ r = 0x2028 ∨ r = 0x2029 ∨ r = 0x202F ∨
    r = 0x205F ∨ r = 0x3000

/-- `strings.TrimSpace`: `TrimRightFunc` of `TrimLeftFunc` with `unicode.IsSpace` (the
ASCII fast path trims the same characters). -/
def trimSpace (s : String) : String := ⟨(s.data.dropWhile isSpace).rdropWhile isSpace⟩

/-- `strings.HasPrefix`. On valid UTF-8 a byte prefix that is itself a string is a
prefix of characters. -/
def hasPrefix (s pre : String) : Bool := pre.data.isPrefixOf s.data

def trimPrefix (s pre : String) : String :=
  if hasPrefix s pre then ⟨s.data.drop pre.data.length⟩ else s

/-- `strings.SplitN` on a one-character separator: at most `n` pieces, the last one
the unsplit rest; none for `n = 0`. -/
def splitN (s : String) (sep : Char) : Nat → List String
  | 0 => []
  | 1 => [s]
  | n + 2 =>
    match index sep s.data with
    | none => [s]
    | some i => ⟨s.data.take i⟩ :: splitN ⟨s.data.drop (i + 1)⟩ sep (n + 1)

theorem trimSpace_eq_self {s : String} (h : trimSpace s = s) :
    s.data.dropWhile isSpace = s.data ∧ s.data.rdropWhile isSpace = s.data := by
  have hdata : (s.data.dropWhile isSpace).rdropWhile isSpace = s.data := congrArg String.data h
  have hlen : (s.data.dropWhile isSpace).length = s.data.length :=
    Nat.le_antisymm (List.dropWhile_suffix _).length_le
      (hdata ▸ (List.rdropWhile_prefix isSpace (s.data.dropWhile isSpace)).length_le :)
  have hdrop := (List.dropWhile_suffix isSpace).eq_of_length hlen
  exact ⟨hdrop, by rwa [hdrop] at hdata⟩

theorem rdropWhile_append_cons {p : Char → Bool} (l : List Char) {x : Char} (hx : p x = false)
    (m : List Char) : (l ++ x :: m).rdropWhile p = l ++ x :: m.rdropWhile p := by
  induction m using List.reverseRecOn with
  | nil => simpa using List.rdropWhile_concat_neg p (l ++ [x]) x (by simp [hx])
  | append_singleton m y ih =>
    rw [← List.cons_append, ← List.append_assoc, List.rdropWhile_concat, List.rdropWhile_concat]
    split_ifs
    · simpa using ih
    · simp

theorem trimSpace_data_of_eq {t : String} {x y : Char} {l m : List Char}
    (ht : t.data = x :: l ++ y :: m) (hx : isSpace x = false) (hy : isSpace y = false) :
    (trimSpace t).data = x :: l ++ y :: m.rdropWhile isSpace := by
  show (t.data.dropWhile isSpace).rdropWhile isSpace = _
  rw [ht, List.cons_append, List.dropWhile_cons_of_neg (by simp [hx]), ← List.cons_append,
    rdropWhile_append_cons _ hy]

/-! ## `strings.Index` and `strings.TrimSpace` over the bytes of a string -/

/-- `strings.Index` on bytes: the first position where `pat` starts. -/
def indexBytes (pat : List UInt8) : List UInt8 → Option Nat
  | [] => if pat.isPrefixOf [] then some 0 else none
  | b :: s => if pat.isPrefixOf (b :: s) then some 0 else (indexBytes pat s).map (· + 1)

/-- The UTF-8 encodings of the runes `unicode.IsSpace` accepts, those of `isSpace`. -/
def spaceEncodings : List (List UInt8) :=
  ([0x09, 0x0A, 0x0B, 0x0C, 0x0D, 0x20, 0x85, 0xA0, 0x1680, 0x2000, 0x2001, 0x2002, 0x2003,
    0x2004, 0x2005, 0x2006, 0x2007, 0x2008, 0x2009, 0x200A, 0x2028, 0x2029, 0x202F, 0x205F,
    0x3000] : List Nat).map fun n => String.utf8EncodeChar (Char.ofNat n)

/-- `strings.TrimLeftFunc(s, unicode.IsSpace)` on bytes: strip leading runes that are
spaces. Bytes that do not decode to one, invalid UTF-8 included (it decodes to
`RuneError`), stop it. Each step strips a byte or more, so `len(s)` steps suffice. -/
def trimLeftSpaceBytes : Nat → List UInt8 → List UInt8
  | 0, s => s
  | fuel + 1, s =>
    match spaceEncodings.find? (·.isPrefixOf s) with
    | some e => trimLeftSpaceBytes fuel (s.drop e.length)
    | none => s

/-- `strings.TrimRightFunc(s, unicode.IsSpace)` on bytes. -/
def trimRightSpaceBytes : Nat → List UInt8 → List UInt8
  | 0, s => s
  | fuel + 1, s =>
    match spaceEncodings.find? (·.isSuffixOf s) with
    | some e => trimRightSpaceBytes fuel (s.take (s.length - e.length))
    | none => s

/-- `strings.TrimSpace` on bytes: its ASCII fast path trims the same runes. -/
def trimSpaceBytes (s : List UInt8) : List UInt8 :=
  let s := trimLeftSpaceBytes s.length s
  trimRightSpaceBytes s.length s

theorem isPrefixOf_append_of_mismatch {pat l : List UInt8}
    (h : (pat.zip l).any (fun p => p.1 != p.2) = true) (c : List UInt8) :
    pat.isPrefixOf (l ++ c) = false := by
  induction pat generalizing l with
  | nil => simp at h
  | cons a pat ih =>
    cases l with
    | nil => simp at h
    | cons b l =>
      simp only [List.zip_cons_cons, List.any_cons, Bool.or_eq_true, bne_iff_ne, ne_eq] at h
      simp only [List.cons_append, List.isPrefixOf, Bool.and_eq_false_iff, beq_eq_false_iff_ne]
      exact h.imp id ih

theorem indexBytes_append {pat : List UInt8} {A : List UInt8} (C : List UInt8)
    (h : ∀ j < A.length, pat.isPrefixOf (A.drop j ++ C) = false) :
    indexBytes pat (A ++ C) = (indexBytes pat C).map (· + A.length) := by
  induction A with
  | nil => simp
  | cons a A ih =>
    have h0 := h 0 (by simp)
    rw [List.drop_zero, List.cons_append] at h0
    rw [List.cons_append, indexBytes, if_neg (ne_true_of_eq_false h0),
      ih fun j hj => by simpa using h (j + 1) (by simp; omega), Option.map_map]
    rfl

theorem indexBytes_of_isPrefixOf {pat s : List UInt8} (h : pat.isPrefixOf s = true) :
    indexBytes pat s = some 0 := by
  cases s <;> simp [indexBytes, h]

theorem prefix_of_prefix_append_cons {pat L R : List UInt8} {x : UInt8}
    (h : pat <+: L ++ x :: R) (hx : x ∉ pat) : pat <+: L := by
  induction L generalizing pat with
  | nil =>
    cases pat with
    | nil => exact List.nil_prefix
    | cons y pat =>
      obtain ⟨rfl, -⟩ := List.cons_prefix_cons.mp h
      exact absurd (List.mem_cons_self _ _) hx
  | cons a L ih =>
    cases pat with
    | nil => exact List.nil_prefix
    | cons y pat =>
      rw [List.cons_append] at h
      obtain ⟨rfl, h'⟩ := List.cons_prefix_cons.mp h
      exact List.cons_prefix_cons.mpr ⟨rfl, ih h' (fun hm => hx (List.mem_cons_of_mem _ hm))⟩

theorem indexBytes_append_cons {pat A : List UInt8} {x : UInt8} (hne : pat ≠ [])
    (hx : x ∉ pat) (hA : ¬ pat <:+: A) :
    indexBytes pat (A ++ x :: pat) = some (A.length + 1) := by
  have hsep : pat.isPrefixOf (x :: pat) = false := by
    obtain ⟨y, pat', rfl⟩ := List.exists_cons_of_ne_nil hne
    simp only [List.isPrefixOf, Bool.and_eq_false_iff, beq_eq_false_iff_ne]
    exact .inl fun hy => hx (hy ▸ List.mem_cons_self _ _)
  rw [show A ++ x :: pat = A ++ [x] ++ pat by simp, indexBytes_append,
    indexBytes_of_isPrefixOf (List.isPrefixOf_iff_prefix.mpr (List.prefix_refl _))]
  · simp
  intro j hj
  rw [List.length_append, List.length_singleton] at hj
  rcases Nat.lt_succ_iff_lt_or_eq.mp hj with hj | rfl
  · refine Bool.eq_false_iff.mpr fun hp => hA ?_
    rw [List.drop_append_of_le_length (Nat.le_of_lt hj), List.append_assoc, List.singleton_append]
      at hp
    exact ((prefix_of_prefix_append_cons (List.isPrefixOf_iff_prefix.mp hp) hx).isInfix).trans
      (List.drop_suffix _ _).isInfix
  · simpa using hsep

theorem head?_eq_of_isPrefixOf {u v : List UInt8} (h : u.isPrefixOf v = true) (hu : u ≠ []) :
    u.head? = v.head? := by
  obtain ⟨x, u, rfl⟩ := List.exists_cons_of_ne_nil hu
  cases v with
  | nil => simp at h
  | cons y v =>
    simp only [List.isPrefixOf, Bool.and_eq_true, beq_iff_eq] at h
    simp [h.1]

theorem spaceEncodings_eq : spaceEncodings = [9] :: [10] :: spaceEncodings.drop 2 := by decide


theorem find?_spaceEncodings_newline (l : List UInt8) :
    spaceEncodings.find? (·.isPrefixOf (10 :: l)) = some [10] := by
  rw [spaceEncodings_eq, List.find?_cons_of_neg _ (by simp [List.isPrefixOf]),
    List.find?_cons_of_pos _ (by simp [List.isPrefixOf])]

theorem trimLeftSpaceBytes_succ (fuel : Nat) (s : List UInt8) :
    trimLeftSpaceBytes (fuel + 1) s = match spaceEncodings.find? (·.isPrefixOf s) with
      | some e => trimLeftSpaceBytes fuel (s.drop e.length)
      | none => s := rfl

theorem trimRightSpaceBytes_succ (fuel : Nat) (s : List UInt8) :
    trimRightSpaceBytes (fuel + 1) s = match spaceEncodings.find? (·.isSuffixOf s) with
      | some e => trimRightSpaceBytes fuel (s.take (s.length - e.length))
      | none => s := rfl

theorem trimSpaceBytes_newlines {s : List UInt8} (hne : s ≠ [])
    (hends : ∀ e ∈ spaceEncodings, e.head? ≠ s.head? ∧ e.getLast? ≠ s.getLast?) :
    trimSpaceBytes (10 :: (s ++ [10])) = s := by
  have hnil : ∀ e ∈ spaceEncodings, e ≠ [] := by decide
  have hleft : spaceEncodings.find? (·.isPrefixOf (s ++ [10])) = none :=
    List.find?_eq_none.mpr fun e he hp => (hends e he).1 <| by
      rw [head?_eq_of_isPrefixOf hp (hnil e he), List.head?_append_of_ne_nil _ hne]
  have hright : spaceEncodings.find? (·.isSuffixOf s) = none :=
    List.find?_eq_none.mpr fun e he hp => (hends e he).2 <| by
      have := head?_eq_of_isPrefixOf hp (by simpa using hnil e he)
      rwa [List.head?_reverse, List.head?_reverse] at this
  have hlast : spaceEncodings.find? (·.isSuffixOf (s ++ [10])) = some [10] := by
    simp only [List.isSuffixOf, List.reverse_append, List.reverse_singleton, List.singleton_append]
    exact find?_spaceEncodings_newline _
  obtain ⟨n, hn⟩ : ∃ n, s.length = n + 1 := ⟨s.length - 1, by have := List.length_pos.mpr hne; omega⟩
  have hL : trimLeftSpaceBytes (n + 3) (10 :: (s ++ [10])) = s ++ [10] := by
    rw [trimLeftSpaceBytes_succ, find?_spaceEncodings_newline]
    show trimLeftSpaceBytes (n + 2) ((10 :: (s ++ [10])).drop 1) = _
    rw [List.drop_one, List.tail_cons, trimLeftSpaceBytes_succ, hleft]
  have hR : trimRightSpaceBytes (n + 2) (s ++ [10]) = s := by
    rw [trimRightSpaceBytes_succ, hlast]
    simp only [List.length_append, List.length_singleton, Nat.add_sub_cancel, List.take_left]
    rw [trimRightSpaceBytes_succ, hright]
  have hlen : (10 :: (s ++ [10])).length = n + 3 := by simp [hn]
  have hlen' : (s ++ [10]).length = n + 2 := by simp [hn]
  simp only [trimSpaceBytes, hlen, hL, hlen', hR]

end WgMesh.Go
