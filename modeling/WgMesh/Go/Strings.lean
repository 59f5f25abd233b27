import Mathlib.Data.List.Basic
import WgMesh.Go.Basic
import WgMesh.Go.Time

/-! # Splitting command output: `strings.Split`, `strings.Fields` and `%d`

The deployment tool reads two command outputs over SSH, `wg show <if> dump` and
`ip route show dev <if>`. Both are cut into lines with `strings.Split` on `"\n"`,
each line into fields with `strings.Fields`, and numbers are read with
`fmt.Sscanf(field, "%d", &v)`.

* `split` is `strings.Split` on a one-character separator, `fields` is
  `strings.Fields` (the non-empty pieces between runs of `unicode.IsSpace`), and
  `join` is `strings.Join`;
* `scanInt` is the `%d` verb on one field: an optional sign and at least one
  decimal digit, read as an `int64`; on no digit or on overflow `Sscanf` fails and
  the target keeps its value.

The round trips used by the parsers' proofs: `split_join`, `fields_join` (text
joined from whitespace-free, non-empty tokens splits back into them) and
`scanInt_toString` (`%d` reads back the decimal text of every `int64`-sized natural
number).
-/

namespace WgMesh.Go

/-! ## The functions -/

/-- `strings.Join` with a one-character separator. -/
def join (elems : List String) (sep : Char) : String :=
  ⟨[sep].intercalate (elems.map String.data)⟩

/-- `strings.Split` on a one-character separator: every piece between two
separators, empty ones included; `[""]` for the empty string. -/
def split (s : String) (sep : Char) : List String :=
  (s.data.splitOn sep).map String.mk

/-- `strings.Fields`: the non-empty pieces between runs of `unicode.IsSpace`. -/
def fields (s : String) : List String :=
  ((s.data.splitOnP isSpace).filter fun l => !l.isEmpty).map String.mk

/-- The value of a run of decimal digits. -/
def digitsValue (ds : List Char) : Nat :=
  ds.foldl (fun n c => 10 * n + (c.toNat - '0'.toNat)) 0

/-- The sign `%d` accepts before the digits: whether it is `-`, and the rest. -/
def scanSign : List Char → Bool × List Char
  | '-' :: r => (true, r)
  | '+' :: r => (false, r)
  | r => (false, r)

/-- `fmt.Sscanf(s, "%d", &v)` on a field from `strings.Fields`: an optional sign, then
the longest run of decimal digits, at least one, read as an `int64`. Without a digit,
or when the value leaves `int64`, `Sscanf` returns an error and `v` keeps its value.
(A field holds no space, so the verb's leading-space skip has nothing to skip.) -/
def scanInt (s : String) (v : Int) : Int :=
  let (neg, rest) := scanSign s.data
  let ds := rest.takeWhile Char.isDigit
  let i : Int := if neg then -(digitsValue ds : Int) else digitsValue ds
  if ds ≠ [] ∧ InInt64 i then i else v

/-- `fmt.Sscanf(s, "%d", &v)` on any text, by its outcome: the verb first skips spaces
(a newline is an error, since `Sscanf` does not take newlines for spaces), then reads an
optional sign and at least one decimal digit as an `int64`, and leaves the rest of the
text unread. `none` is the error, after which `v` keeps its value. -/
def sscanfInt (s : String) : Option Int :=
  let t := s.data.dropWhile fun c => isSpace c && c != '\n'
  if t.head? = some '\n' then none
  else
    let (neg, rest) := scanSign t
    let ds := rest.takeWhile Char.isDigit
    let i : Int := if neg then -(digitsValue ds : Int) else digitsValue ds
    if ds ≠ [] ∧ InInt64 i then some i else none

/-- A field `strings.Fields` keeps whole: non-empty and free of white space. -/
def Token (s : String) : Prop := s.data ≠ [] ∧ ∀ c ∈ s.data, isSpace c = false

instance (s : String) : Decidable (Token s) := inferInstanceAs (Decidable (_ ∧ _))

/-- Text with a non-space character at both ends, which `strings.TrimSpace` keeps whole. -/
def Trimmed (s : String) : Prop :=
  s.data ≠ [] ∧ (∀ c ∈ s.data.head?, isSpace c = false) ∧ ∀ c ∈ s.data.getLast?, isSpace c = false

/-! ## Splitting joined text -/

theorem splitOnP_intercalate {α : Type} {p : α → Bool} {sep : α} (hsep : p sep = true) :
    ∀ {ls : List (List α)}, ls ≠ [] → (∀ l ∈ ls, ∀ x ∈ l, p x = false) →
      ([sep].intercalate ls).splitOnP p = ls
  | [], hne, _ => absurd rfl hne
  | [l], _, h => by
    simpa [List.intercalate] using List.splitOnP_eq_single p l (by simpa using h l (by simp))
  | l :: l' :: ls, _, h => by
    have hl : ∀ x ∈ l, ¬p x = true := by simpa using h l (by simp)
    have ih := splitOnP_intercalate hsep (List.cons_ne_nil l' ls) fun m hm => h m (by simp [hm])
    simp only [List.intercalate, List.intersperse_cons_cons, List.flatten_cons,
      List.singleton_append] at ih ⊢
    rw [List.splitOnP_first p l hl sep hsep, ih]

theorem split_join {elems : List String} {sep : Char} (hne : elems ≠ [])
    (h : ∀ e ∈ elems, sep ∉ e.data) : split (join elems sep) sep = elems := by
  unfold split join
  rw [List.splitOn_intercalate _ _ (by simpa using h) (by simpa using hne), List.map_map]
  exact List.map_id' _ |>.trans rfl

theorem not_mem_of_mem_splitOnP {α : Type} {p : α → Bool} :
    ∀ {xs l : List α}, l ∈ xs.splitOnP p → ∀ x ∈ l, p x = false
  | [], l, h => by
    rw [List.splitOnP_nil, List.mem_singleton] at h
    subst h
    simp
  | x :: xs, l, h => by
    rw [List.splitOnP_cons] at h
    split_ifs at h with hx
    · rcases List.mem_cons.mp h with rfl | h
      · simp
      · exact not_mem_of_mem_splitOnP h
    · obtain ⟨hd, tl, hsplit⟩ := List.exists_cons_of_ne_nil (List.splitOnP_ne_nil p xs)
      rw [hsplit, List.modifyHead_cons] at h
      rcases List.mem_cons.mp h with rfl | h
      · intro y hy
        rcases List.mem_cons.mp hy with rfl | hy
        · simpa using hx
        · exact not_mem_of_mem_splitOnP (hsplit ▸ List.mem_cons_self _ _) y hy
      · exact not_mem_of_mem_splitOnP (hsplit ▸ List.mem_cons_of_mem _ h)

theorem sep_not_mem_split {s e : String} {sep : Char} (h : e ∈ split s sep) : sep ∉ e.data := by
  obtain ⟨l, hl, rfl⟩ := List.mem_map.mp h
  intro hsep
  simpa using not_mem_of_mem_splitOnP hl sep hsep

theorem mem_of_mem_trimSpace {s : String} {c : Char} (h : c ∈ (trimSpace s).data) : c ∈ s.data :=
  (List.dropWhile_suffix _).subset ((List.rdropWhile_prefix isSpace _).subset h)

theorem trimSpace_trimSpace (s : String) : trimSpace (trimSpace s) = trimSpace s := by
  show (⟨(((s.data.dropWhile isSpace).rdropWhile isSpace).dropWhile isSpace).rdropWhile isSpace⟩ : String) =
    ⟨(s.data.dropWhile isSpace).rdropWhile isSpace⟩
  have hD := List.dropWhile_eq_self_iff.mp (List.dropWhile_idempotent isSpace s.data)
  obtain ⟨t, ht⟩ := List.rdropWhile_prefix isSpace (s.data.dropWhile isSpace)
  generalize hR : (s.data.dropWhile isSpace).rdropWhile isSpace = R at ht ⊢
  cases R with
  | nil => rfl
  | cons r rs =>
    have hr : ¬ isSpace r := by
      have := hD (by rw [← ht]; simp)
      simpa [← ht] using this
    rw [List.dropWhile_cons_of_neg (by simpa using hr), ← hR, List.rdropWhile_idempotent]

theorem fields_join_filter {elems : List String} {sep : Char} (hsep : isSpace sep = true)
    (h : ∀ e ∈ elems, ∀ c ∈ e.data, isSpace c = false) :
    fields (join elems sep) = elems.filter fun e => !e.data.isEmpty := by
  unfold fields join
  by_cases hne : elems = []
  · subst hne; rfl
  rw [splitOnP_intercalate hsep (by simpa using hne) (by simpa using h), List.filter_map,
    List.map_map]
  exact List.map_id' _ |>.trans rfl

theorem fields_join {elems : List String} {sep : Char} (hsep : isSpace sep = true)
    (h : ∀ e ∈ elems, Token e) : fields (join elems sep) = elems := by
  rw [fields_join_filter hsep fun e he => (h e he).2, List.filter_eq_self]
  simpa [List.isEmpty_iff] using fun e he => (h e he).1

theorem join_cons_cons_data (e e' : String) (es : List String) (sep : Char) :
    (join (e :: e' :: es) sep).data = e.data ++ sep :: (join (e' :: es) sep).data := by
  simp [join, List.intercalate, List.intersperse_cons_cons]

theorem mem_join {sep c : Char} :
    ∀ {elems : List String}, c ∈ (join elems sep).data → c = sep ∨ ∃ e ∈ elems, c ∈ e.data
  | [], h => by simp [join, List.intercalate] at h
  | [e], h => .inr ⟨e, by simp, by simpa [join, List.intercalate] using h⟩
  | e :: e' :: es, h => by
    rw [join_cons_cons_data, List.mem_append, List.mem_cons] at h
    rcases h with h | rfl | h
    · exact .inr ⟨e, by simp, h⟩
    · exact .inl rfl
    · rcases mem_join h with h | ⟨e'', he, hc⟩
      · exact .inl h
      · exact .inr ⟨e'', List.mem_cons_of_mem _ he, hc⟩

theorem Token.trimmed {s : String} (h : Token s) : Trimmed s :=
  ⟨h.1, fun c hc => h.2 c (List.mem_of_mem_head? hc),
    fun c hc => h.2 c (List.mem_of_mem_getLast? hc)⟩

theorem trimmed_join {sep : Char} :
    ∀ {elems : List String}, elems ≠ [] → (∀ e ∈ elems, Trimmed e) → Trimmed (join elems sep)
  | [], hne, _ => absurd rfl hne
  | [e], _, h => by simpa [join, List.intercalate] using h e (by simp)
  | e :: e' :: es, _, h => by
    have hsplit := join_cons_cons_data e e' es sep
    obtain ⟨hne, hhead, -⟩ := h e (by simp)
    obtain ⟨hne', -, hlast⟩ : Trimmed (join (e' :: es) sep) :=
      trimmed_join (List.cons_ne_nil e' es) fun m hm => h m (by simp [hm])
    refine ⟨by simp [hsplit], ?_, ?_⟩
    · rwa [hsplit, List.head?_append_of_ne_nil _ hne]
    · rwa [hsplit, ← List.singleton_append, ← List.append_assoc,
        List.getLast?_append_of_ne_nil _ hne']

theorem trimSpace_append_space {s : String} (h : Trimmed s) {c : Char} (hc : isSpace c = true) :
    trimSpace ⟨s.data ++ [c]⟩ = s := by
  obtain ⟨hne, hhead, hlast⟩ := h
  obtain ⟨c', cs, hs⟩ := List.exists_cons_of_ne_nil hne
  have hc' : isSpace c' = false := hhead c' (by simp [hs])
  show (⟨((s.data ++ [c]).dropWhile isSpace).rdropWhile isSpace⟩ : String) = s
  rw [hs, List.cons_append, List.dropWhile_cons_of_neg (by simp [hc']), ← List.cons_append, ← hs,
    List.rdropWhile_concat_pos _ _ _ hc, List.rdropWhile_eq_self_iff.mpr]
  intro hl
  simp [hlast _ (List.getLast?_eq_getLast _ hl)]

theorem trimSpace_append_newline {s : String} (h : Trimmed s) : trimSpace ⟨s.data ++ ['\n']⟩ = s :=
  trimSpace_append_space h (by decide)

theorem trimSpace_of_trimmed {s : String} (h : Trimmed s) : trimSpace s = s := by
  obtain ⟨hne, hhead, hlast⟩ := h
  obtain ⟨c, cs, hs⟩ := List.exists_cons_of_ne_nil hne
  have hc : isSpace c = false := hhead c (by simp [hs])
  show (⟨(s.data.dropWhile isSpace).rdropWhile isSpace⟩ : String) = s
  rw [hs, List.dropWhile_cons_of_neg (by simp [hc]), ← hs, List.rdropWhile_eq_self_iff.mpr]
  intro hl
  simp [hlast _ (List.getLast?_eq_getLast _ hl)]

theorem flatten_lines : ∀ {lines : List String}, lines ≠ [] →
    (lines.map fun l => l.data ++ ['\n']).flatten = (join lines '\n').data ++ ['\n']
  | [], h => absurd rfl h
  | [l], _ => by simp [join, List.intercalate]
  | l :: l' :: ls, _ => by
    rw [List.map_cons, List.flatten_cons, flatten_lines (List.cons_ne_nil l' ls),
      join_cons_cons_data]
    simp

theorem split_lines : ∀ {lines : List String}, (∀ l ∈ lines, '\n' ∉ l.data) →
    split ⟨(lines.map fun l => l.data ++ ['\n']).flatten⟩ '\n' = lines ++ [""]
  | [], _ => rfl
  | l :: lines, h => by
    have ih := split_lines fun m hm => h m (List.mem_cons_of_mem _ hm)
    simp only [split, List.splitOn, List.map_cons, List.flatten_cons, List.append_assoc,
      List.singleton_append] at ih ⊢
    have hl : ∀ c ∈ l.data, ¬(c == '\n') = true := fun c hc hn =>
      h l (List.mem_cons_self _ _) (beq_iff_eq.mp hn ▸ hc)
    rw [List.splitOnP_first _ l.data hl '\n' (by simp), List.map_cons, ih]
    rfl

/-! ## Reading numbers back -/

theorem digitChar_ten :
    ∀ k, k < 10 → (Nat.digitChar k).isDigit ∧ (Nat.digitChar k).toNat - '0'.toNat = k := by
  decide

theorem toDigitsCore_succ (fuel n : Nat) (ds : List Char) :
    Nat.toDigitsCore 10 (fuel + 1) n ds =
      if n / 10 = 0 then Nat.digitChar (n % 10) :: ds
      else Nat.toDigitsCore 10 fuel (n / 10) (Nat.digitChar (n % 10) :: ds) := rfl

theorem toDigitsCore_ten (fuel n : Nat) (ds : List Char) (hn : n < fuel) :
    ∃ pre, Nat.toDigitsCore 10 fuel n ds = pre ++ ds ∧ pre ≠ [] ∧
      (∀ c ∈ pre, c.isDigit) ∧ digitsValue pre = n := by
  induction fuel generalizing n ds with
  | zero => omega
  | succ fuel ih =>
    obtain ⟨hdig, hval⟩ := digitChar_ten (n % 10) (Nat.mod_lt _ (by decide))
    by_cases h0 : n / 10 = 0
    · refine ⟨[Nat.digitChar (n % 10)], by simp [toDigitsCore_succ, h0], by simp, by simpa, ?_⟩
      simp only [digitsValue, List.foldl, hval]
      omega
    · obtain ⟨pre, heq, hne, hpre, hv⟩ := ih (n / 10) (Nat.digitChar (n % 10) :: ds) (by omega)
      refine ⟨pre ++ [Nat.digitChar (n % 10)], ?_, by simp, ?_, ?_⟩
      · simp [toDigitsCore_succ, h0, heq]
      · simpa [or_imp, forall_and] using ⟨hpre, hdig⟩
      · simp only [digitsValue, List.foldl_append, List.foldl] at hv ⊢
        rw [hv, hval]
        omega

theorem isSpace_of_isDigit {c : Char} (h : c.isDigit) : isSpace c = false := by
  simp only [Char.isDigit, Bool.and_eq_true, decide_eq_true_eq] at h
  have h1 : 48 ≤ c.toNat := h.1
  have h2 : c.toNat ≤ 57 := h.2
  unfold isSpace
  simp only [show c.toNat ≤ 0xFF by omega, if_true, decide_eq_false_iff_not]
  intro hmem
  simp only [List.mem_cons, List.mem_singleton, List.not_mem_nil, or_false] at hmem
  omega

theorem isDigit_of_mem_toString (n : Nat) : ∀ c ∈ (toString n).data, c.isDigit := by
  obtain ⟨pre, heq, -, hdig, -⟩ := toDigitsCore_ten (n + 1) n [] (Nat.lt_succ_self n)
  have hs : (toString n).data = pre := (heq.trans (List.append_nil pre) :)
  exact hs ▸ hdig

theorem token_toString (n : Nat) : Token (toString n) := by
  obtain ⟨pre, heq, hne, hdig, -⟩ := toDigitsCore_ten (n + 1) n [] (Nat.lt_succ_self n)
  have hs : (toString n).data = pre := (heq.trans (List.append_nil pre) :)
  exact ⟨hs ▸ hne, fun c hc => isSpace_of_isDigit (hdig c (hs ▸ hc))⟩

theorem scanInt_of_digits {s : String} {pre rest : List Char} (hs : s.data = pre ++ rest)
    (hpre : pre ≠ []) (hdig : ∀ c ∈ pre, c.isDigit) (hrest : ∀ c ∈ rest.head?, c.isDigit = false)
    (v : Int) : scanInt s v = if InInt64 (digitsValue pre) then (digitsValue pre : Int) else v := by
  obtain ⟨c, cs, rfl⟩ := List.exists_cons_of_ne_nil hpre
  have hsign : scanSign (c :: cs ++ rest) = (false, c :: cs ++ rest) := by
    have hc : c.isDigit = true := hdig c (by simp)
    unfold scanSign
    split <;> first | rfl | (cases ‹c :: _ = _›; exact absurd hc (by decide))
  have htake : (c :: cs ++ rest).takeWhile Char.isDigit = c :: cs := by
    rw [List.takeWhile_append_of_pos hdig]
    cases rest with
    | nil => simp
    | cons r rs => simp [List.takeWhile_cons_of_neg, hrest r rfl]
  simp only [scanInt, hs, hsign, htake]
  simp

theorem sscanfInt_of_digits {s : String} {pre rest : List Char} (hs : s.data = pre ++ rest)
    (hpre : pre ≠ []) (hdig : ∀ c ∈ pre, c.isDigit) (hrest : ∀ c ∈ rest.head?, c.isDigit = false) :
    sscanfInt s = if InInt64 (digitsValue pre) then some (digitsValue pre : Int) else none := by
  obtain ⟨c, cs, rfl⟩ := List.exists_cons_of_ne_nil hpre
  have hc : c.isDigit = true := hdig c (by simp)
  have hdrop : (c :: cs ++ rest).dropWhile (fun c => isSpace c && c != '\n') = c :: cs ++ rest :=
    List.dropWhile_cons_of_neg (by simp [isSpace_of_isDigit hc])
  have hnl : c ≠ '\n' := by
    rintro rfl
    exact absurd hc (by decide)
  have hsign : scanSign (c :: cs ++ rest) = (false, c :: cs ++ rest) := by
    unfold scanSign
    split <;> first | rfl | (cases ‹c :: _ = _›; exact absurd hc (by decide))
  have htake : (c :: cs ++ rest).takeWhile Char.isDigit = c :: cs := by
    rw [List.takeWhile_append_of_pos hdig]
    cases rest with
    | nil => simp
    | cons r rs => simp [List.takeWhile_cons_of_neg, hrest r rfl]
  simp only [sscanfInt, hs, hdrop, List.cons_append, List.head?_cons, Option.some.injEq, hnl,
    if_false, ← List.cons_append, hsign, htake]
  simp [hnl]

theorem sscanfInt_toString {n : Nat} (h : n < 2^63) : sscanfInt (toString n) = some (n : Int) := by
  obtain ⟨pre, heq, hne, hdig, hval⟩ := toDigitsCore_ten (n + 1) n [] (Nat.lt_succ_self n)
  have hs : (toString n).data = pre ++ [] := heq
  rw [sscanfInt_of_digits hs hne hdig (by simp), hval, if_pos ⟨by omega, by omega⟩]

theorem scanInt_toString (n : Nat) (v : Int) :
    scanInt (toString n) v = if (n : Int) < 2^63 then (n : Int) else v := by
  obtain ⟨pre, heq, hne, hdig, hval⟩ := toDigitsCore_ten (n + 1) n [] (Nat.lt_succ_self n)
  have hs : (toString n).data = pre ++ [] := heq
  rw [scanInt_of_digits hs hne hdig (by simp) v, hval]
  unfold InInt64
  congr 1
  exact propext ⟨fun h => h.2, fun h => ⟨by omega, h⟩⟩

end WgMesh.Go
