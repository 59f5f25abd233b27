import Mathlib.Tactic.SplitIfs
import Mathlib.Algebra.Group.Int

/-! # Go's `time` arithmetic

The envelope freshness check computes with Go's `time` package: `time.Unix`,
`Time.Sub`, `Time.Add` and `Time.After`. All four work in `int64`, and each treats
overflow its own way: `Unix` adds its epoch offset and wraps, `Add` saturates, and
`Sub` notices a wrapped difference and saturates it.

The functions are modelled from the Go sources with the `wall`/`ext` packing and
the monotonic reading left out: the times compared here either carry none or are
compared on their wall seconds. The two results everything later rests on:

* `Time.add_sec`, `Time.add_nsec` — `Add` is exact addition, with the seconds
  saturated when they leave `int64`;
* `Time.sub_eq` — `Sub` is the exact difference, clamped to the `Duration` range.
-/

namespace WgMesh.Go

/-! ## `int64` -/

/-- The integers a Go `int64` holds. -/
def InInt64 (x : Int) : Prop := -2^63 ≤ x ∧ x < 2^63

instance (x : Int) : Decidable (InInt64 x) := inferInstanceAs (Decidable (_ ∧ _))

/-- Two's-complement `int64` arithmetic: the exact result modulo `2^64`, read back
as a signed value. -/
def wrap64 (x : Int) : Int := (x + 2^63) % 2^64 - 2^63

theorem wrap64_inInt64 (x : Int) : InInt64 (wrap64 x) := by
  unfold InInt64 wrap64; omega

theorem wrap64_of_inInt64 {x : Int} (h : InInt64 x) : wrap64 x = x := by
  unfold InInt64 at h; unfold wrap64; omega

/-- Wrapping an intermediate result does not change the wrapped final one: the
arithmetic `Sub` does is exact modulo `2^64`. -/
theorem wrap64_duration (a b : Int) :
    wrap64 (wrap64 (wrap64 a * 1000000000) + b) = wrap64 (a * 1000000000 + b) := by
  unfold wrap64; omega

theorem tdiv_second (d : Int) :
    d.tdiv 1000000000 = if 0 ≤ d then d / 1000000000 else -((-d) / 1000000000) := by
  split
  · exact Int.tdiv_eq_ediv ‹_› (by decide)
  · have h := Int.neg_tdiv (-d) 1000000000
    rw [Int.neg_neg] at h
    rw [h, Int.tdiv_eq_ediv (by omega) (by decide)]

theorem tmod_second_bound (d : Int) :
    -1000000000 < d.tmod 1000000000 ∧ d.tmod 1000000000 < 1000000000 := by
  rw [Int.tmod_def, tdiv_second]
  split <;> omega

/-! ## `time.Time` -/

/-- A `time.Time` as `Sub`, `Add`, `Equal`, `Before` and `After` see it: `sec` is the
internal count of seconds since January 1, year 1 (`t.sec()`), and `nsec` the
nanoseconds within that second. -/
structure Time where
  sec : Int
  nsec : Int
  sec_inInt64 : InInt64 sec
  nsec_lt : 0 ≤ nsec ∧ nsec < 1000000000
deriving DecidableEq

/-- `unixToInternal`: seconds from January 1, year 1 to the Unix epoch. -/
def unixToInternal : Int := 62135596800

/-- `time.Unix(sec, 0)`: the internal seconds are `sec + unixToInternal`, added in
`int64`. -/
def unix (sec : Int) : Time :=
  ⟨wrap64 (sec + unixToInternal), 0, wrap64_inInt64 _, by decide⟩

/-- The instant as an exact count of nanoseconds since the internal epoch. -/
def Time.nanos (t : Time) : Int := t.sec * 1000000000 + t.nsec

/-- The instant as an exact count of nanoseconds since the Unix epoch. -/
def Time.unixNanos (t : Time) : Int := t.nanos - unixToInternal * 1000000000

/-- `t.addSec(d)`: adds `d` seconds, and saturates when the `int64` sum wraps (Go's
`(sum > t.ext) == (d > 0)` test). -/
def Time.addSec (t : Time) (d : Int) : Time :=
  let sum := wrap64 (t.sec + d)
  if decide (sum > t.sec) = decide (d > 0) then ⟨sum, t.nsec, wrap64_inInt64 _, t.nsec_lt⟩
  else if d > 0 then ⟨2^63 - 1, t.nsec, by decide, t.nsec_lt⟩
  else ⟨-(2^63 - 1), t.nsec, by decide, t.nsec_lt⟩

/-- `t.Add(d)` for a `Duration` of `d` nanoseconds: whole seconds and remainder by
Go's truncating `/` and `%`, the nanoseconds carried back into `[0, 1e9)`, then
`addSec`. -/
def Time.add (t : Time) (d : Int) : Time :=
  let dsec := d.tdiv 1000000000
  let nsec := t.nsec + d.tmod 1000000000
  have hd := tmod_second_bound d
  have ht := t.nsec_lt
  if h₁ : 1000000000 ≤ nsec then
    Time.addSec ⟨t.sec, nsec - 1000000000, t.sec_inInt64, by omega⟩ (dsec + 1)
  else if h₂ : nsec < 0 then
    Time.addSec ⟨t.sec, nsec + 1000000000, t.sec_inInt64, by omega⟩ (dsec - 1)
  else Time.addSec ⟨t.sec, nsec, t.sec_inInt64, by omega⟩ dsec

/-- `t.Equal(u)`. -/
def Time.equal (t u : Time) : Bool := t.sec == u.sec && t.nsec == u.nsec

/-- `t.Before(u)`. -/
def Time.before (t u : Time) : Bool :=
  decide (t.sec < u.sec) || (t.sec == u.sec && decide (t.nsec < u.nsec))

/-- `t.After(u)`. -/
def Time.after (t u : Time) : Bool :=
  decide (t.sec > u.sec) || (t.sec == u.sec && decide (t.nsec > u.nsec))

/-- `maxDuration`, the largest `Duration`. -/
def maxDuration : Int := 2^63 - 1

/-- `minDuration`, the smallest `Duration`. -/
def minDuration : Int := -2^63

/-- `t.Sub(u)`: the difference computed in `int64`, kept when adding it back to `u`
gives `t`, and otherwise replaced by the saturated value on the side of the true
difference. -/
def Time.sub (t u : Time) : Int :=
  let d := wrap64 (wrap64 (wrap64 (t.sec - u.sec) * 1000000000) + (t.nsec - u.nsec))
  if (u.add d).equal t then d else if t.before u then minDuration else maxDuration

/-! ## What `Add` and `Sub` compute -/

theorem Time.addSec_sec (t : Time) {d : Int} (hd : InInt64 d) :
    (t.addSec d).sec =
      if t.sec + d > 2^63 - 1 then 2^63 - 1
      else if t.sec + d < -2^63 then -(2^63 - 1) else t.sec + d := by
  have ht := t.sec_inInt64
  unfold InInt64 at ht hd
  dsimp only [addSec, wrap64]
  split <;> rename_i h <;> simp only [decide_eq_decide] at h <;> split_ifs <;> dsimp only <;> omega

@[simp] theorem Time.addSec_nsec (t : Time) (d : Int) : (t.addSec d).nsec = t.nsec := by
  dsimp only [addSec]; split_ifs <;> rfl

/-- `Add` is `addSec` of the floor quotient, after carrying the nanoseconds: Go's
truncating split and its two carry branches come to the same thing. -/
theorem Time.add_eq (t : Time) (d : Int) :
    t.add d = Time.addSec
      ⟨t.sec, (t.nsec + d) % 1000000000, t.sec_inInt64, by omega⟩ ((t.nsec + d) / 1000000000) := by
  have hd := tmod_second_bound d
  have hr := Int.tmod_add_tdiv d 1000000000
  have ht := t.nsec_lt
  dsimp only [add]
  split_ifs <;> congr 2 <;> omega

theorem Time.add_sec (t : Time) {d : Int} (hd : InInt64 d) :
    (t.add d).sec =
      if (t.nanos + d) / 1000000000 > 2^63 - 1 then 2^63 - 1
      else if (t.nanos + d) / 1000000000 < -2^63 then -(2^63 - 1)
      else (t.nanos + d) / 1000000000 := by
  have ht := t.nsec_lt
  unfold InInt64 at hd
  have hsum : t.sec + (t.nsec + d) / 1000000000 = (t.nanos + d) / 1000000000 := by
    unfold nanos; omega
  rw [add_eq, addSec_sec _ (by unfold InInt64; omega)]
  simp only [hsum]

theorem Time.add_nsec (t : Time) (d : Int) : (t.add d).nsec = (t.nanos + d) % 1000000000 := by
  rw [add_eq, addSec_nsec]
  dsimp only [nanos]; omega

theorem Time.add_equal_of_nanos {t u : Time} {d : Int} (hd : InInt64 d)
    (h : u.nanos + d = t.nanos) : (u.add d).equal t = true := by
  have hts := t.sec_inInt64
  have htn := t.nsec_lt
  unfold InInt64 at hts
  have hq : t.nanos / 1000000000 = t.sec := by unfold nanos; omega
  have hr : t.nanos % 1000000000 = t.nsec := by unfold nanos; omega
  simp only [equal, Bool.and_eq_true, beq_iff_eq, add_sec _ hd, add_nsec, h]
  split_ifs <;> omega

theorem Time.add_equal_of_not_inInt64 {t u : Time} {d : Int} (hd : InInt64 d)
    (hD : ¬ InInt64 (t.nanos - u.nanos)) : (u.add d).equal t = false := by
  have hts := t.sec_inInt64
  have hus := u.sec_inInt64
  have htn := t.nsec_lt
  have hun := u.nsec_lt
  unfold InInt64 at hts hus hd hD
  rw [Bool.eq_false_iff]
  intro heq
  simp only [equal, Bool.and_eq_true, beq_iff_eq, add_sec _ hd, add_nsec] at heq
  obtain ⟨hsec, hnsec⟩ := heq
  unfold nanos at *
  split_ifs at hsec <;> omega

theorem Time.before_eq (t u : Time) : t.before u = decide (t.nanos < u.nanos) := by
  have htn := t.nsec_lt
  have hun := u.nsec_lt
  rw [Bool.eq_iff_iff]
  simp only [before, nanos, Bool.or_eq_true, Bool.and_eq_true, beq_iff_eq, decide_eq_true_eq]
  omega

theorem Time.sub_eq (t u : Time) :
    t.sub u =
      if t.nanos - u.nanos > maxDuration then maxDuration
      else if t.nanos - u.nanos < minDuration then minDuration else t.nanos - u.nanos := by
  have hdiff : (t.sec - u.sec) * 1000000000 + (t.nsec - u.nsec) = t.nanos - u.nanos := by
    unfold nanos; omega
  have hw := wrap64_inInt64 (t.nanos - u.nanos)
  dsimp only [sub]
  rw [wrap64_duration, hdiff, before_eq]
  by_cases hD : InInt64 (t.nanos - u.nanos)
  · rw [wrap64_of_inInt64 hD, add_equal_of_nanos hD (by omega)]
    unfold InInt64 at hD
    unfold maxDuration minDuration
    simp only [if_true]
    split_ifs <;> omega
  · rw [add_equal_of_not_inInt64 hw hD]
    unfold InInt64 at hD
    unfold maxDuration minDuration
    by_cases hlt : t.nanos < u.nanos <;>
      simp only [hlt, Bool.false_eq_true, decide_True, decide_False, if_true, if_false] <;>
      split_ifs <;> omega

end WgMesh.Go
