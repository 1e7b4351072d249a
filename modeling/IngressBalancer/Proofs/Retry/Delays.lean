import IngressBalancer.Retry.Policy
import Mathlib.Algebra.Order.Ring.Nat
/-!
# How long the waits are

The wait that doubles with each attempt up to a cap (`Retry.doubled`), and the
wait of a policy beside it. No step of the computation wraps around: the power
fits, and a product that stands at the largest number is beyond any cap. So a
wait is the one that doubles, but for no more than five attempts
(`Retry.toNat_backoffSecs`). It never gets shorter from one failure to the
next; and it goes on doubling until it reaches the cap exactly where five
doublings reach the cap (`RetryPolicy.delays_double`).
-/

namespace IngressBalancer

namespace Retry

variable {base cap n m k : Nat}

/-- The base after `n` doublings, or the cap where that is less. -/
def doubled (base cap n : Nat) : Nat := min (base * 2 ^ n) cap

theorem doubled_mono (h : n ≤ m) : doubled base cap n ≤ doubled base cap m :=
  min_le_min_right cap (Nat.mul_le_mul_left base (Nat.pow_le_pow_right (by decide) h))

/-- One more doubling doubles, up to the cap. -/
theorem doubled_succ : doubled base cap (n + 1) = min (2 * doubled base cap n) cap := by
  have hpow : base * 2 ^ (n + 1) = 2 * (base * 2 ^ n) := by
    rw [Nat.pow_succ, ← Nat.mul_assoc, Nat.mul_comm]
  rw [doubled, doubled, hpow]
  omega

theorem doubled_eq_cap_iff : doubled base cap n = cap ↔ cap ≤ base * 2 ^ n := by
  rw [doubled, min_eq_right_iff]

/-- **An end to the doublings is no matter** where it is not reached, or what it leaves is the cap
already; or there is nothing to double. -/
theorem doubled_min_eq_iff :
    doubled base cap (min n k) = doubled base cap n ↔ n ≤ k ∨ base = 0 ∨ cap ≤ base * 2 ^ k := by
  rcases Nat.lt_or_ge k n with hk | hn
  · rw [min_eq_right (Nat.le_of_lt hk)]
    have hmore : min (2 * doubled base cap k) cap ≤ doubled base cap n :=
      doubled_succ ▸ doubled_mono hk
    have hless : doubled base cap n ≤ cap := min_le_right _ _
    constructor
    · intro hsame
      -- what one more doubling leaves as it is, is the cap or nothing
      have hend : doubled base cap k = cap ∨ doubled base cap k = 0 := by omega
      rcases Nat.eq_zero_or_pos base with hzero | hpos
      · exact .inr (.inl hzero)
      · have hpower : 0 < base * 2 ^ k := Nat.mul_pos hpos (Nat.two_pow_pos k)
        rw [doubled] at hend
        exact .inr (.inr (by omega))
    · rintro (hn | rfl | hcap)
      · exact absurd hn (Nat.not_le_of_lt hk)
      · simp only [doubled, Nat.zero_mul]
      · have hreached := doubled_eq_cap_iff.2 hcap
        omega
  · rw [min_eq_left hn]
    exact iff_of_true rfl (.inl hn)

/-! ## Machine numbers -/

/-- The power that a base is multiplied with fits. -/
theorem toNat_factor (attempt : UInt32) :
    (UInt64.ofNat (Nat.pow 2 (min attempt 5).toNat)).toNat = 2 ^ min attempt.toNat 5 := by
  have hmin : (min attempt 5).toNat = min attempt.toNat 5 := UInt32.toNat_min attempt 5
  have hpow : 2 ^ min attempt.toNat 5 ≤ 2 ^ 5 :=
    Nat.pow_le_pow_right (by decide) (min_le_right _ _)
  rw [hmin]
  exact UInt64.toNat_ofNat_of_lt' (Nat.lt_of_le_of_lt hpow (by decide))

/-- A product is exact, or the largest number there is. -/
theorem toNat_saturatingMul (x y : UInt64) :
    (saturatingMul x y).toNat = min (x.toNat * y.toNat) (UInt64.size - 1) := by
  unfold saturatingMul
  split
  · next h =>
    rw [UInt64.toNat_mul, Nat.mod_eq_of_lt h]
    omega
  · next h =>
    rw [UInt64.toNat_ofNat_of_lt' (by decide)]
    omega

/-- **In seconds, a wait is the base, doubled with each of the first five attempts**, or the cap. -/
theorem toNat_backoffSecs (attempt : UInt32) (base cap : UInt64) :
    (backoffSecs attempt base cap).toNat =
      doubled base.toNat cap.toNat (min attempt.toNat 5) := by
  have hmin : ∀ x y : UInt64, (min x y).toNat = min x.toNat y.toNat := UInt64.toNat_min
  have hcap : cap.toNat < UInt64.size := cap.toNat_lt
  rw [backoffSecs, hmin, toNat_saturatingMul, toNat_factor, doubled]
  -- a product that does not fit is beyond the cap, which does
  omega

theorem backoff_eq (attempt : UInt32) (base cap : Option UInt64) :
    backoff attempt base cap =
      Span.ofSecs (doubled (base.getD 15).toNat (cap.getD 300).toNat (min attempt.toNat 5)) := by
  rw [backoff, toNat_backoffSecs]

end Retry

namespace Span

variable {n m : Nat}

theorem ofSecs_inj : ofSecs n = ofSecs m ↔ n = m := Nat.mul_left_inj (by decide)

theorem ofSecs_le_ofSecs : ofSecs n ≤ ofSecs m ↔ n ≤ m := Nat.mul_le_mul_right_iff (by decide)

theorem ofSecs_min : ofSecs (min n m) = min (ofSecs n) (ofSecs m) :=
  (Nat.mul_min_mul_right n m _).symm

theorem ofSecs_two_mul : ofSecs (2 * n) = 2 * ofSecs n := Nat.mul_assoc 2 n _

end Span

namespace RetryPolicy

open Retry

/-- The base in seconds. -/
def base (p : RetryPolicy) : Nat := p.baseDelaySecs.toNat

/-- The cap in seconds. -/
def cap (p : RetryPolicy) : Nat := p.maxDelaySecs.toNat

/-- How the waits of a policy go on from one failure to the next. -/
structure Waits (p : RetryPolicy) : Prop where
  increasing : ∀ f f', f ≤ f' → p.delayAfter f ≤ p.delayAfter f'
  /-- One failure more doubles the wait, up to the cap. -/
  doubling : ∀ f f' : UInt32, 0 < f → f'.toNat = f.toNat + 1 →
    (p.delayAfter f' = min (2 * p.delayAfter f) (Span.ofSecs p.cap) ↔
      f.toNat ≤ 5 ∨ p.base = 0 ∨ p.cap ≤ p.base * 2 ^ 5)
  reaching : (∃ f, p.delayAfter f = Span.ofSecs p.cap) ↔ p.cap ≤ p.base * 2 ^ 5
  staying : ∀ f f', f ≤ f' → p.delayAfter f = Span.ofSecs p.cap →
    p.delayAfter f' = Span.ofSecs p.cap

/-- The first failure is followed by no doubling, and the sixth by the last one. -/
theorem delayAfter_eq (p : RetryPolicy) (f : UInt32) :
    p.delayAfter f = Span.ofSecs (doubled p.base p.cap (min (f.toNat - 1) 5)) := by
  have hbefore : (if f = 0 then 0 else f - 1).toNat = f.toNat - 1 := by
    split
    · next h => rw [h]; rfl
    · next h =>
      have hpos : f.toNat ≠ 0 := fun hzero => h (UInt32.toNat_inj.1 hzero)
      exact UInt32.toNat_sub_of_le _ _ (UInt32.le_iff_toNat_le.2 (Nat.pos_of_ne_zero hpos))
  rw [delayAfter, backoff_eq, hbefore]
  rfl

variable {p : RetryPolicy} {f f' : UInt32}

theorem delayAfter_mono (h : f ≤ f') : p.delayAfter f ≤ p.delayAfter f' := by
  have hle : f.toNat ≤ f'.toNat := UInt32.le_iff_toNat_le.1 h
  rw [delayAfter_eq, delayAfter_eq, Span.ofSecs_le_ofSecs]
  exact doubled_mono (by omega)

theorem delayAfter_le_cap : p.delayAfter f ≤ Span.ofSecs p.cap := by
  rw [delayAfter_eq, Span.ofSecs_le_ofSecs]
  exact min_le_right _ _

/-- **A wait is the double of the one before** as long as five doublings are not over, or where
more of them make no difference. -/
theorem delayAfter_succ_iff (hf : 0 < f) (hnext : f'.toNat = f.toNat + 1) :
    p.delayAfter f' = min (2 * p.delayAfter f) (Span.ofSecs p.cap) ↔
      f.toNat ≤ 5 ∨ p.base = 0 ∨ p.cap ≤ p.base * 2 ^ 5 := by
  have hpos : 0 < f.toNat := UInt32.lt_iff_toNat_lt.1 hf
  have hdouble : min (2 * p.delayAfter f) (Span.ofSecs p.cap) =
      Span.ofSecs (doubled p.base p.cap (min (f.toNat - 1) 5 + 1)) := by
    rw [delayAfter_eq, doubled_succ, Span.ofSecs_min, Span.ofSecs_two_mul]
  -- the next wait has the same doublings as the double of this one, up to five
  have hend : min (f'.toNat - 1) 5 = min (min (f.toNat - 1) 5 + 1) 5 := by omega
  rw [delayAfter_eq, hdouble, Span.ofSecs_inj, hend, doubled_min_eq_iff]
  exact or_congr_left (by omega)

/-- **Some wait is as long as the cap** exactly where five doublings reach it. -/
theorem exists_delayAfter_eq_cap_iff :
    (∃ f, p.delayAfter f = Span.ofSecs p.cap) ↔ p.cap ≤ p.base * 2 ^ 5 := by
  simp only [delayAfter_eq, Span.ofSecs_inj, doubled_eq_cap_iff]
  constructor
  · rintro ⟨f, hf⟩
    have hpower : 2 ^ min (f.toNat - 1) 5 ≤ 2 ^ 5 :=
      Nat.pow_le_pow_right (by decide) (min_le_right _ _)
    exact hf.trans (Nat.mul_le_mul_left _ hpower)
  · exact fun h => ⟨6, h⟩

theorem waits (p : RetryPolicy) : p.Waits where
  increasing _ _ := delayAfter_mono
  doubling _ _ := delayAfter_succ_iff
  reaching := exists_delayAfter_eq_cap_iff
  staying _ _ hle h := Nat.le_antisymm delayAfter_le_cap (h ▸ delayAfter_mono hle)

/-- **Waits double up to the cap, for five failures.** In exact numbers a wait is the base, doubled
with each attempt but no more than five times, and at most the cap; the power fits, and a
product that does not is the largest number there is. So a wait is the one that doubles
with every attempt exactly where no more than five doublings are asked for, or five reach the
cap, or there is nothing to double. The waits of a policy never get shorter; from one failure
to the next they double up to the cap in the same cases; and they reach the cap, and stay
there, exactly where five doublings do. -/
theorem delays_double (p : RetryPolicy) (attempt : UInt32) (base? cap? : Option UInt64) :
    let base := (base?.getD 15).toNat
    let cap := (cap?.getD 300).toNat
    (UInt64.ofNat (Nat.pow 2 (min attempt 5).toNat)).toNat = 2 ^ min attempt.toNat 5 ∧
    (∀ x y : UInt64,
      (saturatingMul x y).toNat = min (x.toNat * y.toNat) (UInt64.size - 1)) ∧
    backoff attempt base? cap? = Span.ofSecs (doubled base cap (min attempt.toNat 5)) ∧
    (backoff attempt base? cap? = Span.ofSecs (doubled base cap attempt.toNat) ↔
      attempt.toNat ≤ 5 ∨ base = 0 ∨ cap ≤ base * 2 ^ 5) ∧
    p.Waits := by
  intro base cap
  refine ⟨toNat_factor attempt, toNat_saturatingMul, backoff_eq attempt base? cap?, ?_, waits p⟩
  rw [backoff_eq, Span.ofSecs_inj, doubled_min_eq_iff]

/-- The standard policy reaches its cap of five minutes with the sixth failure, and doubles all the
way. -/
theorem delays_double_standard :
    standard.cap ≤ standard.base * 2 ^ 5 ∧ (2 : UInt32) ≤ 3 ∧ (6 : UInt32) ≤ 50 ∧
    standard.delayAfter 2 ≤ standard.delayAfter 3 ∧
    standard.delayAfter 3 = min (2 * standard.delayAfter 2) (Span.ofSecs 300) ∧
    standard.delayAfter 6 = Span.ofSecs 300 ∧ standard.delayAfter 50 = Span.ofSecs 300 := by
  obtain ⟨-, -, -, -, hwaits⟩ := delays_double standard 2 none none
  have hcap : standard.cap ≤ standard.base * 2 ^ 5 := by decide
  have hsixth : standard.delayAfter 6 = Span.ofSecs standard.cap := by decide
  exact ⟨hcap, by decide, by decide, hwaits.increasing 2 3 (by decide),
    (hwaits.doubling 2 3 (by decide) rfl).2 (.inr (.inr hcap)), hsixth,
    hwaits.staying 6 50 (by decide) hsixth⟩

/-- **From a second, and with an hour for the cap**, the seventh failure is followed by the wait of
the sixth, where one more doubling makes twice as much. -/
theorem seventh_wait_stands :
    let p : RetryPolicy := ⟨1, 3600, 10⟩
    p.delayAfter 6 = Span.ofSecs 32 ∧ p.delayAfter 7 = Span.ofSecs 32 ∧
    backoff 6 (some 1) (some 3600) = Span.ofSecs 32 ∧ doubled 1 3600 6 = 64 := by
  decide

end RetryPolicy

end IngressBalancer
