/-!
# Rounding

A quotient of natural numbers to the nearest whole number, a half going to
the even neighbour. The result is within half a unit (`roundEven_near`).
-/

namespace IngressBalancer

namespace Decimal

/-- `num / den` to the nearest whole number; of two equally near ones, the even one. -/
def roundEven (num den : Nat) : Nat :=
  let q := num / den
  let r := num % den
  if den < 2 * r || (2 * r = den && q % 2 = 1) then q + 1 else q

/-- The rounded quotient is within half a unit of the exact one. -/
theorem roundEven_near {num den : Nat} (hd : 0 < den) :
    2 * num ≤ (2 * roundEven num den + 1) * den ∧ 2 * roundEven num den * den ≤ 2 * num + den := by
  have h := Nat.div_add_mod num den
  have hm : (2 * (num / den) + 1) * den = 2 * (den * (num / den)) + den := by
    rw [Nat.add_mul, Nat.mul_assoc, Nat.mul_comm (num / den), Nat.one_mul]
  have hk : 2 * (num / den) * den = 2 * (den * (num / den)) := by
    rw [Nat.mul_assoc, Nat.mul_comm (num / den)]
  unfold roundEven
  have hr : num % den < den := Nat.mod_lt _ hd
  dsimp only
  split
  next hc =>
    have hc : den ≤ 2 * (num % den) := by
      simp only [Bool.or_eq_true, decide_eq_true_eq, Bool.and_eq_true] at hc
      omega
    have h1 : (2 * (num / den + 1) + 1) * den = 2 * (den * (num / den)) + 3 * den := by
      rw [show 2 * (num / den + 1) + 1 = 2 * (num / den) + 3 by omega, Nat.add_mul, hk]
    have h2 : 2 * (num / den + 1) * den = 2 * (den * (num / den)) + 2 * den := by
      rw [show 2 * (num / den + 1) = 2 * (num / den) + 2 by omega, Nat.add_mul, hk]
    rw [h1, h2]
    omega
  next hc =>
    have hc : 2 * (num % den) ≤ den := by
      simp only [Bool.or_eq_true, decide_eq_true_eq, not_or] at hc
      omega
    rw [hm, hk]
    omega

end Decimal

end IngressBalancer
