import IngressBalancer.Time.Span
/-!
# Retry policies

How long to wait after a failure and when to give up. The delay doubles
with each attempt, for the first five, and never exceeds a cap; products
that do not fit into 64 bits stand at the largest number that does.
-/

namespace IngressBalancer

namespace Retry

/-- The product, or the largest 64-bit number where the product is larger. -/
def saturatingMul (x y : UInt64) : UInt64 :=
  if x.toNat * y.toNat < UInt64.size then x * y else UInt64.ofNat (UInt64.size - 1)

/-- Seconds to wait before retry number `attempt`, counted from zero. -/
def backoffSecs (attempt : UInt32) (base max : UInt64) : UInt64 :=
  min (saturatingMul base (UInt64.ofNat (Nat.pow 2 (min attempt 5).toNat))) max

/-- The wait before retry number `attempt`, from fifteen seconds up to five minutes where no
base or cap is given. -/
def backoff (attempt : UInt32) (base max : Option UInt64) : Span :=
  Span.ofSecs (backoffSecs attempt (base.getD 15) (max.getD 300)).toNat

end Retry

/-- When a failed resource is tried again, and after how many failures no longer. -/
structure RetryPolicy where
  baseDelaySecs : UInt64
  maxDelaySecs : UInt64
  maxFailures : UInt32
deriving DecidableEq, Repr

namespace RetryPolicy

/-- Fifteen seconds, doubling up to five minutes, ten failures. -/
def standard : RetryPolicy := ⟨15, 300, 10⟩

instance : Inhabited RetryPolicy := ⟨standard⟩

/-- The wait after a number of consecutive failures. -/
def delayAfter (p : RetryPolicy) (failures : UInt32) : Span :=
  Retry.backoff (if failures = 0 then 0 else failures - 1) (some p.baseDelaySecs)
    (some p.maxDelaySecs)

end RetryPolicy

end IngressBalancer
