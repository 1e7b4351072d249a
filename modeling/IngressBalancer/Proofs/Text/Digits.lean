import IngressBalancer.Text.Digits
import Mathlib.Data.Nat.Digits.Lemmas
/-!
# Digits that are written are read back

A number is written in digits alone, at least one of them, and the first is
a zero only for zero (`eq_zero_of_showNat`); reading them gives the number
again (`decimalFrom_showNat`), so no two numbers are written alike
(`showInt_injective`). A run of digits, as any run, ends where a text goes on
with something else (`span_append`).
-/

namespace IngressBalancer

namespace Text

variable {c : Char} {cs ds : List Char} {n : Nat}

theorem showNat_ne_nil (n : Nat) : showNat n ≠ [] := Nat.toDigits_ne_nil

theorem isDigit_of_mem_showNat (h : c ∈ showNat n) : isDigit c = true :=
  Nat.isDigit_of_mem_toDigits (by decide) (by decide) h

/-- **Reading what is written gives the number.** -/
theorem decimalFrom_showNat (n : Nat) : decimalFrom 0 (showNat n) = n :=
  Nat.ofDigitChars_toDigits (by decide) (by decide)

/-- Only zero is written with a zero in front, and with nothing behind it. -/
theorem eq_zero_of_showNat (h : showNat n = '0' :: ds) : n = 0 ∧ ds = [] := by
  induction n using Nat.strongRecOn generalizing ds with
  | ind n ih =>
    rw [showNat, Nat.toDigits_eq_if (by decide)] at h
    split at h
    · next hlt =>
      obtain ⟨hd, rfl⟩ := List.cons_eq_cons.1 h
      have hzero : ∀ m < 10, Nat.digitChar m = '0' → m = 0 := by decide
      exact ⟨hzero n hlt hd, rfl⟩
    · next hge =>
      -- what stands before the last digit is a number other than zero
      obtain ⟨d, ds', hds⟩ := List.exists_cons_of_ne_nil (showNat_ne_nil (n / 10))
      rw [showNat] at hds
      rw [hds, List.cons_append] at h
      obtain ⟨rfl, -⟩ := List.cons_eq_cons.1 h
      have := (ih (n / 10) (by omega) hds).1
      omega

/-- A number starts with a digit. -/
theorem exists_showNat (n : Nat) : ∃ c cs, showNat n = c :: cs ∧ isDigit c = true := by
  obtain ⟨c, cs, h⟩ := List.exists_cons_of_ne_nil (showNat_ne_nil n)
  exact ⟨c, cs, h, isDigit_of_mem_showNat (h ▸ List.mem_cons_self)⟩

theorem showNat_injective {n m : Nat} (h : showNat n = showNat m) : n = m := by
  rw [← decimalFrom_showNat n, h, decimalFrom_showNat]

theorem mem_showInt {i : Int} (h : c ∈ showInt i) : c = '-' ∨ isDigit c = true := by
  cases i with
  | ofNat n => exact .inr (isDigit_of_mem_showNat h)
  | negSucc n => exact (List.mem_cons.1 h).imp_right isDigit_of_mem_showNat

/-- **Different numbers are written differently.** The sign tells the negative ones. -/
theorem showInt_injective {i j : Int} (h : showInt i = showInt j) : i = j := by
  have hsign : ∀ n ds, showNat n ≠ '-' :: ds := fun n ds hds =>
    absurd (isDigit_of_mem_showNat (hds ▸ List.mem_cons_self)) (by decide)
  cases i with
  | ofNat n =>
    cases j with
    | ofNat m => exact congrArg Int.ofNat (showNat_injective h)
    | negSucc m => exact absurd h (hsign n _)
  | negSucc n =>
    cases j with
    | ofNat m => exact absurd h.symm (hsign m _)
    | negSucc m =>
      have hsucc := showNat_injective (List.cons_inj_right '-' |>.1 h)
      rw [Nat.succ_inj.1 hsucc]

/-- **A run of characters that pass a test ends where one comes that does not.** -/
theorem span_append {p : Char → Bool} (hds : ∀ c ∈ ds, p c = true)
    (hcs : ∀ c ∈ cs.head?, p c = false) :
    (ds ++ cs).takeWhile p = ds ∧ (ds ++ cs).dropWhile p = cs := by
  have hnone : cs.takeWhile p = [] ∧ cs.dropWhile p = cs := by
    cases cs with
    | nil => exact ⟨rfl, rfl⟩
    | cons c cs => simp [hcs c rfl]
  rw [List.takeWhile_append_of_pos hds, List.dropWhile_append_of_pos hds, hnone.1, hnone.2]
  exact ⟨List.append_nil ds, rfl⟩

end Text

end IngressBalancer
