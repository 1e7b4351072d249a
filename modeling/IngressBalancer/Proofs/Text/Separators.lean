import IngressBalancer.Text.Fields
import Mathlib.Data.List.Basic
/-!
# Texts that are cut at a separator

A text can be cut in one way only so that what comes before the separator, or
what comes after it, has no other (`append_cons_inj_of_first`,
`append_cons_inj_of_last`). So what follows the last separator of a text is one
text, and `lastPiece` is it (`lastPiece_eq_iff`).
-/

namespace IngressBalancer

namespace Text

section Cut

variable {α : Type} {sep : α} {s t x y : List α}

/-- **A text is cut in one way at its first separator.** -/
theorem append_cons_inj_of_first (hs : sep ∉ s) (ht : sep ∉ t) :
    s ++ sep :: x = t ++ sep :: y ↔ s = t ∧ x = y := by
  constructor
  · intro h
    rcases List.append_eq_append_iff.1 h with ⟨as, rfl, has⟩ | ⟨bs, rfl, hbs⟩
    · cases as with
      | nil => exact ⟨(List.append_nil s).symm, (List.cons_eq_cons.1 has).2⟩
      | cons a as =>
        cases has
        exact absurd (List.mem_append_right s List.mem_cons_self) ht
    · cases bs with
      | nil => exact ⟨List.append_nil t, (List.cons_eq_cons.1 hbs).2.symm⟩
      | cons b bs =>
        cases hbs
        exact absurd (List.mem_append_right t List.mem_cons_self) hs
  · rintro ⟨rfl, rfl⟩
    rfl

/-- And in one way at its last. -/
theorem append_cons_inj_of_last (hx : sep ∉ x) (hy : sep ∉ y) :
    s ++ sep :: x = t ++ sep :: y ↔ s = t ∧ x = y := by
  have hmirror : ∀ s x : List α, (s ++ sep :: x).reverse = x.reverse ++ sep :: s.reverse := by
    intro s x
    rw [List.reverse_append, List.reverse_cons, List.append_assoc, List.singleton_append]
  rw [← List.reverse_inj, hmirror, hmirror,
    append_cons_inj_of_first (mt List.mem_reverse.1 hx) (mt List.mem_reverse.1 hy),
    List.reverse_inj, List.reverse_inj, and_comm]

end Cut

variable {sep : Char} {cs p q : List Char}

/-- Whether a text is what follows the last separator of another, or all of that where it has
none. -/
def IsLastPiece (sep : Char) (cs p : List Char) : Prop :=
  sep ∉ p ∧ (cs = p ∨ ∃ front, cs = front ++ sep :: p)

/-- There is one at most. -/
theorem IsLastPiece.eq (hp : IsLastPiece sep cs p) (hq : IsLastPiece sep cs q) : p = q := by
  obtain ⟨hp, rfl | ⟨front, rfl⟩⟩ := hp
  · rcases hq with ⟨hq, rfl | ⟨front, rfl⟩⟩
    · rfl
    · exact absurd (List.mem_append_right front List.mem_cons_self) hp
  · rcases hq with ⟨hq, rfl | ⟨front', hcs⟩⟩
    · exact absurd (List.mem_append_right front List.mem_cons_self) hq
    · exact ((append_cons_inj_of_last hp hq).1 hcs).2

theorem isLastPiece_lastPiece (sep : Char) (cs : List Char) :
    IsLastPiece sep cs (lastPiece sep cs) := by
  induction cs with
  | nil => exact ⟨List.not_mem_nil, .inl rfl⟩
  | cons c cs ih =>
    rw [lastPiece]
    split
    · next hmem =>
      obtain ⟨hnone, hwhole | ⟨front, hfront⟩⟩ := ih
      · -- no separator comes any more, so it is the first character
        rw [← hwhole] at hnone ⊢
        obtain rfl := (List.mem_cons.1 hmem).resolve_right hnone
        exact ⟨hnone, .inr ⟨[], rfl⟩⟩
      · exact ⟨hnone, .inr ⟨c :: front, by rw [List.cons_append, ← hfront]⟩⟩
    · next hnone => exact ⟨hnone, .inl rfl⟩

/-- **What follows the last separator.** -/
theorem lastPiece_eq_iff : lastPiece sep cs = p ↔ IsLastPiece sep cs p := by
  constructor
  · rintro rfl
    exact isLastPiece_lastPiece sep cs
  · exact (isLastPiece_lastPiece sep cs).eq

end Text

end IngressBalancer
