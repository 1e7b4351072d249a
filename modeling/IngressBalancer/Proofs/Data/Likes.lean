import Mathlib.Data.List.Forall2
/-!
# Likes

Of two lists whose items are pairwise alike, what is in the one has its like in
the other, and likes are found alike (`find?_of_forall₂`). So what is done alike
with two options that are alike comes out alike.
-/

universe u v w x

namespace IngressBalancer

variable {α : Type u} {β : Type v} {γ : Type w} {δ : Type x}
variable {R : α → β → Prop} {S : γ → δ → Prop}
variable {l : List α} {l' : List β} {o : Option α} {o' : Option β}

/-- What is in a list has its like in the other. -/
theorem exists_of_forall₂ (h : List.Forall₂ R l l') {a : α} (ha : a ∈ l) : ∃ a' ∈ l', R a a' := by
  induction h with
  | nil => exact absurd ha List.not_mem_nil
  | cons hab _ ih =>
    rcases List.mem_cons.1 ha with rfl | ha
    · exact ⟨_, List.mem_cons_self, hab⟩
    · obtain ⟨a', ha', hR⟩ := ih ha
      exact ⟨a', List.mem_cons_of_mem _ ha', hR⟩

/-- And what is in the other has its like in this one. -/
theorem exists_of_forall₂_right (h : List.Forall₂ R l l') {b : β} (hb : b ∈ l') :
    ∃ a ∈ l, R a b :=
  exists_of_forall₂ (List.Forall₂.flip (R := flip R) h) hb

/-- Lists with items like those of a third are alike. -/
theorem forall₂_of_common {T : β → γ → Prop} {m : List γ} {S : α → γ → Prop}
    (h : List.Forall₂ R l l') (h' : List.Forall₂ S l m)
    (hT : ∀ a b c, R a b → S a c → T b c) : List.Forall₂ T l' m := by
  induction h generalizing m with
  | nil => rw [List.forall₂_nil_left_iff.1 h']; exact .nil
  | cons hab _ ih =>
    cases h' with
    | cons hac h' => exact .cons (hT _ _ _ hab hac) (ih h')

/-- Likes are found alike. -/
theorem find?_of_forall₂ (h : List.Forall₂ R l l') {p : α → Bool} {q : β → Bool}
    (hpq : ∀ a a', R a a' → q a' = p a) : Option.Rel R (l.find? p) (l'.find? q) := by
  induction h with
  | nil => exact .none
  | @cons a a' l l' hab _ ih =>
    rw [List.find?_cons, List.find?_cons, hpq a a' hab]
    cases p a with
    | true => exact .some hab
    | false => exact ih

/-- What is read alike from likes is the same. -/
theorem map_eq_of_forall₂ (h : List.Forall₂ R l l') {f : α → γ} {f' : β → γ}
    (hf : ∀ a a', R a a' → f a = f' a') : l.map f = l'.map f' := by
  rw [← List.forall₂_eq_eq_eq, List.forall₂_map_left_iff, List.forall₂_map_right_iff]
  exact h.imp hf

theorem rel_map (h : Option.Rel R o o') {f : α → γ} {f' : β → δ}
    (hf : ∀ a a', R a a' → S (f a) (f' a')) : Option.Rel S (o.map f) (o'.map f') := by
  cases h with
  | none => exact .none
  | some h => exact .some (hf _ _ h)

theorem rel_bind (h : Option.Rel R o o') {f : α → Option γ} {f' : β → Option δ}
    (hf : ∀ a a', R a a' → Option.Rel S (f a) (f' a')) :
    Option.Rel S (o.bind f) (o'.bind f') := by
  cases h with
  | none => exact .none
  | some h => exact hf _ _ h

theorem rel_elim (h : Option.Rel R o o') {c : γ} {c' : δ} {f : α → γ} {f' : β → δ} (hc : S c c')
    (hf : ∀ a a', R a a' → S (f a) (f' a')) : S (o.elim c f) (o'.elim c' f') := by
  cases h with
  | none => exact hc
  | some h => exact hf _ _ h

end IngressBalancer
