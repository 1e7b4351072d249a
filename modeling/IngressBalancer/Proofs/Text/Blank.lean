import IngressBalancer.Text.Blank
/-!
# Trimmed texts

Trimming leaves nothing to trim (`trimChars_trimChars`): what comes first once
the front is trimmed stays first when the end is trimmed, and trimming one end
twice does nothing new.
-/

namespace IngressBalancer

namespace Text

theorem trimBack_trimBack (cs : List Char) : trimBack (trimBack cs) = trimBack cs := by
  induction cs with
  | nil => rfl
  | cons c cs ih =>
    rw [trimBack]
    cases hcs : trimBack cs with
    | nil => cases hc : isBlank c <;> simp [trimBack, hc]
    | cons d ds =>
      rw [hcs] at ih
      dsimp only
      rw [trimBack, ih]

/-- Trimming the end keeps what comes first, unless it is blank. -/
theorem trimBack_cons {c : Char} (hc : isBlank c = false) (cs : List Char) :
    ∃ ds, trimBack (c :: cs) = c :: ds := by
  rw [trimBack]
  cases trimBack cs with
  | nil => exact ⟨[], by simp [hc]⟩
  | cons d ds => exact ⟨d :: ds, rfl⟩

/-- Nothing blank comes first once the front is trimmed. -/
theorem trimFront_eq_nil_or (cs : List Char) :
    trimFront cs = [] ∨ ∃ c ds, trimFront cs = c :: ds ∧ isBlank c = false := by
  induction cs with
  | nil => exact .inl rfl
  | cons c cs ih =>
    rw [trimFront, List.dropWhile_cons]
    split
    · exact ih
    · next hc => exact .inr ⟨c, cs, rfl, by simpa using hc⟩

/-- **Trimming leaves nothing to trim.** -/
theorem trimChars_trimChars (cs : List Char) : trimChars (trimChars cs) = trimChars cs := by
  rw [trimChars, trimChars]
  rcases trimFront_eq_nil_or cs with hnil | ⟨c, ds, hcons, hc⟩
  · rw [hnil]
    rfl
  · obtain ⟨es, hback⟩ := trimBack_cons hc ds
    have hfront : trimFront (c :: es) = c :: es := by simp [trimFront, hc]
    rw [hcons, hback, hfront, ← hback, trimBack_trimBack]

end Text

end IngressBalancer
