import IngressBalancer.Settings.Stem
/-!
# Stems that pass

A text passes as a stem exactly where it has one to eleven characters, each a
lower-case ASCII letter or a digit (`Stem.validate_eq_ok_iff`). A stem that is derived
from the name of a cluster has no other characters and no more of them, whatever
the name; so it passes unless it is empty (`Stem.validate_derive`). Deriving a
second time changes nothing (`Stem.derive_derive`).
-/

namespace IngressBalancer

/-- Whether a text is a stem: one to eleven lower-case ASCII letters and digits. -/
structure IsStem (stem : String) : Prop where
  ne_nil : stem.toList ≠ []
  length_le : stem.toList.length ≤ 11
  allowed : ∀ c ∈ stem.toList, Stem.isAllowed c = true

namespace Stem

variable {c : Char} {cs : List Char} {stem : String}

/-! ## Characters -/

theorem isAllowed_iff : isAllowed c = true ↔
    97 ≤ c.toNat ∧ c.toNat ≤ 122 ∨ 48 ≤ c.toNat ∧ c.toNat ≤ 57 := by
  simp only [isAllowed, Text.isDigit, Bool.or_eq_true, Bool.and_eq_true, decide_eq_true_eq,
    Char.le_def, UInt32.le_iff_toNat_le]
  exact Iff.rfl

/-- The allowed characters are ASCII, so each takes one byte. -/
theorem utf8Size_of_isAllowed (h : isAllowed c = true) : c.utf8Size = 1 := by
  have hle : c.toNat ≤ 127 := by
    rw [isAllowed_iff] at h
    omega
  exact Char.utf8Size_eq_one_iff.2 (UInt32.le_iff_toNat_le.2 hle)

theorem toNat_toLower (h : 65 ≤ c.toNat) (h' : c.toNat ≤ 90) :
    c.toLower.toNat = c.toNat + 32 := by
  have hupper : c.val ≥ 'A'.val ∧ c.val ≤ 'Z'.val := ⟨h, h'⟩
  have hsum : c.toLower.toNat = (c.toNat + 32) % 4294967296 := by
    unfold Char.toLower
    rw [dif_pos hupper]
    exact UInt32.toNat_add c.val 32
  omega

/-- **Lower case keeps to the allowed characters**, one for each character at the most. -/
theorem lowerAllowed_spec (c : Char) :
    (∀ d ∈ lowerAllowed c, isAllowed d = true) ∧ (lowerAllowed c).length ≤ 1 := by
  unfold lowerAllowed
  split
  · next h => simpa using h
  split
  · next h =>
    simp only [Bool.and_eq_true, decide_eq_true_eq, Char.le_def, UInt32.le_iff_toNat_le] at h
    have hlower := toNat_toLower h.1 h.2
    obtain ⟨hleast, hmost⟩ : 65 ≤ c.toNat ∧ c.toNat ≤ 90 := h
    have hallowed : isAllowed c.toLower = true := isAllowed_iff.2 (.inl (by omega))
    simpa using hallowed
  split
  · simp [isAllowed]
  split
  · simp [isAllowed]
  · simp

/-- Allowed characters are in lower case already. -/
theorem flatMap_lowerAllowed (h : ∀ c ∈ cs, isAllowed c = true) : cs.flatMap lowerAllowed = cs := by
  induction cs with
  | nil => rfl
  | cons c cs ih =>
    rw [List.flatMap_cons, ih fun d hd => h d (List.mem_cons_of_mem c hd), lowerAllowed,
      if_pos (h c List.mem_cons_self)]
    rfl

theorem length_flatMap_lowerAllowed_le (cs : List Char) :
    (cs.flatMap lowerAllowed).length ≤ cs.length := by
  induction cs with
  | nil => exact Nat.le_refl 0
  | cons c cs ih =>
    have hone := (lowerAllowed_spec c).2
    rw [List.flatMap_cons, List.length_append, List.length_cons]
    omega

/-! ## Texts -/

/-- A text of allowed characters takes one byte for each of them. -/
theorem utf8ByteSize_of_allowed (h : ∀ c ∈ stem.toList, isAllowed c = true) :
    stem.utf8ByteSize = stem.toList.length := by
  have hlen : ∀ cs : List Char, (∀ c ∈ cs, isAllowed c = true) →
      (String.ofList cs).utf8ByteSize = cs.length := by
    intro cs hcs
    induction cs with
    | nil => rfl
    | cons c cs ih =>
      rw [String.ofList_cons, String.utf8ByteSize_append, String.utf8ByteSize_singleton,
        utf8Size_of_isAllowed (hcs c List.mem_cons_self),
        ih fun d hd => hcs d (List.mem_cons_of_mem c hd), List.length_cons, Nat.add_comm]
  rw [← hlen _ h, String.ofList_toList]

/-- **What passes is a stem.** -/
theorem validate_eq_ok_iff : validate stem = .ok () ↔ IsStem stem := by
  have hempty : stem.isEmpty = true ↔ stem.toList = [] := by
    rw [String.isEmpty_iff, String.toList_eq_nil_iff]
  unfold validate
  by_cases hall : stem.toList.all isAllowed = true
  · have hsize := utf8ByteSize_of_allowed (List.all_eq_true.1 hall)
    rw [hall, hsize]
    simp only [Bool.not_true, Bool.false_eq_true, if_false]
    split
    · next hlong => exact ⟨nofun, fun h => absurd h.length_le (Nat.not_le.2 hlong)⟩
    split
    · next hnil => exact ⟨nofun, fun h => absurd (hempty.1 hnil) h.ne_nil⟩
    · next hlong hnil =>
      exact ⟨fun _ => ⟨fun h => hnil (hempty.2 h), Nat.not_lt.1 hlong, List.all_eq_true.1 hall⟩,
        fun _ => rfl⟩
  · rw [Bool.not_eq_true] at hall
    rw [hall]
    refine ⟨nofun, fun h => ?_⟩
    rw [List.all_eq_true.2 h.allowed] at hall
    cases hall

/-- A derived stem has allowed characters alone. -/
theorem derive_allowed (name : String) : ∀ c ∈ (derive name).toList, isAllowed c = true := by
  intro c hc
  rw [derive, String.toList_ofList] at hc
  obtain ⟨d, -, hc⟩ := List.mem_flatMap.1 hc
  exact (lowerAllowed_spec d).1 c hc

/-- A derived stem has eleven characters at the most. -/
theorem length_derive_le (name : String) : (derive name).toList.length ≤ 11 := by
  rw [derive, String.toList_ofList]
  exact Nat.le_trans (length_flatMap_lowerAllowed_le _) (List.length_take_le _ _)

/-- **A derived stem passes unless it is empty.** -/
theorem validate_derive (name : String) :
    validate (derive name) = if derive name = "" then .error .stemEmpty else .ok () := by
  split
  · next h => rw [h]; rfl
  · next h =>
    exact validate_eq_ok_iff.2 ⟨fun hnil => h (String.toList_eq_nil_iff.1 hnil),
      length_derive_le name, derive_allowed name⟩

/-- **A derived stem is its own stem.** -/
theorem derive_derive (name : String) : derive (derive name) = derive name := by
  have htake : (derive name).toList.take maxStemLength = (derive name).toList :=
    List.take_of_length_le (length_derive_le name)
  rw [derive, htake, flatMap_lowerAllowed (derive_allowed name), String.ofList_toList]

end Stem

end IngressBalancer
