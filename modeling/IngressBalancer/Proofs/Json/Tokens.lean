import IngressBalancer.Json.Printer
import IngressBalancer.Json.Reader
import IngressBalancer.Proofs.Text.Digits
/-!
# Strings and numbers that are written are read back

The two tokens of JSON with an inside. A string is written between quotes,
character by character, each read back from what is written for it
(`readPieces_escapeChar`); a number is written in digits, which end where
the text goes on with a comma or a closing bracket (`Delimited`). With
`readString_renderString` and `readNumber_render` no other proof looks at an
escape or a digit.
-/

namespace IngressBalancer

namespace Json

variable {c : Char} {cs rest : List Char} {n : Nat}

/-! ## Strings -/

/-- What a reader makes of one written character: a control character
without a short escape comes back as the code unit of its escape. -/
def pieceOf (c : Char) : Piece :=
  if c.toNat < 32 ∧ c ≠ '\n' ∧ c ≠ '\r' ∧ c ≠ '\t' ∧ c.toNat ≠ 8 ∧ c.toNat ≠ 12 then
    .unit c.toNat
  else .char c

/-- An escape by number gives the number. -/
theorem hexUnit?_digitChar : ∀ n < 32,
    hexUnit? '0' '0' (Nat.digitChar (n / 16)) (Nat.digitChar (n % 16)) = some n := by
  decide

/-- **A character is read from what is written for it.** -/
theorem readPieces_escapeChar (c : Char) (cs : List Char) :
    readPieces (escapeChar c ++ cs) =
      (readPieces cs).map fun p => (pieceOf c :: p.1, p.2) := by
  have hmap : ∀ p : Piece, ((readPieces cs).bind fun q => some (p :: q.1, q.2)) =
      (readPieces cs).map fun q => (p :: q.1, q.2) := fun p => Option.map_eq_bind.symm
  by_cases h8 : c.toNat = 8
  · obtain rfl : c = '\x08' := (Char.ofNat_toNat c).symm.trans (congrArg Char.ofNat h8)
    exact hmap _
  by_cases h12 : c.toNat = 12
  · obtain rfl : c = '\x0c' := (Char.ofNat_toNat c).symm.trans (congrArg Char.ofNat h12)
    exact hmap _
  rw [escapeChar]
  split_ifs with hq hs hn hr ht hlt
  · subst hq; exact hmap _
  · subst hs; exact hmap _
  · subst hn; exact hmap _
  · subst hr; exact hmap _
  · subst ht; exact hmap _
  · have hpiece : pieceOf c = .unit c.toNat := if_pos ⟨hlt, hn, hr, ht, h8, h12⟩
    rw [hpiece, List.cons_append, List.cons_append, List.cons_append, List.cons_append,
      List.cons_append, List.cons_append, List.nil_append, readPieces,
      hexUnit?_digitChar _ hlt]
    exact hmap _
  · have hpiece : pieceOf c = .char c := if_neg fun h => hlt h.1
    rw [hpiece, List.cons_append, List.nil_append,
      readPieces.eq_5 _ _ hq (fun _ _ _ _ _ h => absurd h hs) (fun _ _ h => absurd h hs),
      if_neg (by simp [hlt, hs])]
    exact hmap _

theorem readPieces_flatMap (cs rest : List Char) :
    readPieces (cs.flatMap escapeChar ++ '"' :: rest) = some (cs.map pieceOf, rest) := by
  induction cs with
  | nil => rfl
  | cons c cs ih =>
    rw [List.flatMap_cons, List.append_assoc, readPieces_escapeChar, ih]
    rfl

/-- A code unit that is no half of a pair is a character by itself. -/
theorem joinPieces_unit {ps : List Piece} (h : n < 32) :
    joinPieces (.unit n :: ps) = (joinPieces ps).map (Char.ofNat n :: ·) := by
  have hopens : opensPair n = false := by simp only [opensPair]; grind
  have hcloses : closesPair n = false := by simp only [closesPair]; grind
  match ps with
  | .unit l :: ps => simp only [joinPieces, hopens, hcloses, Bool.false_eq_true, if_false]
  | [] | .char _ :: _ =>
    simp only [joinPieces, hopens, hcloses, Bool.or_false, Bool.false_eq_true, if_false]

theorem joinPieces_map (cs : List Char) : joinPieces (cs.map pieceOf) = some cs := by
  induction cs with
  | nil => rfl
  | cons c cs ih =>
    rw [List.map_cons, pieceOf]
    split
    · next h => rw [joinPieces_unit h.1, ih, Char.ofNat_toNat]; rfl
    · rw [joinPieces, ih]; rfl

/-- **A string is read from what is written for it**, up to its closing quote. -/
theorem readString_renderString (s : String) (rest : List Char) :
    ∃ cs, renderString s ++ rest = '"' :: cs ∧ readString cs = some (some s, rest) := by
  refine ⟨s.toList.flatMap escapeChar ++ '"' :: rest, by simp [renderString], ?_⟩
  rw [readString, readPieces_flatMap, Option.map_some, joinPieces_map, Option.map_some,
    String.ofList_toList]

/-! ## Numbers -/

/-- A text that goes on after a value: with a comma or a closing bracket, if at all. -/
def Delimited (cs : List Char) : Prop := ∀ c ∈ cs.head?, c = ',' ∨ c = ']' ∨ c = '\x7d'

theorem delimited_cons (h : c = ',' ∨ c = ']' ∨ c = '\x7d') : Delimited (c :: cs) := by
  simpa [Delimited] using h

/-- Such a text does not go on with a digit. -/
theorem Delimited.isDigit (h : Delimited rest) : ∀ c ∈ rest.head?, Text.isDigit c = false := by
  intro c hc
  rcases h c hc with rfl | rfl | rfl <;> rfl

theorem spanDigits_showNat (n : Nat) (h : ∀ c ∈ cs.head?, Text.isDigit c = false) :
    spanDigits (Text.showNat n ++ cs) = (Text.showNat n, cs) := by
  obtain ⟨htake, hdrop⟩ := Text.span_append (fun _ => Text.isDigit_of_mem_showNat) h
  rw [spanDigits, htake, hdrop]

/-- The digits before the point are those of the number, a leading zero being all of them. -/
theorem readWhole_showNat (n : Nat) (h : ∀ c ∈ cs.head?, Text.isDigit c = false) :
    readWhole (Text.showNat n ++ cs) = some (Text.showNat n, cs) := by
  obtain ⟨d, ds, hds, -⟩ := Text.exists_showNat n
  have hspan := spanDigits_showNat n h
  by_cases hd : d = '0'
  · subst hd
    obtain ⟨-, rfl⟩ := Text.eq_zero_of_showNat hds
    rw [hds]
    rfl
  · rw [hds, List.cons_append] at hspan ⊢
    rw [readWhole, hspan]
    exact fun _ he => hd (List.cons_eq_cons.1 he).1

/-- Without a point there is no fraction, and without a letter no exponent. -/
theorem Delimited.readFraction (h : Delimited rest) : readFraction rest = some ([], rest) := by
  cases rest with
  | nil => rfl
  | cons c cs => rcases h c rfl with rfl | rfl | rfl <;> rfl

theorem Delimited.readExponent (h : Delimited rest) : readExponent rest = some (none, rest) := by
  cases rest with
  | nil => rfl
  | cons c cs => rcases h c rfl with rfl | rfl | rfl <;> rfl

theorem readExponentDigits_showNat (n : Nat) (h : Delimited rest) :
    readExponentDigits (Text.showNat n ++ rest) = some (n, rest) := by
  rw [readExponentDigits, spanDigits_showNat n h.isDigit]
  obtain ⟨d, ds, hds, -⟩ := Text.exists_showNat n
  have hvalue := Text.decimalFrom_showNat n
  rw [hds] at hvalue ⊢
  rw [← hvalue]

theorem readExponent_showInt (e : Int) (h : Delimited rest) :
    readExponent ('e' :: Text.showInt e ++ rest) = some (some e, rest) := by
  cases e with
  | ofNat n =>
    -- the first digit is no sign
    obtain ⟨d, ds, hds, hdigit⟩ := Text.exists_showNat n
    have hminus : d ≠ '-' := by rintro rfl; exact absurd hdigit (by decide)
    have hplus : d ≠ '+' := by rintro rfl; exact absurd hdigit (by decide)
    have hread := readExponentDigits_showNat n h
    rw [Text.showInt, hds] at *
    simp only [readExponent, List.cons_append, decide_true, Bool.true_or, if_true]
    split
    · next he => exact absurd (List.cons_eq_cons.1 he).1 hminus
    · next he => exact absurd (List.cons_eq_cons.1 he).1 hplus
    · rw [← List.cons_append, hread]; rfl
  | negSucc n =>
    have hread := readExponentDigits_showNat (n + 1) h
    simp only [Text.showInt, readExponent, List.cons_append, decide_true, Bool.true_or, if_true,
      hread, Option.map_some]
    rfl

/-- A number is what its sign, its digits and its exponent make of it. -/
theorem readNumber_eq {neg : Bool} {m : Nat} {cs : List Char} {e : Option Int}
    (hdigit : ∀ c ∈ cs.head?, Text.isDigit c = false)
    (hfraction : readFraction cs = some ([], cs)) (hexponent : readExponent cs = some (e, rest)) :
    readNumber ((if neg then ['-'] else []) ++ (Text.showNat m ++ cs)) =
      some (e.elim (.whole neg m) (.scientific neg m), rest) := by
  have hwhole := readWhole_showNat m hdigit
  have hvalue := Text.decimalFrom_showNat m
  cases neg with
  | true =>
    simp only [if_true, List.cons_append, List.nil_append, readNumber, hwhole, hfraction,
      hexponent, Option.bind_eq_bind, Option.bind_some, List.append_nil, hvalue]
    cases e <;> simp
  | false =>
    obtain ⟨d, ds, hds, hd⟩ := Text.exists_showNat m
    have hminus : ∀ rest, Text.showNat m ++ cs = '-' :: rest → False := by
      intro rest he
      rw [hds] at he
      exact absurd hd ((List.cons_eq_cons.1 he).1 ▸ by decide)
    simp only [Bool.false_eq_true, if_false, List.nil_append, readNumber.eq_2 _ hminus, hwhole,
      hfraction, hexponent, Option.bind_eq_bind, Option.bind_some, List.append_nil, hvalue]
    cases e <;> simp

/-- **A number is read from what is written for it**, where the text goes on after a value. -/
theorem readNumber_render (n : Numeral) (h : Delimited rest) :
    readNumber (n.render ++ rest) = some (n, rest) := by
  cases n with
  | whole neg m =>
    rw [Numeral.render, List.append_assoc, readNumber_eq h.isDigit h.readFraction h.readExponent]
    rfl
  | scientific neg m e =>
    rw [Numeral.render, List.append_assoc, List.append_assoc,
      readNumber_eq (by rintro c ⟨⟩; rfl) rfl (readExponent_showInt e h)]
    rfl

end Json

/-- A number starts with a minus sign or a digit. -/
theorem Numeral.exists_render_eq_cons (n : Numeral) :
    ∃ c cs, n.render = c :: cs ∧ (c = '-' ∨ Text.isDigit c = true) := by
  have hsign : ∀ (neg : Bool) (m : Nat), ∃ c cs,
      (if neg then ['-'] else []) ++ Text.showNat m = c :: cs ∧
        (c = '-' ∨ Text.isDigit c = true) := by
    intro neg m
    cases neg with
    | true => exact ⟨'-', Text.showNat m, rfl, .inl rfl⟩
    | false =>
      obtain ⟨d, ds, hds, hdigit⟩ := Text.exists_showNat m
      exact ⟨d, ds, hds, .inr hdigit⟩
  cases n with
  | whole neg m => exact hsign neg m
  | scientific neg m e =>
    obtain ⟨c, cs, hcs, hc⟩ := hsign neg m
    exact ⟨c, cs ++ 'e' :: Text.showInt e, by rw [render, hcs, List.cons_append], hc⟩

end IngressBalancer
