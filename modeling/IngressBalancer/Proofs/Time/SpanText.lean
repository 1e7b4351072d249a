import IngressBalancer.Proofs.Text.Digits
import IngressBalancer.Time.SpanText
import Mathlib.Data.List.TakeWhile
import Mathlib.Algebra.Order.Ring.Rat
/-!
# Spans are sequences of terms

A text is a span exactly where it is a plain `0` or a sequence of terms, a number
and a unit each (`Term`). The terms can be read in rounds, each of which takes one
term off the front of what is left or fails (`round_eq_ok_iff`). The rounds come to an
end on every text, with what `sumTerms` answers of its runs (`rounds_sumTerms`). They
take just the sequences of terms, and a sequence of terms can fail in one way
only: its sum is no span (`parse_faults`).
-/

namespace IngressBalancer

namespace SpanText

variable {c : Char} {cs rest : List Char}

/-! ## Terms -/

/-- Whether a text is a number: digits with at most one point among them, at least one digit. -/
def IsNumber (cs : List Char) : Prop :=
  ∃ whole fraction, (cs = whole ++ fraction ∨ cs = whole ++ '.' :: fraction) ∧
    whole ++ fraction ≠ [] ∧ ∀ c ∈ whole ++ fraction, Text.isDigit c = true

/-- The units, from nanoseconds to hours; microseconds have two spellings. -/
def units : List (List Char) :=
  [['n', 's'], ['u', 's'], ['\u00b5', 's'], ['m', 's'], ['s'], ['m'], ['h']]

/-- A number and its unit. -/
structure Term where
  number : List Char
  unit : List Char
  isNumber : IsNumber number
  isUnit : unit ∈ units

namespace Term

def text (t : Term) : List Char := t.number ++ t.unit

/-- What a term stands for, in seconds. -/
def seconds (t : Term) : Float := SpanText.number t.number * (unitSeconds? t.unit).getD 0.0

end Term

/-- Whether a text is a sequence of terms. -/
def IsTerms (cs : List Char) : Prop := ∃ ts : List Term, ts ≠ [] ∧ cs = ts.flatMap Term.text

/-- What terms stand for together, added up one after the other. -/
def sum (ts : List Term) : Float := ts.foldl (fun total t => total + t.seconds) 0.0

theorem inNumber_of_isDigit (h : Text.isDigit c = true) : inNumber c = true := by
  rw [inNumber, h, Bool.true_or]

theorem isDigit_of_inNumber (h : inNumber c = true) (hne : c ≠ '.') : Text.isDigit c = true := by
  simpa [inNumber, hne] using h

theorem isDigit_point : Text.isDigit '.' = false := by decide

/-- A number has at least one character, and all of them are characters of numbers. -/
theorem IsNumber.inNumber (h : IsNumber cs) : cs ≠ [] ∧ ∀ c ∈ cs, inNumber c = true := by
  obtain ⟨whole, fraction, hcs, hne, hdigits⟩ := h
  have hall : ∀ c ∈ whole ++ fraction, SpanText.inNumber c = true := fun c hc =>
    inNumber_of_isDigit (hdigits c hc)
  rcases hcs with rfl | rfl
  · exact ⟨hne, hall⟩
  · refine ⟨by simp, fun c hc => ?_⟩
    rcases List.mem_append.1 hc with hc | hc
    · exact hall c (List.mem_append_left _ hc)
    · rcases List.mem_cons.1 hc with rfl | hc
      · rfl
      · exact hall c (List.mem_append_right _ hc)

/-- **What counts as a number is one.** -/
theorem isNumber_iff (h : ∀ c ∈ cs, inNumber c = true) :
    SpanText.isNumber cs = true ↔ IsNumber cs := by
  rw [SpanText.isNumber, Bool.and_eq_true, List.any_eq_true, decide_eq_true_eq]
  constructor
  · rintro ⟨⟨d, hd, hdigit⟩, hpoints⟩
    by_cases hpoint : '.' ∈ cs
    · obtain ⟨whole, fraction, rfl⟩ := List.append_of_mem hpoint
      -- the point that splits the number is its only one
      rw [List.count_append, List.count_cons_self] at hpoints
      have hnone : '.' ∉ whole ++ fraction := by
        rw [← List.count_eq_zero, List.count_append]
        omega
      refine ⟨whole, fraction, .inr rfl, fun hnil => ?_, fun c hc => ?_⟩
      · obtain ⟨rfl, rfl⟩ := List.append_eq_nil_iff.1 hnil
        obtain rfl := List.mem_singleton.1 hd
        rw [isDigit_point] at hdigit
        cases hdigit
      · refine isDigit_of_inNumber (h c ?_) fun hc' => hnone (hc' ▸ hc)
        rw [List.mem_append, List.mem_cons]
        exact (List.mem_append.1 hc).imp_right .inr
    · exact ⟨cs, [], .inl (List.append_nil cs).symm, by simpa using List.ne_nil_of_mem hd,
        fun c hc => isDigit_of_inNumber (h c (by simpa using hc))
          fun hc' => hpoint (by simpa [hc'] using hc)⟩
  · rintro ⟨whole, fraction, hcs, hne, hdigits⟩
    obtain ⟨d, hd⟩ := List.exists_mem_of_ne_nil _ hne
    have hnone : '.' ∉ whole ++ fraction := fun hmem => by
      have hdigit := hdigits '.' hmem
      rw [isDigit_point] at hdigit
      cases hdigit
    rcases hcs with rfl | rfl
    · refine ⟨⟨d, hd, hdigits d hd⟩, ?_⟩
      rw [List.count_eq_zero.2 hnone]
      exact Nat.zero_le _
    · refine ⟨⟨d, ?_, hdigits d hd⟩, ?_⟩
      · rw [List.mem_append, List.mem_cons]
        exact (List.mem_append.1 hd).imp_right .inr
      · rw [List.count_append, List.count_cons_self, ← Nat.add_assoc, ← List.count_append,
          List.count_eq_zero.2 hnone]

/-- **What counts as a unit is one.** -/
theorem exists_unitSeconds?_iff : (∃ seconds, unitSeconds? cs = some seconds) ↔ cs ∈ units := by
  simp only [units, List.mem_cons, List.not_mem_nil, or_false]
  constructor
  · rintro ⟨seconds, h⟩
    unfold unitSeconds? at h
    split at h
    all_goals first | simp | cases h
  · rintro (rfl | rfl | rfl | rfl | rfl | rfl | rfl) <;> exact ⟨_, rfl⟩

/-- A unit has at least one character, and none of them is one of a number. -/
theorem unit_notInNumber (h : cs ∈ units) : cs ≠ [] ∧ ∀ c ∈ cs, inNumber c = false := by
  simp only [units, List.mem_cons, List.not_mem_nil, or_false] at h
  rcases h with rfl | rfl | rfl | rfl | rfl | rfl | rfl <;>
    simp [SpanText.inNumber, Text.isDigit]

/-! ## Runs -/

/-- **The first run** is the longest one of characters like the first. -/
theorem runs_cons (c : Char) (cs : List Char) : runs (c :: cs) =
    (c :: cs).takeWhile (inNumber · == inNumber c) ::
      runs ((c :: cs).dropWhile (inNumber · == inNumber c)) := by
  induction cs generalizing c with
  | nil => simp [runs]
  | cons d ds ih =>
    have hd : (d :: ds).takeWhile (inNumber · == inNumber d) =
        d :: ds.takeWhile (inNumber · == inNumber d) := by simp
    rw [runs, ih d, hd]
    dsimp only
    by_cases hsame : inNumber c = inNumber d
    · simp [hsame]
    · have hne : (inNumber d == inNumber c) = false := by simpa using Ne.symm hsame
      rw [if_neg (by simpa using hsame)]
      simp [hne, ih d]

/-- The first run ends where a character of the other kind comes. -/
theorem runs_append {kind : Bool} (hne : cs ≠ []) (hkind : ∀ c ∈ cs, inNumber c = kind)
    (hrest : ∀ c ∈ rest.head?, inNumber c ≠ kind) : runs (cs ++ rest) = cs :: runs rest := by
  obtain ⟨c, ds, rfl⟩ := List.exists_cons_of_ne_nil hne
  obtain rfl := hkind c List.mem_cons_self
  obtain ⟨htake, hdrop⟩ := Text.span_append (p := (inNumber · == inNumber c))
    (fun d hd => by simpa using hkind d hd) fun d hd => by simpa using hrest d hd
  rw [List.cons_append, runs_cons, ← List.cons_append, htake, hdrop]

/-! ## Rounds -/

/-- What a round takes as the number. -/
def numberOf (cs : List Char) : List Char := cs.takeWhile inNumber

/-- What comes behind the number. -/
def behindNumber (cs : List Char) : List Char := cs.dropWhile inNumber

/-- What a round takes as the unit. -/
def unitOf (cs : List Char) : List Char := (behindNumber cs).takeWhile (!inNumber ·)

/-- What a round leaves. -/
def leftOf (cs : List Char) : List Char := (behindNumber cs).dropWhile (!inNumber ·)

/-- One round: the sum with the next term added, and what is left then. -/
def round (text : String) (total : Float) (cs : List Char) :
    Except SpanFault (Float × List Char) :=
  if behindNumber cs = [] then .error (.missingUnit text)
  else if numberOf cs = [] then .error (.missingNumber text)
  else if SpanText.isNumber (numberOf cs) then
    match unitSeconds? (unitOf cs) with
    | some seconds => .ok (total + SpanText.number (numberOf cs) * seconds, leftOf cs)
    | none => .error (.badUnit (String.ofList (unitOf cs)))
  else .error (.badNumber (String.ofList (numberOf cs)))

/-- Rounds one after the other until nothing is left or one fails, with their number. -/
inductive Rounds (text : String) : Nat → Float → List Char → Except SpanFault Float → Prop
  | done {total : Float} : Rounds text 0 total [] (.ok total)
  | fail {total : Float} {cs : List Char} {fault : SpanFault} (hne : cs ≠ [])
      (h : round text total cs = .error fault) : Rounds text 1 total cs (.error fault)
  | next {n : Nat} {total total' : Float} {cs rest : List Char} {answer : Except SpanFault Float}
      (hne : cs ≠ []) (h : round text total cs = .ok (total', rest))
      (hrest : Rounds text n total' rest answer) : Rounds text (n + 1) total cs answer

/-- Whether what is left starts with a number, or nothing is left. -/
def Boundary (rest : List Char) : Prop := ∀ c ∈ rest.head?, inNumber c = true

theorem numberOf_append (cs : List Char) : numberOf cs ++ behindNumber cs = cs :=
  List.takeWhile_append_dropWhile

theorem unitOf_append (cs : List Char) : unitOf cs ++ leftOf cs = behindNumber cs :=
  List.takeWhile_append_dropWhile

theorem numberOf_inNumber (cs : List Char) : ∀ c ∈ numberOf cs, inNumber c = true :=
  fun _ hc => List.mem_takeWhile_imp hc

theorem unitOf_notInNumber (cs : List Char) : ∀ c ∈ unitOf cs, inNumber c = false :=
  fun _ hc => by simpa using List.mem_takeWhile_imp hc

theorem behindNumber_notInNumber (cs : List Char) :
    ∀ c ∈ (behindNumber cs).head?, inNumber c = false := by
  intro c hc
  have hstop := List.head?_dropWhile_not inNumber cs
  rw [Option.mem_def, behindNumber] at hc
  rw [hc] at hstop
  simpa using hstop

theorem boundary_leftOf (cs : List Char) : Boundary (leftOf cs) := by
  intro c hc
  have hstop := List.head?_dropWhile_not (!inNumber ·) (behindNumber cs)
  rw [Option.mem_def, leftOf] at hc
  rw [hc] at hstop
  simpa using hstop

/-- Where something comes behind the number, it starts with a unit. -/
theorem unitOf_ne_nil (h : behindNumber cs ≠ []) : unitOf cs ≠ [] := by
  obtain ⟨d, ds, hcs⟩ := List.exists_cons_of_ne_nil h
  have hd : inNumber d = false := behindNumber_notInNumber cs d (by rw [hcs]; rfl)
  simp [unitOf, hcs, hd]

/-- The first runs are those that a round takes. -/
theorem runs_behindNumber (h : behindNumber cs ≠ []) :
    runs (behindNumber cs) = unitOf cs :: runs (leftOf cs) := by
  rw [← runs_append (unitOf_ne_nil h) (unitOf_notInNumber cs)
    fun c hc => by simp [boundary_leftOf cs c hc], unitOf_append]

theorem runs_of_numberOf (h : numberOf cs ≠ []) :
    runs cs = numberOf cs :: runs (behindNumber cs) := by
  rw [← runs_append h (numberOf_inNumber cs)
    fun c hc => by simp [behindNumber_notInNumber cs c hc], numberOf_append]

/-- **The sum over the runs goes on round by round.** -/
theorem sumTerms_round (text : String) (total : Float) (hne : cs ≠ []) :
    sumTerms text total (runs cs) =
      (round text total cs).bind fun next => sumTerms text next.1 (runs next.2) := by
  have hnumber : numberOf cs ≠ [] → (numberOf cs).any inNumber = true := fun h => by
    obtain ⟨c, hc⟩ := List.exists_mem_of_ne_nil _ h
    exact List.any_eq_true.2 ⟨c, hc, numberOf_inNumber cs c hc⟩
  by_cases htail : behindNumber cs = []
  · -- nothing comes behind the number
    have hall : numberOf cs = cs := by simpa [htail] using numberOf_append cs
    have hne' : numberOf cs ≠ [] := hall.symm ▸ hne
    rw [round, if_pos htail, runs_of_numberOf hne', htail]
    simp only [runs, sumTerms, hnumber hne', if_true, Except.bind]
  · by_cases hnil : numberOf cs = []
    · -- a unit comes first
      have hall : behindNumber cs = cs := by simpa [hnil] using numberOf_append cs
      have hany : (unitOf cs).any inNumber = false := by simpa using unitOf_notInNumber cs
      have hruns := runs_behindNumber htail
      rw [hall] at hruns
      rw [round, if_neg htail, if_pos hnil, hruns, sumTerms.eq_def]
      simp only [hany, Bool.false_eq_true, if_false, Except.bind]
    · rw [round, if_neg htail, if_neg hnil, runs_of_numberOf hnil, runs_behindNumber htail]
      simp only [sumTerms, hnumber hnil, if_true]
      cases SpanText.isNumber (numberOf cs) with
      | false => rfl
      | true => cases unitSeconds? (unitOf cs) <;> rfl

/-- What a round takes where a term is ahead. -/
theorem Term.split (t : Term) (hrest : Boundary rest) :
    numberOf (t.text ++ rest) = t.number ∧ behindNumber (t.text ++ rest) = t.unit ++ rest ∧
      unitOf (t.text ++ rest) = t.unit ∧ leftOf (t.text ++ rest) = rest := by
  obtain ⟨-, hdigits⟩ := t.isNumber.inNumber
  obtain ⟨hne, hletters⟩ := unit_notInNumber t.isUnit
  have hbehind : ∀ c ∈ (t.unit ++ rest).head?, inNumber c = false := by
    obtain ⟨d, ds, hunit⟩ := List.exists_cons_of_ne_nil hne
    rw [hunit]
    rintro c ⟨⟩
    exact hletters d (hunit ▸ List.mem_cons_self)
  obtain ⟨hnumber, htail⟩ := Text.span_append hdigits hbehind
  obtain ⟨hunit, hleft⟩ : (t.unit ++ rest).takeWhile (!inNumber ·) = t.unit ∧
      (t.unit ++ rest).dropWhile (!inNumber ·) = rest :=
    Text.span_append (fun c hc => by simp [hletters c hc])
      fun c hc => by simp [hrest c hc]
  rw [unitOf, leftOf, numberOf, behindNumber, Term.text, List.append_assoc, htail]
  exact ⟨hnumber, rfl, hunit, hleft⟩

/-- **A round takes a term**: it ends well exactly where a term is ahead. -/
theorem round_eq_ok_iff {text : String} {total total' : Float} :
    round text total cs = .ok (total', rest) ↔
      ∃ t : Term, cs = t.text ++ rest ∧ Boundary rest ∧ total' = total + t.seconds := by
  constructor
  · intro h
    unfold round at h
    split at h
    · cases h
    split at h
    · cases h
    split at h
    · next hread =>
      cases hseconds : unitSeconds? (unitOf cs) with
      | none => rw [hseconds] at h; cases h
      | some seconds =>
        rw [hseconds] at h
        obtain ⟨rfl, rfl⟩ := Prod.mk.inj (Except.ok.inj h)
        refine ⟨⟨numberOf cs, unitOf cs, (isNumber_iff (numberOf_inNumber cs)).1 hread,
          exists_unitSeconds?_iff.1 ⟨seconds, hseconds⟩⟩, ?_, boundary_leftOf cs, ?_⟩
        · rw [Term.text, List.append_assoc, unitOf_append, numberOf_append]
        · simp only [Term.seconds, hseconds, Option.getD_some]
    · cases h
  · rintro ⟨t, rfl, hrest, rfl⟩
    obtain ⟨hnumber, hbehind, hunit, hleft⟩ := t.split hrest
    obtain ⟨hne, hdigits⟩ := t.isNumber.inNumber
    obtain ⟨hne', -⟩ := unit_notInNumber t.isUnit
    obtain ⟨seconds, hseconds⟩ := exists_unitSeconds?_iff.2 t.isUnit
    rw [round, hnumber, hbehind, hunit, hleft, if_neg fun h => hne' (List.append_eq_nil_iff.1 h).1,
      if_neg hne, if_pos ((isNumber_iff hdigits).2 t.isNumber), Term.seconds, hseconds,
      Option.getD_some]

/-- A round fails in no other way than for what is written. -/
theorem round_ne_outOfRange {text : String} {total : Float} {fault : SpanFault}
    (h : round text total cs = .error fault) : fault ≠ .outOfRange := by
  rintro rfl
  unfold round at h
  split at h
  · cases h
  split at h
  · cases h
  split at h
  · cases hseconds : unitSeconds? (unitOf cs) <;> (rw [hseconds] at h; cases h)
  · cases h

/-- A term has two characters at least. -/
theorem Term.two_le_length (t : Term) : 2 ≤ t.text.length := by
  have hnumber := List.length_pos_iff.2 t.isNumber.inNumber.1
  have hunit := List.length_pos_iff.2 (unit_notInNumber t.isUnit).1
  rw [Term.text, List.length_append]
  omega

/-- **The rounds come to an end**, and answer what the sum over the runs is. -/
theorem rounds_sumTerms (text : String) (total : Float) (cs : List Char) :
    ∃ n, 2 * n ≤ cs.length + 1 ∧ Rounds text n total cs (sumTerms text total (runs cs)) := by
  -- each round leaves two characters less
  induction hlen : cs.length using Nat.strongRecOn generalizing cs total with
  | ind n ih =>
    by_cases hne : cs = []
    · subst hne
      exact ⟨0, Nat.zero_le _, .done⟩
    · rw [sumTerms_round text total hne]
      cases hround : round text total cs with
      | error fault =>
        have hpos := List.length_pos_iff.2 hne
        exact ⟨1, by omega, .fail hne hround⟩
      | ok next =>
        obtain ⟨t, hcs, -, -⟩ := round_eq_ok_iff.1 hround
        have hlong := t.two_le_length
        have hlen' : cs.length = t.text.length + next.2.length := by
          rw [← List.length_append, ← hcs]
        obtain ⟨m, hm, hrounds⟩ := ih next.2.length (by omega) next.1 next.2 rfl
        exact ⟨m + 1, by omega, .next hne hround hrounds⟩

theorem Term.boundary_flatMap (ts : List Term) : Boundary (ts.flatMap Term.text) := by
  cases ts with
  | nil => exact nofun
  | cons t ts =>
    obtain ⟨hne, hdigits⟩ := t.isNumber.inNumber
    obtain ⟨c, cs, hcs⟩ := List.exists_cons_of_ne_nil hne
    intro d hd
    rw [List.flatMap_cons, Term.text, hcs] at hd
    obtain rfl := Option.some.inj hd
    exact hdigits c (hcs ▸ List.mem_cons_self)

/-- Where terms are ahead, a round takes the first of them. -/
theorem round_terms (text : String) (total : Float) {ts : List Term} (hcs : cs = ts.flatMap Term.text)
    (hne : cs ≠ []) : ∃ t us, ts = t :: us ∧
      round text total cs = .ok (total + t.seconds, us.flatMap Term.text) := by
  cases ts with
  | nil => exact absurd hcs hne
  | cons t us =>
    exact ⟨t, us, rfl, round_eq_ok_iff.2 ⟨t, hcs, Term.boundary_flatMap us, rfl⟩⟩

/-- **Rounds take just the sequences of terms**: they end well exactly on these, with the sum. -/
theorem Rounds.eq_ok_iff {text : String} {n : Nat} {total total' : Float}
    {answer : Except SpanFault Float} (h : Rounds text n total cs answer) :
    answer = .ok total' ↔ ∃ ts : List Term, cs = ts.flatMap Term.text ∧
      total' = ts.foldl (fun total t => total + t.seconds) total := by
  induction h with
  | @done total =>
    constructor
    · rintro ⟨⟩
      exact ⟨[], rfl, rfl⟩
    · rintro ⟨ts, hcs, rfl⟩
      cases ts with
      | nil => rfl
      | cons t us =>
        have hlong := t.two_le_length
        rw [(List.append_eq_nil_iff.1 hcs.symm).1] at hlong
        cases hlong
  | fail hne h =>
    refine ⟨nofun, ?_⟩
    rintro ⟨ts, hcs, -⟩
    obtain ⟨t, us, -, hround⟩ := round_terms text _ hcs hne
    rw [h] at hround
    cases hround
  | @next n total total₁ cs rest answer hne h hrest ih =>
    rw [ih]
    constructor
    · rintro ⟨us, rfl, rfl⟩
      obtain ⟨t, rfl, -, rfl⟩ := round_eq_ok_iff.1 h
      exact ⟨t :: us, rfl, rfl⟩
    · rintro ⟨ts, hcs, rfl⟩
      obtain ⟨t, us, rfl, hround⟩ := round_terms text total hcs hne
      rw [h] at hround
      obtain ⟨rfl, rfl⟩ := Prod.mk.inj (Except.ok.inj hround)
      exact ⟨us, rfl, rfl⟩

/-- No round fails for the range of the sum. -/
theorem Rounds.ne_outOfRange {text : String} {n : Nat} {total : Float}
    {answer : Except SpanFault Float} (h : Rounds text n total cs answer) :
    answer ≠ .error .outOfRange := by
  induction h with
  | done => exact nofun
  | fail _ h => exact fun heq => round_ne_outOfRange h (Except.error.inj heq)
  | next _ _ _ ih => exact ih

/-! ## The range -/

/-- Whether a number of seconds is one that a span can have: it is less than `2 ^ 64`. Terms have no
sign, nor have sums of them, so the magnitude decides. -/
def InRange (x : Float) : Prop :=
  ∃ b, Decimal.Binary.ofFloat? x = some b ∧ (b.mantissa : ℚ) * 2 ^ b.exponent < 2 ^ 64

/-- The numerator over the denominator is the number. -/
theorem ratio_eq (b : Decimal.Binary) :
    (b.ratio.1 : ℚ) / b.ratio.2 = b.mantissa * 2 ^ b.exponent ∧ 0 < b.ratio.2 := by
  unfold Decimal.Binary.ratio
  split
  · next h =>
    obtain ⟨k, hk⟩ := Int.eq_ofNat_of_zero_le h
    refine ⟨?_, Nat.one_pos⟩
    rw [hk]
    simp
  · next h =>
    obtain ⟨k, hk⟩ := Int.eq_ofNat_of_zero_le (by omega : 0 ≤ -b.exponent)
    refine ⟨?_, Nat.pow_pos Nat.two_pos⟩
    rw [show b.exponent = -(k : Int) by omega]
    simp [div_eq_mul_inv]

/-- **What counts as out of range is**: a sum is no span where it is not below `2 ^ 64`. -/
theorem nanosOfSeconds?_eq_none_iff (x : Float) : nanosOfSeconds? x = none ↔ ¬ InRange x := by
  cases hb : Decimal.Binary.ofFloat? x with
  | none => simp [nanosOfSeconds?, InRange, hb]
  | some b =>
    obtain ⟨hratio, hpos⟩ := ratio_eq b
    have hlt : b.ratio.1 / b.ratio.2 < UInt64.size ↔ (b.mantissa : ℚ) * 2 ^ b.exponent < 2 ^ 64 := by
      rw [← hratio, Nat.div_lt_iff_lt_mul hpos, div_lt_iff₀ (by exact_mod_cast hpos),
        show UInt64.size = 2 ^ 64 from rfl]
      exact_mod_cast Iff.rfl
    simp [nanosOfSeconds?, InRange, hb, ← hlt]

/-! ## Texts -/

/-- What is taken as the text of a span: the text without the blanks around it. -/
def trimmed (s : String) : List Char := Text.trimChars s.toList

/-- A sequence of terms has two characters at least. -/
theorem IsTerms.two_le_length (h : IsTerms cs) : 2 ≤ cs.length := by
  obtain ⟨ts, hne, rfl⟩ := h
  obtain ⟨t, us, rfl⟩ := List.exists_cons_of_ne_nil hne
  have hlong := t.two_le_length
  rw [List.flatMap_cons, List.length_append]
  omega

theorem IsTerms.ne_nil (h : IsTerms cs) : cs ≠ [] :=
  List.length_pos_iff.1 (Nat.lt_of_lt_of_le Nat.two_pos h.two_le_length)

/-- A plain zero is no term: it has no unit. -/
theorem not_isTerms_zero : ¬ IsTerms ['0'] := fun h => by
  cases h.two_le_length with
  | step h => cases h

/-- **The sum over the runs** is one exactly of a sequence of terms. -/
theorem sumTerms_eq_ok_iff {text : String} {total : Float} (hne : cs ≠ []) :
    sumTerms text 0.0 (runs cs) = .ok total ↔
      ∃ ts : List Term, ts ≠ [] ∧ cs = ts.flatMap Term.text ∧ total = sum ts := by
  obtain ⟨n, -, hrounds⟩ := rounds_sumTerms text 0.0 cs
  rw [hrounds.eq_ok_iff]
  refine exists_congr fun ts => ⟨fun ⟨hcs, htotal⟩ => ⟨?_, hcs, htotal⟩, fun ⟨_, h⟩ => h⟩
  rintro rfl
  exact hne hcs

theorem parse_zero {s : String} (h : trimmed s = ['0']) : parse s = .ok 0 := by
  rw [trimmed] at h
  unfold parse
  rw [h]
  rfl

/-- The reading of a text that is neither blank nor a plain `0`. -/
theorem parse_of_ne {s : String} (hne : trimmed s ≠ []) (hzero : trimmed s ≠ ['0']) :
    parse s = (sumTerms (String.ofList (trimmed s)) 0.0 (runs (trimmed s))).bind fun total =>
      match nanosOfSeconds? total with
      | some span => .ok span
      | none => .error .outOfRange := by
  unfold parse
  split
  · next h => exact absurd h hne
  · next h => exact absurd h hzero
  · rfl

/-- A sequence of terms is the span of its sum, where there is one. -/
theorem parse_terms {s : String} {ts : List Term} (hne : ts ≠ [])
    (h : trimmed s = ts.flatMap Term.text) :
    parse s = (nanosOfSeconds? (sum ts)).elim (.error .outOfRange) .ok := by
  have hterms : IsTerms (trimmed s) := ⟨ts, hne, h⟩
  have hzero : trimmed s ≠ ['0'] := fun hs => not_isTerms_zero (hs ▸ hterms)
  rw [parse_of_ne hterms.ne_nil hzero, (sumTerms_eq_ok_iff hterms.ne_nil).2 ⟨ts, hne, h, rfl⟩,
    Except.bind]
  cases nanosOfSeconds? (sum ts) <;> rfl

/-- What is neither a plain `0` nor a sequence of terms fails for how it is written. -/
theorem parse_malformed {s : String} (hzero : trimmed s ≠ ['0']) (h : ¬ IsTerms (trimmed s)) :
    ∃ fault, fault ≠ .outOfRange ∧ parse s = .error fault := by
  by_cases hnil : trimmed s = []
  · refine ⟨.empty, nofun, ?_⟩
    rw [trimmed] at hnil
    unfold parse
    rw [hnil]
  · rw [parse_of_ne hnil hzero]
    cases hsum : sumTerms (String.ofList (trimmed s)) 0.0 (runs (trimmed s)) with
    | ok total =>
      obtain ⟨ts, hne, hcs, -⟩ := (sumTerms_eq_ok_iff hnil).1 hsum
      exact absurd ⟨ts, hne, hcs⟩ h
    | error fault =>
      obtain ⟨n, -, hrounds⟩ := rounds_sumTerms (String.ofList (trimmed s)) 0.0 (trimmed s)
      rw [hsum] at hrounds
      exact ⟨fault, fun hfault => hrounds.ne_outOfRange (hfault ▸ rfl), rfl⟩

/-- A sequence of terms fails for its sum or not at all. -/
theorem parse_terms_eq_error_iff {s : String} {ts : List Term} {fault : SpanFault} (hne : ts ≠ [])
    (h : trimmed s = ts.flatMap Term.text) :
    parse s = .error fault ↔ fault = .outOfRange ∧ ¬ InRange (sum ts) := by
  rw [parse_terms hne h, ← nanosOfSeconds?_eq_none_iff]
  cases nanosOfSeconds? (sum ts) <;> simp [eq_comm]

/-- **The spans among the texts.** A text fails for how it is written exactly where it is
neither a plain `0` nor a sequence of terms, and a sequence of terms fails only for its
sum, exactly where that is out of range. The reading goes in rounds that take a number and a
unit each, or fail, so it ends on every text. -/
theorem parse_faults (s : String) :
    ((∃ fault, fault ≠ .outOfRange ∧ parse s = .error fault) ↔
      trimmed s ≠ ['0'] ∧ ¬ IsTerms (trimmed s)) ∧
    (parse s = .error .outOfRange ↔
      ∃ ts, ts ≠ [] ∧ trimmed s = ts.flatMap Term.text ∧ ¬ InRange (sum ts)) ∧
    ∀ text total cs,
      (∃ n, 2 * n ≤ cs.length + 1 ∧ Rounds text n total cs (sumTerms text total (runs cs))) ∧
      ((∃ fault, round text total cs = .error fault) ∨
        ∃ number unit rest total', number ≠ [] ∧ unit ≠ [] ∧ cs = number ++ (unit ++ rest) ∧
          round text total cs = .ok (total', rest)) := by
  refine ⟨⟨?_, fun ⟨hzero, h⟩ => parse_malformed hzero h⟩, ⟨fun hrange => ?_, ?_⟩,
    fun text total cs => ⟨rounds_sumTerms text total cs, ?_⟩⟩
  · -- neither a zero nor terms fail for how they are written
    rintro ⟨fault, hfault, hparse⟩
    refine ⟨fun hzero => ?_, fun ⟨ts, hne, h⟩ => ?_⟩
    · rw [parse_zero hzero] at hparse
      cases hparse
    · exact hfault ((parse_terms_eq_error_iff hne h).1 hparse).1
  · by_cases hzero : trimmed s = ['0']
    · rw [parse_zero hzero] at hrange
      cases hrange
    by_cases hterms : IsTerms (trimmed s)
    · obtain ⟨ts, hne, h⟩ := hterms
      exact ⟨ts, hne, h, ((parse_terms_eq_error_iff hne h).1 hrange).2⟩
    · obtain ⟨fault, hfault, hparse⟩ := parse_malformed hzero hterms
      exact absurd (Except.error.inj (hparse.symm.trans hrange)) hfault
  · rintro ⟨ts, hne, h, hrange⟩
    exact (parse_terms_eq_error_iff hne h).2 ⟨rfl, hrange⟩
  · cases hround : round text total cs with
    | error fault => exact .inl ⟨fault, rfl⟩
    | ok next =>
      obtain ⟨t, hcs, -, -⟩ := round_eq_ok_iff.1 hround
      exact .inr ⟨t.number, t.unit, next.2, next.1, t.isNumber.inNumber.1,
        (unit_notInNumber t.isUnit).1, by rw [hcs, Term.text, List.append_assoc], rfl⟩

end SpanText

end IngressBalancer
