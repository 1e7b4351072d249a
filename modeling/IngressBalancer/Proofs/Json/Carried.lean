import IngressBalancer.Proofs.Data.Results
import IngressBalancer.Proofs.Json.Forms
/-!
# Types carried by JSON text

A type that is written and read in a form is carried by the compact text of
its values (`Form.Carries.inText`): a value in a form is plain, so its text is
read back, and what a reader makes of some other text it makes of the form's
value of it.

What is said of one member is said wherever in a value it stands. Two values
that differ in one place (`Differ`) are read alike if there they are, and one
that holds something refused is refused.
-/

namespace IngressBalancer

namespace Json

/-! ## Values in a form are plain -/

section Plain

variable {form : Form} {j n : Json}

theorem Absence.plain_of_read? {absence : Absence} {normal? : Json → Option Json} {key : String}
    {ms : List (String × Json)} (hnormal : ∀ j n, normal? j = some n → Plain n)
    (h : absence.read? normal? key ms = some (some n)) : Plain n := by
  have hoptional (h : optional? normal? key ms = some (some n)) : Plain n := by
    obtain ⟨hnone, -⟩ | ⟨j, n', -, -, hj, hn⟩ := exists_of_optional? h
    · exact nomatch hnone
    · exact hnormal j n (Option.some.inj hn ▸ hj)
  cases absence with
  | refused =>
    obtain ⟨n', hn', hnn'⟩ := Option.map_eq_some_iff.1 h
    obtain ⟨j, -, hj⟩ := exists_of_required? hn'
    exact hnormal j n (Option.some.inj hnn' ▸ hj)
  | omitted => exact hoptional h
  | null =>
    obtain ⟨o, ho, hn⟩ := Option.map_eq_some_iff.1 h
    cases o with
    | none => exact Option.some.inj hn ▸ .null
    | some n' => exact hoptional (Option.some.inj hn ▸ ho)

theorem forall_mem_of_mapM {α β : Type} {f : α → Option β} {P : β → Prop} {as : List α} {bs : List β}
    (hf : ∀ a b, f a = some b → P b) (h : as.mapM f = some bs) : ∀ b ∈ bs, P b := by
  intro b hb
  obtain ⟨a, -, hab⟩ := exists_of_forall₂_right (Option.forall₂_of_mapM h) hb
  exact hf a b hab

mutual

/-- **A value in a form has a text in every part.** -/
theorem Form.plain_of_normal? : ∀ (form : Form) {j n : Json}, form.normal? j = some n → Plain n
  | .text, _, _, h => by
    obtain ⟨s, -, rfl⟩ := Option.map_eq_some_iff.1 h
    exact .string s
  | .flag, _, _, h => by
    obtain ⟨b, -, rfl⟩ := Option.map_eq_some_iff.1 h
    exact .bool b
  | .word _, _, _, h => by
    obtain ⟨s, -, rfl⟩ := Option.map_eq_some_iff.1 h
    exact .string s
  | .whole _ _, _, _, h => by
    obtain ⟨i, -, rfl⟩ := Option.map_eq_some_iff.1 h
    exact .number _
  | .listOf item, j, n, h => by
    obtain ⟨ns, hns, rfl⟩ := Option.map_eq_some_iff.1 h
    refine .list ?_
    cases j with
    | list js => exact forall_mem_of_mapM (fun _ _ => item.plain_of_normal?) hns
    | null | bool | number | string | object | unreadable => exact nomatch hns
  | .mapOf value, j, n, h => by
    obtain ⟨m, hm, rfl⟩ := Option.map_eq_some_iff.1 h
    refine .object ?_
    cases j with
    | object ms =>
      obtain ⟨es, hes, rfl⟩ := Option.map_eq_some_iff.1 hm
      have hplain : ∀ e ∈ es, Plain e.2 := by
        refine forall_mem_of_mapM (fun m e he => ?_) hes
        obtain ⟨n, hn, rfl⟩ := Option.map_eq_some_iff.1 he
        exact value.plain_of_normal? hn
      intro e he
      obtain ⟨e', he', rfl⟩ := List.mem_map.1 he
      exact hplain e' (SortedMap.mem_of_mem_ofList he')
    | null | bool | number | string | list | unreadable => exact nomatch hm
  | .record fields, j, n, h => by
    obtain ⟨ms, -, h⟩ := Option.bind_eq_some_iff.1 h
    obtain ⟨os, hos, rfl⟩ := Option.map_eq_some_iff.1 h
    refine .object fun m hm => ?_
    obtain ⟨o, ho, hm⟩ := List.mem_filterMap.1 hm
    obtain ⟨n, hn, rfl⟩ := Option.map_eq_some_iff.1 hm
    exact plain_of_normalFields? fields hos o ho n hn

theorem plain_of_normalFields? : ∀ (fields : List (String × Absence × Form))
    {ms : List (String × Json)} {os : List (String × Option Json)},
    normalFields? fields ms = some os → ∀ o ∈ os, ∀ n ∈ o.2, Plain n
  | [], ms, os, h => by
    obtain rfl : [] = os := Option.some.inj h
    exact fun _ ho => absurd ho List.not_mem_nil
  | (key, absence, form) :: fields, ms, os, h => by
    obtain ⟨o, ho, h⟩ := Option.bind_eq_some_iff.1 h
    obtain ⟨os, hos, rfl⟩ := Option.map_eq_some_iff.1 h
    refine List.forall_mem_cons.2 ⟨fun n hn => ?_, plain_of_normalFields? fields hos⟩
    obtain rfl : o = some n := hn
    exact absence.plain_of_read? (fun _ _ => form.plain_of_normal?) ho

end

end Plain

/-! ## One place in a value -/

/-- Two values in a form that differ in one place, where something of the form `inner` is
asked for: there the one has `j` and the other `j'`. -/
inductive Differ (inner : Form) (j j' : Json) : Form → Json → Json → Prop
  | here : Differ inner j j' inner j j'
  | item {item : Form} {a a' : Json} {pre post : List Json} (h : Differ inner j j' item a a') :
    Differ inner j j' (.listOf item) (.list (pre ++ a :: post)) (.list (pre ++ a' :: post))
  | entry {value : Form} {key : String} {a a' : Json} {pre post : List (String × Json)}
    (h : Differ inner j j' value a a') :
    Differ inner j j' (.mapOf value) (.object (pre ++ (key, a) :: post))
      (.object (pre ++ (key, a') :: post))
  | member {fields : List (String × Absence × Form)} {key : String} {absence : Absence}
    {form : Form} {a a' : Json} {pre post : List (String × Json)}
    (hfield : OnlyField fields key absence form) (h : Differ inner j j' form a a') :
    Differ inner j j' (.record fields) (.object (pre ++ (key, a) :: post))
      (.object (pre ++ (key, a') :: post))
  | position {fields : List (String × Absence × Form)} {key : String} {absence : Absence}
    {form : Form} {a a' : Json} {pre post : List Json}
    (hfield : OnlyField fields key absence form)
    (hposition : (fields.map Prod.fst)[pre.length]? = some key)
    (h : Differ inner j j' form a a') :
    Differ inner j j' (.record fields) (.list (pre ++ a :: post)) (.list (pre ++ a' :: post))

namespace Differ

variable {inner form : Form} {j j' a a' : Json}

/-- A record given as a list has a value at each position as its member. -/
theorem zip_position {names : List String} {key : String} {pre post : List Json}
    (h : names[pre.length]? = some key) :
    names.zip (pre ++ a :: post) =
      (names.take pre.length).zip pre ++ (key, a) :: (names.drop (pre.length + 1)).zip post := by
  obtain ⟨hlt, hkey⟩ := List.getElem?_eq_some_iff.1 h
  have hsplit : names = names.take pre.length ++ key :: names.drop (pre.length + 1) := by
    rw [← hkey, List.cons_getElem_drop_succ, List.take_append_drop]
  conv_lhs => rw [hsplit]
  rw [List.zip_append (by rw [List.length_take]; omega), List.zip_cons_cons]

/-- **What is read alike in its place is read alike in the whole.** -/
theorem normal?_eq (h : Differ inner j j' form a a') (hj : inner.normal? j = inner.normal? j')
    (hnull : j = .null ↔ j' = .null) :
    form.normal? a = form.normal? a' ∧ (a = .null ↔ a' = .null) := by
  induction h with
  | here => exact ⟨hj, hnull⟩
  | item h ih =>
    refine ⟨?_, iff_of_false Json.noConfusion Json.noConfusion⟩
    rw [Form.normal?, Form.normal?, listOf?, listOf?, mapM_congr_at ih.1]
  | entry h ih =>
    refine ⟨?_, iff_of_false Json.noConfusion Json.noConfusion⟩
    rw [Form.normal?, Form.normal?, mapOf?, mapOf?]
    refine congrArg (fun es => (es.map SortedMap.ofList).map (ofMap id)) (mapM_congr_at ?_)
    exact congrArg (Option.map _) ih.1
  | member hfield h ih =>
    refine ⟨?_, iff_of_false Json.noConfusion Json.noConfusion⟩
    rw [Form.normal?, Form.normal?, record?, record?, Option.bind_some, Option.bind_some,
      hfield.normalFields?_member ih.1 ih.2]
  | position hfield hposition h ih =>
    refine ⟨?_, iff_of_false Json.noConfusion Json.noConfusion⟩
    rw [Form.normal?, Form.normal?, record?, record?, zip_position hposition,
      zip_position hposition, List.length_append, List.length_append, List.length_cons,
      List.length_cons]
    split
    · rw [Option.bind_some, Option.bind_some, hfield.normalFields?_member ih.1 ih.2]
    · rfl

/-- **What is refused in its place is refused with the whole.** -/
theorem normal?_eq_none (h : Differ inner j j' form a a') (hj : inner.normal? j = none)
    (hnull : j ≠ .null) : form.normal? a = none ∧ a ≠ .null := by
  induction h with
  | here => exact ⟨hj, hnull⟩
  | item h ih =>
    refine ⟨?_, Json.noConfusion⟩
    rw [Form.normal?, listOf?, mapM_eq_none ih.1, Option.map_none]
  | entry h ih =>
    refine ⟨?_, Json.noConfusion⟩
    rw [Form.normal?, mapOf?, mapM_eq_none (by rw [ih.1, Option.map_none]), Option.map_none,
      Option.map_none]
  | member hfield h ih =>
    refine ⟨?_, Json.noConfusion⟩
    rw [Form.normal?, record?, Option.bind_some, hfield.normalFields?_refused ih.1 ih.2,
      Option.map_none]
  | position hfield hposition h ih =>
    refine ⟨?_, Json.noConfusion⟩
    rw [Form.normal?, record?, zip_position hposition]
    split
    · rw [Option.bind_some, hfield.normalFields?_refused ih.1 ih.2, Option.map_none]
    · rfl

end Differ

/-! ## Texts -/

/-- Two texts whose values differ in one place. -/
def DifferInText (form inner : Form) (j j' : Json) (text text' : String) : Prop :=
  ∃ a a', parse? text = some a ∧ parse? text' = some a' ∧ Differ inner j j' form a a'

/-- A type is carried by the texts of a form. -/
structure Form.CarriesText {α : Type} (form : Form) (encode : α → String)
    (decode? : String → Option α) : Prop where
  /-- What is written is read back. -/
  decode_encode : ∀ a, decode? (encode a) = some a
  /-- What is read from any text and written again is read once more, to the same value with
  the same text. -/
  encode_again : ∀ text a, decode? text = some a →
    ∃ b, decode? (encode a) = some b ∧ b = a ∧ encode b = encode a
  /-- Read and written again, a text is the compact text of the form's value. -/
  map_encode : ∀ text, (decode? text).map encode = ((parse? text).bind form.normal?).map compact
  /-- Wherever a record stands in the value, a member that it does not know is passed over. -/
  unknown : ∀ fields key x pre post text text', key ∉ fields.map Prod.fst →
    DifferInText form (.record fields) (.object (pre ++ post)) (.object (pre ++ (key, x) :: post))
      text text' → decode? text = decode? text'
  /-- And a null stands for nothing, unless the field is required. -/
  null : ∀ fields key absence inner pre post text text', OnlyField fields key absence inner →
    absence ≠ .refused → key ∉ (pre ++ post).map Prod.fst →
    DifferInText form (.record fields) (.object (pre ++ post))
      (.object (pre ++ (key, .null) :: post)) text text' → decode? text = decode? text'
  /-- Wherever a whole number within bounds is asked for, no other number will do. -/
  refused : ∀ low high n text, (∀ i, n.int? = some i → i < low ∨ high < i) →
    DifferInText form (.whole low high) (.number n) (.number n) text text → decode? text = none

namespace Form.Carries

variable {α : Type} {form : Form} {encode : α → Json} {decode? : Json → Option α} {j j' : Json}

/-- A value has its form when it is written. -/
theorem normal?_encode (h : form.Carries encode decode?) (a : α) :
    form.normal? (encode a) = some (encode a) := by
  rw [← h.map_decode, h.decode_encode, Option.map_some]

theorem parse?_encode (h : form.Carries encode decode?) (a : α) :
    (parse? (encode a).compact).bind decode? = some a := by
  rw [parse?_compact (form.plain_of_normal? (h.normal?_encode a)), Option.bind_some, h.decode_encode]

/-- Values of one form are read as one. -/
theorem decode?_congr (h : form.Carries encode decode?) (hj : form.normal? j = form.normal? j') :
    decode? j = decode? j' := by
  have hinj : Function.Injective encode := fun a b hab =>
    Option.some.inj ((h.decode_encode a).symm.trans (hab ▸ h.decode_encode b))
  refine Option.map_injective hinj ?_
  rw [h.map_decode, h.map_decode, hj]

/-- **A type of a form is carried by its texts.** -/
theorem inText (h : form.Carries encode decode?) :
    form.CarriesText (fun a => (encode a).compact) (fun text => (parse? text).bind decode?) where
  decode_encode := h.parse?_encode
  encode_again _ a _ := ⟨a, h.parse?_encode a, rfl, rfl⟩
  map_encode text := by
    cases parse? text with
    | none => rfl
    | some j =>
      rw [Option.bind_some, Option.bind_some, ← h.map_decode, Option.map_map]
      rfl
  unknown fields key x pre post text text' hkey := by
    rintro ⟨a, a', ha, ha', hdiffer⟩
    rw [ha, ha']
    refine h.decode?_congr (hdiffer.normal?_eq ?_ (iff_of_false Json.noConfusion Json.noConfusion)).1
    rw [Form.normal?, Form.normal?, record?, record?, Option.bind_some, Option.bind_some,
      normalFields?_unknown hkey]
  null fields key absence inner pre post text text' hfield habsence hkey := by
    rintro ⟨a, a', ha, ha', hdiffer⟩
    rw [ha, ha']
    refine h.decode?_congr (hdiffer.normal?_eq ?_ (iff_of_false Json.noConfusion Json.noConfusion)).1
    rw [Form.normal?, Form.normal?, record?, record?, Option.bind_some, Option.bind_some,
      hfield.normalFields?_null habsence hkey]
  refused low high n text hn := by
    rintro ⟨a, a', ha, -, hdiffer⟩
    have hwhole : (Form.whole low high).normal? (.number n) = none := by
      rw [Form.normal?, intIn?, int?]
      cases hint : n.int? with
      | none => rfl
      | some i =>
        have hi := hn i hint
        rw [Option.filter_some, if_neg (by simp only [Bool.and_eq_true, decide_eq_true_eq]; omega)]
        rfl
    have hnone := h.map_decode a
    rw [(hdiffer.normal?_eq_none hwhole Json.noConfusion).1] at hnone
    rw [ha]
    exact Option.map_eq_none_iff.1 hnone

end Form.Carries

end Json

end IngressBalancer
