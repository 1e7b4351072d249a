import IngressBalancer.Json.Record
import IngressBalancer.Proofs.Data.Results
import IngressBalancer.Proofs.Data.SortedMap
import IngressBalancer.Proofs.Json.RoundTrip
/-!
# Forms

A form tells the values that a reader takes from those that it refuses, and
gives the one value that is written for all that are read alike
(`Form.normal?`). A type whose values are read back from what is written, and
written as its form has them, is carried in the form (`Form.Carries`): single
values by `text`, `flag`, `word` and `whole`, lists and maps by `listOf` and
`mapOf`, and records field by field by `carries_record`.

The last section says what a record makes of single members: which it passes
over (`normalFields?_unknown`), which are as good as nothing
(`normalFields?_null`), and which it refuses (`normalFields?_refused`).
-/

namespace IngressBalancer

namespace Json

/-- What becomes of a field that is missing or null. -/
inductive Absence
  /-- The value is refused. -/
  | refused
  /-- The field is left out. -/
  | omitted
  /-- The field is null. -/
  | null

/-- The values that a reader takes. -/
inductive Form
  | text
  | flag
  | word (words : List String)
  | whole (low high : Int)
  | listOf (item : Form)
  | mapOf (value : Form)
  | record (fields : List (String × Absence × Form))

/-- A field of a record, as it is written where it is there. -/
def Absence.read? (absence : Absence) (normal? : Json → Option Json) (key : String)
    (ms : List (String × Json)) : Option (Option Json) :=
  match absence with
  | .refused => (required? normal? key ms).map some
  | .omitted => optional? normal? key ms
  | .null => (optional? normal? key ms).map fun o => some (o.getD .null)

mutual

/-- The value as it is written, if it has the form. -/
def Form.normal? : Form → Json → Option Json
  | .text, j => j.string?.map .string
  | .flag, j => j.bool?.map .bool
  | .word words, j => (word? (fun s => if s ∈ words then some s else none) j).map .string
  | .whole low high, j => (intIn? low high j).map .ofInt
  | .listOf item, j => (listOf? item.normal? j).map .list
  | .mapOf value, j => (mapOf? value.normal? j).map (ofMap id)
  | .record fields, j =>
    (record? (fields.map Prod.fst) j).bind fun ms => (normalFields? fields ms).map ofMembers

/-- The fields of a record, each as it is written. -/
def normalFields? : List (String × Absence × Form) → List (String × Json) →
    Option (List (String × Option Json))
  | [], _ => some []
  | (key, absence, form) :: fields, ms =>
    (absence.read? form.normal? key ms).bind fun o =>
      (normalFields? fields ms).map ((key, o) :: ·)

end

/-! ## Lists of readings -/

section mapM

variable {α β γ : Type} {f : α → Option β} {a : α} {pre post : List α}

/-- What is read of each is read of all. -/
theorem mapM_of_map {g : β → α} (h : ∀ b, f (g b) = some b) (bs : List β) :
    (bs.map g).mapM f = some bs := by
  rw [List.mapM_map, show f ∘ g = fun b => pure b from funext h, List.mapM_pure, List.map_id']
  rfl

theorem map_mapM (f : α → Option β) (g : β → γ) (as : List α) :
    (as.mapM f).map (List.map g) = as.mapM fun a => (f a).map g := by
  induction as with
  | nil => rfl
  | cons a as ih =>
    rw [List.mapM_cons, List.mapM_cons, ← ih]
    cases f a <;> cases as.mapM f <;> rfl

/-- One that is refused is enough to refuse all. -/
theorem mapM_eq_none (h : f a = none) : (pre ++ a :: post).mapM f = none := by
  rw [List.mapM_append, List.mapM_cons, h]
  cases pre.mapM f <;> rfl

/-- One can stand for another that is read alike. -/
theorem mapM_congr_at {a' : α} (h : f a = f a') :
    (pre ++ a :: post).mapM f = (pre ++ a' :: post).mapM f := by
  rw [List.mapM_append, List.mapM_append, List.mapM_cons, List.mapM_cons, h]

end mapM

/-! ## Writers and readers of a form -/

/-- A type is written and read in a form: each value is read back from what is
written for it, and reading a value and writing it again puts it in the form. -/
structure Form.Carries {α : Type} (form : Form) (encode : α → Json) (decode? : Json → Option α) :
    Prop where
  decode_encode : ∀ a, decode? (encode a) = some a
  map_decode : ∀ j, (decode? j).map encode = form.normal? j

namespace Form.Carries

variable {α : Type} {form : Form} {encode : α → Json} {decode? : Json → Option α}

theorem text : Form.text.Carries .string string? := ⟨fun _ => rfl, fun _ => rfl⟩

theorem flag : Form.flag.Carries .bool bool? := ⟨fun _ => rfl, fun _ => rfl⟩

/-- Words that are read as they are written. -/
theorem word {words : List String} {write : α → String} {read : String → Option α}
    (hread : ∀ a, read (write a) = some a)
    (hwrite : ∀ s, (read s).map write = if s ∈ words then some s else none) :
    (Form.word words).Carries (fun a => .string (write a)) (word? read) := by
  refine ⟨hread, fun j => ?_⟩
  have hstring : ∀ s, (read s).map (fun a => Json.string (write a)) =
      (if s ∈ words then some s else none).map .string := by
    intro s
    rw [← hwrite, Option.map_map]
    rfl
  rw [Form.normal?, word?.eq_def, word?.eq_def]
  split
  · exact hstring _
  · exact hstring _
  · rfl

/-- Whole numbers within bounds. -/
theorem whole {low high : Int} (write : α → Int) {read : Int → α}
    (hwrite : ∀ a, low ≤ write a ∧ write a ≤ high) (hread : ∀ a, read (write a) = a)
    (hback : ∀ i, low ≤ i → i ≤ high → write (read i) = i) :
    (Form.whole low high).Carries (fun a => .ofInt (write a))
      (fun j => (intIn? low high j).map read) := by
  refine ⟨fun a => ?_, fun j => ?_⟩
  · have hint : intIn? low high (.ofInt (write a)) = some (write a) := by
      rw [intIn?, ofInt, int?, Numeral.int?_ofInt, Option.filter_some, if_pos]
      simpa using hwrite a
    rw [hint, Option.map_some, hread]
  · rw [Form.normal?, Option.map_map]
    refine Option.map_congr fun i hi => ?_
    obtain ⟨-, hbounds⟩ := Option.filter_eq_some_iff.1 hi
    simp only [Bool.and_eq_true, decide_eq_true_eq] at hbounds
    rw [Function.comp_apply, hback i hbounds.1 hbounds.2]

/-- Lists are read item by item. -/
theorem listOf (h : form.Carries encode decode?) :
    (Form.listOf form).Carries (fun as => .list (as.map encode)) (listOf? decode?) := by
  refine ⟨fun as => mapM_of_map h.decode_encode as, fun j => ?_⟩
  rw [Form.normal?, listOf?.eq_def, listOf?.eq_def]
  split
  · next js =>
    have hitems := map_mapM decode? encode js
    simp only [h.map_decode] at hitems
    rw [← hitems, Option.map_map]
    rfl
  · rfl

/-- Maps are read entry by entry. -/
theorem mapOf (h : form.Carries encode decode?) :
    (Form.mapOf form).Carries (ofMap encode) (mapOf? decode?) := by
  refine ⟨fun m => ?_, fun j => ?_⟩
  · have hentries : (m.entries.map fun e => (e.1, encode e.2)).mapM
        (fun e => (decode? e.2).map fun a => (e.1, a)) = some m.entries :=
      mapM_of_map (fun e => by rw [h.decode_encode, Option.map_some]) m.entries
    rw [ofMap, mapOf?, hentries, Option.map_some, SortedMap.ofList_entries]
  · rw [Form.normal?, mapOf?.eq_def, mapOf?.eq_def]
    split
    · next ms =>
      have hentries := map_mapM (fun m : String × Json => (decode? m.2).map fun a => (m.1, a))
        (fun e => (e.1, encode e.2)) ms
      have hvalue : ∀ m : String × Json,
          ((decode? m.2).map fun a => (m.1, a)).map (fun e => (e.1, encode e.2)) =
            (form.normal? m.2).map fun n => (m.1, n) := by
        intro m
        rw [← h.map_decode, Option.map_map, Option.map_map]
        rfl
      simp only [hvalue] at hentries
      rw [← hentries, Option.map_map, Option.map_map, Option.map_map]
      refine Option.map_congr fun es _ => ?_
      simp only [Function.comp_apply, ofMap, SortedMap.ofList_map, SortedMap.mapValues,
        List.map_map]
      rfl
    · rfl

end Form.Carries

/-! ## Records

A record is written as the list of its fields and read field by field. Both
directions go down the list: one step for each field, whether it is required,
left out where it is absent, or null there. -/

section Records

variable {α β γ : Type} {form : Form} {encode : α → Json} {decode? : Json → Option α}
variable {key : String} {fields : List (String × Absence × Form)}

/-- The members that are written for some fields. -/
def written (os : List (String × Option Json)) : List (String × Json) :=
  os.filterMap fun o => o.2.map fun j => (o.1, j)

/-- What is written for the fields of one name. -/
def writtenAs (key : String) (os : List (String × Option Json)) : List Json :=
  os.filterMap fun o => if o.1 = key then o.2 else none

theorem valuesOf_written (key : String) (os : List (String × Option Json)) :
    valuesOf key (written os) = writtenAs key os := by
  rw [valuesOf, written, writtenAs, List.filterMap_filterMap]
  refine List.filterMap_congr fun o _ => ?_
  cases o.2 <;> simp

/-- **A record is carried in its form** if its fields are read back from what is written for
them, and are written as the form has them. -/
theorem Form.carries_record (write : α → List (String × Option Json))
    {read : List (String × Json) → Option α} (hback : ∀ a, read (written (write a)) = some a)
    (hread : ∀ ms, (read ms).map (fun a => ofMembers (write a)) =
      (normalFields? fields ms).map ofMembers) :
    (Form.record fields).Carries (fun a => ofMembers (write a))
      (fun j => record? (fields.map Prod.fst) j >>= read) := by
  refine ⟨hback, fun j => ?_⟩
  rw [Form.normal?, Option.bind_eq_bind, Option.map_bind]
  exact congrArg _ (funext hread)

namespace Form.Carries

variable {os : List (String × Option Json)} {ms : List (String × Json)}
variable {b : β} {next : α → Option β} {nextOption : Option α → Option β}
variable {write : β → γ} {assemble : List (String × Option Json) → γ} {a : α} {o : Option α}

/-! ### Single fields -/

theorem required (h : form.Carries encode decode?) (key : String) (ms : List (String × Json)) :
    Absence.refused.read? form.normal? key ms =
      (required? decode? key ms).map fun a => some (encode a) := by
  rw [Absence.read?, required?, required?]
  split
  · rw [← h.map_decode, Option.map_map]; rfl
  · rfl

theorem omitted (h : form.Carries encode decode?) (key : String) (ms : List (String × Json)) :
    Absence.omitted.read? form.normal? key ms =
      (optional? decode? key ms).map (Option.map encode) := by
  rw [Absence.read?, optional?.eq_def, optional?.eq_def]
  split
  · rfl
  · rfl
  · rw [← h.map_decode, Option.map_map, Option.map_map]; rfl
  · rfl

theorem null (h : form.Carries encode decode?) (key : String) (ms : List (String × Json)) :
    Absence.null.read? form.normal? key ms =
      (optional? decode? key ms).map fun o => some (o.elim .null encode) := by
  have homitted : optional? form.normal? key ms =
      (optional? decode? key ms).map (Option.map encode) := h.omitted key ms
  rw [Absence.read?, homitted, Option.map_map]
  refine Option.map_congr fun o _ => ?_
  cases o <;> rfl

/-- What is written in an optional field is read from it, whether an absent one is left out or
null. -/
theorem optional?_eq (h : form.Carries encode decode?) (hnull : ∀ a, encode a ≠ .null)
    (hvalues : valuesOf key ms = (o.map encode).toList ∨ valuesOf key ms = [o.elim .null encode]) :
    optional? decode? key ms = some o := by
  cases o with
  | none => rcases hvalues with hvalues | hvalues <;> rw [optional?, hvalues] <;> rfl
  | some a =>
    have hvalue : valuesOf key ms = [encode a] := hvalues.elim id id
    rw [optional?, hvalue]
    split
    · next he => exact absurd he (List.cons_ne_nil _ _)
    · next he => exact absurd (List.cons_eq_cons.1 he).1 (hnull a)
    · next he =>
      obtain ⟨rfl, -⟩ := List.cons_eq_cons.1 he
      rw [h.decode_encode, Option.map_some]
    · next hne => exact absurd rfl (hne _)

/-! ### Reading back -/

theorem back_required (h : form.Carries encode decode?) (hvalues : writtenAs key os = [encode a])
    (hnext : next a = some b) : (required? decode? key (written os) >>= next) = some b := by
  rw [required?, valuesOf_written, hvalues]
  exact (congrArg (· >>= next) (h.decode_encode a)).trans hnext

theorem back_omitted (h : form.Carries encode decode?) (hnull : ∀ a, encode a ≠ .null)
    (hvalues : writtenAs key os = (o.map encode).toList) (hnext : nextOption o = some b) :
    (optional? decode? key (written os) >>= nextOption) = some b := by
  rw [h.optional?_eq hnull (.inl ((valuesOf_written key os).trans hvalues))]
  exact hnext

theorem back_null (h : form.Carries encode decode?) (hnull : ∀ a, encode a ≠ .null)
    (hvalues : writtenAs key os = [o.elim .null encode]) (hnext : nextOption o = some b) :
    (optional? decode? key (written os) >>= nextOption) = some b := by
  rw [h.optional?_eq hnull (.inr ((valuesOf_written key os).trans hvalues))]
  exact hnext

/-! ### Writing again -/

theorem read_required (h : form.Carries encode decode?)
    (hnext : ∀ a, (next a).map write =
      (normalFields? fields ms).map fun os => assemble ((key, some (encode a)) :: os)) :
    (required? decode? key ms >>= next).map write =
      (normalFields? ((key, .refused, form) :: fields) ms).map assemble := by
  rw [normalFields?, h.required]
  cases required? decode? key ms with
  | none => rfl
  | some a => exact (hnext a).trans (Option.map_map _ _ _).symm

theorem read_omitted (h : form.Carries encode decode?)
    (hnext : ∀ o, (nextOption o).map write =
      (normalFields? fields ms).map fun os => assemble ((key, o.map encode) :: os)) :
    (optional? decode? key ms >>= nextOption).map write =
      (normalFields? ((key, .omitted, form) :: fields) ms).map assemble := by
  rw [normalFields?, h.omitted]
  cases optional? decode? key ms with
  | none => rfl
  | some o => exact (hnext o).trans (Option.map_map _ _ _).symm

theorem read_null (h : form.Carries encode decode?)
    (hnext : ∀ o, (nextOption o).map write =
      (normalFields? fields ms).map fun os => assemble ((key, some (o.elim .null encode)) :: os)) :
    (optional? decode? key ms >>= nextOption).map write =
      (normalFields? ((key, .null, form) :: fields) ms).map assemble := by
  rw [normalFields?, h.null]
  cases optional? decode? key ms with
  | none => rfl
  | some o => exact (hnext o).trans (Option.map_map _ _ _).symm

end Form.Carries

end Records

/-! ## Fields -/

section Fields

variable {normal? : Json → Option Json} {key key' : String} {absence : Absence} {form : Form}
variable {a a' j : Json} {ms ms' pre post : List (String × Json)}
variable {fields : List (String × Absence × Form)}

theorem valuesOf_append : valuesOf key (ms ++ ms') = valuesOf key ms ++ valuesOf key ms' :=
  List.filterMap_append

@[simp] theorem valuesOf_cons_self : valuesOf key ((key, j) :: ms) = j :: valuesOf key ms := by
  simp [valuesOf]

theorem valuesOf_cons_of_ne (h : key' ≠ key) : valuesOf key ((key', j) :: ms) = valuesOf key ms := by
  simp [valuesOf, h]

theorem valuesOf_eq_nil (h : key ∉ ms.map Prod.fst) : valuesOf key ms = [] := by
  refine List.filterMap_eq_nil_iff.2 fun m hm => if_neg ?_
  rintro rfl
  exact h (List.mem_map_of_mem hm)

/-- **Of members with one key the last one counts** in a map. -/
theorem get?_of_mapOf? {α : Type} {decode? : Json → Option α} {m : SortedMap String α}
    (h : mapOf? decode? (.object ms) = some m) :
    m.get? key = (valuesOf key ms).getLast?.bind decode? := by
  obtain ⟨es, hes, rfl⟩ := Option.map_eq_some_iff.1 h
  have hmembers := Option.forall₂_of_mapM hes
  clear h hes
  have hvalues : (valuesOf key ms).map decode? = (SortedMap.valuesUnder key es).map some := by
    induction hmembers with
    | nil => rfl
    | @cons member e ms es he _ ih =>
      obtain ⟨k, j⟩ := member
      obtain ⟨a, ha, rfl⟩ := Option.map_eq_some_iff.1 he
      rw [SortedMap.valuesUnder_cons]
      by_cases hk : k = key
      · rw [if_pos hk, hk, valuesOf_cons_self, List.map_cons, List.map_cons, ih, ha]
      · rw [if_neg hk, valuesOf_cons_of_ne hk, ih]
  have hlast := congrArg List.getLast? hvalues
  rw [List.getLast?_map, List.getLast?_map] at hlast
  rw [SortedMap.get?_ofList]
  cases hvalue : (valuesOf key ms).getLast? with
  | none =>
    rw [hvalue] at hlast
    exact Option.map_eq_none_iff.1 hlast.symm
  | some j =>
    rw [hvalue] at hlast
    obtain ⟨a, ha, hj⟩ := Option.map_eq_some_iff.1 hlast.symm
    rw [ha, Option.bind_some, hj]

/-- A required field is there once. -/
theorem exists_of_required? {α : Type} {decode? : Json → Option α} {b : α}
    (h : required? decode? key ms = some b) : ∃ j, valuesOf key ms = [j] ∧ decode? j = some b := by
  rcases hvalues : valuesOf key ms with - | ⟨j, - | ⟨j', js⟩⟩ <;> rw [required?, hvalues] at h
  · exact nomatch h
  · exact ⟨j, rfl, h⟩
  · exact nomatch h

/-- An optional field is there once, or missing, or null. -/
theorem exists_of_optional? {α : Type} {decode? : Json → Option α} {o : Option α}
    (h : optional? decode? key ms = some o) :
    o = none ∧ (valuesOf key ms = [] ∨ valuesOf key ms = [.null]) ∨
      ∃ j b, j ≠ .null ∧ valuesOf key ms = [j] ∧ decode? j = some b ∧ o = some b := by
  rcases hvalues : valuesOf key ms with - | ⟨j, - | ⟨j', js⟩⟩ <;> rw [optional?, hvalues] at h
  · exact .inl ⟨(Option.some.inj h).symm, .inl rfl⟩
  · cases j with
    | null => exact .inl ⟨(Option.some.inj h).symm, .inr rfl⟩
    | bool | number | string | unreadable | list | object =>
      obtain ⟨b, hb, rfl⟩ := Option.map_eq_some_iff.1 h
      refine .inr ⟨_, b, ?_, rfl, hb, rfl⟩
      exact nofun
  · cases j <;> exact nomatch h

/-- A field is read from the values of its name. -/
theorem Absence.read?_congr (h : valuesOf key ms = valuesOf key ms') :
    absence.read? normal? key ms = absence.read? normal? key ms' := by
  simp only [Absence.read?, required?, optional?, h]

/-- **A value that is not null is read alike in every field**, if it is the only one of that
name. -/
theorem Absence.read?_member (hnull : a ≠ .null) :
    absence.read? normal? key (pre ++ (key, a) :: post) =
      if valuesOf key pre = [] ∧ valuesOf key post = [] then (normal? a).map some else none := by
  have hvalues : valuesOf key (pre ++ (key, a) :: post) =
      valuesOf key pre ++ a :: valuesOf key post := by
    rw [valuesOf_append, valuesOf_cons_self]
  split
  · next h =>
    rw [h.1, h.2, List.nil_append] at hvalues
    cases absence with
    | refused => simp only [Absence.read?, required?, hvalues]
    | omitted => simp only [Absence.read?, optional?, hvalues]
    | null =>
      simp only [Absence.read?, optional?, hvalues, Option.map_map]
      rfl
  · next h =>
    -- with another value of that name there are two at least
    obtain ⟨v, w, vs, hvs⟩ : ∃ v w vs, valuesOf key pre ++ a :: valuesOf key post = v :: w :: vs := by
      rcases hpre : valuesOf key pre with - | ⟨v, - | ⟨w, vs⟩⟩
      · obtain ⟨w, vs, hpost⟩ := List.exists_cons_of_ne_nil fun hpost => h ⟨hpre, hpost⟩
        exact ⟨a, w, vs, by rw [hpost, List.nil_append]⟩
      · exact ⟨v, a, _, rfl⟩
      · exact ⟨v, w, _, rfl⟩
    rw [hvs] at hvalues
    cases absence with
    | refused => simp only [Absence.read?, required?, hvalues]; rfl
    | omitted => simp only [Absence.read?, optional?, hvalues]
    | null => simp only [Absence.read?, optional?, hvalues]; rfl

/-- A record is read from its fields. -/
theorem normalFields?_congr (h : ∀ key absence form, (key, absence, form) ∈ fields →
    absence.read? form.normal? key ms = absence.read? form.normal? key ms') :
    normalFields? fields ms = normalFields? fields ms' := by
  induction fields with
  | nil => rfl
  | cons field fields ih =>
    obtain ⟨key, absence, form⟩ := field
    rw [normalFields?, normalFields?, h key absence form List.mem_cons_self,
      ih fun key absence form hf => h key absence form (List.mem_cons_of_mem _ hf)]

/-- One field that is refused refuses the record. -/
theorem normalFields?_eq_none (hfield : (key, absence, form) ∈ fields)
    (h : absence.read? form.normal? key ms = none) : normalFields? fields ms = none := by
  induction fields with
  | nil => exact absurd hfield List.not_mem_nil
  | cons field fields ih =>
    rcases List.mem_cons.1 hfield with rfl | hfield
    · rw [normalFields?, h, Option.bind_none]
    · rw [normalFields?, ih hfield]
      cases Absence.read? _ _ _ _ <;> rfl

/-- A field that no other of the record shares its name with. -/
def OnlyField (fields : List (String × Absence × Form)) (key : String) (absence : Absence)
    (form : Form) : Prop :=
  fields.filter (·.1 = key) = [(key, absence, form)]

theorem OnlyField.mem (h : OnlyField fields key absence form) : (key, absence, form) ∈ fields :=
  List.mem_of_mem_filter (p := fun field => decide (field.1 = key)) (h ▸ List.mem_cons_self)

theorem OnlyField.eq {absence' : Absence} {form' : Form} (h : OnlyField fields key absence form)
    (hmem : (key, absence', form') ∈ fields) : absence' = absence ∧ form' = form := by
  have hfilter : (key, absence', form') ∈ fields.filter (·.1 = key) :=
    List.mem_filter.2 ⟨hmem, decide_eq_true rfl⟩
  rw [h, List.mem_singleton, Prod.mk.injEq, Prod.mk.injEq] at hfilter
  exact hfilter.2

/-- Only the field of that name takes notice of a member. -/
theorem OnlyField.normalFields?_congr (h : OnlyField fields key absence form)
    (hrest : ∀ key', key' ≠ key → valuesOf key' ms = valuesOf key' ms')
    (hread : absence.read? form.normal? key ms = absence.read? form.normal? key ms') :
    normalFields? fields ms = normalFields? fields ms' := by
  refine Json.normalFields?_congr fun key' absence' form' hmem => ?_
  by_cases hkey : key' = key
  · subst hkey
    obtain ⟨rfl, rfl⟩ := h.eq hmem
    exact hread
  · exact Absence.read?_congr (hrest key' hkey)

theorem valuesOf_insert (h : key' ≠ key) :
    valuesOf key' (pre ++ (key, a) :: post) = valuesOf key' (pre ++ post) := by
  rw [valuesOf_append, valuesOf_append, valuesOf_cons_of_ne h.symm]

/-- **A member that the record does not know is passed over.** -/
theorem normalFields?_unknown (h : key ∉ fields.map Prod.fst) :
    normalFields? fields (pre ++ (key, a) :: post) = normalFields? fields (pre ++ post) := by
  refine normalFields?_congr fun key' absence form hmem => Absence.read?_congr (valuesOf_insert ?_)
  rintro rfl
  exact h (List.mem_map_of_mem hmem)

/-- **A null is as good as nothing**, where nothing is refused neither. -/
theorem OnlyField.normalFields?_null (h : OnlyField fields key absence form)
    (habsence : absence ≠ .refused) (hkey : key ∉ (pre ++ post).map Prod.fst) :
    normalFields? fields (pre ++ (key, .null) :: post) = normalFields? fields (pre ++ post) := by
  refine h.normalFields?_congr (fun key' hne => valuesOf_insert hne) ?_
  have hnone := valuesOf_eq_nil hkey
  have hnull : valuesOf key (pre ++ (key, .null) :: post) = [.null] := by
    rw [valuesOf_append, List.append_eq_nil_iff] at hnone
    rw [valuesOf_append, valuesOf_cons_self, hnone.1, hnone.2]
    rfl
  cases absence with
  | refused => exact absurd rfl habsence
  | omitted | null => simp only [Absence.read?, optional?, hnone, hnull]

/-- One value can stand for another that is read alike. -/
theorem OnlyField.normalFields?_member (h : OnlyField fields key absence form)
    (ha : form.normal? a = form.normal? a') (hnull : a = .null ↔ a' = .null) :
    normalFields? fields (pre ++ (key, a) :: post) =
      normalFields? fields (pre ++ (key, a') :: post) := by
  by_cases hcase : a = .null
  · rw [hcase, hnull.1 hcase]
  refine h.normalFields?_congr
    (fun key' hne => (valuesOf_insert hne).trans (valuesOf_insert hne).symm) ?_
  rw [Absence.read?_member hcase, Absence.read?_member (mt hnull.2 hcase), ha]

/-- A value that its field refuses is refused with the record, unless it is a null. -/
theorem OnlyField.normalFields?_refused (h : OnlyField fields key absence form)
    (ha : form.normal? a = none) (hnull : a ≠ .null) :
    normalFields? fields (pre ++ (key, a) :: post) = none :=
  normalFields?_eq_none h.mem (by rw [Absence.read?_member hnull, ha]; exact ite_self _)

end Fields

end Json

end IngressBalancer
