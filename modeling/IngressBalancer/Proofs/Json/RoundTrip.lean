import IngressBalancer.Proofs.Json.Tokens
/-!
# Values that are written are read back

The compact text of a value is read as that value (`parse?_compact`), for
every value without an unreadable part (`Plain`).

A reader stops behind the value and carries a bound on the depth; twice the
length of the text that it takes is enough of it (`ReadsBack`). That of a list
or an object follows from those of its parts, one item at a time.
-/

namespace IngressBalancer

namespace Json

variable {c : Char} {cs rest : List Char} {depth : Nat} {j : Json}

/-- A value of which every part has a text. -/
inductive Plain : Json → Prop
  | null : Plain .null
  | bool (b : Bool) : Plain (.bool b)
  | number (n : Numeral) : Plain (.number n)
  | string (s : String) : Plain (.string s)
  | list {js : List Json} (h : ∀ j ∈ js, Plain j) : Plain (.list js)
  | object {ms : List (String × Json)} (h : ∀ m ∈ ms, Plain m.2) : Plain (.object ms)

/-- A value is read from its text, in front of whatever may follow it. -/
def ReadsBack (j : Json) : Prop := ∀ depth rest, 2 * j.render.length ≤ depth → Delimited rest →
  readValue depth (j.render ++ rest) = some (j, rest)

/-! ## Fronts -/

theorem skipSpace_cons (h : isSpace c = false) : skipSpace (c :: cs) = c :: cs :=
  List.dropWhile_cons_of_neg (by simp [h])

/-- A number does not start with a blank. -/
theorem isSpace_of_starts (h : c = '-' ∨ Text.isDigit c = true) : isSpace c = false := by
  refine Bool.eq_false_iff.2 fun hspace => ?_
  simp only [isSpace, Bool.or_eq_true, decide_eq_true_eq] at hspace
  rcases hspace with ((rfl | rfl) | rfl) | rfl <;> exact absurd h (by decide)

/-- Nor as another value does. -/
theorem readValue_number (h : c = '-' ∨ Text.isDigit c = true) :
    readValue (depth + 1) (c :: cs) = (readNumber (c :: cs)).map fun p => (.number p.1, p.2) := by
  rw [readValue, skipSpace_cons (isSpace_of_starts h)]
  split
  all_goals first
    | rfl
    | next he =>
      obtain ⟨rfl, -⟩ := List.cons_eq_cons.1 he
      exact absurd h (by decide)

/-- A value starts with no blank, and not as a list ends. -/
theorem exists_render_eq_cons (j : Json) :
    ∃ c cs, j.render = c :: cs ∧ isSpace c = false ∧ c ≠ ']' := by
  match j with
  | .null | .unreadable | .bool true | .bool false => exact ⟨_, _, rfl, rfl, by decide⟩
  | .number n =>
    obtain ⟨c, cs, hcs, hc⟩ := n.exists_render_eq_cons
    exact ⟨c, cs, hcs, isSpace_of_starts hc, by rintro rfl; exact absurd hc (by decide)⟩
  | .string s | .list js | .object ms => exact ⟨_, _, rfl, rfl, by decide⟩

/-- So there is something to read. -/
theorem exists_depth (h : 2 * j.render.length ≤ depth) : ∃ d, depth = d + 1 := by
  obtain ⟨c, cs, hcs, -⟩ := exists_render_eq_cons j
  rw [hcs, List.length_cons] at h
  exact ⟨depth - 1, by omega⟩

/-! ## Items and members -/

theorem renderItems_cons {js : List Json} (h : js ≠ []) :
    renderItems (j :: js) = j.render ++ ',' :: renderItems js := by
  rw [renderItems]
  exact h

theorem renderMembers_cons {k : String} {ms : List (String × Json)} (h : ms ≠ []) :
    renderMembers ((k, j) :: ms) = renderString k ++ ':' :: j.render ++ ',' :: renderMembers ms := by
  rw [renderMembers]
  exact h

/-- **The items of a list are read one by one.** -/
theorem readItems_renderItems {js : List Json} (hne : js ≠ []) (h : ∀ j ∈ js, ReadsBack j)
    (hdepth : 2 * (renderItems js).length + 1 ≤ depth) :
    readItems depth (renderItems js ++ ']' :: rest) = some (js, rest) := by
  induction js generalizing depth with
  | nil => exact absurd rfl hne
  | cons j js ih =>
    obtain ⟨depth, rfl⟩ : ∃ d, depth = d + 1 := ⟨depth - 1, by omega⟩
    have hj := h j List.mem_cons_self
    rcases eq_or_ne js [] with rfl | hjs
    · rw [renderItems] at hdepth ⊢
      rw [readItems, hj depth _ (by omega) (delimited_cons (by decide))]
      rfl
    · rw [renderItems_cons hjs, List.length_append, List.length_cons] at hdepth
      have hjs' : readItems depth (renderItems js ++ ']' :: rest) = some (js, rest) :=
        ih hjs (fun j hj => h j (List.mem_cons_of_mem _ hj)) (by omega)
      rw [renderItems_cons hjs, List.append_assoc, List.cons_append, readItems,
        hj depth _ (by omega) (delimited_cons (by decide))]
      simp only [Option.bind_eq_bind, Option.bind_some, skipSpace_cons (c := ',') rfl, hjs']
      rfl

/-- A member is its key in quotes, a colon and its value. The last one stands before a brace. -/
theorem readMembers_last {k : String} (hj : ReadsBack j) (hdepth : 2 * j.render.length ≤ depth) :
    readMembers (depth + 1) (renderString k ++ ':' :: (j.render ++ '\x7d' :: rest)) =
      some ([(some k, j)], rest) := by
  obtain ⟨cs, hcs, hkey⟩ := readString_renderString k (':' :: (j.render ++ '\x7d' :: rest))
  have hread := hj depth ('\x7d' :: rest) hdepth (delimited_cons (by decide))
  rw [hcs, readMembers]
  simp only [skipSpace_cons (c := '"') rfl, skipSpace_cons (c := ':') rfl, hkey,
    Option.bind_eq_bind, Option.bind_some, hread]
  rfl

/-- After a comma there are more. -/
theorem readMembers_more {k : String} (hj : ReadsBack j) (hdepth : 2 * j.render.length ≤ depth) :
    readMembers (depth + 1) (renderString k ++ ':' :: (j.render ++ ',' :: rest)) =
      (readMembers depth rest).map fun p => ((some k, j) :: p.1, p.2) := by
  obtain ⟨cs, hcs, hkey⟩ := readString_renderString k (':' :: (j.render ++ ',' :: rest))
  have hread := hj depth (',' :: rest) hdepth (delimited_cons (by decide))
  rw [hcs, readMembers]
  simp only [skipSpace_cons (c := '"') rfl, skipSpace_cons (c := ':') rfl, hkey,
    Option.bind_eq_bind, Option.bind_some, hread, skipSpace_cons (c := ',') rfl]
  exact Option.map_eq_bind.symm

/-- **The members of an object are read one by one**, each key with its text. -/
theorem readMembers_renderMembers {ms : List (String × Json)} (hne : ms ≠ [])
    (h : ∀ m ∈ ms, ReadsBack m.2) (hdepth : 2 * (renderMembers ms).length + 1 ≤ depth) :
    readMembers depth (renderMembers ms ++ '\x7d' :: rest) =
      some (ms.map fun m => (some m.1, m.2), rest) := by
  induction ms generalizing depth with
  | nil => exact absurd rfl hne
  | cons m ms ih =>
    obtain ⟨k, j⟩ := m
    obtain ⟨depth, rfl⟩ : ∃ d, depth = d + 1 := ⟨depth - 1, by omega⟩
    have hj : ReadsBack j := h (k, j) List.mem_cons_self
    rcases eq_or_ne ms [] with rfl | hms
    · simp only [renderMembers, List.length_append, List.length_cons] at hdepth
      rw [renderMembers, List.append_assoc, List.cons_append, readMembers_last hj (by omega)]
      rfl
    · simp only [renderMembers_cons hms, List.length_append, List.length_cons] at hdepth
      have hms' : readMembers depth (renderMembers ms ++ '\x7d' :: rest) =
          some (ms.map fun m => (some m.1, m.2), rest) :=
        ih hms (fun m hm => h m (List.mem_cons_of_mem _ hm)) (by omega)
      rw [renderMembers_cons hms, List.append_assoc, List.append_assoc, List.cons_append,
        List.cons_append, readMembers_more hj (by omega), hms', Option.map_some]
      rfl

/-- Members whose keys have a text are an object. -/
theorem ofKeyed_map (ms : List (String × Json)) :
    ofKeyed (ms.map fun m => (some m.1, m.2)) = .object ms := by
  have hkeys : (ms.map fun m => (some m.1, m.2)).mapM
      (fun m : Option String × Json => m.1.map fun k => (k, m.2)) = some ms := by
    induction ms with
    | nil => rfl
    | cons m ms ih => simp [ih]
  rw [ofKeyed, hkeys]

/-! ## Values -/

/-- A list is read if its items are. -/
theorem readsBack_list {js : List Json} (h : ∀ j ∈ js, ReadsBack j) : ReadsBack (.list js) := by
  intro depth rest hdepth _
  obtain ⟨depth, rfl⟩ := exists_depth hdepth
  simp only [render, List.length_append, List.length_cons, List.length_nil] at hdepth
  rcases eq_or_ne js [] with rfl | hjs
  · rfl
  -- the first item is not the closing bracket
  obtain ⟨c, cs, hcs, hspace, hclose⟩ : ∃ c cs,
      renderItems js = c :: cs ∧ isSpace c = false ∧ c ≠ ']' := by
    obtain ⟨j, js, rfl⟩ := List.exists_cons_of_ne_nil hjs
    obtain ⟨c, cs, hcs, hc⟩ := exists_render_eq_cons j
    rcases eq_or_ne js [] with rfl | hjs
    · exact ⟨c, cs, by rw [renderItems, hcs], hc⟩
    · exact ⟨c, _, by rw [renderItems_cons hjs, hcs]; rfl, hc⟩
  have hitems : readItems depth (renderItems js ++ ']' :: rest) = some (js, rest) :=
    readItems_renderItems hjs h (by omega)
  have hopen : render (.list js) ++ rest = '[' :: (renderItems js ++ ']' :: rest) := by
    simp [render]
  rw [hopen, readValue, skipSpace_cons rfl]
  simp only
  rw [hcs, List.cons_append] at hitems ⊢
  rw [skipSpace_cons hspace]
  split
  · next he => exact absurd (List.cons_eq_cons.1 he).1 hclose
  · rw [hitems]; rfl

/-- An object is read if its values are. -/
theorem readsBack_object {ms : List (String × Json)} (h : ∀ m ∈ ms, ReadsBack m.2) :
    ReadsBack (.object ms) := by
  intro depth rest hdepth _
  obtain ⟨depth, rfl⟩ := exists_depth hdepth
  simp only [render, List.length_append, List.length_cons, List.length_nil] at hdepth
  rcases eq_or_ne ms [] with rfl | hms
  · rfl
  -- the first member starts with a quote
  obtain ⟨cs, hcs⟩ : ∃ cs, renderMembers ms = '"' :: cs := by
    obtain ⟨m, ms, rfl⟩ := List.exists_cons_of_ne_nil hms
    rcases eq_or_ne ms [] with rfl | hms
    · exact ⟨_, rfl⟩
    · exact ⟨_, renderMembers_cons hms⟩
  have hmembers : readMembers depth (renderMembers ms ++ '\x7d' :: rest) =
      some (ms.map fun m => (some m.1, m.2), rest) :=
    readMembers_renderMembers hms h (by omega)
  have hopen : render (.object ms) ++ rest = '\x7b' :: (renderMembers ms ++ '\x7d' :: rest) := by
    simp [render]
  rw [hopen, readValue, skipSpace_cons rfl]
  simp only
  rw [hcs, List.cons_append] at hmembers ⊢
  rw [skipSpace_cons rfl]
  simp only [hmembers, Option.map_some, ofKeyed_map]
  rfl

/-- **A value is read from its text**, in front of whatever may follow it. -/
theorem Plain.readsBack (h : Plain j) : ReadsBack j := by
  induction h with
  | null =>
    intro depth rest hdepth _
    obtain ⟨depth, rfl⟩ := exists_depth hdepth
    rfl
  | bool b =>
    intro depth rest hdepth _
    obtain ⟨depth, rfl⟩ := exists_depth hdepth
    cases b <;> rfl
  | number n =>
    intro depth rest hdepth hrest
    obtain ⟨depth, rfl⟩ := exists_depth hdepth
    obtain ⟨c, cs, hcs, hc⟩ := n.exists_render_eq_cons
    have hnumber := readNumber_render n hrest
    rw [hcs, List.cons_append] at hnumber
    rw [render, hcs, List.cons_append, readValue_number hc, hnumber, Option.map_some]
  | string s =>
    intro depth rest hdepth _
    obtain ⟨depth, rfl⟩ := exists_depth hdepth
    obtain ⟨cs, hcs, hstring⟩ := readString_renderString s rest
    rw [render, hcs, readValue, skipSpace_cons rfl]
    simp only [hstring, Option.map_some, Option.elim_some]
  | list _ ih => exact readsBack_list ih
  | object _ ih => exact readsBack_object ih

/-- **What is written is read back.** -/
theorem parse?_compact (h : Plain j) : parse? j.compact = some j := by
  have hread := h.readsBack (2 * j.render.length + 1) [] (by omega) (by rintro c ⟨⟩)
  rw [List.append_nil] at hread
  rw [parse?, compact, String.toList_ofList, parseChars?, hread]
  rfl

end Json

end IngressBalancer
