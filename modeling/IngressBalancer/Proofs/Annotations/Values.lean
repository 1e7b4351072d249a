import IngressBalancer.Annotations.Values
import IngressBalancer.Proofs.Data.Results
import IngressBalancer.Proofs.Data.SortedMap
import IngressBalancer.Proofs.Text.Blank
/-!
# What values give

Whatever text stands in an annotation, what is read from it is fit for use: the
ports that it lists can be listened to (`listenable_of_readListenPorts`), items
between commas have no blanks around them and are not empty
(`isItem_of_mem_commaList`), tags have keys (`get?_empty_of_readTags`), and
health checks a path and a port.
-/

namespace IngressBalancer

namespace Annotations

variable {value : String}

/-! ## Lists with commas -/

/-- Whether a text can stand between commas: it is not empty, and there is nothing to trim. -/
def IsItem (s : String) : Prop := s ≠ "" ∧ Text.trim s = s

/-- **The items between commas are items.** -/
theorem isItem_of_mem_commaList {s : String} (h : s ∈ commaList value) : IsItem s := by
  obtain ⟨cs, hcs, rfl⟩ := List.mem_map.1 h
  obtain ⟨hmem, hne⟩ := List.mem_filter.1 hcs
  obtain ⟨piece, -, rfl⟩ := List.mem_map.1 hmem
  refine ⟨fun hempty => ?_, ?_⟩
  · rw [String.ofList_eq_empty_iff] at hempty
    simp [hempty] at hne
  · rw [Text.trim, String.toList_ofList, Text.trimChars_trimChars]

/-! ## Listen ports -/

/-- Whether some ports can be listened to: there is one, none is zero, and they increase. -/
structure Listenable (ports : List (Protocol × UInt16)) : Prop where
  nonempty : ports ≠ []
  nonzero : ∀ p ∈ ports, p.2 ≠ 0
  increasing : ports.Pairwise fun p q => p.2 ≤ q.2

theorem listenable_singleton {p : Protocol × UInt16} (h : p.2 ≠ 0) : Listenable [p] :=
  ⟨List.cons_ne_nil _ _, List.forall_mem_singleton.2 h, List.pairwise_singleton _ _⟩

section dropRepeats

variable {α : Type} [DecidableEq α]

/-- Dropping repeats takes items away. -/
theorem sublist_dropRepeats (as : List α) : (dropRepeats as).Sublist as := by
  induction as with
  | nil => exact .slnil
  | cons a as ih =>
    rw [dropRepeats]
    cases has : dropRepeats as with
    | nil => exact (List.nil_sublist as).cons_cons a
    | cons b bs =>
      rw [has] at ih
      dsimp only
      split
      · exact ih.cons a
      · exact ih.cons_cons a

/-- But never all of them. -/
theorem dropRepeats_ne_nil {as : List α} (h : as ≠ []) : dropRepeats as ≠ [] := by
  cases as with
  | nil => exact absurd rfl h
  | cons a as =>
    rw [dropRepeats]
    split
    · exact List.cons_ne_nil _ _
    · split <;> exact List.cons_ne_nil _ _

end dropRepeats

/-- A port that is read is not zero. -/
theorem readPort_ne_zero {entry : String × UInt16} {p : Protocol × UInt16}
    (h : readPort entry = .ok p) : p.2 ≠ 0 := by
  rw [readPort] at h
  split at h
  · cases h
  · next hne =>
    obtain ⟨protocol, -, rfl⟩ := Except.exists_of_map_eq_ok h
    exact hne

/-- **Listen ports are what is listed**, read one by one, sorted, and freed of repeats. -/
theorem readListenPorts_eq_ok_iff {ports : List (Protocol × UInt16)} :
    readListenPorts value = .ok ports ↔ ∃ maps listed,
      portMaps? value = some maps ∧ (maps.flatMap (·.entries)).mapM readPort = .ok listed ∧
      listed ≠ [] ∧ ports = dropRepeats (listed.mergeSort fun a b => a.2 ≤ b.2) := by
  constructor
  · intro h
    unfold readListenPorts at h
    split at h
    · next maps hmaps =>
      obtain ⟨listed, hlisted, h⟩ := Except.exists_of_bind_eq_ok h
      split at h
      · cases h
      · next hne =>
        obtain rfl := Except.ok.inj h
        exact ⟨maps, listed, hmaps, hlisted, fun hnil => hne (List.isEmpty_iff.2 hnil), rfl⟩
    · cases h
  · rintro ⟨maps, listed, hmaps, hlisted, hne, rfl⟩
    have hsome : ¬ listed.isEmpty = true := fun hnil => hne (List.isEmpty_iff.1 hnil)
    unfold readListenPorts
    rw [hmaps]
    dsimp only
    rw [hlisted]
    exact if_neg hsome

/-! Pairs are compared by their ports, which is transitive and total, if not antisymmetric. -/

theorem port_le_trans (a b c : Protocol × UInt16) (hab : decide (a.2 ≤ b.2) = true)
    (hbc : decide (b.2 ≤ c.2) = true) : decide (a.2 ≤ c.2) = true := by
  simp only [decide_eq_true_eq] at *
  exact UInt16.le_trans hab hbc

theorem port_le_total (a b : Protocol × UInt16) :
    (decide (a.2 ≤ b.2) || decide (b.2 ≤ a.2)) = true := by
  simpa using UInt16.le_total a.2 b.2

/-- Sorted ports increase. -/
theorem pairwise_mergeSort_ports (listed : List (Protocol × UInt16)) :
    (listed.mergeSort fun a b => a.2 ≤ b.2).Pairwise fun a b => a.2 ≤ b.2 :=
  (List.pairwise_mergeSort port_le_trans port_le_total listed).imp of_decide_eq_true

/-- **Listed ports can be listened to.** -/
theorem listenable_of_readListenPorts {ports : List (Protocol × UInt16)}
    (h : readListenPorts value = .ok ports) : Listenable ports := by
  obtain ⟨maps, listed, -, hlisted, hne, rfl⟩ := readListenPorts_eq_ok_iff.1 h
  have hsub := sublist_dropRepeats (listed.mergeSort fun a b => a.2 ≤ b.2)
  refine ⟨dropRepeats_ne_nil fun hnil => hne ?_, fun p hp => ?_, ?_⟩
  · have hperm := List.mergeSort_perm listed fun a b => a.2 ≤ b.2
    rw [hnil] at hperm
    exact hperm.nil_eq.symm
  · exact Except.forall_mem_of_mapM (fun _ _ => readPort_ne_zero) hlisted p
      (List.mem_mergeSort.1 (hsub.subset hp))
  · exact (pairwise_mergeSort_ports listed).sublist hsub

/-! ## Tags -/

theorem readTag_key_ne {pair : String} {tag : String × String} (h : readTag pair = .ok tag) :
    tag.1 ≠ "" := by
  rw [readTag] at h
  split at h
  · dsimp only at h
    split at h
    · cases h
    · next hne =>
      obtain rfl := Except.ok.inj h
      simpa [String.ofList_eq_empty_iff] using hne
  · cases h

/-- **Tags have keys.** -/
theorem get?_empty_of_readTags {tags : SortedMap String String} (h : readTags value = .ok tags) :
    tags.get? "" = none := by
  obtain ⟨pairs, hpairs, rfl⟩ := Except.exists_of_map_eq_ok h
  refine Option.eq_none_iff_forall_not_mem.2 fun v hv => ?_
  have hmem := SortedMap.mem_of_mem_ofList (SortedMap.mem_entries_iff.2 hv)
  exact Except.forall_mem_of_mapM (fun _ _ => readTag_key_ne) hpairs _ hmem rfl

/-! ## Health checks -/

/-- Whether a text is a path from the root. -/
def IsRooted (path : String) : Prop := path.toList.head? = some '/'

theorem isRooted_of_readPath {path : String} (h : readPath value = .ok path) : IsRooted path := by
  rw [readPath] at h
  split at h
  · next hhead => exact Except.ok.inj h ▸ hhead
  · cases h

/-- Whether a text says which port to check: that of the targets, or one with a number. -/
def IsCheckPort (port : String) : Prop :=
  port = "traffic-port" ∨ ∃ n, Text.readUpTo 65535 port.toList = some n ∧ 1 ≤ n ∧ n ≤ 65535

theorem isCheckPort_of_readCheckPort {port : String} (h : readCheckPort value = .ok port) :
    IsCheckPort port := by
  rw [readCheckPort] at h
  split at h
  · next hport =>
    obtain rfl := Except.ok.inj h
    refine hport.imp_right fun hnumber => ?_
    obtain ⟨n, hn⟩ := Option.isSome_iff_exists.1 hnumber
    obtain ⟨hread, hne⟩ := Option.filter_eq_some_iff.1 hn
    have hle := (Option.filter_eq_some_iff.1 hread).2
    exact ⟨n, hread, Nat.one_le_iff_ne_zero.2 (by simpa using hne), by simpa using hle⟩
  · cases h

end Annotations

end IngressBalancer
