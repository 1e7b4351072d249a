import IngressBalancer.Proofs.Annotations.Values
import IngressBalancer.Proofs.Json.Forms
/-!
# Ports that are listed

What a text with listen ports gives, as a list. It holds just the pairs of a
protocol and a port that the text writes (`Writes`), in
increasing order of the ports. Sorting by the port alone leaves the pairs of one
port in the order in which they are listed (`filter_mergeSort_ports`), and only
neighbours that are equal are taken for repeats; so a pair is there twice exactly
where the text lists it before and behind another pair with the same port
(`canonical_of_readListenPorts`).
-/

namespace IngressBalancer

/-- The number in a value that is read as one of sixteen bits. -/
theorem Json.uint16?_eq_some_iff {j : Json} {n : UInt16} :
    uint16? j = some n ↔ j.int? = some (n.toNat : Int) := by
  rw [uint16?, intIn?, Option.map_eq_some_iff]
  constructor
  · rintro ⟨i, hi, rfl⟩
    obtain ⟨hint, hrange⟩ := Option.filter_eq_some_iff.1 hi
    simp only [Bool.and_eq_true, decide_eq_true_eq] at hrange
    rw [hint, UInt16.toNat_ofNat_of_lt' (by simp only [UInt16.size]; omega)]
    exact congrArg some (by omega)
  · intro hint
    have hlt := n.toNat_lt
    refine ⟨(n.toNat : Int), Option.filter_eq_some_iff.2 ⟨hint, ?_⟩, ?_⟩
    · simp only [Bool.and_eq_true, decide_eq_true_eq]
      omega
    · rw [Int.toNat_natCast, UInt16.ofNat_toNat]

namespace Annotations

/-! ## Repeats -/

section dropRepeats

variable {α : Type} [DecidableEq α] {a b : α} {as bs : List α}

/-- What a list starts with stays its first item. -/
theorem exists_dropRepeats_cons (a : α) (as : List α) : ∃ bs, dropRepeats (a :: as) = a :: bs := by
  rw [dropRepeats]
  split
  · exact ⟨[], rfl⟩
  · split
    · next hab => exact ⟨_, by rw [hab]⟩
    · exact ⟨_, rfl⟩

/-- Dropping repeats loses no item. -/
theorem mem_dropRepeats : a ∈ dropRepeats as ↔ a ∈ as := by
  refine ⟨fun h => (sublist_dropRepeats as).subset h, fun h => ?_⟩
  induction as with
  | nil => exact h
  | cons c as ih =>
    rcases List.mem_cons.1 h with rfl | h
    · obtain ⟨bs, hbs⟩ := exists_dropRepeats_cons a as
      rw [hbs]
      exact List.mem_cons_self
    · have hmem := ih h
      rw [dropRepeats]
      cases has : dropRepeats as with
      | nil =>
        rw [has] at hmem
        exact absurd hmem List.not_mem_nil
      | cons d ds =>
        rw [has] at hmem
        dsimp only
        split
        · exact hmem
        · exact List.mem_cons_of_mem _ hmem

/-- No two neighbours are equal any more. -/
theorem isChain_dropRepeats (as : List α) : (dropRepeats as).IsChain (· ≠ ·) := by
  induction as with
  | nil => exact .nil
  | cons a as ih =>
    rw [dropRepeats]
    cases has : dropRepeats as with
    | nil => exact .singleton a
    | cons b bs =>
      rw [has] at ih
      dsimp only
      split
      · exact ih
      · next hne => exact ih.cons_cons hne

/-- Items of which no two neighbours are equal are all kept. -/
theorem sublist_dropRepeats_of_isChain (hchain : bs.IsChain (· ≠ ·)) (h : bs.Sublist as) :
    bs.Sublist (dropRepeats as) := by
  induction h with
  | slnil => exact .slnil
  | @cons bs as a _ ih =>
    refine (ih hchain).trans ?_
    rw [dropRepeats]
    cases dropRepeats as with
    | nil => exact List.nil_sublist _
    | cons c cs =>
      dsimp only
      split
      · exact .refl _
      · exact List.sublist_cons_self _ _
  | @cons_cons bs as a _ ih =>
    have hkept := ih hchain.tail
    rw [dropRepeats]
    cases has : dropRepeats as with
    | nil =>
      rw [has] at hkept
      exact hkept.cons_cons a
    | cons c cs =>
      rw [has] at hkept
      dsimp only
      split
      · next hac =>
        -- the items behind do not start with this one, so they are all behind its repeat
        subst hac
        cases hkept with
        | cons _ hbehind => exact hbehind.cons_cons a
        | cons_cons _ _ => exact absurd rfl hchain.rel
      · exact hkept.cons_cons a

/-- Whether an item stands before and behind another one. -/
def Returns (as : List α) : Prop := ∃ a b, a ≠ b ∧ [a, b, a].Sublist as

/-- An item that is twice in a list whose neighbours differ stands around another one. -/
theorem returns_of_isChain (hchain : as.IsChain (· ≠ ·)) (h : ¬ as.Nodup) : Returns as := by
  induction as with
  | nil => exact absurd List.nodup_nil h
  | cons a as ih =>
    by_cases ha : a ∈ as
    · cases as with
      | nil => exact absurd ha List.not_mem_nil
      | cons b bs =>
        have hab : a ≠ b := hchain.rel
        have hbehind : a ∈ bs := (List.mem_cons.1 ha).resolve_left hab
        exact ⟨a, b, hab, ((List.singleton_sublist.2 hbehind).cons_cons b).cons_cons a⟩
    · obtain ⟨c, d, hcd, hsub⟩ := ih hchain.tail fun hnodup => h (List.nodup_cons.2 ⟨ha, hnodup⟩)
      exact ⟨c, d, hcd, hsub.cons a⟩

/-- **Dropping repeats leaves each item once** exactly where no item returns. -/
theorem nodup_dropRepeats_iff : (dropRepeats as).Nodup ↔ ¬ Returns as := by
  constructor
  · rintro hnodup ⟨a, b, hab, hsub⟩
    have hchain : [a, b, a].IsChain (· ≠ ·) := .cons_cons hab (.cons_cons hab.symm (.singleton a))
    have htwice := hnodup.sublist (sublist_dropRepeats_of_isChain hchain hsub)
    simp at htwice
  · intro hno
    by_contra hdup
    obtain ⟨a, b, hab, hsub⟩ := returns_of_isChain (isChain_dropRepeats as) hdup
    exact hno ⟨a, b, hab, hsub.trans (sublist_dropRepeats as)⟩

end dropRepeats

/-! ## The order of the ports -/

/-- Whether a pair is listed before and behind another one with the same port. -/
def Alternates (listed : List (Protocol × UInt16)) : Prop :=
  ∃ p q, p ≠ q ∧ p.2 = q.2 ∧ [p, q, p].Sublist listed

/-- **Sorting by the port leaves the pairs of one port in their order.** -/
theorem filter_mergeSort_ports (listed : List (Protocol × UInt16)) (n : UInt16) :
    (listed.mergeSort fun a b => a.2 ≤ b.2).filter (·.2 = n) = listed.filter (·.2 = n) := by
  have hsub : (listed.filter (·.2 = n)).Sublist
      ((listed.mergeSort fun a b => a.2 ≤ b.2).filter (·.2 = n)) := by
    have hsame : (listed.filter (·.2 = n)).Pairwise fun a b => decide (a.2 ≤ b.2) = true := by
      refine List.pairwise_of_forall_mem_list fun a ha b hb => ?_
      have ha' := (List.mem_filter.1 ha).2
      have hb' := (List.mem_filter.1 hb).2
      simp only [decide_eq_true_eq] at ha' hb' ⊢
      rw [ha', hb']
      exact UInt16.le_refl n
    have hall := List.sublist_mergeSort port_le_trans port_le_total hsame List.filter_sublist
    simpa using hall.filter (·.2 = n)
  exact (hsub.eq_of_length_le (((List.mergeSort_perm listed _).filter _).length_eq.le)).symm

/-- So items return in the sorted ports where they alternate in the list. -/
theorem returns_mergeSort_ports_iff {listed : List (Protocol × UInt16)} :
    Returns (listed.mergeSort fun a b => a.2 ≤ b.2) ↔ Alternates listed := by
  constructor
  · rintro ⟨p, q, hne, hsub⟩
    have hsorted := (pairwise_mergeSort_ports listed).sublist hsub
    simp only [List.pairwise_cons, List.mem_cons, List.not_mem_nil, or_false] at hsorted
    have hsame : p.2 = q.2 := UInt16.le_antisymm (hsorted.1 q (.inl rfl)) (hsorted.2.1 p rfl)
    refine ⟨p, q, hne, hsame, ?_⟩
    have hfilter := hsub.filter (·.2 = p.2)
    rw [filter_mergeSort_ports] at hfilter
    simp only [hsame, decide_true, List.filter_cons_of_pos, List.filter_nil] at hfilter
    exact hfilter.trans List.filter_sublist
  · rintro ⟨p, q, hne, hsame, hsub⟩
    have hsorted : [p, q, p].Pairwise fun a b => decide (a.2 ≤ b.2) = true := by simp [hsame]
    exact ⟨p, q, hne, List.sublist_mergeSort port_le_trans port_le_total hsorted hsub⟩

/-! ## What a text lists -/

/-- Whether a name and a number stand for a protocol, in letters of either case, and a port. -/
def Means (entry : String × UInt16) (p : Protocol × UInt16) : Prop :=
  upper entry.1 = p.1.word ∧ entry.2 = p.2

/-- Whether a text lists some pairs in this order: object by object, and the pairs of one object in
the order of their names. -/
def Lists (value : String) (listed : List (Protocol × UInt16)) : Prop :=
  ∃ maps, portMaps? value = some maps ∧ List.Forall₂ Means (maps.flatMap (·.entries)) listed

/-- Whether a text writes a pair: one of the objects that it lists has a member that means it, the
last one of its name. -/
def Writes (value : String) (p : Protocol × UInt16) : Prop :=
  ∃ items members name j, Json.parse? value = some (.list items) ∧ .object members ∈ items ∧
    (Json.valuesOf name members).getLast? = some j ∧ upper name = p.1.word ∧
    j.int? = some (p.2.toNat : Int)

variable {value : String} {ports : List (Protocol × UInt16)}

/-- A pair means one thing. -/
theorem means_injective {entry : String × UInt16} {p q : Protocol × UInt16} (hp : Means entry p)
    (hq : Means entry q) : p = q := by
  have hword : some p.1 = some q.1 := by
    rw [← Protocol.ofWord?_word, ← Protocol.ofWord?_word, ← hp.1, ← hq.1]
  exact Prod.ext (Option.some.inj hword) (hp.2.symm.trans hq.2)

/-- What is read for a pair is what it means, if it is no zero. -/
theorem readPort_eq_ok_iff {entry : String × UInt16} {p : Protocol × UInt16} :
    readPort entry = .ok p ↔ Means entry p ∧ p.2 ≠ 0 := by
  obtain ⟨name, n⟩ := entry
  obtain ⟨protocol, m⟩ := p
  have hword : Protocol.ofWord? (upper name) = some protocol ↔ upper name = protocol.word := by
    refine ⟨fun h => ?_, fun h => h ▸ Protocol.ofWord?_word protocol⟩
    rw [Protocol.ofWord?] at h
    split_ifs at h with hhttp hhttps <;> cases h
    · exact hhttp
    · exact hhttps
  rw [Means, ← hword, readPort, readProtocol]
  dsimp only
  split
  · next hzero =>
    constructor
    · intro h
      cases h
    · rintro ⟨⟨-, rfl⟩, hne⟩
      exact absurd hzero hne
  · next hne =>
    cases Protocol.ofWord? (upper name) with
    | none => simp [Except.map]
    | some found =>
      simp only [Except.map, Except.ok.injEq, Prod.mk.injEq, Option.some.injEq]
      exact ⟨fun h => ⟨h, h.2 ▸ hne⟩, And.left⟩

/-- The maps that a text lists are those of its objects. -/
theorem forall₂_of_portMaps? {maps : List (SortedMap String UInt16)}
    (h : portMaps? value = some maps) : ∃ items, Json.parse? value = some (.list items) ∧
      List.Forall₂ (fun item m => ∃ members, item = .object members ∧
        ∀ name, m.get? name = (Json.valuesOf name members).getLast?.bind Json.uint16?) items maps := by
  obtain ⟨j, hj, h⟩ := Option.bind_eq_some_iff.1 h
  cases j with
  | list items =>
    refine ⟨items, hj, (Option.forall₂_of_mapM h).imp fun item m hm => ?_⟩
    cases item with
    | object members => exact ⟨members, rfl, fun name => Json.get?_of_mapOf? hm⟩
    | null | bool | number | string | list | unreadable => exact nomatch hm
  | null | bool | number | string | object | unreadable => exact nomatch h

/-- What a text writes is what its maps hold. -/
theorem writes_iff_of_portMaps? {maps : List (SortedMap String UInt16)}
    (h : portMaps? value = some maps) {p : Protocol × UInt16} :
    Writes value p ↔ ∃ entry ∈ maps.flatMap (·.entries), Means entry p := by
  obtain ⟨items, hitems, hmaps⟩ := forall₂_of_portMaps? h
  constructor
  · rintro ⟨items', members, name, j, hitems', hmem, hlast, hname, hint⟩
    obtain rfl : items = items' := by simpa using hitems.symm.trans hitems'
    obtain ⟨m, hm, members', hobject, hget⟩ := exists_of_forall₂ hmaps hmem
    cases hobject
    refine ⟨(name, p.2), List.mem_flatMap.2 ⟨m, hm, ?_⟩, hname, rfl⟩
    rw [SortedMap.mem_entries_iff, hget, hlast]
    exact Json.uint16?_eq_some_iff.2 hint
  · rintro ⟨⟨name, n⟩, hentry, hname, hn⟩
    obtain ⟨m, hm, hentry⟩ := List.mem_flatMap.1 hentry
    obtain ⟨item, hitem, members, rfl, hget⟩ := exists_of_forall₂_right hmaps hm
    rw [SortedMap.mem_entries_iff, hget] at hentry
    obtain ⟨j, hlast, hint⟩ := Option.bind_eq_some_iff.1 hentry
    exact ⟨items, members, name, j, hitems, hitem, hlast, hname,
      hn ▸ Json.uint16?_eq_some_iff.1 hint⟩

/-- **Listen ports come from one list of pairs**, all of them written, which the text lists. -/
theorem exists_lists_of_readListenPorts (h : readListenPorts value = .ok ports) :
    ∃ listed, Lists value listed ∧ (∀ p, p ∈ listed ↔ Writes value p) ∧
      ports = dropRepeats (listed.mergeSort fun a b => a.2 ≤ b.2) := by
  obtain ⟨maps, listed, hmaps, hlisted, -, rfl⟩ := readListenPorts_eq_ok_iff.1 h
  have hmeans := Except.forall₂_of_mapM hlisted
  refine ⟨listed, ⟨maps, hmaps, hmeans.imp fun _ _ hread => (readPort_eq_ok_iff.1 hread).1⟩,
    fun p => ?_, rfl⟩
  rw [writes_iff_of_portMaps? hmaps]
  constructor
  · intro hp
    obtain ⟨entry, hentry, hread⟩ := exists_of_forall₂_right hmeans hp
    exact ⟨entry, hentry, (readPort_eq_ok_iff.1 hread).1⟩
  · rintro ⟨entry, hentry, hmean⟩
    obtain ⟨q, hq, hread⟩ := exists_of_forall₂ hmeans hentry
    exact means_injective hmean (readPort_eq_ok_iff.1 hread).1 ▸ hq

/-- **What listen ports hold**: the pairs that the text writes, in increasing order of the ports;
and each of them once, exactly where no two alternate in the list. -/
theorem canonical_of_readListenPorts (h : readListenPorts value = .ok ports) :
    (∀ p, p ∈ ports ↔ Writes value p) ∧ (ports.Pairwise fun p q => p.2 ≤ q.2) ∧
    ∃ listed, Lists value listed ∧ (ports.Nodup ↔ ¬ Alternates listed) := by
  have hlistenable := listenable_of_readListenPorts h
  obtain ⟨listed, hlists, hwrites, rfl⟩ := exists_lists_of_readListenPorts h
  refine ⟨fun p => ?_, hlistenable.increasing, listed, hlists, ?_⟩
  · rw [mem_dropRepeats, List.mem_mergeSort, hwrites]
  · rw [nodup_dropRepeats_iff, returns_mergeSort_ports_iff]

/-- What is listed in increasing order of the ports is freed of repeats, and not sorted anew. -/
theorem readListenPorts_of_listed (listed : List (Protocol × UInt16))
    (h : ((portMaps? value).bind fun maps =>
      ((maps.flatMap (·.entries)).mapM readPort).toOption) = some listed)
    (hne : listed ≠ []) (hincreasing : listed.Pairwise fun p q => decide (p.2 ≤ q.2) = true) :
    readListenPorts value = .ok (dropRepeats listed) := by
  obtain ⟨maps, hmaps, hread⟩ := Option.bind_eq_some_iff.1 h
  have hlisted : (maps.flatMap (·.entries)).mapM readPort = .ok listed := by
    cases hresult : (maps.flatMap (·.entries)).mapM readPort with
    | error fault =>
      rw [hresult] at hread
      cases hread
    | ok ports =>
      rw [hresult] at hread
      exact congrArg Except.ok (Option.some.inj hread)
  exact readListenPorts_eq_ok_iff.2
    ⟨maps, listed, hmaps, hlisted, hne, by rw [List.mergeSort_of_pairwise hincreasing]⟩

end Annotations

end IngressBalancer
