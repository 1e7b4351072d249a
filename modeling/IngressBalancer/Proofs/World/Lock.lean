import IngressBalancer.World.Lock
import Mathlib.Tactic.Tauto
/-!
# Who has a stake in the lock

A task has a stake in the lock while it holds it or waits for it. Asking
adds one stake and giving back takes away those of one task; serving the
queue only turns waiting tasks into holders (`mem_stakes_request`,
`mem_stakes_release`). At no time does the lock have a writer and readers
(`Lock.Sound`), and a writer keeps it until it gives it back.
-/

namespace IngressBalancer

namespace Lock

variable {l : Lock} {n m : Nat} {a : Access} {q : List (Nat × Access)} {p : Nat × Access}

/-- Who holds the lock, and how. -/
def holders (l : Lock) : List (Nat × Access) :=
  l.writer.toList.map (·, .exclusive) ++ l.readers.map (·, .shared)

/-- Who holds the lock or waits for it. -/
def stakes (l : Lock) : List (Nat × Access) := l.holders ++ l.queue

/-- Whether a writer, if there is one, is alone. -/
def Sound (l : Lock) : Prop := l.writer.isSome → l.readers = []

theorem mem_holders : (n, a) ∈ l.holders ↔
    (l.writer = some n ∧ a = .exclusive) ∨ (n ∈ l.readers ∧ a = .shared) := by
  simp only [holders, List.mem_append, List.mem_map, Option.mem_toList, Prod.mk.injEq]
  constructor
  · rintro (⟨m, hm, rfl, rfl⟩ | ⟨m, hm, rfl, rfl⟩)
    · exact .inl ⟨hm, rfl⟩
    · exact .inr ⟨hm, rfl⟩
  · rintro (⟨hm, rfl⟩ | ⟨hm, rfl⟩)
    · exact .inl ⟨n, hm, rfl, rfl⟩
    · exact .inr ⟨n, hm, rfl, rfl⟩

theorem isHeldBy_iff : l.isHeldBy n = true ↔ ∃ a, (n, a) ∈ l.holders := by
  simp only [isHeldBy, mem_holders, Bool.or_eq_true, beq_iff_eq, List.contains_iff_mem]
  constructor
  · rintro (h | h)
    · exact ⟨_, .inl ⟨h, rfl⟩⟩
    · exact ⟨_, .inr ⟨h, rfl⟩⟩
  · rintro ⟨a, ⟨h, -⟩ | ⟨h, -⟩⟩
    · exact .inl h
    · exact .inr h

theorem mem_stakes_of_mem_holders (h : p ∈ l.holders) : p ∈ l.stakes := List.mem_append_left _ h

/-- While there is a writer, nobody else holds the lock. -/
theorem eq_of_mem_holders (hs : l.Sound) (hw : l.writer = some n) (h : (m, a) ∈ l.holders) :
    m = n := by
  rcases mem_holders.1 h with ⟨hm, -⟩ | ⟨hm, -⟩
  · rw [hw] at hm
    exact (Option.some.inj hm).symm
  · rw [hs (by rw [hw]; rfl)] at hm
    exact absurd hm List.not_mem_nil

/-! ## Serving the queue -/

theorem holders_grant (h : l.admits a = true) :
    p ∈ (l.grant n a).holders ↔ p = (n, a) ∨ p ∈ l.holders := by
  cases a with
  | shared =>
    simp only [grant, holders, List.map_append, List.mem_append, List.map_cons, List.map_nil,
      List.mem_singleton]
    tauto
  | exclusive =>
    simp only [admits, Bool.and_eq_true, Option.isNone_iff_eq_none] at h
    simp [grant, holders, h.1]

theorem sound_grant (h : l.admits a = true) : (l.grant n a).Sound := by
  intro hw
  cases a with
  | shared =>
    simp only [admits, Option.isNone_iff_eq_none] at h
    simp [grant, h] at hw
  | exclusive =>
    simp only [admits, Bool.and_eq_true, List.isEmpty_iff] at h
    exact h.2

/-- **Serving loses nobody**: the holders stay, and all who waited hold the lock or wait. -/
theorem mem_stakes_serve (q : List (Nat × Access)) (l : Lock) :
    p ∈ (l.serve q).stakes ↔ p ∈ l.holders ∨ p ∈ q := by
  induction q generalizing l with
  | nil => simp [serve, stakes, holders]
  | cons e q ih =>
    obtain ⟨n, a⟩ := e
    unfold serve
    split
    · next h =>
      rw [ih, holders_grant h, List.mem_cons]
      tauto
    · rw [stakes, List.mem_append]
      rfl

theorem sound_serve (q : List (Nat × Access)) (l : Lock) (h : l.Sound) : (l.serve q).Sound := by
  induction q generalizing l with
  | nil => exact h
  | cons e q ih =>
    unfold serve
    split
    · next ha => exact ih _ (sound_grant ha)
    · exact h

/-- A lock that somebody waits for is held. -/
def Busy (l : Lock) : Prop := l.queue ≠ [] → l.holders ≠ []

/-- Whom a lock does not admit somebody else keeps out. -/
theorem holders_ne_nil_of_admits (h : l.admits a = false) : l.holders ≠ [] := by
  intro hnil
  obtain ⟨hw, hr⟩ := List.append_eq_nil_iff.1 hnil
  simp only [List.map_eq_nil_iff, Option.toList_eq_nil_iff] at hw hr
  cases a <;> simp [admits, hw, hr] at h

/-- **Nobody waits for a lock that is free.** -/
theorem busy_serve (q : List (Nat × Access)) (l : Lock) : (l.serve q).Busy := by
  induction q generalizing l with
  | nil => exact fun h => absurd rfl h
  | cons e q ih =>
    obtain ⟨n, a⟩ := e
    unfold serve
    split
    · exact ih _
    · next h => exact fun _ => holders_ne_nil_of_admits (Bool.eq_false_iff.2 h)

/-- A lock with a writer admits nobody. -/
theorem writer_serve (q : List (Nat × Access)) (h : l.writer = some n) :
    (l.serve q).writer = some n := by
  cases q with
  | nil => exact h
  | cons e q =>
    have hno : l.admits e.2 = false := by cases e.2 <;> simp [admits, h]
    rw [serve, if_neg (by rw [hno]; exact Bool.false_ne_true)]
    exact h

/-! ## Asking and giving back -/

/-- **Whoever asks gets a stake**, and nobody loses one. -/
theorem mem_stakes_request : p ∈ (l.request n a).stakes ↔ p = (n, a) ∨ p ∈ l.stakes := by
  rw [request, mem_stakes_serve, List.mem_append, List.mem_singleton, stakes, List.mem_append]
  tauto

theorem sound_request (h : l.Sound) : (l.request n a).Sound := sound_serve _ _ h

theorem busy_request : (l.request n a).Busy := busy_serve _ _

theorem writer_request (h : l.writer = some m) : (l.request n a).writer = some m :=
  writer_serve _ h

/-- **Whoever gives the lock back has no stake left**, and all others keep theirs. -/
theorem mem_stakes_release : p ∈ (l.release n).stakes ↔ p.1 ≠ n ∧ p ∈ l.stakes := by
  obtain ⟨m, a⟩ := p
  rw [release, mem_stakes_serve, stakes, List.mem_append, mem_holders, mem_holders]
  simp only [Option.filter_eq_some_iff, List.mem_filter, bne_iff_ne, ne_eq]
  tauto

theorem sound_release (h : l.Sound) : (l.release n).Sound := by
  refine sound_serve _ _ fun hw => ?_
  rw [h]
  · rfl
  · cases hl : l.writer with
    | none => simp [hl] at hw
    | some m => rfl

theorem busy_release : (l.release n).Busy := busy_serve _ _

theorem writer_release (hw : l.writer = some m) (h : m ≠ n) :
    (l.release n).writer = some m :=
  writer_serve _ (by simp [hw, h])

end Lock

end IngressBalancer
