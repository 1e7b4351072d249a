import IngressBalancer.Proofs.Controller.Committed
import IngressBalancer.Proofs.Controller.Handles
import IngressBalancer.Proofs.Controller.Lots
import IngressBalancer.Proofs.Provider.Claims
/-!
# What a resync adopts

A resync makes one entry of all load balancers that it discovers under one
id: that of the last. So a discovered load balancer is tracked unless a later
one has the same owner (`Resync.tracks_adopt_iff`), and the registry has as
many entries as there are owners (`Resync.size_adopt`). Since nothing fails
anew after a resync, the next pass dispatches what it does not hold, and the
load balancer is removed or left standing (`Flight.held_or_settled`).
-/

namespace IngressBalancer

/-- Whether a registry tracks a load balancer: the live handle of some entry has its address. -/
def Registry.Tracks (g : Registry) (arn : String) : Prop :=
  ∃ r ∈ g.toList, r.liveHandle?.map (·.arn) = some arn

instance (g : Registry) (arn : String) : Decidable (g.Tracks arn) :=
  inferInstanceAs (Decidable (∃ r ∈ g.toList, r.liveHandle?.map (·.arn) = some arn))

namespace Registry

variable {g : Registry} {r : Resource} {rs before after : List Resource} {id : ResourceId}
variable {arn : String}

/-- That is, it has a handle with this address for some id. -/
theorem tracks_iff : g.Tracks arn ↔ ∃ id, (g.handle? id).map (·.arn) = some arn := by
  constructor
  · rintro ⟨r, hr, harn⟩
    exact ⟨r.id, by rwa [handle?_of_get? (mem_toList_iff.1 hr)]⟩
  · rintro ⟨id, harn⟩
    obtain ⟨h, hh, rfl⟩ := Option.map_eq_some_iff.1 harn
    obtain ⟨r, hr, hlive⟩ := Option.bind_eq_some_iff.1 hh
    have hmem : r ∈ g.toList := mem_toList_iff.2 (by rwa [id_of_get? hr])
    exact ⟨r, hmem, congrArg (Option.map _) hlive⟩

/-- **A resource among many is found where no later one has its id**, and only there. -/
theorem get?_ofList_append (hnd : (before ++ r :: after).Nodup) :
    (ofList (before ++ r :: after)).get? r.id = some r ↔ ∀ r' ∈ after, r'.id ≠ r.id := by
  have hself : (r :: before.reverse).find? (·.id = r.id) = some r :=
    List.find?_cons_of_pos (decide_eq_true rfl)
  have hget : (ofList (before ++ r :: after)).get? r.id =
      (after.reverse.find? (·.id = r.id)).or (some r) := by
    rw [ofList, get?_insertAll, List.reverse_append, List.reverse_cons, List.append_assoc,
      List.singleton_append, List.find?_append, hself, Option.or_assoc, Option.some_or]
  rw [hget]
  constructor
  · intro h r' hr' hid
    obtain ⟨last, hlast⟩ : ∃ last, after.reverse.find? (·.id = r.id) = some last :=
      Option.isSome_iff_exists.1
        (List.find?_isSome.2 ⟨r', List.mem_reverse.2 hr', decide_eq_true hid⟩)
    rw [hlast, Option.some_or] at h
    cases h
    -- then the resource would be there twice
    have hmem := List.mem_reverse.1 (List.mem_of_find?_eq_some hlast)
    exact (List.nodup_cons.1 (List.nodup_append.1 hnd).2.1).1 hmem
  · intro h
    have hnone : after.reverse.find? (·.id = r.id) = none :=
      List.find?_eq_none.2 fun r' hr' hid => h r' (List.mem_reverse.1 hr') (of_decide_eq_true hid)
    rw [hnone, Option.none_or]

/-- A registry of resources has their ids. -/
theorem contains_ofList : (ofList rs).contains id = true ↔ id ∈ rs.map (·.id) := by
  rw [contains_eq_isSome, ofList, get?_insertAll, show (empty : Registry).get? id = none from rfl,
    Option.or_none, List.find?_isSome]
  simp only [List.mem_reverse, decide_eq_true_eq, List.mem_map]

/-- So it has as many entries as there are ids. -/
theorem size_ofList : (ofList rs).size = {id | id ∈ rs.map (·.id)}.ncard := by
  have hids : {id | id ∈ rs.map (·.id)} = {id | (ofList rs).contains id = true} :=
    Set.ext fun id => contains_ofList.symm
  rw [hids]
  exact (SortedMap.ncard_keys _).symm

end Registry

namespace Inventory

variable {inv : Inventory} {scope : Scope} {region : String} {r r' : Resource} {h : Handle}

/-- **No two of the discovered have one address.** -/
theorem nodup_arn_discover (hinv : inv.Named region) :
    ((inv.discover scope).map fun r => r.liveHandle?.map (·.arn)).Nodup := by
  have hvalues : inv.values.Pairwise fun lb lb' => lb.arn ≠ lb'.arn := by
    rw [SortedMap.values, List.pairwise_map]
    refine (List.pairwise_map.1 inv.nodup_keys).imp_of_mem fun {e e'} he he' hne harn => hne ?_
    obtain ⟨hname, hnamed⟩ := hinv e.1 e.2 (SortedMap.mem_entries_iff.1 he)
    obtain ⟨hname', hnamed'⟩ := hinv e'.1 e'.2 (SortedMap.mem_entries_iff.1 he')
    rw [hname, hname', Provider.arn_injective (hnamed.symm.trans (harn.trans hnamed'))]
  rw [discover, List.Nodup, List.pairwise_map, List.pairwise_filterMap]
  refine (hvalues.filter _).imp fun {lb lb'} hne r hr r' hr' harn => hne ?_
  obtain ⟨id, -, rfl⟩ := Option.map_eq_some_iff.1 hr
  obtain ⟨id', -, rfl⟩ := Option.map_eq_some_iff.1 hr'
  exact Option.some.inj harn

end Inventory

namespace Resync

variable {inv : Inventory} {scope : Scope} {region : String} {r : Resource} {h : Handle}
variable {before after : List Resource}

/-- The registry has as many entries as there are owners of what was discovered. -/
theorem size_adopt : (adopt (inv.discover scope)).size =
    {id | ∃ r ∈ inv.discover scope, r.id = id}.ncard := by
  have hids : {id | ∃ r ∈ inv.discover scope, r.id = id} =
      {id | id ∈ (inv.discover scope).map (·.id)} := Set.ext fun id => List.mem_map.symm
  rw [adopt_discover, Registry.size_ofList, hids]

/-- So none is lost from sight exactly where no two have one owner. -/
theorem size_adopt_eq_length_iff : (adopt (inv.discover scope)).size =
    (inv.discover scope).length ↔ ((inv.discover scope).map (·.id)).Nodup := by
  rw [adopt_discover, Registry.size_ofList, ← ncard_eq_length_iff, List.length_map]

/-- **A discovered load balancer is tracked unless a later one has the same owner.** -/
theorem tracks_adopt_iff (hinv : inv.Named region)
    (hfound : inv.discover scope = before ++ r :: after) (hh : r.liveHandle? = some h) :
    (adopt (inv.discover scope)).Tracks h.arn ↔ ∀ r' ∈ after, r'.id ≠ r.id := by
  have hmem : r ∈ inv.discover scope := by
    rw [hfound]
    exact List.mem_append_right _ List.mem_cons_self
  have harn : r.liveHandle?.map (·.arn) = some h.arn := by rw [hh, Option.map_some]
  have hnd : (before ++ r :: after).Nodup := hfound ▸ (Inventory.nodup_arn_discover hinv).of_map _
  have hget := Registry.get?_ofList_append hnd
  rw [← hfound, ← adopt_discover] at hget
  rw [← hget]
  constructor
  · rintro ⟨r', hr', harn'⟩
    have hentry := Registry.mem_toList_iff.1 hr'
    have hmem' : r' ∈ inv.discover scope := by
      rw [adopt_discover] at hentry
      exact (Registry.mem_of_get?_ofList hentry).1
    have hsame : r' = r := List.inj_on_of_nodup_map (Inventory.nodup_arn_discover hinv) hmem' hmem
      (harn'.trans harn.symm)
    rwa [← hsame]
  · exact fun hentry => ⟨r, Registry.mem_toList_iff.2 hentry, harn⟩

end Resync

/-- **What has failed in no way is held or dispatched**, with the handle that is tracked; and it is
to be removed exactly where nobody declares it. -/
theorem Flight.held_or_mem_batch {settings : Settings} {v : View} {s : SyncState} {now : Instant}
    {id : ResourceId} (hr : s.registry.contains id = true) (hfree : s.retries.get? id = none) :
    (start settings v s now).desired.held.contains id = true ∨
      ∃ r ∈ (start settings v s now).batch, r.id = id ∧ r.liveHandle? = s.registry.handle? id ∧
        (r.desired = none ↔ ¬ v.Declares settings id) := by
  by_cases hheld : (start settings v s now).desired.held.contains id = true
  · exact .inl hheld
  · obtain ⟨r, hget⟩ : ∃ r, (start settings v s now).working.get? id = some r :=
      Option.isSome_iff_exists.1 (contains_working.2 (.inr hr))
    have hid : r.id = id := Registry.id_of_get? hget
    subst hid
    have hmem : r ∈ (start settings v s now).batch := by
      refine mem_batch_iff_due.2 ⟨checked?_eq_some.2 ⟨Bool.eq_false_iff.2 hheld, hget⟩, ?_⟩
      rw [hfree]
      rintro known ⟨⟩
    exact .inr ⟨r, hmem, rfl, liveHandle?_of_mem_batch hmem, desired_eq_none_iff hmem⟩

/-- **So the next pass removes its load balancer or leaves it standing**, unless it holds it. -/
theorem Flight.held_or_settled {settings : Settings} {v : View} {s : SyncState} {now : Instant}
    {region : String} {r : Resource} {h : Handle} (hr : r ∈ s.registry.toList)
    (hh : r.liveHandle? = some h) (hfree : s.retries.get? r.id = none) :
    (start settings v s now).desired.held.contains r.id = true ∨
      ∃ r' ∈ (start settings v s now).batch, r'.id = r.id ∧
        ∀ inv, Provider.Reaches region inv →
          let left := (Provider.reconcile region inv r').inventory
          (¬ v.Declares settings r.id → left.findByArn h.arn = none) ∧
          (v.Declares settings r.id → inv.findByArn h.arn ≠ none →
            left.findByArn h.arn ≠ none) := by
  have hget := Registry.mem_toList_iff.1 hr
  have hcontains : s.registry.contains r.id = true := by
    rw [Registry.contains_eq_isSome, hget]
    rfl
  refine (held_or_mem_batch hcontains hfree).imp_right ?_
  rintro ⟨r', hmem, hid, hlive, hdesired⟩
  rw [Registry.handle?_of_get? hget, hh] at hlive
  refine ⟨r', hmem, hid, fun inv hinv => ⟨fun hundeclared => ?_, fun hdeclared hlb => ?_⟩⟩
  · exact Provider.gone_of_reconcile hinv hlive (hdesired.2 hundeclared)
  · exact Provider.kept_of_reconcile hinv hlive (fun hnone => hdesired.1 hnone hdeclared) hlb

end IngressBalancer
