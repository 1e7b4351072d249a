import IngressBalancer.Proofs.Provider.Claims
import IngressBalancer.Proofs.Text.Digits
import IngressBalancer.Proofs.Text.Separators
import IngressBalancer.World.Sample
/-!
# What names and addresses tell

The texts from which names are hashed can be read in one way only. Neither a
namespace nor a name has a slash, so the first slash ends the one and the second
the other (`ResourceId.text_injective`). A service may have slashes and colons of
its own; but what follows the last colon of a text is a port, which has none
(`Blueprint.targetGroupText_injective`). An address tells the name, since what
follows the name is always of one length; so no two load balancers have one
address (`Inventory.Named.nodup_arns`).
-/

namespace IngressBalancer

/-! ## Texts -/

/-- Whether neither the namespace nor the name has a slash. -/
structure ResourceId.IsPlain (id : ResourceId) : Prop where
  nspace : '/' ∉ id.nspace.toList
  name : '/' ∉ id.name.toList

variable {id id' : ResourceId} {service service' : String} {port port' : Int32}

theorem ResourceId.toList_text (id : ResourceId) :
    id.text.toList = id.nspace.toList ++ '/' :: id.name.toList := by
  rw [text, String.toList_append, String.toList_append, List.append_assoc]
  rfl

theorem ResourceId.eq_of_toList (hspace : id.nspace.toList = id'.nspace.toList)
    (hname : id.name.toList = id'.name.toList) : id = id' := by
  obtain ⟨nspace, name⟩ := id
  obtain ⟨nspace', name'⟩ := id'
  obtain rfl : nspace = nspace' := String.toList_inj.1 hspace
  obtain rfl : name = name' := String.toList_inj.1 hname
  rfl

/-- **The text of an id tells the id**, where there is one slash only. -/
theorem ResourceId.text_injective (h : id.IsPlain) (h' : id'.IsPlain) (htext : id.text = id'.text) :
    id = id' := by
  have hlist := congrArg String.toList htext
  rw [toList_text, toList_text, Text.append_cons_inj_of_first h.nspace h'.nspace] at hlist
  exact eq_of_toList hlist.1 hlist.2

namespace Blueprint

/-- The text of a target group, field by field. -/
theorem toList_targetGroupText (id : ResourceId) (service : String) (port : Int32) :
    (targetGroupText id service port).toList =
      (id.nspace.toList ++ '/' :: (id.name.toList ++ '/' :: service.toList)) ++
        ':' :: Text.showInt port.toInt := by
  have hslash : "/".toList = ['/'] := rfl
  have hcolon : ":".toList = [':'] := rfl
  simp only [targetGroupText, String.toList_append, ResourceId.toList_text, hslash, hcolon,
    String.toList_ofList, List.append_assoc, List.cons_append, List.nil_append]

/-- What follows the last colon is a port. -/
theorem colon_notMem_showInt (i : Int) : ':' ∉ Text.showInt i := fun hmem =>
  absurd (Text.mem_showInt hmem) (by decide)

/-- **The text of a target group tells the ingress, the service and the port**, whatever the
service is called. -/
theorem targetGroupText_injective (h : id.IsPlain) (h' : id'.IsPlain)
    (htext : targetGroupText id service port = targetGroupText id' service' port') :
    id = id' ∧ service = service' ∧ port = port' := by
  have hlist := congrArg String.toList htext
  rw [toList_targetGroupText, toList_targetGroupText,
    Text.append_cons_inj_of_last (colon_notMem_showInt _) (colon_notMem_showInt _),
    Text.append_cons_inj_of_first h.nspace h'.nspace,
    Text.append_cons_inj_of_first h.name h'.name] at hlist
  obtain ⟨⟨hspace, hname, hservice⟩, hport⟩ := hlist
  exact ⟨ResourceId.eq_of_toList hspace hname, String.toList_inj.1 hservice,
    Int32.toInt_inj.1 (Text.showInt_injective hport)⟩

end Blueprint

/-! ## Addresses -/

namespace Inventory.Named

variable {region key arn : String} {inv : Inventory} {lb : LoadBalancer}

/-- **No two load balancers have one address**, where they go by their names. -/
theorem nodup_arns (h : inv.Named region) : (inv.values.map (·.arn)).Nodup := by
  rw [SortedMap.values, List.map_map, List.Nodup, List.pairwise_map]
  refine inv.sorted.imp_of_mem fun {e e'} he he' hlt harn => ?_
  have hget : inv.get? e.1 = some e.2 := SortedMap.mem_entries_iff.1 he
  have hget' : inv.get? e'.1 = some e'.2 := SortedMap.mem_entries_iff.1 he'
  have hkey : e.1 = e'.1 := by
    rw [(h _ _ hget).1, (h _ _ hget').1, h.eq_of_arn hget hget' harn]
  rw [hkey] at hlt
  simp at hlt

/-- So an address leads to one of them at most. -/
theorem length_filter_arn_le (h : inv.Named region) :
    (inv.values.filter (·.arn = arn)).length ≤ 1 := by
  by_cases harn : arn ∈ inv.values.map (·.arn)
  · obtain ⟨lb, hlb, rfl⟩ := List.mem_map.1 harn
    rw [filter_key_eq_singleton h.nodup_arns hlb]
    exact Nat.le_refl 1
  · rw [filter_key_eq_nil harn]
    exact Nat.zero_le 1

/-- And each is found by its own. -/
theorem findByArn_of_get? (h : inv.Named region) (hlb : inv.get? key = some lb) :
    inv.findByArn lb.arn = some lb :=
  find?_key_eq_some h.nodup_arns (SortedMap.mem_values_iff.2 ⟨key, hlb⟩)

end Inventory.Named

namespace Provider

open Blueprint

/-- **Names are hashed from texts that tell what they stand for, and addresses tell names.** For
ids without slashes, the text behind the name of a load balancer tells the id, and the text behind
the name of a target group the id, the service and the port. The address that is provisioned for
a name tells the name, whatever it is; so in whatever inventory comes about, an address leads to
at most one load balancer, and each is found by its own. -/
theorem texts_and_addresses_tell :
    (∀ stem id, loadBalancerName stem id = hashedName stem 15 id.text) ∧
    (∀ stem id service port, targetGroupName stem id service port =
      hashedName stem 20 (targetGroupText id service port)) ∧
    (∀ id id' : ResourceId, id.IsPlain → id'.IsPlain → id.text = id'.text → id = id') ∧
    (∀ id id' service service' port port', id.IsPlain → id'.IsPlain →
      targetGroupText id service port = targetGroupText id' service' port' →
      id = id' ∧ service = service' ∧ port = port') ∧
    (∀ region spec spec', (provision region spec).arn = (provision region spec').arn →
      spec.loadBalancerName = spec'.loadBalancerName) ∧
    ∀ region inv, Reaches region inv →
      (∀ arn, (inv.values.filter (·.arn = arn)).length ≤ 1) ∧
      ∀ key lb, inv.get? key = some lb → inv.findByArn lb.arn = some lb :=
  ⟨fun _ _ => rfl, fun _ _ _ _ => rfl,
    fun _ _ => ResourceId.text_injective,
    fun _ _ _ _ _ _ => targetGroupText_injective,
    fun _ _ _ => arn_injective,
    fun _ _ h => ⟨fun _ => h.named.length_filter_arn_le, fun _ _ => h.named.findByArn_of_get?⟩⟩

/-- Namespaces and names that are joined to the same letters; services with separators of their own;
and a load balancer with a name that ends like the address of another. -/
theorem texts_and_addresses_tell_separators :
    let id : ResourceId := ⟨"a-b", "c"⟩
    let id' : ResourceId := ⟨"a", "b-c"⟩
    let name := "prod/" ++ suffix "prod"
    let inv := ((∅ : Inventory).insertExternal "us-east-1" (Sample.specFor id "prod")).insertExternal
      "us-east-1" (Sample.specFor id' name)
    id.IsPlain ∧ id'.IsPlain ∧ id.text ≠ id'.text ∧
    targetGroupText id "web:80" 80 ≠ targetGroupText id "web" 80 ∧
    arn "us-east-1" "prod" ≠ arn "us-east-1" name ∧
    Reaches "us-east-1" inv ∧ (inv.values.filter (·.arn = arn "us-east-1" "prod")).length ≤ 1 := by
  intro id id' name inv
  have hid : id.IsPlain := ⟨by decide, by decide⟩
  have hid' : id'.IsPlain := ⟨by decide, by decide⟩
  have hname : "prod" ≠ name := by
    intro h
    have hlength := congrArg (fun s => s.toList.length) h
    simp [name, length_suffix] at hlength
  have hinv : Reaches "us-east-1" inv := .insert (.insert .empty _) _
  obtain ⟨-, -, htext, hgroup, harn, hfound⟩ := texts_and_addresses_tell
  refine ⟨hid, hid', fun h => ?_, fun h => ?_, fun h => ?_, hinv, (hfound _ inv hinv).1 _⟩
  · exact absurd (htext id id' hid hid' h) (by decide)
  · exact absurd (hgroup id id "web:80" "web" 80 80 hid hid h).2.1 (by decide)
  · exact hname (harn "us-east-1" (Sample.specFor id "prod") (Sample.specFor id' name) h)

end Provider

end IngressBalancer
