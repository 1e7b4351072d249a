import IngressBalancer.Proofs.Annotations.Settings
import IngressBalancer.Proofs.Controller.Declarations
import IngressBalancer.World.Sample
/-!
# What annotations ask for

The spec of an ingress, traced back to the settings that its annotations give
(`Settings.exists_request_of_specOf`). An ingress that asks to be
internet-facing and is not permitted to be has no spec
(`Settings.specOf_of_not_permitted`).
-/

namespace IngressBalancer

namespace Annotations

variable {restriction : SchemeRestriction} {configMap? : ResourceId → Option ConfigMap}
variable {id : ResourceId} {annotations : SortedMap String String} {settings : Annotations}

/-- Whether annotations ask for an internet-facing load balancer. -/
def AsksForInternet (annotations : SortedMap String String) : Prop :=
  value? annotations "scheme" = some Scheme.internetFacing.word

/-- What asks to be internet-facing gets nothing else. -/
theorem Interprets.scheme_eq (h : Interprets restriction configMap? id annotations settings)
    (hasks : AsksForInternet annotations) : settings.scheme = .internetFacing := by
  have hread := h.scheme
  rw [readOr, show value? annotations "scheme" = _ from hasks] at hread
  simp only [readScheme, Scheme.ofWord?_word] at hread
  exact (Except.ok.inj hread).symm

end Annotations

namespace Settings

variable {settings : Settings} {v : View} {i : Ingress} {spec : Spec}

/-- **A spec was built from what the annotations of its ingress give.** -/
theorem exists_request_of_specOf (h : settings.specOf v i = .ok spec) : ∃ request : Annotations,
    request.Interprets settings.restriction v.configMap? i.id i.annotations ∧
      spec.scheme = request.scheme ∧
      spec.tags = Blueprint.ownedTags settings.clusterName i.id request.tags := by
  obtain ⟨request, groups, rules, hrequest, rfl⟩ := Blueprint.exists_settings_of_desiredSpec h
  exact ⟨request, Annotations.interprets_of_eq_ok hrequest, rfl, rfl⟩

/-- **What is internet-facing is permitted to be.** -/
theorem isPermitted_of_specOf (h : settings.specOf v i = .ok spec)
    (hscheme : spec.scheme = .internetFacing) :
    Annotations.isPermitted settings.restriction v.configMap? i.id = true := by
  obtain ⟨request, hrequest, hsame, -⟩ := exists_request_of_specOf h
  exact hrequest.permitted (hsame.symm.trans hscheme)

/-- **What asks to be internet-facing and is not permitted to be has no spec.** -/
theorem specOf_of_not_permitted (hasks : Annotations.AsksForInternet i.annotations)
    (hno : Annotations.isPermitted settings.restriction v.configMap? i.id = false) :
    ∃ e, settings.specOf v i = .error e := by
  cases hspec : settings.specOf v i with
  | error e => exact ⟨e, rfl⟩
  | ok spec =>
    obtain ⟨request, hrequest, -⟩ := exists_request_of_specOf hspec
    have hyes := hrequest.permitted (hrequest.scheme_eq hasks)
    rw [hno] at hyes
    cases hyes

end Settings

/-- An ingress for the shop with one annotation. -/
def Sample.shopAsking (key value : String) : Ingress :=
  let plain := ingress "default" "shop" "shop" 80
  { plain with metadata := { plain.metadata with
      annotations := some (SortedMap.insert ∅ (Annotations.key key) value) } }

end IngressBalancer
