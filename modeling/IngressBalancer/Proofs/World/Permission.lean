import IngressBalancer.Proofs.Controller.Requests
import IngressBalancer.Proofs.World.Flights
import IngressBalancer.Proofs.World.Removals
/-!
# Internet-facing load balancers

Under the restriction, an ingress may ask for an internet-facing load
balancer only where the view lists it (`View.Lists`). A pass looks this up
in the view that it sets out with, for every spec that it hands over, so a
permission is neither carried over from earlier passes nor kept by a retry
(`internet_facing_only_if_listed`).
-/

namespace IngressBalancer

variable {v : View} {restriction : SchemeRestriction} {id : ResourceId}

/-- The list of a namespace, in the config map of the restriction: absent where there is no such
config map, where that has no data, and where its data has no such key. -/
def View.allowlist? (v : View) (restriction : SchemeRestriction) (nspace : String) :
    Option String :=
  ((v.configMap? ⟨restriction.nspace, Annotations.allowlistName⟩).bind (·.data)).bind
    (·.get? nspace)

/-- Whether a view lists an id: its name stands between two commas of the list of its namespace,
blanks around it aside. -/
def View.Lists (v : View) (restriction : SchemeRestriction) (id : ResourceId) : Prop :=
  ∃ names, v.allowlist? restriction id.nspace = some names ∧
    ∃ item ∈ Text.pieces ',' names.toList, Text.trimChars item = id.name.toList

theorem View.isListed_iff :
    Annotations.isListed v.configMap? restriction.nspace id = true ↔ v.Lists restriction id := by
  unfold Annotations.isListed Lists allowlist?
  cases v.configMap? ⟨restriction.nspace, Annotations.allowlistName⟩ with
  | none => simp
  | some configMap =>
    simp only [Option.bind_some]
    cases configMap.data with
    | none =>
      have hempty : (∅ : SortedMap String String).get? id.nspace = none := rfl
      simp [hempty]
    | some data =>
      simp only [Option.getD_some, Option.bind_some]
      cases data.get? id.nspace with
      | none => simp
      | some names => simp [Annotations.lists]

/-- **Under the restriction, who is listed is permitted, and nobody else.** -/
theorem View.isPermitted_iff (henabled : restriction.enabled = true) :
    Annotations.isPermitted restriction v.configMap? id = true ↔ v.Lists restriction id := by
  rw [Annotations.isPermitted, henabled, Bool.not_true, Bool.false_or, isListed_iff]

namespace Sample

/-- The settings that were accepted, with the restriction on. -/
def guarded : Settings := { accepted with restriction := ⟨true, "default"⟩ }

/-- An ingress that asks to be internet-facing. -/
def facingShop : Ingress := shopAsking "scheme" "internet-facing"

/-- A view in which the shop asks to be internet-facing, and nobody is listed. -/
def unlistedView : View := { shopView with ingresses := [facingShop] }

/-- A view in which the shop asks to be internet-facing, and is listed after the cafe. -/
def facingView : View := { unlistedView with
  configMap? := fun id =>
    if id = ⟨"default", Annotations.allowlistName⟩ then
      some (configMap "default" Annotations.allowlistName
        (SortedMap.insert ∅ "default" "cafe, shop"))
    else none }

end Sample

namespace Flight

variable {settings : Settings} {state : SyncState} {now : Instant} {r : Resource} {spec : Spec}
variable (henabled : settings.restriction.enabled = true)
include henabled

/-- **What a pass reconciles as internet-facing is listed in its view.** -/
theorem lists_of_mem_batch (h : r ∈ (start settings v state now).batch)
    (hspec : r.desired = some spec) (hscheme : spec.scheme = .internetFacing) :
    v.Lists settings.restriction r.id := by
  have hdecl : v.Declares settings r.id := by
    by_contra hno
    rw [(desired_eq_none_iff h).2 hno] at hspec
    cases hspec
  obtain ⟨i, -, hid, spec', hbuilt, hr⟩ := exists_spec_of_mem_batch h hdecl
  rw [hr] at hspec
  cases hspec
  rw [← hid, ← View.isPermitted_iff henabled]
  exact Settings.isPermitted_of_specOf hbuilt hscheme

/-- **What asks to be internet-facing and is not listed is held.** -/
theorem held_of_not_lists {i : Ingress} (hi : i ∈ v.declared settings)
    (hasks : Annotations.AsksForInternet i.annotations)
    (hno : ¬ v.Lists settings.restriction i.id) :
    (start settings v state now).desired.held.contains i.id = true := by
  rw [← View.isPermitted_iff henabled, Bool.not_eq_true] at hno
  exact DesiredSet.isHeld_build.2 ⟨i, hi, rfl, Settings.specOf_of_not_permitted hasks hno⟩

end Flight

namespace World

variable {settings : Settings} {view : View} {rig : Rig} {monitor : Monitor} {w : World}
variable {es : List Episode} {f : Flight} {attempts : List Attempt}

/-- **Internet-facing load balancers need permission.** Under the restriction, take any run of a
controller among whatever surroundings, with views that change as they like, and any pass in the
air; it set out on the way. What it handed over as internet-facing is listed in the view with which
it set out, and there is nothing of the kind for a namespace without a list. An ingress of that view
that asks to be internet-facing and is not listed is held: nothing was handed over for it, whatever
it was permitted to be before. -/
theorem internet_facing_only_if_listed (henabled : settings.restriction.enabled = true)
    (h : Runs .any (World.new settings view rig monitor) es w)
    (hair : w.air = some (f, attempts)) :
    (∃ u, SetOut .any (World.new settings view rig monitor) u w ∧ f = u.situation.flight) ∧
    ∀ u, SetOut .any (World.new settings view rig monitor) u w → f = u.situation.flight →
      (∀ a ∈ attempts, ∀ spec, a.resource.desired = some spec →
        spec.scheme = .internetFacing →
        u.view.Lists settings.restriction a.resource.id) ∧
      (∀ nspace, u.view.allowlist? settings.restriction nspace = none → ∀ a ∈ attempts,
        a.resource.id.nspace = nspace → ∀ spec, a.resource.desired = some spec →
        spec.scheme ≠ .internetFacing) ∧
      ∀ i ∈ u.view.declared settings, Annotations.AsksForInternet i.annotations →
        ¬ u.view.Lists settings.restriction i.id →
        f.desired.held.contains i.id = true ∧ ∀ a ∈ attempts, a.resource.id ≠ i.id := by
  refine ⟨exists_setOut_of_air h hair, ?_⟩
  rintro u ⟨es', -, -, hrun, -⟩ rfl
  have hflight : u.situation.flight = .start settings u.view u.state u.now := hrun.tells.flight_eq
  have hbatch : ∀ a ∈ attempts, a.resource ∈ u.situation.flight.batch := fun a ha =>
    (h.tells.inAir _ _ hair).mem_batch ha
  rw [hflight] at hbatch ⊢
  have hlisted : ∀ a ∈ attempts, ∀ spec, a.resource.desired = some spec →
      spec.scheme = .internetFacing → u.view.Lists settings.restriction a.resource.id :=
    fun a ha spec hspec hscheme => Flight.lists_of_mem_batch henabled (hbatch a ha) hspec hscheme
  refine ⟨hlisted, ?_, fun i hi hasks hno => ?_⟩
  · rintro nspace hnone a ha rfl spec hspec hscheme
    obtain ⟨names, hnames, -⟩ := hlisted a ha spec hspec hscheme
    rw [hnone] at hnames
    cases hnames
  · have hheld : (Flight.start settings u.view u.state u.now).desired.held.contains i.id = true :=
      Flight.held_of_not_lists henabled hi hasks hno
    refine ⟨hheld, fun a ha hid => ?_⟩
    have hfree := Flight.not_held_of_mem_batch (hbatch a ha)
    rw [hid] at hfree
    exact Bool.false_ne_true (hfree.symm.trans hheld)

/-- A world under the restriction, in which the shop asks to be internet-facing, and is listed. -/
def facing : World := .new Sample.guarded Sample.facingView (Rig.new "us-east-1") .empty

/-- The same world after a pass. -/
def faced : World := (facing.obey Sample.shopPass).getD facing

/-- What the world becomes when the list has gone, with a pass under way. -/
def unlisted : World :=
  let w := { faced with view := Sample.unlistedView }
  w.ask { w.operator with yield := none } .converge

/-- The first pass makes the shop internet-facing; when the list has gone, the next one holds it. -/
theorem internet_facing_only_if_listed_unlisted :
    (faced.state.registry.get? Sample.shop).bind (·.desired.map (·.scheme)) =
      some .internetFacing ∧
    ∃ f attempts, (unlisted.takeOff unlisted.operator).air = some (f, attempts) ∧
      f.desired.held.contains Sample.shop = true ∧
      ∀ a ∈ attempts, a.resource.id ≠ Sample.shop := by
  have h₀ : Runs .any facing [] facing := .start
  have hpass : facing.obey Sample.shopPass = some faced := rfl
  obtain ⟨es, hfaced⟩ := h₀.obey ⟨.head _, rfl, rfl⟩ hpass
  have hu : Runs .any facing _ unlisted :=
    .happen (.happen hfaced (.view trivial)) (.order .converge (.head _) rfl (.inr rfl))
  have hoff := (hu.orderly (orderly_new _ _ _ _)).takesOff (t := unlisted.operator)
    (.head _) rfl rfl
  have hmove : unlisted.Happens .any [] (unlisted.takeOff unlisted.operator) :=
    .move (.task 0) rfl
  have hset : SetOut .any facing unlisted (unlisted.takeOff unlisted.operator) :=
    ⟨_, _, [], hu, hmove, hoff.2, .start⟩
  refine ⟨rfl, unlisted.situation.flight, unlisted.situation.opened.1, rfl, ?_⟩
  obtain ⟨-, hall⟩ := internet_facing_only_if_listed rfl (.happen hu hmove) rfl
  obtain ⟨-, -, hheld⟩ := hall unlisted hset rfl
  refine hheld Sample.facingShop (.head _) rfl ?_
  rintro ⟨names, hnames, -⟩
  cases hnames

end World

end IngressBalancer
