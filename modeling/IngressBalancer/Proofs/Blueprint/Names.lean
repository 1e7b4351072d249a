import IngressBalancer.Blueprint.Name
import IngressBalancer.Proofs.Settings.Acceptance
import IngressBalancer.Proofs.Text.Separators
import IngressBalancer.Provider.Inventory
/-!
# Generated names are legal and tell their stems

A generated name is a stem, a hyphen and hexadecimal digits. So all its
characters are lower-case ASCII letters, digits and the one hyphen
(`Blueprint.isName_hashedName`). No stem has a hyphen, so what stands before the
first one is the stem: a name starts with a stem and a hyphen only if it is its own
(`Blueprint.isPrefix_hashedName_iff`), also where one stem is the beginning of another.
-/

namespace IngressBalancer

/-- A stem that passes has no hyphen. -/
theorem Stem.hyphen_notMem {stem : String} (h : validate stem = .ok ()) : '-' ∉ stem.toList :=
  fun hmem => absurd ((validate_eq_ok_iff.1 h).allowed '-' hmem) (by decide)

/-- The digits of a hash are allowed in stems as well. -/
theorem Digest.isAllowed_of_mem_hexDigest {s : String} {c : Char} (h : c ∈ hexDigest s) :
    Stem.isAllowed c = true := by
  have hdigit : ∀ n < 16, Stem.isAllowed (Nat.digitChar n) = true := by decide
  obtain ⟨b, -, hc⟩ := List.mem_flatMap.1 h
  have hb : b.toNat < 256 := b.toNat_lt
  rcases List.mem_cons.1 hc with rfl | hc
  · exact hdigit _ (by omega)
  · obtain rfl := List.mem_singleton.1 hc
    exact hdigit _ (by omega)

namespace Blueprint

variable {p q : String} {n : Nat} {text : String}

/-- Whether a name is legal: at most `limit` lower-case ASCII letters, digits and hyphens, with a
single hyphen among them. -/
structure IsName (limit : Nat) (name : String) : Prop where
  length_le : name.toList.length ≤ limit
  allowed : ∀ c ∈ name.toList, Stem.isAllowed c = true ∨ c = '-'
  hyphen : name.toList.count '-' = 1

theorem toList_hashedName (stem : String) (n : Nat) (text : String) :
    (hashedName stem n text).toList = stem.toList ++ '-' :: (Digest.hexDigest text).take n := by
  rw [hashedName, String.toList_ofList]

/-- **A hashed name is legal** where its stem has passed. -/
theorem isName_hashedName (hq : Stem.validate q = .ok ()) (hn : n ≤ 64) (text : String) :
    IsName (12 + n) (hashedName q n text) where
  length_le := by
    have hlen := (Stem.validate_eq_ok_iff.1 hq).length_le
    rw [length_hashedName q hn text]
    omega
  allowed c hc := by
    rw [toList_hashedName, List.mem_append, List.mem_cons] at hc
    rcases hc with hc | rfl | hc
    · exact .inl ((Stem.validate_eq_ok_iff.1 hq).allowed c hc)
    · exact .inr rfl
    · exact .inl (Digest.isAllowed_of_mem_hexDigest (List.mem_of_mem_take hc))
  hyphen := by
    have hdigits : '-' ∉ (Digest.hexDigest text).take n := fun hmem =>
      absurd (Digest.isAllowed_of_mem_hexDigest (List.mem_of_mem_take hmem)) (by decide)
    rw [toList_hashedName, List.count_append, List.count_cons_self,
      List.count_eq_zero.2 (Stem.hyphen_notMem hq), List.count_eq_zero.2 hdigits]

/-- **A name starts with a stem and a hyphen only if the stem is its own**, where no stem has a
hyphen. -/
theorem isPrefix_hashedName_iff (hp : '-' ∉ p.toList) (hq : '-' ∉ q.toList) :
    p.toList ++ ['-'] <+: (hashedName q n text).toList ↔ p = q := by
  rw [toList_hashedName]
  constructor
  · rintro ⟨rest, hrest⟩
    rw [List.append_assoc, List.singleton_append] at hrest
    exact String.toList_inj.1 ((Text.append_cons_inj_of_first hp hq).1 hrest).1
  · rintro rfl
    exact ⟨_, by rw [List.append_assoc, List.singleton_append]⟩

/-- A scope takes a load balancer with a name under a stem that has passed exactly where the stem
is its own, and the tag of its cluster is there. -/
theorem holds_hashedName_iff {cluster : String} {lb : LoadBalancer}
    (hp : Stem.validate p = .ok ()) (hq : Stem.validate q = .ok ())
    (hname : lb.spec.loadBalancerName = hashedName q n text) :
    (Scope.mk cluster p).holds lb = true ↔
      p = q ∧ lb.spec.tags.contains (clusterTag cluster) = true := by
  rw [Scope.holds, Bool.and_eq_true, List.isPrefixOf_iff_prefix, hname,
    isPrefix_hashedName_iff (Stem.hyphen_notMem hp) (Stem.hyphen_notMem hq)]

/-- **Accepted settings give legal names that tell their stems apart.** Settings end the start-up
or are accepted, and then they are fit for use and hold what was given. A stem that is derived is
refused only for being empty: whatever the name of the cluster, it has at most eleven characters,
all of them allowed, and is its own stem. The names of load balancers and target groups under a
stem that has passed are legal, within 27 and 32 characters. They start with a stem that has passed
and a hyphen exactly where the stem is their own; so a discovery tells by the name alone what was
generated under another stem. -/
theorem names_of_accepted :
    (∀ raw : RawSettings,
      (∃ fault, raw.validate = .error (.config fault) ∧ (Failure.config fault).isFatal = true) ∨
        ∃ settings, raw.validate = .ok settings ∧ settings.IsFit) ∧
    (∀ (raw : RawSettings) (settings : Settings),
      raw.validate = .ok settings ↔ raw.Accepts settings) ∧
    (∀ raw : RawSettings, raw.stem.filter (!·.isEmpty) = none →
      (raw.check ≠ .error .stemAlphabet ∧ raw.check ≠ .error .stemTooLong ∧
        (raw.check = .error .stemEmpty ↔
          Text.allBlank raw.clusterName = false ∧ Stem.derive raw.clusterName = "")) ∧
      raw.validate ≠ .error (.config .stemAlphabet) ∧
      raw.validate ≠ .error (.config .stemTooLong) ∧
      (raw.validate = .error (.config .stemEmpty) ↔
        Text.allBlank raw.clusterName = false ∧ Stem.derive raw.clusterName = "")) ∧
    (∀ name, (∀ c ∈ (Stem.derive name).toList, Stem.isAllowed c = true) ∧
      (Stem.derive name).toList.length ≤ 11 ∧
      Stem.derive (Stem.derive name) = Stem.derive name) ∧
    ∀ p q, Stem.validate p = .ok () → Stem.validate q = .ok () → ∀ id service port,
      IsName 27 (loadBalancerName q id) ∧ IsName 32 (targetGroupName q id service port) ∧
      (p.toList ++ ['-'] <+: (loadBalancerName q id).toList ↔ p = q) ∧
      (p.toList ++ ['-'] <+: (targetGroupName q id service port).toList ↔ p = q) ∧
      ∀ cluster lb, lb.spec.loadBalancerName = loadBalancerName q id →
        ((Scope.mk cluster p).holds lb = true ↔
          p = q ∧ lb.spec.tags.contains (clusterTag cluster) = true) := by
  refine ⟨RawSettings.validate_cases, fun raw settings => RawSettings.validate_eq_ok_iff,
    fun raw h => ⟨RawSettings.check_derived h, RawSettings.validate_derived h⟩, fun name =>
    ⟨Stem.derive_allowed name, Stem.length_derive_le name, Stem.derive_derive name⟩, ?_⟩
  intro p q hp hq id service port
  have hyphen := Stem.hyphen_notMem hp
  have hyphen' := Stem.hyphen_notMem hq
  exact ⟨isName_hashedName hq (by decide : 15 ≤ 64) id.text,
    isName_hashedName hq (by decide : 20 ≤ 64) (targetGroupText id service port),
    isPrefix_hashedName_iff hyphen hyphen', isPrefix_hashedName_iff hyphen hyphen',
    fun cluster lb hname => holds_hashedName_iff hp hq hname⟩

/-- A cluster whose name has a capital letter and an underscore, without a stem of its own. -/
def unstemmed : RawSettings := { RawSettings.standard with clusterName := "Prod_1" }

/-- What it is accepted as. -/
def stemmed : Settings where
  clusterName := "Prod_1"
  stem := "prod1"
  restriction := .standard
  syncInterval := .ofSecs 3600
  ingressClass := ""
  reconcileTimeout := .ofSecs 300
  retry := .standard

/-- A cluster without a stem of its own is accepted, with the stem that is derived; one whose name
has only underscores is refused, for then nothing is left. Of two stems that pass, one is the
beginning of the other; the names under the longer one are none of the shorter one. -/
theorem names_of_accepted_prod :
    unstemmed.validate = .ok stemmed ∧ unstemmed.Accepts stemmed ∧ stemmed.IsFit ∧
    { RawSettings.standard with clusterName := "__" }.validate = .error (.config .stemEmpty) ∧
    Stem.validate "prod" = .ok () ∧ Stem.validate "prod1" = .ok () ∧
    ∀ id, ¬ "prod".toList ++ ['-'] <+: (loadBalancerName stemmed.stem id).toList := by
  have hprod : Stem.validate "prod" = .ok () := by decide
  have hprod1 : Stem.validate "prod1" = .ok () := by decide
  have hok : unstemmed.validate = .ok stemmed := by decide +kernel
  obtain ⟨hcases, haccepts, hderived, -, hnames⟩ := names_of_accepted
  refine ⟨hok, (haccepts _ _).1 hok, ?_, ?_, hprod, hprod1, fun id h => ?_⟩
  · rcases hcases unstemmed with ⟨fault, hfault, -⟩ | ⟨settings, hsettings, hfit⟩
    · rw [hok] at hfault
      cases hfault
    · rw [hok] at hsettings
      cases hsettings
      exact hfit
  · obtain ⟨-, -, -, hempty⟩ := hderived { RawSettings.standard with clusterName := "__" } rfl
    exact hempty.2 ⟨by decide, by decide⟩
  · obtain ⟨-, -, htell, -⟩ := hnames "prod" "prod1" hprod hprod1 id "" 0
    exact absurd (htell.1 h) (by decide)

end Blueprint

end IngressBalancer
