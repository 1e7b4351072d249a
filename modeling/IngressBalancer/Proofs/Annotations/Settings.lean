import IngressBalancer.Annotations.Interpret
import IngressBalancer.Proofs.Annotations.Values
/-!
# What annotations give

The settings that annotations give, traced back to what they were read from
(`interprets_of_eq_ok`). Each is fit for use, whether it was read or is the
default of a setting left out, and HTTPS comes with a certificate
(`sound_of_eq_ok`).
-/

namespace IngressBalancer

namespace Annotations

variable {restriction : SchemeRestriction} {configMap? : ResourceId → Option ConfigMap}
variable {id : ResourceId} {annotations : SortedMap String String} {settings : Annotations}

/-- Whether annotations give some settings. -/
structure Interprets (restriction : SchemeRestriction) (configMap? : ResourceId → Option ConfigMap)
    (id : ResourceId) (annotations : SortedMap String String) (settings : Annotations) : Prop where
  scheme : readOr annotations "scheme" standard.scheme readScheme = .ok settings.scheme
  permitted : settings.scheme = .internetFacing → isPermitted restriction configMap? id = true
  subnets : settings.subnets =
    ((value? annotations "subnets").map commaList).getD standard.subnets
  securityGroups : settings.securityGroups =
    ((value? annotations "security-groups").map commaList).getD standard.securityGroups
  listenPorts :
    readOr annotations "listen-ports" standard.listenPorts readListenPorts = .ok settings.listenPorts
  certificateArn : settings.certificateArn = value? annotations "certificate-arn"
  certified : settings.listenPorts.any (·.1 = .https) = true → settings.certificateArn.isSome = true
  sslPolicy : settings.sslPolicy = value? annotations "ssl-policy"
  webAclId : settings.webAclId = value? annotations "waf-acl-id"
  tags : readOr annotations "tags" standard.tags readTags = .ok settings.tags
  healthCheckPath : readOr annotations "healthcheck-path" standard.healthCheckPath readPath =
    .ok settings.healthCheckPath
  healthCheckPort : readOr annotations "healthcheck-port" standard.healthCheckPort readCheckPort =
    .ok settings.healthCheckPort
  backendProtocol : readOr annotations "backend-protocol" standard.backendProtocol readProtocol =
    .ok settings.backendProtocol
  successCodes : settings.successCodes =
    (value? annotations "success-codes").getD standard.successCodes

/-- **What annotations give was read from them, and is permitted.** -/
theorem interprets_of_eq_ok (h : interpret restriction configMap? id annotations = .ok settings) :
    Interprets restriction configMap? id annotations settings := by
  unfold interpret at h
  obtain ⟨scheme, hscheme, h⟩ := Except.exists_of_bind_eq_ok h
  split at h
  · cases h
  · next hpermitted =>
    obtain ⟨ports, hports, h⟩ := Except.exists_of_bind_eq_ok h
    dsimp only at h
    split at h
    · cases h
    · next hcertified =>
      obtain ⟨tags, htags, h⟩ := Except.exists_of_bind_eq_ok h
      obtain ⟨path, hpath, h⟩ := Except.exists_of_bind_eq_ok h
      obtain ⟨port, hport, h⟩ := Except.exists_of_bind_eq_ok h
      obtain ⟨protocol, hprotocol, h⟩ := Except.exists_of_bind_eq_ok h
      cases h
      exact {
        scheme := hscheme
        permitted := fun hfacing => by
          simpa [show scheme = .internetFacing from hfacing] using hpermitted
        subnets := rfl
        securityGroups := rfl
        listenPorts := hports
        certificateArn := rfl
        certified := fun hany => by
          simpa [show (ports.any (·.1 = .https)) = true from hany, Option.isSome_iff_ne_none]
            using hcertified
        sslPolicy := rfl
        webAclId := rfl
        tags := htags
        healthCheckPath := hpath
        healthCheckPort := hport
        backendProtocol := hprotocol
        successCodes := rfl }

/-- And what was read from them, and is permitted, is what they give. -/
theorem Interprets.eq_ok (h : Interprets restriction configMap? id annotations settings) :
    interpret restriction configMap? id annotations = .ok settings := by
  have hpermitted : ¬ (settings.scheme = .internetFacing ∧
      (!isPermitted restriction configMap? id) = true) := by
    rintro ⟨hfacing, hno⟩
    rw [h.permitted hfacing] at hno
    cases hno
  have hcertified : ¬ (settings.listenPorts.any (·.1 = .https) = true ∧
      (value? annotations "certificate-arn").isNone = true) := by
    rintro ⟨hany, hnone⟩
    have hsome := h.certified hany
    rw [h.certificateArn, Option.isSome_iff_ne_none] at hsome
    exact hsome (Option.isNone_iff_eq_none.1 hnone)
  have hgive : interpret restriction configMap? id annotations = .ok { settings with
      subnets := ((value? annotations "subnets").map commaList).getD standard.subnets
      securityGroups :=
        ((value? annotations "security-groups").map commaList).getD standard.securityGroups
      certificateArn := value? annotations "certificate-arn"
      sslPolicy := value? annotations "ssl-policy"
      webAclId := value? annotations "waf-acl-id"
      successCodes := (value? annotations "success-codes").getD standard.successCodes } := by
    unfold interpret
    simp only [h.scheme, h.listenPorts, h.tags, h.healthCheckPath, h.healthCheckPort,
      h.backendProtocol, bind, Except.bind]
    rw [if_neg hpermitted, if_neg hcertified]
    rfl
  rw [hgive, ← h.subnets, ← h.securityGroups, ← h.certificateArn, ← h.sslPolicy, ← h.webAclId,
    ← h.successCodes]
/-! ## Sound settings -/

/-- Settings have keys of their own. -/
theorem key_injective {s t : String} (h : key s = key t) : s = t := by
  have hlist : ∀ name, (key name).toList = "alb.ingress.kubernetes.io/".toList ++ name.toList :=
    fun name => String.toList_append
  have hsame := congrArg String.toList h
  rw [hlist, hlist] at hsame
  exact String.toList_inj.1 (List.append_cancel_left hsame)

/-- What is read is the default or what a value gives. -/
theorem of_readOr_eq_ok {α : Type} {P : α → Prop} {setting : String} {default a : α}
    {read : String → Except ValueFault α} (hdefault : P default)
    (hread : ∀ value a, read value = .ok a → P a)
    (h : readOr annotations setting default read = .ok a) : P a := by
  rw [readOr] at h
  split at h
  · exact Except.ok.inj h ▸ hdefault
  · split at h
    · next hvalue => exact hread _ _ (Except.ok.inj h ▸ hvalue)
    · cases h

/-- A setting that is not given has its default. -/
theorem readOr_of_none {α : Type} {setting : String} {default : α}
    {read : String → Except ValueFault α} (h : value? annotations setting = none) :
    readOr annotations setting default read = .ok default := by
  rw [readOr, h]

/-- A setting that is given has what is read from it. -/
theorem readOr_of_some {α : Type} {setting value : String} {default a : α}
    {read : String → Except ValueFault α} (h : value? annotations setting = some value)
    (hread : read value = .ok a) : readOr annotations setting default read = .ok a := by
  rw [readOr, h]
  dsimp only
  rw [hread]

/-- A value that counts is not empty. -/
theorem ne_empty_of_value? {setting value : String} (h : value? annotations setting = some value) :
    value ≠ "" := by
  have hne := (Option.filter_eq_some_iff.1 h).2
  simpa using hne

/-- The items of a setting are items. -/
theorem isItem_of_mem_getD {setting s : String}
    (h : s ∈ ((value? annotations setting).map commaList).getD []) : IsItem s := by
  cases hvalue : value? annotations setting with
  | none => rw [hvalue] at h; cases h
  | some value => rw [hvalue] at h; exact isItem_of_mem_commaList h

/-- Whether settings are fit for use. -/
structure Sound (settings : Annotations) : Prop where
  listenable : Listenable settings.listenPorts
  certified : settings.listenPorts.any (·.1 = .https) = true →
    ∃ certificate, settings.certificateArn = some certificate ∧ certificate ≠ ""
  subnets : ∀ s ∈ settings.subnets, IsItem s
  securityGroups : ∀ s ∈ settings.securityGroups, IsItem s
  tags : settings.tags.get? "" = none
  healthCheckPath : IsRooted settings.healthCheckPath
  healthCheckPort : IsCheckPort settings.healthCheckPort

/-- **Whatever annotations give is fit for use.** -/
theorem sound_of_eq_ok (h : interpret restriction configMap? id annotations = .ok settings) :
    settings.Sound := by
  have hread := interprets_of_eq_ok h
  exact {
    listenable := of_readOr_eq_ok (listenable_singleton (by decide))
      (fun _ _ => listenable_of_readListenPorts) hread.listenPorts
    certified := fun hany => by
      obtain ⟨certificate, hcertificate⟩ := Option.isSome_iff_exists.1 (hread.certified hany)
      exact ⟨certificate, hcertificate,
        ne_empty_of_value? (hread.certificateArn.symm.trans hcertificate)⟩
    subnets := fun _ hs => isItem_of_mem_getD (hread.subnets ▸ hs)
    securityGroups := fun _ hs => isItem_of_mem_getD (hread.securityGroups ▸ hs)
    tags := of_readOr_eq_ok (P := (·.get? "" = none)) rfl (fun _ _ => get?_empty_of_readTags)
      hread.tags
    healthCheckPath := of_readOr_eq_ok (P := IsRooted) (by rfl) (fun _ _ => isRooted_of_readPath)
      hread.healthCheckPath
    healthCheckPort := of_readOr_eq_ok (.inl rfl) (fun _ _ => isCheckPort_of_readCheckPort)
      hread.healthCheckPort }

end Annotations

end IngressBalancer
