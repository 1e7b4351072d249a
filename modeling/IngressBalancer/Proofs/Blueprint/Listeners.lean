import IngressBalancer.Proofs.Annotations.ListenPorts
import IngressBalancer.Proofs.Blueprint.NodePorts
import IngressBalancer.Proofs.Blueprint.Validity
/-!
# The listeners of a spec

A spec listens to just the ports that its ingress asks for, in increasing order
(`listeners_of_desiredSpec`). Two listeners are the same exactly where the
annotation lists a port for one protocol, then for the other, and then for the
first again (`listeners_canonical`).
-/

namespace IngressBalancer

namespace Blueprint

open Annotations

variable {ctx : Context} {settings : Settings} {v : View} {i : Ingress} {targets : List String}
variable {spec : Spec} {read : Annotations} {value : String}
variable {ports : List (Protocol × UInt16)}

/-- What a listener listens to. -/
def heard (l : Listener) : Protocol × UInt16 := (l.protocol, l.port)

theorem heard_listener (p : Protocol × UInt16) : heard (listener read p) = p := by
  rw [heard, protocol_listener, port_listener]

/-- **The listeners of a spec are those of its annotations.** -/
theorem listeners_of_desiredSpec (h : desiredSpec ctx i targets = .ok spec) :
    ∃ read, ctx.interpret i.id i.annotations = .ok read ∧
      spec.listeners = read.listenPorts.map (listener read) := by
  obtain ⟨read, groups, rules, hread, rfl⟩ := exists_settings_of_desiredSpec h
  exact ⟨read, hread, rfl⟩

/-- They differ where what they listen to does. -/
theorem nodup_listeners_iff : (ports.map (listener read)).Nodup ↔ ports.Nodup :=
  List.nodup_map_iff (Function.LeftInverse.injective heard_listener)

/-- The ports of a spec are those that were read for it. -/
theorem exists_ports_of_desiredSpec (h : desiredSpec (settings.context v) i targets = .ok spec) :
    ∃ ports, readOr i.annotations "listen-ports" standard.listenPorts readListenPorts = .ok ports ∧
      spec.listeners.map heard = ports ∧ (spec.listeners.Nodup ↔ ports.Nodup) := by
  obtain ⟨read, hread, hlisteners⟩ := listeners_of_desiredSpec h
  refine ⟨read.listenPorts, (interprets_of_eq_ok hread).listenPorts, ?_, ?_⟩
  · rw [hlisteners, List.map_map]
    exact (List.map_congr_left fun p _ => heard_listener p).trans (List.map_id _)
  · rw [hlisteners, nodup_listeners_iff]

/-- **The listeners that are asked for.** Where a text with listen ports is accepted, they are just
the pairs of a protocol and a port that it writes, in increasing order of the ports, and each of
them once exactly where no two pairs of one port alternate in the list. A spec that is built with
such a text listens to just these; so no two of its listeners are the same exactly where no two
pairs alternate. Nor are two of them the same where no listen ports are asked for. -/
theorem listeners_canonical (hports : readListenPorts value = .ok ports) :
    (∀ p, p ∈ ports ↔ Writes value p) ∧ (ports.Pairwise fun p q => p.2 ≤ q.2) ∧
    ∃ listed, Lists value listed ∧ (ports.Nodup ↔ ¬ Alternates listed) ∧
      ∀ settings v i targets spec,
        desiredSpec (Settings.context settings v) i targets = .ok spec →
        (value? i.annotations "listen-ports" = some value →
          spec.listeners.map heard = ports ∧ (spec.listeners.Nodup ↔ ¬ Alternates listed)) ∧
        (value? i.annotations "listen-ports" = none → spec.listeners.Nodup) := by
  obtain ⟨hwrites, hincreasing, listed, hlists, honce⟩ := canonical_of_readListenPorts hports
  refine ⟨hwrites, hincreasing, listed, hlists, honce, fun settings v i targets spec hspec => ?_⟩
  obtain ⟨ports', hread, hheard, hnodup⟩ := exists_ports_of_desiredSpec hspec
  constructor
  · intro hvalue
    rw [readOr_of_some hvalue hports] at hread
    obtain rfl := Except.ok.inj hread
    exact ⟨hheard, hnodup.trans honce⟩
  · intro hvalue
    rw [readOr_of_none hvalue] at hread
    obtain rfl := Except.ok.inj hread
    exact hnodup.2 (List.nodup_singleton _)

end Blueprint

namespace Sample

open Annotations Blueprint

/-- An ingress for the shop that asks for ports, and has a certificate. -/
def listeningTo (ports : String) : Ingress :=
  let plain := ingress "default" "shop" "shop" 80
  { plain with metadata := { plain.metadata with annotations := some (
      (SortedMap.insert ∅ (key "listen-ports") ports).insert (key "certificate-arn")
        "arn:aws:acm:us-east-1:1:certificate/1") } }

variable {value : String} {ports : List (Protocol × UInt16)}

/-- It asks for nothing else. -/
theorem value?_listeningTo {setting : String} (h : setting ≠ "listen-ports")
    (h' : setting ≠ "certificate-arn") :
    value? (listeningTo value).annotations setting = none := by
  have hget : (listeningTo value).annotations.get? (key setting) = none :=
    (SortedMap.get?_insert_of_ne (fun hkey => h' (key_injective hkey))).trans
      (SortedMap.get?_insert_of_ne (fun hkey => h (key_injective hkey)))
  rw [value?, hget]
  rfl

theorem certificateArn_listeningTo :
    value? (listeningTo value).annotations "certificate-arn" =
      some "arn:aws:acm:us-east-1:1:certificate/1" := by
  have hget : (listeningTo value).annotations.get? (key "certificate-arn") =
      some "arn:aws:acm:us-east-1:1:certificate/1" := SortedMap.get?_insert_self
  rw [value?, hget]
  decide

/-- Its annotations give the ports that it asks for. -/
theorem interprets_listeningTo
    (hvalue : value? (listeningTo value).annotations "listen-ports" = some value)
    (hports : readListenPorts value = .ok ports) (id : ResourceId) :
    Interprets .standard (serving [shopSaying []]).view.configMap? id (listeningTo value).annotations
      { standard with
        listenPorts := ports
        certificateArn := some "arn:aws:acm:us-east-1:1:certificate/1" } where
  scheme := readOr_of_none (value?_listeningTo (by decide) (by decide))
  permitted := nofun
  subnets := by rw [value?_listeningTo (by decide) (by decide)]; rfl
  securityGroups := by rw [value?_listeningTo (by decide) (by decide)]; rfl
  listenPorts := readOr_of_some hvalue hports
  certificateArn := certificateArn_listeningTo.symm
  certified _ := rfl
  sslPolicy := (value?_listeningTo (by decide) (by decide)).symm
  webAclId := (value?_listeningTo (by decide) (by decide)).symm
  tags := readOr_of_none (value?_listeningTo (by decide) (by decide))
  healthCheckPath := readOr_of_none (value?_listeningTo (by decide) (by decide))
  healthCheckPort := readOr_of_none (value?_listeningTo (by decide) (by decide))
  backendProtocol := readOr_of_none (value?_listeningTo (by decide) (by decide))
  successCodes := by rw [value?_listeningTo (by decide) (by decide)]; rfl

theorem serviceOf?_listeningTo : (serving [shopSaying []]).serviceOf? (listeningTo value) "shop" =
    some (shopSaying []) := by
  have hview : (serving [shopSaying []]).view.service? ⟨"default", "shop"⟩ 0 =
      (SortedMap.insert ∅ (⟨"default", "shop"⟩ : ResourceId) (shopSaying [])).get?
        ⟨"default", "shop"⟩ := rfl
  exact hview.trans SortedMap.get?_insert_self

/-- So it has a spec, where these can be read. -/
theorem exists_spec_listeningTo
    (hvalue : value? (listeningTo value).annotations "listen-ports" = some value)
    (hports : readListenPorts value = .ok ports) :
    ∃ spec, desiredSpec (serving [shopSaying []]) (listeningTo value) [] = .ok spec := by
  have hown := (interprets_listeningTo hvalue hports (listeningTo value).id).eq_ok
  have hbackend : ∀ backend ∈ (listeningTo value).backends,
      (serving [shopSaying []]).destination (listeningTo value) backend =
        .ok ⟨"shop", 80, 30080⟩ := by
    intro backend hb
    obtain rfl : backend = toPort "shop" 80 := List.mem_singleton.1 hb
    rw [Context.destination]
    dsimp only [toPort]
    rw [serviceOf?_listeningTo]
    rfl
  refine (exists_desiredSpec_iff (steady_serving _) []).2
    ⟨⟨_, hown⟩, fun backend hb => ⟨_, hbackend backend hb⟩, fun d hd => ?_⟩
  obtain ⟨backend, hb, hd⟩ :=
    Context.exists_of_mem_destinations ((firstsBy_sublist _ _).subset hd)
  rw [hbackend backend hb] at hd
  obtain rfl := Except.ok.inj hd
  rw [Context.settingsFor, serviceOf?_listeningTo]
  exact ⟨_, hown⟩

/-- Two ports, the one listed twice in a row, in two spellings. -/
def spelledTwice : String := "[\x7b\"HTTP\": 80, \"http\": 80\x7d, \x7b\"HTTPS\": 443\x7d]"

/-- One port, listed for both protocols in turn. -/
def inTurn : String := "[\x7b\"HTTP\": 80, \"HTTPS\": 80\x7d, \x7b\"HTTP\": 80\x7d]"

theorem readListenPorts_spelledTwice :
    readListenPorts spelledTwice = .ok [(.http, 80), (.https, 443)] :=
  readListenPorts_of_listed [(.http, 80), (.http, 80), (.https, 443)] (by decide +kernel) nofun
    (by decide)

theorem readListenPorts_inTurn :
    readListenPorts inTurn = .ok [(.http, 80), (.https, 80), (.http, 80)] :=
  readListenPorts_of_listed [(.http, 80), (.https, 80), (.http, 80)] (by decide +kernel) nofun
    (by decide)

end Sample

namespace Blueprint

open Annotations Sample

/-- A port that is listed twice in a row has one listener. -/
theorem listeners_canonical_spelled :
    readListenPorts spelledTwice = .ok [(.http, 80), (.https, 443)] ∧
    value? (listeningTo spelledTwice).annotations "listen-ports" = some spelledTwice ∧
    Writes spelledTwice (.http, 80) ∧ ∃ listed, Lists spelledTwice listed ∧ ¬ Alternates listed ∧
      ∃ spec, desiredSpec (serving [shopSaying []]) (listeningTo spelledTwice) [] = .ok spec ∧
        spec.listeners.map heard = [(.http, 80), (.https, 443)] ∧ spec.listeners.Nodup := by
  have hvalue : value? (listeningTo spelledTwice).annotations "listen-ports" =
      some spelledTwice := by decide +kernel
  obtain ⟨spec, hspec⟩ := exists_spec_listeningTo hvalue readListenPorts_spelledTwice
  obtain ⟨hwrites, -, listed, hlists, honce, hspecs⟩ :=
    listeners_canonical readListenPorts_spelledTwice
  have hno : ¬ Alternates listed := honce.1 (by decide)
  obtain ⟨hheard, hnodup⟩ := (hspecs _ _ _ _ _ hspec).1 hvalue
  exact ⟨readListenPorts_spelledTwice, hvalue, (hwrites _).1 List.mem_cons_self, listed, hlists,
    hno, spec, hspec, hheard, hnodup.2 hno⟩

/-- **A port that is listed in turns** has two listeners that are the same. -/
theorem listened_to_twice :
    readListenPorts inTurn = .ok [(.http, 80), (.https, 80), (.http, 80)] ∧
    ∃ spec, desiredSpec (serving [shopSaying []]) (listeningTo inTurn) [] = .ok spec ∧
      spec.listeners.map heard = [(.http, 80), (.https, 80), (.http, 80)] ∧
      ¬ spec.listeners.Nodup := by
  have hvalue : value? (listeningTo inTurn).annotations "listen-ports" = some inTurn := by
    decide +kernel
  obtain ⟨spec, hspec⟩ := exists_spec_listeningTo hvalue readListenPorts_inTurn
  obtain ⟨ports, hread, hheard, hnodup⟩ := exists_ports_of_desiredSpec hspec
  rw [readOr_of_some hvalue readListenPorts_inTurn] at hread
  obtain rfl := Except.ok.inj hread
  exact ⟨readListenPorts_inTurn, spec, hspec, hheard, fun honce => absurd (hnodup.1 honce) (by decide)⟩

end Blueprint

end IngressBalancer
