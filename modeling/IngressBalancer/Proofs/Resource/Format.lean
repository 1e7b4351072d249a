import IngressBalancer.Proofs.Json.Carried
import IngressBalancer.Resource.Format
/-!
# Resources are carried by JSON text

Each record has its form, field by field, and is written and read in it; so
specs and resources are carried by JSON text (`carried_by_text`). A change to
the fields of a record is a change to its form and to one proof here.
-/

namespace IngressBalancer

open Json (Form)
open Json.Form.Carries
  (back_required back_omitted back_null read_required read_omitted read_null)

/-! ## Words and numbers -/

def Scheme.form : Form := .word ["internal", "internet-facing"]

theorem Scheme.carried : Scheme.form.Carries (fun s => .string s.word) Scheme.ofJson? :=
  Form.Carries.word Scheme.ofWord?_word fun s => by
    rw [ofWord?]
    split_ifs <;> simp_all [word]

def Protocol.form : Form := .word ["HTTP", "HTTPS"]

theorem Protocol.carried : Protocol.form.Carries (fun p => .string p.word) Protocol.ofJson? :=
  Form.Carries.word Protocol.ofWord?_word fun s => by
    rw [ofWord?]
    split_ifs <;> simp_all [word]

namespace Json

theorem carries_uint16 : (Form.whole 0 65535).Carries (fun n => .ofNat n.toNat) uint16? :=
  Form.Carries.whole (fun n : UInt16 => n.toNat) (fun n => by have := n.toNat_lt; omega)
    (fun n => UInt16.ofNat_toNat)
    fun i hlow hhigh => by
      rw [UInt16.toNat_ofNat_of_lt' (by simp only [UInt16.size]; omega)]
      omega

theorem carries_uint32 : (Form.whole 0 4294967295).Carries (fun n => .ofNat n.toNat) uint32? :=
  Form.Carries.whole (fun n : UInt32 => n.toNat) (fun n => by have := n.toNat_lt; omega)
    (fun n => UInt32.ofNat_toNat)
    fun i hlow hhigh => by
      rw [UInt32.toNat_ofNat_of_lt' (by simp only [UInt32.size]; omega)]
      omega

theorem carries_int32 :
    (Form.whole (-2147483648) 2147483647).Carries (fun n => .ofInt n.toInt) int32? :=
  Form.Carries.whole Int32.toInt (fun n => by have := n.le_toInt; have := n.toInt_lt; omega)
    Int32.ofInt_toInt fun i hlow hhigh => Int32.toInt_ofInt_of_le (by omega) (by omega)

theorem carries_strings : (Form.listOf .text).Carries strings (listOf? string?) :=
  Form.Carries.text.listOf

end Json

/-! ## Records -/

namespace ResourceId

def form : Form := .record [("namespace", .refused, .text), ("name", .refused, .text)]

theorem carried : form.Carries toJson ofJson? := by
  refine Form.carries_record
    (fun id : ResourceId => [
      ("namespace", some (.string id.nspace)),
      ("name", some (.string id.name))]) (fun _ => ?_) fun _ => ?_
  · exact back_required .text rfl <| back_required .text rfl rfl
  · exact read_required .text fun _ => read_required .text fun _ => rfl

end ResourceId

namespace Listener

def form : Form := .record [
  ("port", .refused, .whole 0 65535),
  ("protocol", .refused, Protocol.form),
  ("certificateArn", .omitted, .text),
  ("sslPolicy", .omitted, .text)]

theorem carried : form.Carries toJson ofJson? := by
  refine Form.carries_record _ (fun _ => ?_) fun _ => ?_
  · exact back_required Json.carries_uint16 rfl <| back_required Protocol.carried rfl <|
      back_omitted .text (fun _ => Json.noConfusion) rfl <|
      back_omitted .text (fun _ => Json.noConfusion) rfl rfl
  · exact read_required Json.carries_uint16 fun _ => read_required Protocol.carried fun _ =>
      read_omitted .text fun _ => read_omitted .text fun _ => rfl

end Listener

namespace TargetGroup

def form : Form := .record [
  ("name", .refused, .text),
  ("serviceName", .refused, .text),
  ("servicePort", .refused, .whole (-2147483648) 2147483647),
  ("nodePort", .refused, .whole (-2147483648) 2147483647),
  ("protocol", .refused, Protocol.form),
  ("healthCheckPath", .refused, .text),
  ("healthCheckPort", .refused, .text),
  ("successCodes", .refused, .text)]

theorem carried : form.Carries toJson ofJson? := by
  refine Form.carries_record
    (fun t : TargetGroup => [
      ("name", some (.string t.name)),
      ("serviceName", some (.string t.serviceName)),
      ("servicePort", some (.ofInt t.servicePort.toInt)),
      ("nodePort", some (.ofInt t.nodePort.toInt)),
      ("protocol", some (.string t.protocol.word)),
      ("healthCheckPath", some (.string t.healthCheckPath)),
      ("healthCheckPort", some (.string t.healthCheckPort)),
      ("successCodes", some (.string t.successCodes))]) (fun _ => ?_) fun _ => ?_
  · exact back_required .text rfl <| back_required .text rfl <|
      back_required Json.carries_int32 rfl <| back_required Json.carries_int32 rfl <|
      back_required Protocol.carried rfl <| back_required .text rfl <|
      back_required .text rfl <| back_required .text rfl rfl
  · exact read_required .text fun _ => read_required .text fun _ =>
      read_required Json.carries_int32 fun _ => read_required Json.carries_int32 fun _ =>
      read_required Protocol.carried fun _ => read_required .text fun _ =>
      read_required .text fun _ => read_required .text fun _ => rfl

end TargetGroup

namespace Rule

def form : Form := .record [
  ("priority", .refused, .whole 0 4294967295),
  ("host", .omitted, .text),
  ("path", .omitted, .text),
  ("targetGroup", .refused, .text)]

theorem carried : form.Carries toJson ofJson? := by
  refine Form.carries_record _ (fun _ => ?_) fun _ => ?_
  · exact back_required Json.carries_uint32 rfl <|
      back_omitted .text (fun _ => Json.noConfusion) rfl <|
      back_omitted .text (fun _ => Json.noConfusion) rfl <| back_required .text rfl rfl
  · exact read_required Json.carries_uint32 fun _ => read_omitted .text fun _ =>
      read_omitted .text fun _ => read_required .text fun _ => rfl

end Rule

namespace Spec

def form : Form := .record [
  ("loadBalancerName", .refused, .text),
  ("scheme", .refused, Scheme.form),
  ("subnets", .refused, .listOf .text),
  ("securityGroups", .refused, .listOf .text),
  ("listeners", .refused, .listOf Listener.form),
  ("targetGroups", .refused, .listOf TargetGroup.form),
  ("rules", .refused, .listOf Rule.form),
  ("targets", .refused, .listOf .text),
  ("webAclId", .omitted, .text),
  ("tags", .refused, .mapOf .text)]

theorem carried : form.Carries toJson ofJson? := by
  refine Form.carries_record _ (fun _ => ?_) fun _ => ?_
  · exact back_required .text rfl <| back_required Scheme.carried rfl <|
      back_required Json.carries_strings rfl <| back_required Json.carries_strings rfl <|
      back_required Listener.carried.listOf rfl <| back_required TargetGroup.carried.listOf rfl <|
      back_required Rule.carried.listOf rfl <| back_required Json.carries_strings rfl <|
      back_omitted .text (fun _ => Json.noConfusion) rfl <|
      back_required Form.Carries.text.mapOf rfl rfl
  · exact read_required .text fun _ => read_required Scheme.carried fun _ =>
      read_required Json.carries_strings fun _ => read_required Json.carries_strings fun _ =>
      read_required Listener.carried.listOf fun _ =>
      read_required TargetGroup.carried.listOf fun _ =>
      read_required Rule.carried.listOf fun _ => read_required Json.carries_strings fun _ =>
      read_omitted .text fun _ => read_required Form.Carries.text.mapOf fun _ => rfl

end Spec

namespace Handle

def form : Form := .record [
  ("arn", .refused, .text),
  ("dnsName", .omitted, .text),
  ("deleted", .refused, .flag)]

theorem carried : form.Carries toJson ofJson? := by
  refine Form.carries_record _ (fun _ => ?_) fun _ => ?_
  · exact back_required .text rfl <| back_omitted .text (fun _ => Json.noConfusion) rfl <|
      back_required .flag rfl rfl
  · exact read_required .text fun _ => read_omitted .text fun _ =>
      read_required .flag fun _ => rfl

end Handle

namespace Resource

def form : Form := .record [
  ("id", .refused, ResourceId.form),
  ("desired", .null, Spec.form),
  ("handle", .null, Handle.form)]

theorem carried : form.Carries toJson ofJson? := by
  refine Form.carries_record
    (fun r : Resource => [
      ("id", some r.id.toJson),
      ("desired", some (r.desired.elim .null Spec.toJson)),
      ("handle", some (r.handle.elim .null Handle.toJson))]) (fun _ => ?_) fun _ => ?_
  · exact back_required ResourceId.carried rfl <|
      back_null Spec.carried (fun _ => Json.noConfusion) rfl <|
      back_null Handle.carried (fun _ => Json.noConfusion) rfl rfl
  · exact read_required ResourceId.carried fun _ => read_null Spec.carried fun _ =>
      read_null Handle.carried fun _ => rfl

end Resource

/-! ## Absent fields -/

/-- A field is read as absent exactly where its member is missing or null. -/
def AbsentWhere {α β : Type} (ofJson? : Json → Option α) (key : String) (field : α → Option β) :
    Prop :=
  ∀ ms a, ofJson? (.object ms) = some a →
    (field a = none ↔ Json.valuesOf key ms = [] ∨ Json.valuesOf key ms = [.null])

theorem Json.eq_none_iff_of_optional? {α : Type} {decode? : Json → Option α} {key : String}
    {ms : List (String × Json)} {o : Option α} (h : optional? decode? key ms = some o) :
    o = none ↔ valuesOf key ms = [] ∨ valuesOf key ms = [.null] := by
  obtain ⟨rfl, hvalues⟩ | ⟨j, b, hnull, hvalues, -, rfl⟩ := exists_of_optional? h
  · exact iff_of_true rfl hvalues
  · rw [hvalues]
    refine iff_of_false (Option.some_ne_none b) ?_
    rintro (he | he)
    · exact List.cons_ne_nil _ _ he
    · exact hnull (List.cons_eq_cons.1 he).1

theorem Listener.absentWhere : AbsentWhere ofJson? "certificateArn" certificateArn ∧
    AbsentWhere ofJson? "sslPolicy" sslPolicy := by
  constructor
  all_goals
    intro ms l h
    simp only [ofJson?, Json.record?, Option.bind_eq_bind, Option.bind_some,
      Option.bind_eq_some_iff] at h
    obtain ⟨_, -, _, -, certificateArn, hcertificate, sslPolicy, hpolicy, h⟩ := h
    obtain rfl := Option.some.inj h
  · exact Json.eq_none_iff_of_optional? hcertificate
  · exact Json.eq_none_iff_of_optional? hpolicy

theorem Rule.absentWhere : AbsentWhere ofJson? "host" host ∧ AbsentWhere ofJson? "path" path := by
  constructor
  all_goals
    intro ms r h
    simp only [ofJson?, Json.record?, Option.bind_eq_bind, Option.bind_some,
      Option.bind_eq_some_iff] at h
    obtain ⟨_, -, host, hhost, path, hpath, _, -, h⟩ := h
    obtain rfl := Option.some.inj h
  · exact Json.eq_none_iff_of_optional? hhost
  · exact Json.eq_none_iff_of_optional? hpath

theorem Spec.absentWhere : AbsentWhere ofJson? "webAclId" webAclId := by
  intro ms s h
  simp only [ofJson?, Json.record?, Option.bind_eq_bind, Option.bind_some,
    Option.bind_eq_some_iff] at h
  obtain ⟨_, -, _, -, _, -, _, -, _, -, _, -, _, -, _, -, acl, hacl, _, -, h⟩ := h
  obtain rfl := Option.some.inj h
  exact Json.eq_none_iff_of_optional? hacl

theorem Handle.absentWhere : AbsentWhere ofJson? "dnsName" dnsName := by
  intro ms handle h
  simp only [ofJson?, Json.record?, Option.bind_eq_bind, Option.bind_some,
    Option.bind_eq_some_iff] at h
  obtain ⟨_, -, dnsName, hname, _, -, h⟩ := h
  obtain rfl := Option.some.inj h
  exact Json.eq_none_iff_of_optional? hname

theorem Resource.absentWhere : AbsentWhere ofJson? "desired" desired ∧
    AbsentWhere ofJson? "handle" handle := by
  constructor
  all_goals
    intro ms r h
    simp only [ofJson?, Json.record?, Option.bind_eq_bind, Option.bind_some,
      Option.bind_eq_some_iff] at h
    obtain ⟨_, -, desired, hdesired, handle, hhandle, h⟩ := h
    obtain rfl := Option.some.inj h
  · exact Json.eq_none_iff_of_optional? hdesired
  · exact Json.eq_none_iff_of_optional? hhandle

/-! ## Texts -/

/-- **Specs and resources are carried by JSON text.** What is written is read back, for every
value; whatever is read is written in one way and read again; unknown members are passed over
and numbers out of bounds refused wherever they stand; and each optional field is absent
exactly where it is missing or null. -/
theorem carried_by_text :
    Spec.form.CarriesText Spec.encode Spec.decode? ∧
    Resource.form.CarriesText Resource.encode Resource.decode? ∧
    (AbsentWhere Listener.ofJson? "certificateArn" Listener.certificateArn ∧
      AbsentWhere Listener.ofJson? "sslPolicy" Listener.sslPolicy) ∧
    (AbsentWhere Rule.ofJson? "host" Rule.host ∧ AbsentWhere Rule.ofJson? "path" Rule.path) ∧
    AbsentWhere Spec.ofJson? "webAclId" Spec.webAclId ∧
    AbsentWhere Handle.ofJson? "dnsName" Handle.dnsName ∧
    AbsentWhere Resource.ofJson? "desired" Resource.desired ∧
    AbsentWhere Resource.ofJson? "handle" Resource.handle :=
  ⟨Spec.carried.inText, Resource.carried.inText, Listener.absentWhere, Rule.absentWhere,
    Spec.absentWhere, Handle.absentWhere, Resource.absentWhere⟩

end IngressBalancer
