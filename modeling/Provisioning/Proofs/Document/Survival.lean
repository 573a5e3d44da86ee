import Provisioning.Binding.Pool
import Provisioning.Proofs.Document.Reading
import Provisioning.Proofs.Json.Members

/-!
Documents survive their JSON form. A document whose numbers are finite is read back from its JSON as
it was, members that no field is named after are passed over, and a document that was accepted is
accepted again when it is written anew (`documents_survive`). The three laws are the same for every
type of documents that is read as a record (`survives_of_record`).
-/

namespace Provisioning.Document

open Json

/-- What a type of documents promises of its JSON form, for the names of its fields and its
documents with finite numbers. -/
structure Survives (Doc : Type) [Document Doc] (fields : List String) (Finite : Doc → Prop) :
    Prop where
  /-- The JSON form is an object, and is read as the document it is the form of. -/
  returns : ∀ d : Doc, Finite d → ofJson (toJson d) = .ok d
    ∧ ∃ written, members d = .ok written ∧ ofJson (.obj written) = .ok d
  /-- Members that no field is named after decide neither whether an object is read nor as what. -/
  ignores : ∀ given extra : List (String × Json), (∀ m ∈ extra, m.1 ∉ fields) →
    (ofJson (.obj (putMembers extra given)) : Except DocumentError Doc).toOption
      = (ofJson (.obj given)).toOption
  /-- What was read once is read again from its JSON form. -/
  settles : ∀ (value : Json) (d : Doc), Parsed value → ofJson value = .ok d →
    ofJson (toJson d) = .ok d

section Records

variable {Doc : Type} [Document Doc]

theorem ofJson_eq_ok_iff {value : Json} {d : Doc} :
    ofJson value = .ok d ↔ decode value.toSource = .ok d := by
  unfold ofJson
  cases (decode value.toSource : Except Complaint Doc) <;> simp [Except.mapError]

/-- Documents that are read as records survive, if the record is put together from its fields and
its numbers are finite. -/
theorem survives_of_record {title : String} {fields : List String} {build : Parts → Ranked Doc}
    {Finite : Doc → Prop} (hdecode : (decode : Decoder Doc) = Decode.record title fields build)
    (hform : ∀ d : Doc, ∃ written, toJson d = .obj written)
    (hreads : ∀ d : Doc, Finite d → Reads decode (toJson d) d)
    (honly : ReadsOnly fields build) (hfinite : Yields (decode : Decoder Doc) Finite) :
    Survives Doc fields Finite where
  returns d hd := by
    have hback : ofJson (toJson d) = .ok d :=
      ofJson_eq_ok_iff.mpr (hreads d hd _ (says_toSource _))
    obtain ⟨written, hwritten⟩ := hform d
    refine ⟨hback, written, ?_, ?_⟩
    · rw [members, hwritten]
    · rw [← hwritten, hback]
  ignores given extra hextra := by
    have hsame : ∀ name ∈ fields, named name (putMembers extra given) = named name given := by
      intro name hname
      exact named_putMembers (fun m hm heq => hextra m hm (heq ▸ hname)) given
    have halike := honly title fields _ _ hsame
    refine Option.ext fun d => ?_
    rw [toOption_eq_some_iff, toOption_eq_some_iff, ofJson_eq_ok_iff, ofJson_eq_ok_iff, hdecode,
      record_toSource_eq_ok_iff, record_toSource_eq_ok_iff, halike d]
  settles value d hvalue hd := by
    have hnumbers : Finite d := hfinite value hvalue d (ofJson_eq_ok_iff.mp hd)
    exact ofJson_eq_ok_iff.mpr (hreads d hnumbers _ (says_toSource _))

end Records

/-! ### Groups -/

theorem Container.yields_finite : Yields Container.decode Container.Finite := by
  refine yields_record fun p hp => ?_
  -- Only the processors and the memory are numbers of this kind.
  iterate 5 refine .skip ?_
  refine .seq (hp.required "memory" yields_number) (.seq (hp.required "cpu" yields_number) ?_)
  refine .skip (.map ?_)
  exact fun _ _ _ hcpu _ hmemory _ _ _ _ _ => ⟨hcpu, hmemory⟩

/-- Whether the numbers of a group are finite. -/
def Group.Finite (d : Group) : Prop := ∀ c ∈ d.containers, c.Finite

theorem Group.yields_finite : Yields Group.decode Group.Finite := by
  refine yields_record fun p hp => ?_
  refine .seq (hp.required "container" (yields_list Container.yields_finite)) ?_
  iterate 10 refine .skip ?_
  exact .map fun _ _ _ _ _ _ _ _ _ _ _ _ h => h

/-- The names of a group's fields in JSON. -/
def Group.fieldNames : List String :=
  ["name", "location", "resource_group_name", "ip_address_type", "os_type", "restart_policy",
   "dns_name_label", "ip_address", "fqdn", "tags", "image_registry_credential", "container"]

theorem Group.survives : Survives Group Group.fieldNames Group.Finite := by
  refine survives_of_record Group.decode.eq_def (fun d => ⟨_, rfl⟩) (fun d => Group.reads) ?_
    Group.yields_finite
  iterate 11 refine .seq ?_ (.field (by decide) _ _)
  exact .map _ (.field (by decide) _ _)

/-! ### Services and pools -/

/-- The names of a service's fields in JSON. -/
def Service.fieldNames : List String :=
  ["name", "location", "resource_group_name", "orchestration_platform", "master_profile",
   "linux_profile", "agent_pool_profile", "service_principal", "diagnostics_profile", "tags"]

theorem Service.survives : Survives Service Service.fieldNames fun _ => True := by
  refine survives_of_record Service.decode.eq_def (fun d => ⟨_, rfl⟩) (fun d _ => d.reads) ?_
    fun _ _ _ _ => trivial
  iterate 9 refine .seq ?_ (.field (by decide) _ _)
  exact .map _ (.field (by decide) _ _)

/-- The names of a pool's fields in JSON. -/
def Pool.fieldNames : List String :=
  ["name", "resource_group", "location", "count", "dns_prefix", "fqdn"]

theorem Pool.reads (d : Pool) : Reads Pool.decode d.toJson d := by
  refine reads_record (by simp) (by decide) fun p hp => ?_
  rw [hp.required (by simp) (reads_string d.name),
    hp.required (by simp) (reads_string d.resourceGroup),
    hp.required (by simp) (reads_string d.location),
    hp.required (by simp) (reads_word32 d.count),
    hp.required (by simp) (reads_string d.dnsPrefix),
    hp.optional_string d.fqdn (by simp)]
  rfl

theorem Pool.survives : Survives Pool Pool.fieldNames fun _ => True := by
  refine survives_of_record Pool.decode.eq_def (fun d => ⟨_, rfl⟩) (fun d _ => d.reads) ?_
    fun _ _ _ _ => trivial
  iterate 5 refine .seq ?_ (.field (by decide) _ _)
  exact .map _ (.field (by decide) _ _)

/-! ### All documents -/

/-- Documents of every type survive their JSON form. Only groups have numbers that need not be
finite, the processors and the memory of their containers. -/
theorem documents_survive :
    Survives Group Group.fieldNames Group.Finite
      ∧ Survives Service Service.fieldNames (fun _ => True)
      ∧ Survives Pool Pool.fieldNames (fun _ => True) :=
  ⟨Group.survives, Service.survives, Pool.survives⟩

end Provisioning.Document
