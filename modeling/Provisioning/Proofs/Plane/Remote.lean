import Provisioning.Plane.Remote
import Provisioning.Proofs.Lifecycle.Kinds
import Provisioning.Proofs.Web.Address

/-!
Whom a web client asks. Each call makes one request, and all calls about a key make it to one
address (`asksAt_address`). The layout of addresses is their own; between the endpoint and the
version it has the identifier of the object (`address_eq`), from which the key is read back
(`naturalKey_of_parse_idFor`). So no two objects have one address (`requests_address_objects`). Of
an address the server is sent the path and the query, in which some characters mean something else;
to names without them it makes no difference (`target_address`).
-/

namespace Provisioning.Remote

/-! ### Requests -/

section Requests

variable {σ α : Type}

/-- The network, with the requests that are made over it kept in their order. -/
def Network.recording (network : Network σ) : Network (σ × List Request) := fun request s =>
  let answer := network request s.1
  { delay := answer.delay
    value := answer.value
    next := (answer.next, s.2 ++ [request])
    abandoned := (answer.abandoned, s.2 ++ [request]) }

/-- Whether a call makes one request, by a method and to an address, be its answer waited for or
not. -/
def MakesOne (method : Method) (address : String)
    (call : σ × List Request → Answer (σ × List Request) α) : Prop :=
  ∀ s before, ∃ request : Request, request.method = method ∧ request.address = address
    ∧ (call (s, before)).next.2 = before ++ [request]
    ∧ (call (s, before)).abandoned.2 = before ++ [request]

/-- Whether the calls about a key ask at an address. -/
structure AsksAt {Obj : Type} (client : Client (σ × List Request) Obj) (key : NaturalKey)
    (address : String) : Prop where
  get : MakesOne .get address (client.get key)
  put : ∀ object, MakesOne .put address (client.put key object)
  delete : MakesOne .delete address (client.delete key)

theorem asksAt_address {Obj : Type} [Managed Obj] (settings : Settings) (network : Network σ)
    (key : NaturalKey) :
    AsksAt (client Obj settings network.recording) key (settings.address Obj key) where
  get _ _ := ⟨⟨.get, settings.address Obj key, settings.token, none⟩, rfl, rfl, rfl, rfl⟩
  put object _ _ := ⟨⟨.put, settings.address Obj key, settings.token,
    some (Managed.toJson object)⟩, rfl, rfl, rfl, rfl⟩
  delete _ _ := ⟨⟨.delete, settings.address Obj key, settings.token, none⟩, rfl, rfl, rfl, rfl⟩

end Requests

/-! ### Addresses -/

section Addresses

variable {Obj : Type} [Managed Obj] {settings : Settings}

/-- What an endpoint is without the slashes behind it. -/
theorem trimEnd_eq_iff {endpoint base : String} :
    String.ofList (Text.trimEnd '/' endpoint.toList) = base ↔ base.toList.getLast? ≠ some '/'
      ∧ ∃ after, endpoint = base ++ ResourceId.slashes after := by
  rw [← String.toList_inj, String.toList_ofList, Text.trimEnd, List.reverse_eq_iff,
    Text.dropWhile_edge_eq_iff, List.head?_reverse]
  refine and_congr_right fun _ => exists_congr fun after => ?_
  rw [← String.toList_inj, List.reverse_eq_iff]
  simp [ResourceId.slashes]

/-- An address is the endpoint, the identifier of the object and the version. -/
theorem address_eq (settings : Settings) (key : NaturalKey) : settings.address Obj key
    = String.ofList (Text.trimEnd '/' settings.endpoint.toList)
      ++ (Managed.idFor Obj settings.subscription key).text
      ++ ("?api-version=" ++ Managed.apiVersion Obj) := by
  have htext : (Managed.idFor Obj settings.subscription key).text
      = "/subscriptions/" ++ settings.subscription ++ "/resourceGroups/" ++ key.scope
        ++ "/providers/" ++ Managed.type Obj ++ "/" ++ key.name := rfl
  simp only [Settings.address, htext, String.append_assoc]

/-- Addresses are as different as the identifiers in them. -/
theorem address_inj {key other : NaturalKey} :
    settings.address Obj key = settings.address Obj other
      ↔ (Managed.idFor Obj settings.subscription key).text
        = (Managed.idFor Obj settings.subscription other).text := by
  rw [address_eq, address_eq, String.append_left_inj, String.append_right_inj]

/-- A key that was read is read again from the identifier of the object under it. -/
theorem naturalKey_of_parse_idFor [LawfulManaged Obj] {text : String} {id : ResourceId}
    (hsubscription : ResourceId.Segment settings.subscription)
    (h : ResourceId.parse text = .ok id) :
    (ResourceId.parse (Managed.idFor Obj settings.subscription id.naturalKey).text).map
      ResourceId.naturalKey = .ok id.naturalKey := by
  have hsound := ResourceId.Sound.of_parse h
  have hidFor : ResourceId.Sound (Managed.idFor Obj settings.subscription id.naturalKey) :=
    ⟨hsubscription, hsound.group, LawfulManaged.type_sound, hsound.name⟩
  rw [ResourceId.parse_text hidFor]
  rfl

end Addresses

/-- A client asks about the key that a text names at one address, whatever it is asked to do: the
endpoint without the slashes behind it, the identifier that the object has in the client's own
subscription, and the version. The key is read again from that identifier, and different keys have
different addresses. -/
theorem requests_address_objects {σ : Type} (kind : Kind) (settings : Settings)
    (network : Network σ) (hsubscription : ResourceId.Segment settings.subscription) :
    (∀ text id, ResourceId.parse text = .ok id →
      AsksAt (client kind.Obj settings network.recording) id.naturalKey
        (settings.address kind.Obj id.naturalKey)
      ∧ (∃ base after, settings.endpoint = base ++ ResourceId.slashes after
        ∧ base.toList.getLast? ≠ some '/'
        ∧ settings.address kind.Obj id.naturalKey
          = base ++ (Managed.idFor kind.Obj settings.subscription id.naturalKey).text
            ++ ("?api-version=" ++ Managed.apiVersion kind.Obj))
      ∧ (ResourceId.parse (Managed.idFor kind.Obj settings.subscription id.naturalKey).text).map
        ResourceId.naturalKey = .ok id.naturalKey)
    ∧ ∀ text text' id id', ResourceId.parse text = .ok id → ResourceId.parse text' = .ok id' →
      id.naturalKey ≠ id'.naturalKey →
      settings.address kind.Obj id.naturalKey ≠ settings.address kind.Obj id'.naturalKey := by
  refine ⟨fun text id h => ⟨asksAt_address settings network _, ?_,
    naturalKey_of_parse_idFor hsubscription h⟩, ?_⟩
  · obtain ⟨hbase, after, hendpoint⟩ := trimEnd_eq_iff.mp rfl
    exact ⟨_, after, hendpoint, hbase, address_eq settings _⟩
  · intro text text' id id' h h' hne hsame
    have hkey : (ResourceId.parse
        (Managed.idFor kind.Obj settings.subscription id.naturalKey).text).map ResourceId.naturalKey
        = .ok id.naturalKey := naturalKey_of_parse_idFor hsubscription h
    rw [address_inj.mp hsame, naturalKey_of_parse_idFor hsubscription h'] at hkey
    exact hne (Except.ok.inj hkey).symm

/-- Settings whose endpoint has slashes behind it. -/
def Settings.slashed : Settings := ⟨"https://management.example//", "sub", "token"⟩

theorem requests_address_objects_slashed :
    (ResourceId.parse (Managed.idFor Kind.service.Obj "sub" ⟨"rg", "acs"⟩).text).map
      ResourceId.naturalKey = .ok ⟨"rg", "acs"⟩
    ∧ Settings.slashed.address Kind.service.Obj ⟨"rg", "acs"⟩
      ≠ Settings.slashed.address Kind.service.Obj ⟨"rg", "web"⟩ := by
  have hsubscription : ResourceId.Segment Settings.slashed.subscription := ⟨by decide, by decide⟩
  have hacs : ResourceId.parse "subscriptions/other/resourcegroups/rg/providers/ns/kind/acs/"
      = .ok ⟨"other", "rg", "ns/kind", "acs"⟩ := by rfl
  have hweb : ResourceId.parse "/subscriptions/other/resourceGroups/rg/providers/ns/kind/web"
      = .ok ⟨"other", "rg", "ns/kind", "web"⟩ := by rfl
  obtain ⟨hone, htwo⟩ := requests_address_objects .service .slashed
    (fun _ (s : Unit) => .now (.error "nobody") s) hsubscription
  have hkey := (hone _ _ hacs).2.2
  have hne := htwo _ _ _ _ hacs hweb (by decide)
  exact ⟨hkey, hne⟩

/-! The slashes behind an endpoint make no difference. -/
example : Settings.slashed.address Object.Service ⟨"rg", "acs"⟩
    = "https://management.example/subscriptions/sub/resourceGroups/rg/providers"
      ++ "/Microsoft.ContainerService/containerServices/acs?api-version=2017-07-01" := by
  decide +kernel

/-! ### What reaches the server -/

/-- The identifier of an object is a path. -/
theorem toList_text_idFor {Obj : Type} [Managed Obj] (subscription : String) (key : NaturalKey)
    {space kind : String} (h : Managed.type Obj = space ++ "/" ++ kind) :
    (Managed.idFor Obj subscription key).text.toList
      = '/' :: Text.join '/' (["subscriptions", subscription, "resourceGroups", key.scope,
        "providers", space, kind, key.name].map String.toList) := by
  have htext : (Managed.idFor Obj subscription key).text
      = ResourceId.slashes 1 ++ "/".intercalate ["subscriptions", subscription, "resourceGroups",
        key.scope, "providers", space, kind, key.name] ++ ResourceId.slashes 0 :=
    ResourceId.append_eq_intercalate (by simp) (by simp) (by simp) h
  rw [htext, String.toList_append, String.toList_append, ResourceId.toList_intercalate_slash]
  simp [ResourceId.slashes]

/-- The type of a kind has nothing in it that means anything else in an address. -/
theorem exists_tidy_type (kind : Kind) : ∃ space name, Managed.type kind.Obj = space ++ "/" ++ name
    ∧ Web.Tidy space.toList ∧ Web.Tidy name.toList := by
  cases kind with
  | group =>
    refine ⟨"Microsoft.ContainerInstance", "containerGroups", rfl, ?_⟩
    decide +kernel
  | service =>
    refine ⟨"Microsoft.ContainerService", "containerServices", rfl, ?_⟩
    decide +kernel

/-- Neither have the words between the parts of an identifier. -/
theorem tidy_words : Web.Tidy "subscriptions".toList ∧ Web.Tidy "resourceGroups".toList
    ∧ Web.Tidy "providers".toList := by
  decide +kernel

theorem unreserved_version (kind : Kind) :
    ∀ c ∈ ("api-version=" ++ Managed.apiVersion kind.Obj).toList,
      (0x20 < c.toNat ∧ c.toNat ≤ 0x7E) ∧ c ∉ Text.queryReserved := by
  have hall : (("api-version=" ++ Managed.apiVersion kind.Obj).toList.all fun c =>
      decide ((0x20 < c.toNat ∧ c.toNat ≤ 0x7E) ∧ c ∉ Text.queryReserved)) = true := by
    cases kind <;> decide +kernel
  intro c hc
  exact of_decide_eq_true (List.all_eq_true.mp hall c hc)

/-- The server is asked for an object by its identifier, as long as neither the subscription nor the
key has a character in it that means something else in an address. -/
theorem target_address (kind : Kind) {settings : Settings} {key : NaturalKey}
    (horigin : Web.Reaches (Text.trimEnd '/' settings.endpoint.toList))
    (hsubscription : Web.Tidy settings.subscription.toList) (hscope : Web.Tidy key.scope.toList)
    (hname : Web.Tidy key.name.toList) :
    Web.target (settings.address kind.Obj key)
      = (Managed.idFor kind.Obj settings.subscription key).text
        ++ ("?api-version=" ++ Managed.apiVersion kind.Obj) := by
  obtain ⟨space, name, htype, hspace, hkind⟩ := exists_tidy_type kind
  obtain ⟨hsubscriptions, hgroups, hproviders⟩ := tidy_words
  have htext := toList_text_idFor settings.subscription key htype
  have htidy : ∀ s ∈ ["subscriptions", settings.subscription, "resourceGroups", key.scope,
      "providers", space, name, key.name].map String.toList, Web.Tidy s := by
    simp only [List.map_cons, List.map_nil, List.forall_mem_cons, List.not_mem_nil, false_imp_iff,
      implies_true, and_true]
    exact ⟨hsubscriptions, hsubscription, hgroups, hscope, hproviders, hspace, hkind, hname⟩
  have hwritten : (Managed.idFor kind.Obj settings.subscription key).text
      ++ ("?api-version=" ++ Managed.apiVersion kind.Obj)
      = String.ofList ('/' :: Text.join '/' (["subscriptions", settings.subscription,
          "resourceGroups", key.scope, "providers", space, name, key.name].map String.toList)
        ++ '?' :: ("api-version=" ++ Managed.apiVersion kind.Obj).toList) := by
    rw [← String.toList_inj, String.toList_append, String.toList_ofList, htext]
    simp
  rw [address_eq, String.append_assoc, hwritten, ← String.ofList_append]
  exact Web.target_eq horigin (by simp) htidy (unreserved_version kind)

end Provisioning.Remote
