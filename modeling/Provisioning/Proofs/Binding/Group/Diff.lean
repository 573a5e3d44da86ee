import Mathlib.Data.List.Forall2
import Provisioning.Proofs.Binding.Places
import Provisioning.Binding.Group

/-!
When two groups do not differ: `diff` is empty exactly if they agree (`Agrees`) field by field, and
in their lists item by item. Locations agree as the management plane writes them, numbers as
numbers, and a secret agrees with any where the group at hand does not know it.
-/

namespace Provisioning.Document

/-! ### Lists -/

namespace Group

variable {α : Type} {diffItem : String → α → α → List String} {Agree : α → α → Prop}

theorem diffItems_eq_nil_iff (hitem : ∀ path c d, diffItem path c d = [] ↔ Agree c d)
    {path : String} {index : Nat} {current desired : List α}
    (hlength : current.length = desired.length) :
    diffItems path diffItem index current desired = [] ↔ List.Forall₂ Agree current desired := by
  induction current generalizing desired index with
  | nil =>
    cases desired with
    | nil => simp [diffItems]
    | cons d desired => simp at hlength
  | cons c current ih =>
    cases desired with
    | nil => simp at hlength
    | cons d desired =>
      rw [diffItems, List.append_eq_nil_iff, hitem, ih (by simpa using hlength),
        List.forall₂_cons]

/-- Lists do not differ exactly if they agree item by item. -/
theorem diffList_eq_nil_iff (hitem : ∀ path c d, diffItem path c d = [] ↔ Agree c d)
    {path : String} {current desired : List α} :
    diffList path diffItem current desired = [] ↔ List.Forall₂ Agree current desired := by
  unfold diffList
  by_cases hlength : current.length = desired.length
  · rw [if_pos hlength, diffItems_eq_nil_iff hitem hlength]
  · rw [if_neg hlength]
    refine iff_of_false (List.cons_ne_nil _ _) ?_
    intro h
    exact hlength h.length_eq

end Group

/-! ### Parts of a group -/

/-- Whether a credential is as another one wants it. -/
structure Credential.Agrees (c d : Credential) : Prop where
  server : c.server = d.server
  username : c.username = d.username
  password : Diff.Known c.password d.password

/-- Whether a volume is as another one wants it. -/
structure Volume.Agrees (v w : Volume) : Prop where
  name : v.name = w.name
  mountPath : v.mountPath = w.mountPath
  readOnly : v.readOnly = w.readOnly
  share : v.share = w.share
  account : v.account = w.account
  key : Diff.Known v.key w.key

/-- Whether a container is as another one wants it. -/
structure Container.Agrees (c d : Container) : Prop where
  name : c.name = d.name
  image : c.image = d.image
  cpu : c.cpu.same d.cpu = true
  memory : c.memory.same d.memory = true
  port : c.port = d.port
  protocol : c.protocol = d.protocol
  environment : c.environment = d.environment
  command : c.command = d.command
  volumes : List.Forall₂ Volume.Agrees c.volumes d.volumes

/-- Whether a group is as another one wants it. -/
structure Group.Agrees (c d : Group) : Prop where
  name : c.name = d.name
  location : normalizeLocation c.location = normalizeLocation d.location
  resourceGroup : c.resourceGroup = d.resourceGroup
  addressType : c.addressType = d.addressType
  osType : c.osType = d.osType
  restartPolicy : c.restartPolicy = d.restartPolicy
  label : c.label = d.label
  tags : c.tags = d.tags
  credentials : List.Forall₂ Credential.Agrees c.credentials d.credentials
  containers : List.Forall₂ Container.Agrees c.containers d.containers

namespace Group

theorem diffCredential_eq_nil_iff (path : String) (c d : Credential) :
    diffCredential path c d = [] ↔ c.Agrees d := by
  simp only [diffCredential, List.append_eq_nil_iff, Diff.changed_eq_nil_iff,
    Diff.changedIfKnown_eq_nil_iff]
  constructor
  · rintro ⟨⟨hserver, husername⟩, hpassword⟩
    exact ⟨hserver, husername, hpassword⟩
  · rintro ⟨hserver, husername, hpassword⟩
    exact ⟨⟨hserver, husername⟩, hpassword⟩

theorem diffVolume_eq_nil_iff (path : String) (v w : Volume) :
    diffVolume path v w = [] ↔ v.Agrees w := by
  simp only [diffVolume, List.append_eq_nil_iff, Diff.changed_eq_nil_iff,
    Diff.changedIfKnown_eq_nil_iff]
  constructor
  · rintro ⟨⟨⟨⟨⟨hname, hpath⟩, hreadOnly⟩, hshare⟩, haccount⟩, hkey⟩
    exact ⟨hname, hpath, hreadOnly, hshare, haccount, hkey⟩
  · rintro ⟨hname, hpath, hreadOnly, hshare, haccount, hkey⟩
    exact ⟨⟨⟨⟨⟨hname, hpath⟩, hreadOnly⟩, hshare⟩, haccount⟩, hkey⟩

theorem diffContainer_eq_nil_iff (path : String) (c d : Container) :
    diffContainer path c d = [] ↔ c.Agrees d := by
  simp only [diffContainer, List.append_eq_nil_iff, Diff.changed_eq_nil_iff,
    Diff.pathUnless_eq_nil_iff, diffList_eq_nil_iff diffVolume_eq_nil_iff]
  constructor
  · rintro ⟨⟨⟨⟨⟨⟨⟨⟨hname, himage⟩, hcpu⟩, hmemory⟩, hport⟩, hprotocol⟩, henvironment⟩, hcommand⟩,
      hvolumes⟩
    exact ⟨hname, himage, hcpu, hmemory, hport, hprotocol, henvironment, hcommand, hvolumes⟩
  · rintro ⟨hname, himage, hcpu, hmemory, hport, hprotocol, henvironment, hcommand, hvolumes⟩
    exact ⟨⟨⟨⟨⟨⟨⟨⟨hname, himage⟩, hcpu⟩, hmemory⟩, hport⟩, hprotocol⟩, henvironment⟩, hcommand⟩,
      hvolumes⟩

/-- There is only one way to reach a group. -/
theorem addressType_eq (a b : AddressType) : a = b := by
  cases a
  cases b
  rfl

/-- Two groups do not differ exactly if they agree. -/
theorem isEmpty_diff_iff {c d : Group} : (diff c d).isEmpty = true ↔ c.Agrees d := by
  rw [Diff.isEmpty_iff]
  simp only [diff, List.append_eq_nil_iff, Diff.changed_eq_nil_iff,
    diffList_eq_nil_iff diffCredential_eq_nil_iff, diffList_eq_nil_iff diffContainer_eq_nil_iff,
    and_true]
  constructor
  · rintro ⟨⟨⟨⟨⟨⟨⟨⟨hname, hlocation⟩, hgroup⟩, hos⟩, hrestart⟩, hlabel⟩, htags⟩, hcredentials⟩,
      hcontainers⟩
    exact ⟨hname, hlocation, hgroup, addressType_eq _ _, hos, hrestart, hlabel, htags,
      hcredentials, hcontainers⟩
  · rintro ⟨hname, hlocation, hgroup, -, hos, hrestart, hlabel, htags, hcredentials,
      hcontainers⟩
    exact ⟨⟨⟨⟨⟨⟨⟨⟨hname, hlocation⟩, hgroup⟩, hos⟩, hrestart⟩, hlabel⟩, htags⟩, hcredentials⟩,
      hcontainers⟩

end Group

end Provisioning.Document
