import Provisioning.Proofs.Binding.Group.Canonical
import Provisioning.Proofs.Binding.Places

/-!
The places at which groups differ (`Group.DiffersAt`), one rule for each: a field, a secret that is
known, the length of a list, or a place of two items at one position of lists of one length. `diff`
lists exactly these (`lists_diff`), as long as the numbers of the groups are numbers.
-/

namespace Provisioning.Document

/-! ### Places -/

/-- Where two lists of a field differ: at the field itself if one is longer, and else where items at
one position do. -/
inductive ListDiffersAt {α : Type} (differ : α → α → String → Prop) (field : String)
    (current desired : List α) : String → Prop where
  | length (h : current.length ≠ desired.length) :
      ListDiffersAt differ field current desired field
  | item {i : Nat} {c d : α} {place : String} (hlength : current.length = desired.length)
      (hc : current[i]? = some c) (hd : desired[i]? = some d) (h : differ c d place) :
      ListDiffersAt differ field current desired (field ++ "." ++ toString i ++ "." ++ place)

/-- Where a credential is not as another one wants it. -/
inductive Credential.DiffersAt (c d : Credential) : String → Prop where
  | server (h : c.server ≠ d.server) : DiffersAt c d "server"
  | username (h : c.username ≠ d.username) : DiffersAt c d "username"
  | password (known : c.password ≠ none) (h : c.password ≠ d.password) : DiffersAt c d "password"

/-- Where a volume is not as another one wants it. -/
inductive Volume.DiffersAt (v w : Volume) : String → Prop where
  | name (h : v.name ≠ w.name) : DiffersAt v w "name"
  | mountPath (h : v.mountPath ≠ w.mountPath) : DiffersAt v w "mount_path"
  | readOnly (h : v.readOnly ≠ w.readOnly) : DiffersAt v w "read_only"
  | share (h : v.share ≠ w.share) : DiffersAt v w "share_name"
  | account (h : v.account ≠ w.account) : DiffersAt v w "storage_account_name"
  | key (known : v.key ≠ none) (h : v.key ≠ w.key) : DiffersAt v w "storage_account_key"

/-- Where a container is not as another one wants it. -/
inductive Container.DiffersAt (c d : Container) : String → Prop where
  | name (h : c.name ≠ d.name) : DiffersAt c d "name"
  | image (h : c.image ≠ d.image) : DiffersAt c d "image"
  | cpu (h : c.cpu.Differs d.cpu) : DiffersAt c d "cpu"
  | memory (h : c.memory.Differs d.memory) : DiffersAt c d "memory"
  | port (h : c.port ≠ d.port) : DiffersAt c d "port"
  | protocol (h : c.protocol ≠ d.protocol) : DiffersAt c d "protocol"
  | environment (h : c.environment ≠ d.environment) : DiffersAt c d "environment_variables"
  | command (h : c.command ≠ d.command) : DiffersAt c d "command"
  | volumes {place : String}
      (h : ListDiffersAt Volume.DiffersAt "volume" c.volumes d.volumes place) :
      DiffersAt c d place

/-- Where a group is not as another one wants it. -/
inductive Group.DiffersAt (c d : Group) : String → Prop where
  | name (h : c.name ≠ d.name) : DiffersAt c d "name"
  | location (h : normalizeLocation c.location ≠ normalizeLocation d.location) :
      DiffersAt c d "location"
  | resourceGroup (h : c.resourceGroup ≠ d.resourceGroup) : DiffersAt c d "resource_group_name"
  | addressType (h : c.addressType ≠ d.addressType) : DiffersAt c d "ip_address_type"
  | osType (h : c.osType ≠ d.osType) : DiffersAt c d "os_type"
  | restartPolicy (h : c.restartPolicy ≠ d.restartPolicy) : DiffersAt c d "restart_policy"
  | label (h : c.label ≠ d.label) : DiffersAt c d "dns_name_label"
  | tags (h : c.tags ≠ d.tags) : DiffersAt c d "tags"
  | credentials {place : String}
      (h : ListDiffersAt Credential.DiffersAt "image_registry_credential" c.credentials
        d.credentials place) :
      DiffersAt c d place
  | containers {place : String}
      (h : ListDiffersAt Container.DiffersAt "container" c.containers d.containers place) :
      DiffersAt c d place

namespace Group

/-! ### Differences of lists -/

section Items

variable {α : Type} {diffItem : String → α → α → List String} {differ : α → α → String → Prop}
  {start path field : String} {index : Nat} {current desired : List α}

theorem within_of_listDiffersAt {place : String}
    (h : ListDiffersAt differ field current desired place) : Within field place := by
  cases h with
  | length _ => exact Within.self field
  | @item i _ _ place _ _ _ _ =>
    refine Or.inr ⟨toString i ++ "." ++ place, ?_⟩
    simp only [String.append_assoc]

/-- The differences of items are listed by position, from the first one on. -/
theorem lists_diffItems (hitem : ∀ c ∈ current, ∀ d ∈ desired, ∀ path,
      Diff.Lists (path ++ ".") (diffItem path c d) (differ c d)) :
    Diff.Lists (path ++ ".") (diffItems path diffItem index current desired) fun p =>
      ∃ i c d place, current[i]? = some c ∧ desired[i]? = some d ∧ differ c d place
        ∧ p = toString (index + i) ++ "." ++ place := by
  induction current generalizing desired index with
  | nil => exact ⟨List.nodup_nil, fun p => by simp [diffItems]⟩
  | cons c current ih =>
    cases desired with
    | nil => exact ⟨List.nodup_nil, fun p => by simp [diffItems]⟩
    | cons d desired =>
      have hfirst : Diff.Lists (path ++ "." ++ (toString index ++ "."))
          (diffItem (path ++ "." ++ toString index) c d) (differ c d) := by
        rw [← String.append_assoc]
        exact hitem c List.mem_cons_self d List.mem_cons_self _
      have hrest := @ih (index + 1) desired fun c hc d hd =>
        hitem c (List.mem_cons_of_mem _ hc) d (List.mem_cons_of_mem _ hd)
      refine (hfirst.under.append hrest ?_).congr fun p => ?_
      · rintro p ⟨q, -, rfl⟩ ⟨i, _, _, place, -, -, -, hp⟩
        have hposition := (position_inj hp).1
        omega
      · constructor
        · rintro (⟨q, hq, rfl⟩ | ⟨i, a, b, place, ha, hb, hplace, rfl⟩)
          · exact ⟨0, c, d, q, rfl, rfl, hq, rfl⟩
          · exact ⟨i + 1, a, b, place, ha, hb, hplace, by rw [Nat.add_right_comm, Nat.add_assoc]⟩
        · rintro ⟨i, a, b, place, ha, hb, hplace, rfl⟩
          cases i with
          | zero =>
            cases ha
            cases hb
            exact Or.inl ⟨place, hplace, rfl⟩
          | succ i =>
            exact Or.inr ⟨i, a, b, place, ha, hb, hplace,
              by rw [Nat.add_right_comm, Nat.add_assoc]⟩

variable (start field) in
/-- The differences of lists are their lengths, or those of their items. -/
theorem lists_diffList (hitem : ∀ c ∈ current, ∀ d ∈ desired, ∀ path,
      Diff.Lists (path ++ ".") (diffItem path c d) (differ c d)) :
    Diff.Lists start (diffList (start ++ field) diffItem current desired)
      (ListDiffersAt differ field current desired) := by
  unfold diffList
  by_cases hlength : current.length = desired.length
  · rw [if_pos hlength]
    have hitems := @lists_diffItems α diffItem differ (start ++ field) 0 current desired hitem
    rw [String.append_assoc] at hitems
    refine hitems.under.congr fun p => ?_
    constructor
    · rintro ⟨_, ⟨i, c, d, place, hc, hd, hplace, rfl⟩, rfl⟩
      have h : ListDiffersAt differ field current desired _ := .item hlength hc hd hplace
      simpa only [Nat.zero_add, String.append_assoc] using h
    · intro h
      cases h with
      | length hne => exact absurd hlength hne
      | @item i c d place _ hc hd hplace =>
        exact ⟨_, ⟨i, c, d, place, hc, hd, hplace, rfl⟩,
          by simp only [Nat.zero_add, String.append_assoc]⟩
  · rw [if_neg hlength]
    refine Diff.lists_singleton.congr fun p => ?_
    constructor
    · rintro rfl
      exact .length hlength
    · intro h
      cases h with
      | length _ => rfl
      | item heq _ _ _ => exact absurd heq hlength

end Items

/-! ### Differences of records -/

/-- The fields of a credential, each with whether it is as another one wants it. -/
def credentialFields (c d : Credential) : List (String × Bool) := [
  ("server", c.server = d.server),
  ("username", c.username = d.username),
  ("password", c.password.isNone || c.password = d.password)]

theorem lists_diffCredential (path : String) (c d : Credential) :
    Diff.Lists (path ++ ".") (diffCredential path c d) (c.DiffersAt d) := by
  have hpaths : diffCredential path c d
      = Diff.disagreeing (path ++ ".") (credentialFields c d) := by
    simp [diffCredential, Diff.disagreeing, credentialFields, Diff.changed, Diff.changedIfKnown,
      String.append_assoc]
  rw [hpaths]
  refine (Diff.lists_fields (by simp [credentialFields])).congr fun p => ?_
  have hfields : (p, false) ∈ credentialFields c d ↔ (p = "server" ∧ c.server ≠ d.server)
      ∨ (p = "username" ∧ c.username ≠ d.username)
      ∨ (p = "password" ∧ c.password ≠ none ∧ c.password ≠ d.password) := by
    simp [credentialFields, Option.isSome_iff_ne_none]
  rw [hfields]
  constructor
  · rintro (⟨rfl, h⟩ | ⟨rfl, h⟩ | ⟨rfl, known, h⟩)
    · exact .server h
    · exact .username h
    · exact .password known h
  · rintro (h | h | ⟨known, h⟩) <;> simp [*]

/-- The fields of a volume, each with whether it is as another one wants it. -/
def volumeFields (v w : Volume) : List (String × Bool) := [
  ("name", v.name = w.name),
  ("mount_path", v.mountPath = w.mountPath),
  ("read_only", v.readOnly = w.readOnly),
  ("share_name", v.share = w.share),
  ("storage_account_name", v.account = w.account),
  ("storage_account_key", v.key.isNone || v.key = w.key)]

theorem lists_diffVolume (path : String) (v w : Volume) :
    Diff.Lists (path ++ ".") (diffVolume path v w) (v.DiffersAt w) := by
  have hpaths : diffVolume path v w = Diff.disagreeing (path ++ ".") (volumeFields v w) := by
    simp [diffVolume, Diff.disagreeing, volumeFields, Diff.changed, Diff.changedIfKnown,
      String.append_assoc]
  rw [hpaths]
  refine (Diff.lists_fields (by simp [volumeFields])).congr fun p => ?_
  have hfields : (p, false) ∈ volumeFields v w ↔ (p = "name" ∧ v.name ≠ w.name)
      ∨ (p = "mount_path" ∧ v.mountPath ≠ w.mountPath)
      ∨ (p = "read_only" ∧ v.readOnly ≠ w.readOnly)
      ∨ (p = "share_name" ∧ v.share ≠ w.share)
      ∨ (p = "storage_account_name" ∧ v.account ≠ w.account)
      ∨ (p = "storage_account_key" ∧ v.key ≠ none ∧ v.key ≠ w.key) := by
    simp [volumeFields, Option.isSome_iff_ne_none]
  rw [hfields]
  constructor
  · rintro (⟨rfl, h⟩ | ⟨rfl, h⟩ | ⟨rfl, h⟩ | ⟨rfl, h⟩ | ⟨rfl, h⟩ | ⟨rfl, known, h⟩)
    · exact .name h
    · exact .mountPath h
    · exact .readOnly h
    · exact .share h
    · exact .account h
    · exact .key known h
  · rintro (h | h | h | h | h | ⟨known, h⟩) <;> simp [*]

/-- The fields of a container but its volumes, each with whether it is as another one wants it. -/
def containerFields (c d : Container) : List (String × Bool) := [
  ("name", c.name = d.name),
  ("image", c.image = d.image),
  ("cpu", c.cpu.same d.cpu),
  ("memory", c.memory.same d.memory),
  ("port", c.port = d.port),
  ("protocol", c.protocol = d.protocol),
  ("environment_variables", c.environment = d.environment),
  ("command", c.command = d.command)]

theorem lists_diffContainer {c d : Container} (hc : c.cpu.isNaN = false ∧ c.memory.isNaN = false)
    (hd : d.cpu.isNaN = false ∧ d.memory.isNaN = false) (path : String) :
    Diff.Lists (path ++ ".") (diffContainer path c d) (c.DiffersAt d) := by
  have hpaths : diffContainer path c d = Diff.disagreeing (path ++ ".") (containerFields c d)
      ++ diffList (path ++ "." ++ "volume") diffVolume c.volumes d.volumes := by
    simp [diffContainer, Diff.disagreeing, containerFields, Diff.changed, String.append_assoc]
  rw [hpaths]
  have hvolumes := lists_diffList (path ++ ".") "volume"
    fun v (_ : v ∈ c.volumes) w (_ : w ∈ d.volumes) path => lists_diffVolume path v w
  refine ((Diff.lists_fields (by simp [containerFields])).append hvolumes ?_).congr fun p => ?_
  · intro p hp hplace
    refine Diff.not_within_of_mem ?_ ?_ hp (within_of_listDiffersAt hplace)
    · simp [containerFields, Undotted]
    · decide
  have hfields : (p, false) ∈ containerFields c d ↔ (p = "name" ∧ c.name ≠ d.name)
      ∨ (p = "image" ∧ c.image ≠ d.image)
      ∨ (p = "cpu" ∧ c.cpu.Differs d.cpu)
      ∨ (p = "memory" ∧ c.memory.Differs d.memory)
      ∨ (p = "port" ∧ c.port ≠ d.port)
      ∨ (p = "protocol" ∧ c.protocol ≠ d.protocol)
      ∨ (p = "environment_variables" ∧ c.environment ≠ d.environment)
      ∨ (p = "command" ∧ c.command ≠ d.command) := by
    simp [containerFields, ← Binary64.same_eq_false_iff hc.1 hd.1,
      ← Binary64.same_eq_false_iff hc.2 hd.2]
  rw [hfields]
  constructor
  · rintro ((⟨rfl, h⟩ | ⟨rfl, h⟩ | ⟨rfl, h⟩ | ⟨rfl, h⟩ | ⟨rfl, h⟩ | ⟨rfl, h⟩ | ⟨rfl, h⟩ | ⟨rfl, h⟩)
      | h)
    · exact .name h
    · exact .image h
    · exact .cpu h
    · exact .memory h
    · exact .port h
    · exact .protocol h
    · exact .environment h
    · exact .command h
    · exact .volumes h
  · rintro (h | h | h | h | h | h | h | h | h) <;> simp [*]

/-- The fields of a group but its lists, each with whether it is as another one wants it. -/
def groupFields (c d : Group) : List (String × Bool) := [
  ("name", c.name = d.name),
  ("location", normalizeLocation c.location = normalizeLocation d.location),
  ("resource_group_name", c.resourceGroup = d.resourceGroup),
  ("ip_address_type", c.addressType = d.addressType),
  ("os_type", c.osType = d.osType),
  ("restart_policy", c.restartPolicy = d.restartPolicy),
  ("dns_name_label", c.label = d.label),
  ("tags", c.tags = d.tags)]

/-- A group is replaced for exactly the places at which it differs, if its numbers and those of the
wanted group are numbers. -/
theorem lists_diff {c d : Group} (hc : c.Numbered) (hd : d.Numbered) :
    Diff.Lists "" (diff c d).replace (c.DiffersAt d) := by
  have hpaths : (diff c d).replace = Diff.disagreeing "" (groupFields c d)
      ++ diffList ("" ++ "image_registry_credential") diffCredential c.credentials d.credentials
      ++ diffList ("" ++ "container") diffContainer c.containers d.containers := by
    simp [diff, Diff.disagreeing, groupFields, Diff.changed]
  rw [hpaths]
  have hcredentials := lists_diffList "" "image_registry_credential"
    fun a (_ : a ∈ c.credentials) b (_ : b ∈ d.credentials) path => lists_diffCredential path a b
  have hcontainers := lists_diffList "" "container"
    fun a (ha : a ∈ c.containers) b (hb : b ∈ d.containers) path =>
      lists_diffContainer (hc a ha) (hd b hb) path
  refine (((Diff.lists_fields (by simp [groupFields])).append hcredentials ?_).append hcontainers
    ?_).congr fun p => ?_
  · intro p hp hplace
    refine Diff.not_within_of_mem ?_ ?_ hp (within_of_listDiffersAt hplace)
    · simp [groupFields, Undotted]
    · decide
  · rintro p (hp | hcredential) hplace
    · refine Diff.not_within_of_mem ?_ ?_ hp (within_of_listDiffersAt hplace)
      · simp [groupFields, Undotted]
      · decide
    · exact absurd (Within.unique (by decide) (by decide) (within_of_listDiffersAt hcredential)
        (within_of_listDiffersAt hplace)) (by decide)
  have hfields : (p, false) ∈ groupFields c d ↔ (p = "name" ∧ c.name ≠ d.name)
      ∨ (p = "location" ∧ normalizeLocation c.location ≠ normalizeLocation d.location)
      ∨ (p = "resource_group_name" ∧ c.resourceGroup ≠ d.resourceGroup)
      ∨ (p = "ip_address_type" ∧ c.addressType ≠ d.addressType)
      ∨ (p = "os_type" ∧ c.osType ≠ d.osType)
      ∨ (p = "restart_policy" ∧ c.restartPolicy ≠ d.restartPolicy)
      ∨ (p = "dns_name_label" ∧ c.label ≠ d.label)
      ∨ (p = "tags" ∧ c.tags ≠ d.tags) := by
    simp [groupFields]
  rw [hfields]
  constructor
  · rintro (((⟨rfl, h⟩ | ⟨rfl, h⟩ | ⟨rfl, h⟩ | ⟨rfl, h⟩ | ⟨rfl, h⟩ | ⟨rfl, h⟩ | ⟨rfl, h⟩
      | ⟨rfl, h⟩) | h) | h)
    · exact .name h
    · exact .location h
    · exact .resourceGroup h
    · exact .addressType h
    · exact .osType h
    · exact .restartPolicy h
    · exact .label h
    · exact .tags h
    · exact .credentials h
    · exact .containers h
  · intro h
    cases h with
    | addressType h => exact absurd (addressType_eq _ _) h
    | _ => simp [*]

end Group

end Provisioning.Document
