import Provisioning.Document.Group
import Provisioning.Report

/-!
What is wrong with a group document, as far as that can be told without asking the management
plane. Besides the fields one by one, containers have to get along: their names differ, no two
expose one port, and volumes of one name are one share, because the group holds ports and volumes
for all its containers together.
-/

namespace Provisioning.Document

/-! ### Volumes and credentials -/

/-- The report on a volume. -/
def Volume.report (v : Volume) : Report :=
  .nonBlank "name" v.name
    ++ .nonBlank "mount_path" v.mountPath
    ++ .nonBlank "share_name" v.share
    ++ .nonBlank "storage_account_name" v.account
    ++ .nonBlank "storage_account_key" (v.key.getD "")

/-- Whether two volumes are backed by one share, reached with one key. -/
def Volume.sameShare (v w : Volume) : Bool :=
  v.share == w.share && v.account == w.account && v.key == w.key

/-- The report on a credential. -/
def Credential.report (c : Credential) : Report :=
  .nonBlank "server" c.server
    ++ .nonBlank "username" c.username
    ++ .nonBlank "password" (c.password.getD "")

/-! ### Containers -/

/-- The report on the volumes of a container from the one numbered `index` on, the names of those
before it being `earlier`. -/
def volumesReport (earlier : List String) : (index : Nat) → List Volume → Report
  | _, [] => .empty
  | index, v :: volumes =>
    .nest ("volume." ++ toString index) v.report
      ++ .check (!earlier.contains v.name) ("volume." ++ toString index ++ ".name")
        ("volume name '" ++ v.name ++ "' is used more than once")
      ++ volumesReport (v.name :: earlier) (index + 1) volumes

/-- Whether a port number can be that of a container. -/
def portInRange (port : UInt32) : Bool := 1 ≤ port.toNat && port.toNat ≤ 65535

/-- The report on the port of a container. -/
def portReport : Option UInt32 → Report
  | some port => .check (portInRange port) "port" (toString port ++ " is not between 1 and 65535")
  | none => .empty

/-- The report on a text that may be left out but not be blank. -/
def nonBlankIfGiven (field : String) : Option String → Report
  | some text => .nonBlank field text
  | none => .empty

/-- The report on a container by itself. -/
def Container.report (c : Container) : Report :=
  .nonBlank "name" c.name
    ++ .nonBlank "image" c.image
    ++ .check c.cpu.positive "cpu" "must be greater than zero"
    ++ .check c.memory.positive "memory" "must be greater than zero"
    ++ portReport c.port
    ++ .check (c.protocol.isNone || c.port.isSome) "protocol" "may only be set together with port"
    ++ nonBlankIfGiven "command" c.command
    ++ .concat (c.environment.keys.map fun name =>
        .check (!Text.isBlank name) "environment_variables" "variable names must not be empty")
    ++ volumesReport [] 0 c.volumes

/-! ### Groups -/

/-- A volume name with the container that defined it and how. -/
abbrev Shares := List (String × String × Volume)

/-- The report on how the volumes of a container, from the one numbered `index` on, fit those of
the containers before it, and the shares known afterwards. A container may redefine its own. -/
def sharesReport (path owner : String) (shares : Shares) :
    (index : Nat) → List Volume → Report × Shares
  | _, [] => (.empty, shares)
  | index, v :: volumes =>
    match shares.lookup v.name with
    | some (other, w) =>
      if other = owner then
        sharesReport path owner ((v.name, owner, v) :: shares) (index + 1) volumes
      else
        let (report, after) := sharesReport path owner shares (index + 1) volumes
        (.check (v.sameShare w) (path ++ ".volume." ++ toString index ++ ".name")
          ("volume '" ++ v.name ++ "' is defined differently by container '" ++ other ++ "'")
          ++ report, after)
    | none => sharesReport path owner ((v.name, owner, v) :: shares) (index + 1) volumes

/-- The report on the port of a container, given the containers before it, the nearest first. -/
def portClashReport (path : String) (earlier : List Container) : Option UInt32 → Report
  | some port =>
    match earlier.find? (fun c => c.port == some port) with
    | some other => .problem (path ++ ".port")
        ("port " ++ toString port ++ " is already exposed by container '" ++ other.name ++ "'")
    | none => .empty
  | none => .empty

/-- The report on the containers from the one numbered `index` on, given those before it, the
nearest first, and the shares that they define. -/
def containersReport (earlier : List Container) (shares : Shares) :
    (index : Nat) → List Container → Report
  | _, [] => .empty
  | index, c :: containers =>
    let path := "container." ++ toString index
    let (clashes, after) := sharesReport path c.name shares 0 c.volumes
    .nest path c.report
      ++ .check (!earlier.any fun o => o.name == c.name) (path ++ ".name")
        ("container name '" ++ c.name ++ "' is used more than once")
      ++ portClashReport path earlier c.port
      ++ clashes
      ++ containersReport (c :: earlier) after (index + 1) containers

/-- The report on the credentials from the one numbered `index` on. -/
def credentialsReport : (index : Nat) → List Credential → Report
  | _, [] => .empty
  | index, c :: credentials =>
    .nest ("image_registry_credential." ++ toString index) c.report
      ++ credentialsReport (index + 1) credentials

/-- The report on a group. -/
def Group.report (g : Group) : Report :=
  .nonBlank "name" g.name
    ++ .nonBlank "location" g.location
    ++ .nonBlank "resource_group_name" g.resourceGroup
    ++ nonBlankIfGiven "dns_name_label" g.label
    ++ credentialsReport 0 g.credentials
    ++ .check (!g.containers.isEmpty) "container" "at least one container is required"
    ++ containersReport [] [] 0 g.containers

end Provisioning.Document
