import Provisioning.Proofs.Command.LifeCycle

/-!
The first record of a document, and what a read makes of it. The plane computes host names from the
location as the document spells it, but the document that is recorded has it in the plane's own
spelling, and so has the plane that is rebuilt from the record. So the read that follows keeps the
record whole if and only if the two spellings are the same or no host name is computed
(`reread_keeps_record_iff`).
-/

namespace Provisioning

open Command Lifecycle

/-! ### Documents that are held as they are -/

namespace Kind

/-- Whether the plane gives the object of a document a host name. A group has one if it has a
label. -/
def HostNamed : (kind : Kind) → kind.Doc → Prop
  | group => fun d => d.label ≠ none
  | service => fun _ => True

theorem groupHost_inj {location other label : String} :
    Object.groupHost location label = Object.groupHost other label ↔ location = other := by
  simp only [Object.groupHost, String.append_left_inj, String.append_right_inj]

theorem mastersHost_inj {location other dnsPrefix : String} :
    Object.mastersHost location dnsPrefix = Object.mastersHost other dnsPrefix
      ↔ location = other := by
  simp only [Object.mastersHost, String.append_left_inj, String.append_right_inj]

/-- The document as the plane holds it is held as it is, exactly if its host names do not tell how
the location was spelled before. -/
theorem held_held_iff {kind : Kind} {d : kind.Doc} :
    kind.held (kind.held d) = kind.held d
      ↔ (kind.HostNamed d → normalizeLocation (kind.location d) = kind.location d) := by
  cases kind with
  | group =>
    change Document.Group.held (Document.Group.held d) = Document.Group.held d
      ↔ (d.label ≠ none → normalizeLocation d.location = d.location)
    constructor
    · intro h hlabel
      obtain ⟨label, hlabel⟩ := Option.ne_none_iff_exists'.mp hlabel
      have hfqdn := congrArg Document.Group.fqdn h
      simp only [Document.Group.held, hlabel, Option.map_some, Option.some.injEq,
        groupHost_inj] at hfqdn
      exact hfqdn
    · intro h
      cases hlabel : d.label with
      | none => simp [Document.Group.held, hlabel, normalizeLocation_normalizeLocation]
      | some label =>
        have hlocation := h (by simp [hlabel])
        simp [Document.Group.held, hlabel, hlocation]
  | service =>
    change Document.Service.held (Document.Service.held d) = Document.Service.held d
      ↔ (True → normalizeLocation d.location = d.location)
    constructor
    · intro h _
      have hfqdn := congrArg (fun d => d.masters.fqdn) h
      simp only [Document.Service.held, Option.some.injEq, mastersHost_inj] at hfqdn
      exact hfqdn
    · intro h
      simp only [Document.Service.held, h trivial]

end Kind

/-! ### The first record -/

namespace Lifecycle

/-- An `apply` on a plane without objects creates the object of the document, and reads it back by
its own key. -/
theorem Brought.created_first {Doc Obj : Type} [Managed Obj]
    {l : Lifecycle (Store Obj) Doc Obj} {desired : Doc} {prior : Option Doc}
    {w after : World (Store Obj) Obj} {applied : Applied Doc}
    (h : Brought l none desired prior w applied after)
    (hempty : ∀ key, w.plane.objects key = none) :
    keyOf Obj applied.id = .ok (l.binding.key desired)
      ∧ ∃ v middle object, Created l desired applied.id v middle
        ∧ Looked (l.binding.key desired) middle after
        ∧ after.plane.objects (l.binding.key desired) = some object
        ∧ l.binding.flatten (l.binding.key desired) object (some desired)
          = .ok applied.configuration := by
  obtain ⟨w₁, middle, hplanned, hcarried, key, object, hkey, hlooked, hpresent, hflatten⟩ := h.steps
  generalize applied.plan = plan at hplanned hcarried
  cases hplanned with
  | fresh =>
    cases hcarried with
    | create _ hcreated =>
      have hsame : key = l.binding.key desired := by
        by_contra hother
        obtain ⟨_, -, hwritten⟩ := hcreated.written
        obtain ⟨before, hbefore, -⟩ := hlooked.present_of_after hpresent
        rw [hwritten.others key hother] at hbefore
        cases (hempty key).symm.trans hbefore
      subst hsame
      exact ⟨hkey, _, middle, object, hcreated, hlooked, hpresent, hflatten⟩

/-- What is read back after a creation is the document as the plane holds it. -/
theorem Created.configuration_eq {kind : Kind} {timeouts : Timeouts} {patience : Nat}
    {desired configuration : kind.Doc} {id : String} {object : kind.Obj}
    {w middle after : World (Store kind.Obj) kind.Obj}
    (h : Created (kind.lifecycle timeouts patience) desired id w middle)
    (hlooked : Looked (kind.binding.key desired) middle after)
    (hpresent : after.plane.objects (kind.binding.key desired) = some object)
    (hflatten : kind.binding.flatten (kind.binding.key desired) object (some desired)
      = .ok configuration) : configuration = kind.held desired := by
  obtain ⟨written, hexpand, hwritten⟩ := h.written
  obtain ⟨s, hfiled⟩ := (hwritten.looked hlooked).filed
  obtain ⟨expanded, hexpanded, hheld⟩ := Kind.flatten_filedAs_self h.valid rfl
    (Store.idFor kind.Obj (kind.binding.key desired))
  obtain rfl : written = expanded := Except.ok.inj (hexpand.symm.trans hexpanded)
  obtain rfl : object = _ := Option.some.inj (hpresent.symm.trans hfiled)
  exact Except.ok.inj (hflatten.symm.trans (kind.faithful.flatten_withState s hheld))

end Lifecycle

namespace Command

section Records

variable {σ : Type} {kind : Kind} {path : String} {desired : kind.Doc} {first read : Process σ}

/-- An `apply` that succeeds without a file before it records the document as the plane holds it. -/
theorem Process.Applies.records (h : first.Applies kind path desired) (hexact : kind.Exact desired)
    (hnew : (first.finds path).isPresent = false) (hcode : first.outcome.code = 0) :
    (kind.binding.report desired).isValid = true
      ∧ ∃ r, Stands kind desired r ∧ r.configuration = kind.held desired
        ∧ first.leaves path = .file r.text := by
  obtain ⟨access, file, rfl, hasks, hdocument⟩ := h
  obtain ⟨effects, ⟨record, store, messages, after, hrecord, hrebuilt, hwork⟩, hdoes⟩ :=
    hasks.exists_does hcode
  have hnone : readRecord access.state (first.finds access.state)
      = .ok (none : Option (Record kind.Doc)) := by
    unfold readRecord
    rw [hnew]
    rfl
  obtain rfl : none = record := Except.ok.inj (hnone.symm.trans hrecord)
  cases hrebuilt
  rw [work_apply hdocument hrecord] at hwork
  obtain ⟨done, hdone, rfl⟩ := applied_eq_ok_iff.mp hwork
  have hbrought := (apply_ends rfl _ _ _ _).of_ok hdone
  obtain ⟨hkey, _, _, _, hcreated, hlooked, hpresent, hflatten⟩ :=
    hbrought.created_first fun _ => rfl
  have hheld : done.configuration = kind.held desired :=
    hcreated.configuration_eq hlooked hpresent hflatten
  have hcanonical : kind.canonical done.configuration = kind.canonical desired := by
    rw [hheld, Kind.canonical_held]
  exact ⟨hbrought.valid, ⟨done.id, done.configuration⟩,
    ⟨hkey, hcanonical, Kind.location_of_flatten hflatten, hexact.congr hcanonical⟩, hheld,
    hdoes.leaves.trans (after_perform_save rfl hdoes.possible)⟩

/-- Whether there is a record at a path before and after, and it is the same one, with all that the
management plane computes. -/
def KeepsWhole (kind : Kind) (path : String) (before after : Content) : Prop :=
  ∃ r : Record kind.Doc, readRecord path before = .ok (some r)
    ∧ readRecord path after = .ok (some r)

/-- A read keeps a record that stands for a document, and keeps it whole if and only if its own
document is held as it is. -/
theorem Process.Reads.keeps {r : Record kind.Doc} (h : read.Reads kind path)
    (hvalid : (kind.binding.report desired).isValid = true) (hr : Stands kind desired r)
    (hfinds : read.finds path = .file r.text) :
    read.outcome.code = 0 ∧ Keeps kind path (.file r.text) (read.leaves path)
      ∧ (KeepsWhole kind path (.file r.text) (read.leaves path)
        ↔ kind.held r.configuration = r.configuration) := by
  have hdoes := h.does hvalid hr hfinds
  have hleaves : read.leaves path = .file r.reread.text := by
    rw [hdoes.leaves, hfinds]
    rfl
  have hbefore : readRecord path (.file r.text) = .ok (some r) := readRecord_text hr.exact
  have hafter : readRecord path (.file r.reread.text) = .ok (some r.reread) :=
    readRecord_text hr.reread.exact
  rw [hleaves]
  refine ⟨hdoes.code, ⟨r, r.reread, hbefore, hafter, rfl, Kind.uncomputed_held hr.location⟩, ?_⟩
  constructor
  · rintro ⟨same, hsame, hstill⟩
    obtain rfl : same = r := Option.some.inj (Except.ok.inj (hsame.symm.trans hbefore))
    have hreread : same = same.reread := Option.some.inj (Except.ok.inj (hstill.symm.trans hafter))
    exact (congrArg Record.configuration hreread).symm
  · intro hheld
    have hreread : r.reread = r := by rw [Record.reread, hheld]
    rw [hreread] at hafter ⊢
    exact ⟨r, hbefore, hafter⟩

/-- After the first `apply` of a document a read succeeds and keeps the record, its identifier and
its document, up to what the plane computes. What the plane computes is kept, too, if and only if
the plane computes no host name or the document spells its location the way the plane does. -/
theorem reread_keeps_record_iff (hfirst : first.Applies kind path desired)
    (hexact : kind.Exact desired) (hnew : (first.finds path).isPresent = false)
    (hcode : first.outcome.code = 0) (hread : read.Reads kind path)
    (hfinds : read.finds path = first.leaves path) :
    read.outcome.code = 0 ∧ Keeps kind path (first.leaves path) (read.leaves path)
      ∧ (KeepsWhole kind path (first.leaves path) (read.leaves path)
        ↔ (kind.HostNamed desired → normalizeLocation (kind.location desired)
          = kind.location desired)) := by
  obtain ⟨hvalid, r, hr, hheld, hleaves⟩ := hfirst.records hexact hnew hcode
  rw [hleaves] at hfinds ⊢
  obtain ⟨hdone, hkeeps, hwhole⟩ := hread.keeps hvalid hr hfinds
  refine ⟨hdone, hkeeps, hwhole.trans ?_⟩
  rw [hheld, Kind.held_held_iff]

end Records

/-! ### Groups with a host name -/

/-- A read after the first `apply` that keeps the record. -/
theorem reread_keeps_record_web : ∃ first read : Process Unit,
    first.Applies .group "web.state" (brief "web")
    ∧ (first.finds "web.state").isPresent = false ∧ first.outcome.code = 0
    ∧ read.Reads .group "web.state" ∧ read.finds "web.state" = first.leaves "web.state"
    ∧ KeepsWhole .group "web.state" (first.leaves "web.state") (read.leaves "web.state") := by
  have hcode := Process.code_offline_web
  have happlies := Process.applies_offline .vacant Process.readDocument_web
  have hnew : ((Process.offline "web" (.apply "web.yaml") .vacant).finds "web.state").isPresent
      = false := by
    rw [Process.finds_state_offline]
    rfl
  generalize Process.offline "web" (.apply "web.yaml") .vacant = first at hcode happlies hnew
  have hreads := Process.reads_offline "web" (first.leaves "web.state")
  have hfound := Process.finds_state_offline "web" .read (first.leaves "web.state")
  generalize Process.offline "web" .read (first.leaves "web.state") = read at hreads hfound
  obtain ⟨-, -, hwhole⟩ :=
    reread_keeps_record_iff happlies (exact_brief _) hnew hcode hreads hfound
  exact ⟨first, read, happlies, hnew, hcode, hreads, hfound, hwhole.mpr fun _ => by decide⟩

/-- A document with a label, its location spelled as people do. -/
def labelledText : String :=
  "name: web\nlocation: West Europe\nresource_group_name: rg\nos_type: Linux\n"
    ++ "dns_name_label: web\n"
    ++ "container: [\x7bname: c, image: i, cpu: 1, memory: 1.5, port: 80\x7d]\n"

/-- The group that this document describes. -/
def labelled : Document.Group :=
  { brief "web" with location := "West Europe", label := some "web" }

namespace Process

/-- A process with an errand about the labelled group, in surroundings without a network. -/
def withLabel (errand : Errand) (record : Content) : Process Unit where
  surroundings := {
    environment := fun _ => none
    find := fun path => if path = "web.yaml" then .file labelledText else record
    network := fun _ _ => .now (.error "no network") ()
    wire := ()
    clock := .machine 0 }
  arguments := errand.offline

variable (errand : Errand) (record : Content)

theorem finds_state_withLabel : (withLabel errand record).finds "web.state" = record := by
  simp [finds, withLabel]

/-- Nothing that a process is asked for is in its documents. -/
theorem asks_withLabel {errand : Errand}
    (h : errand ∈ [Errand.apply "web.yaml", .plan "web.yaml", .read, .delete]) :
    (withLabel errand record).Asks .group .offline errand :=
  asks_offline "web" record h

end Process

/-- A label is part of a host name, and so is the location. After the first `apply` of a group with
a label the host name has the location as the document spells it, and after the read that follows it
has it as the plane does. -/
theorem reread_changes_host_name : ¬ ∀ (kind : Kind) (path : String) (desired : kind.Doc)
    (first read : Process Unit), first.Applies kind path desired → kind.Exact desired →
    (first.finds path).isPresent = false → first.outcome.code = 0 → read.Reads kind path →
    read.finds path = first.leaves path →
    KeepsWhole kind path (first.leaves path) (read.leaves path) := by
  intro h
  have hdocument : readDocument "web.yaml" (.file labelledText) = .ok labelled :=
    eq_ok_of_toOption_eq_some (by decide +kernel)
  have hexact : Kind.group.Exact labelled := exact_brief "web"
  have happlies : (Process.withLabel (.apply "web.yaml") .vacant).Applies .group "web.state"
      labelled := ⟨.offline, "web.yaml", rfl, Process.asks_withLabel _ (by simp), hdocument⟩
  have hrecord : readRecord "web.state" .vacant
      = .ok (none : Option (Record Document.Group)) := rfl
  have hrebuilt : rebuilt Kind.group.binding (none : Option (Record Document.Group))
      = .ok (.empty ⟨[]⟩ none, []) := rfl
  have hvacant := Process.finds_state_withLabel (.apply "web.yaml") .vacant
  have hcode : (Process.withLabel (.apply "web.yaml") .vacant).outcome.code = 0 := by
    refine (Process.asks_withLabel .vacant (by simp)).code_of_succeeds hdocument
      ?_ hrebuilt (by decide +kernel) ?_
    · rw [show Access.offline.state = "web.state" from rfl, hvacant, hrecord]
    · rw [show Access.offline.state = "web.state" from rfl, hvacant]
      rfl
  have hnew : ((Process.withLabel (.apply "web.yaml") .vacant).finds "web.state").isPresent
      = false := by
    rw [hvacant]
    rfl
  generalize Process.withLabel (.apply "web.yaml") .vacant = first at happlies hcode hnew
  have hreads : (Process.withLabel .read (first.leaves "web.state")).Reads .group "web.state" :=
    ⟨.offline, rfl, Process.asks_withLabel _ (by simp)⟩
  have hfinds := Process.finds_state_withLabel .read (first.leaves "web.state")
  generalize Process.withLabel .read (first.leaves "web.state") = read at hreads hfinds
  have hwhole := h .group "web.state" labelled first read happlies hexact hnew hcode hreads hfinds
  obtain ⟨hvalid, r, hr, hheld, hleaves⟩ := happlies.records hexact hnew hcode
  rw [hleaves] at hfinds hwhole
  have hsame := (hreads.keeps hvalid hr hfinds).2.2.mp hwhole
  rw [hheld, Kind.held_held_iff] at hsame
  have hnamed : Kind.group.HostNamed labelled := nofun
  exact absurd (hsame hnamed) (by decide +kernel)

end Command

end Provisioning
