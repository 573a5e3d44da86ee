import Provisioning.Proofs.Command.Processes
import Provisioning.Proofs.Lifecycle.Removal

/-!
Life cycles on the command line, in which each process has nothing of the ones before it but the
record in its file. What one process does to a record that stands for a document is a lemma
(`step_of_stands`), and what a run of them does follows from it (`run_of_stands`). So a document
that was applied settles, exactly if an identifier can name its object (`life_cycle_settles_iff`).
-/

namespace Provisioning.Command

open Lifecycle

/-! ### Steps of a life cycle -/

section Steps

variable {σ : Type} {kind : Kind} {path : String} {desired : kind.Doc} {p : Process σ}
  {r : Record kind.Doc}

theorem work_plan {w : World (Store kind.Obj) kind.Obj} {access : Access} {file : String}
    {find : String → Content} {record : Option (Record kind.Doc)}
    (hdocument : readDocument file (find file) = .ok desired)
    (hrecord : readRecord path (find path) = .ok record) :
    (Errand.plan file).work (access.lifecycle kind) path find w
      = planned (access.lifecycle kind) desired record w := by
  unfold Errand.work
  dsimp only
  rw [hdocument, hrecord]
  rfl

theorem work_apply {w : World (Store kind.Obj) kind.Obj} {access : Access} {file : String}
    {find : String → Content} {record : Option (Record kind.Doc)}
    (hdocument : readDocument file (find file) = .ok desired)
    (hrecord : readRecord path (find path) = .ok record) :
    (Errand.apply file).work (access.lifecycle kind) path find w
      = applied (access.lifecycle kind) file desired record w := by
  unfold Errand.work
  dsimp only
  rw [hdocument, hrecord]
  rfl

theorem work_read {w : World (Store kind.Obj) kind.Obj} {access : Access}
    {find : String → Content} (hrecord : readRecord path (find path) = .ok (some r)) :
    Errand.read.work (access.lifecycle kind) path find w
      = refreshed (access.lifecycle kind) r w := by
  unfold Errand.work
  dsimp only
  rw [needRecord_eq_ok_iff.mpr hrecord]
  rfl

theorem work_delete {w : World (Store kind.Obj) kind.Obj} {access : Access}
    {find : String → Content} (hrecord : readRecord path (find path) = .ok (some r)) :
    Errand.delete.work (access.lifecycle kind) path find w
      = deleted (access.lifecycle kind) r w := by
  unfold Errand.work
  dsimp only
  rw [needRecord_eq_ok_iff.mpr hrecord]
  rfl

/-- No other plan is printed like the one that there is nothing to do. -/
theorem eq_noOp_of_shown {plan : Plan}
    (h : plan.toJson.pretty ++ "\n" = Plan.noOp.toJson.pretty ++ "\n") : plan = .noOp := by
  have hchars : plan.toJson.prettyChars 0 = Plan.noOp.toJson.prettyChars 0 := by
    have hlist := congrArg String.toList h
    simpa only [String.toList_append, Json.pretty, String.toList_ofList,
      List.append_cancel_right_eq] using hlist
  cases plan with
  | noOp => rfl
  | create => cases hchars
  | update fields => cases hchars
  | replace fields => cases hchars

theorem Process.Does.printsNoOp (h : p.Does path [shown Plan.noOp.toJson]) : p.PrintsNoOp :=
  ⟨h.code, h.output.trans (String.append_empty ..)⟩

/-- A process that finds a record that stands for the document has the effects of its errand on a
plane with the object of the document. -/
theorem Process.Asks.does_of_stands {access : Access} {errand : Errand} {effects : List Effect}
    (h : p.Asks kind access errand) (hvalid : (kind.binding.report desired).isValid = true)
    (hr : Stands kind desired r) (hfinds : p.finds access.state = .file r.text)
    (hwork : ∀ (store : Store kind.Obj) (object : kind.Obj),
      readRecord access.state (p.finds access.state) = .ok (some r) →
      store.objects (kind.binding.key desired) = some object →
      (∀ moved, Moved object moved → kind.binding.flatten (kind.binding.key desired) moved
        (some r.configuration) = .ok r.reread.configuration) →
      ∃ after, errand.work (access.lifecycle kind) access.state p.finds
        ⟨store, p.surroundings.clock, []⟩ = .ok effects after)
    (hpossible : (perform access.state (p.finds access.state) effects).obstacle = none) :
    p.Does access.state effects := by
  obtain ⟨store, messages, object, hrebuilt, hpresent, hflatten⟩ := hr.rebuilt_ok hvalid
  have hrecord : readRecord access.state (p.finds access.state) = .ok (some r) :=
    hfinds ▸ readRecord_text hr.exact
  obtain ⟨after, hdone⟩ := hwork store object hrecord hpresent hflatten
  exact h.does ⟨some r, store, messages, after, hrecord, hrebuilt, hdone⟩ hpossible

/-- Where a record stands for the document, there is nothing to do. -/
theorem Process.Plans.does (h : p.Plans kind path desired)
    (hvalid : (kind.binding.report desired).isValid = true) (hr : Stands kind desired r)
    (hfinds : p.finds path = .file r.text) : p.Does path [shown Plan.noOp.toJson] := by
  obtain ⟨access, file, rfl, hasks, hdocument⟩ := h
  refine hasks.does_of_stands hvalid hr hfinds ?_ rfl
  intro store object hrecord hpresent hflatten
  have hsettled : Lifecycle.Settled (access.lifecycle kind) r.id desired
      ⟨store, p.surroundings.clock, []⟩ :=
    ⟨hvalid, hr.keyOf_id, object, some r.configuration, r.reread.configuration, hpresent,
      hflatten object (.refl object), kind.faithful.diff_of_canonical hvalid hr.reread.canonical⟩
  obtain ⟨plan, after, hplan, rfl, -⟩ :=
    (hsettled.plan_ends rfl kind.faithful (known_some hr.canonical)).exists_ok
  rw [work_plan hdocument hrecord]
  exact ⟨after, planned_eq_ok_iff.mpr ⟨.noOp, hplan, rfl⟩⟩

/-- Where a record stands for the document, its object is read and recorded again. -/
theorem Process.Reads.does (h : p.Reads kind path)
    (hvalid : (kind.binding.report desired).isValid = true) (hr : Stands kind desired r)
    (hfinds : p.finds path = .file r.text) :
    p.Does path [shown (Document.toJson r.reread.configuration), .save r.reread.text] := by
  obtain ⟨access, rfl, hasks⟩ := h
  have hpossible : (perform access.state (p.finds access.state)
      [shown (Document.toJson r.reread.configuration), .save r.reread.text]).obstacle = none := by
    rw [hfinds]
    rfl
  refine hasks.does_of_stands hvalid hr hfinds ?_ hpossible
  intro store object hrecord hpresent hflatten
  obtain ⟨found, after, hread, rfl, -⟩ := (read_present_ends (l := access.lifecycle kind)
    (w := ⟨store, p.surroundings.clock, []⟩) rfl hr.keyOf_id hpresent hflatten).exists_ok
  rw [work_read hrecord]
  exact ⟨after, refreshed_eq_ok_iff.mpr (.inl ⟨_, hread, rfl⟩)⟩

/-- Where a record stands for the document, its object is deleted and the record is removed, if
there is any time for it to go away and the clock can hold the deadline. -/
theorem Process.Asks.deletes {access : Access} (h : p.Asks kind access .delete)
    (hvalid : (kind.binding.report desired).isValid = true) (hr : Stands kind desired r)
    (hfinds : p.finds access.state = .file r.text)
    (hlimit : 0 < (access.timeouts kind.binding.timeouts).delete)
    (hheld : p.surroundings.clock.Holds (access.timeouts kind.binding.timeouts).delete) :
    p.Does access.state [.remove, .print ("Deleted '" ++ r.id ++ "'.\n")] := by
  refine h.does_of_stands hvalid hr hfinds ?_ rfl
  intro store object hrecord _ _
  have hpatience : 0 < patience := by decide
  obtain ⟨after, hdelete, -⟩ := delete_clears (l := access.lifecycle kind)
    (w := ⟨store, p.surroundings.clock, []⟩) rfl hr.keyOf_id hlimit hpatience (.inr hheld)
  rw [work_delete hrecord]
  exact ⟨after, deleted_eq_ok_iff.mpr ⟨hdelete, rfl⟩⟩

/-- A plan that says that there is nothing to do was made for an object that an identifier can
name. -/
theorem Process.Plans.plain_of_printsNoOp (h : p.Plans kind path desired) (hnoOp : p.PrintsNoOp) :
    (kind.binding.key desired).Plain := by
  obtain ⟨access, file, rfl, hasks, hdocument⟩ := h
  obtain ⟨effects, ⟨record, store, messages, after, hrecord, -, hwork⟩, hdoes⟩ :=
    hasks.exists_does hnoOp.1
  rw [work_plan hdocument hrecord] at hwork
  obtain ⟨plan, hplan, rfl⟩ := planned_eq_ok_iff.mp hwork
  have hsame : plan = .noOp :=
    eq_noOp_of_shown ((String.append_empty ..).symm.trans (hdoes.output.symm.trans hnoOp.2))
  subst hsame
  obtain ⟨hvalid, hplanned⟩ := (plan_ends rfl _ _ _ _).of_ok hplan
  cases record with
  | none => cases hplanned
  | some r => exact plain_of_keyOf (hplanned.settled kind.faithful hvalid).keyOf_id

/-- An `apply` that succeeds records the document, if an identifier can name its object. -/
theorem Process.Applies.stands (h : p.Applies kind path desired) (hexact : kind.Exact desired)
    (hcode : p.outcome.code = 0) (hplain : (kind.binding.key desired).Plain) :
    (kind.binding.report desired).isValid = true
      ∧ ∃ r, Stands kind desired r ∧ p.leaves path = .file r.text := by
  obtain ⟨access, file, rfl, hasks, hdocument⟩ := h
  obtain ⟨effects, ⟨record, store, messages, after, hrecord, -, hwork⟩, hdoes⟩ :=
    hasks.exists_does hcode
  rw [work_apply hdocument hrecord] at hwork
  obtain ⟨done, hdone, rfl⟩ := applied_eq_ok_iff.mp hwork
  have hbrought := (apply_ends rfl _ _ _ _).of_ok hdone
  obtain ⟨hsettled, hcanonical⟩ := hbrought.settled kind.faithful hplain
  obtain ⟨-, -, -, -, key, object, -, -, -, hflatten⟩ := hbrought.steps
  refine ⟨hbrought.valid, ⟨done.id, done.configuration⟩,
    ⟨hsettled.keyOf_id, hcanonical, Kind.location_of_flatten hflatten, hexact.congr hcanonical⟩, ?_⟩
  exact hdoes.leaves.trans (after_perform_save rfl hdoes.possible)

/-- A process succeeds in applying a document if the operation succeeds and the record can be
written. -/
theorem Process.Asks.code_of_succeeds {access : Access} {file : String}
    {record : Option (Record kind.Doc)} {store : Store kind.Obj} {messages : List Message}
    (h : p.Asks kind access (.apply file))
    (hdocument : readDocument file (p.finds file) = .ok desired)
    (hrecord : readRecord access.state (p.finds access.state) = .ok record)
    (hrebuilt : rebuilt kind.binding record = .ok (store, messages))
    (hsucceeds : succeeds ((access.lifecycle kind).apply (record.map Record.id) desired
      (record.map Record.configuration)) ⟨store, p.surroundings.clock, []⟩ = true)
    (hwritable : (p.finds access.state).writeError = none) : p.outcome.code = 0 := by
  obtain ⟨done, after, hdone⟩ := exists_of_succeeds hsucceeds
  have hwork := (work_apply hdocument hrecord).trans (applied_eq_ok_iff.mpr ⟨done, hdone, rfl⟩)
  refine (h.does ⟨record, store, messages, after, hrecord, hrebuilt, hwork⟩ ?_).code
  simp only [perform, hwritable, shown]

/-- A process that plans a document or reads its object leaves a record that stands for it. -/
theorem step_of_stands (hp : p.Plans kind path desired ∨ p.Reads kind path)
    (hvalid : (kind.binding.report desired).isValid = true) (hr : Stands kind desired r)
    (hfinds : p.finds path = .file r.text) :
    p.outcome.code = 0 ∧ ∃ r', Stands kind desired r' ∧ p.leaves path = .file r'.text
      ∧ r'.id = r.id ∧ kind.uncomputed r'.configuration = kind.uncomputed r.configuration := by
  rcases hp with hplans | hreads
  · have hdoes := hplans.does hvalid hr hfinds
    exact ⟨hdoes.code, r, hr, hdoes.leaves.trans hfinds, rfl, rfl⟩
  · have hdoes := hreads.does hvalid hr hfinds
    refine ⟨hdoes.code, r.reread, hr.reread, ?_, rfl, Kind.uncomputed_held hr.location⟩
    rw [hdoes.leaves, hfinds]
    rfl

end Steps

/-! ### Life cycles -/

section Runs

variable {σ : Type} {kind : Kind} {path : String} {desired : kind.Doc} {r : Record kind.Doc}
  {later : List (Process σ)}

/-- Whether each of some processes finds at a path what the one before it has left there. -/
def Chained (path : String) : Content → List (Process σ) → Prop
  | _, [] => True
  | content, p :: later => p.finds path = content ∧ Chained path (p.leaves path) later

/-- Whether there is a record at a path before and after, with one identifier and the same document
up to what the management plane computes. -/
def Keeps (kind : Kind) (path : String) (before after : Content) : Prop :=
  ∃ r r' : Record kind.Doc, readRecord path before = .ok (some r)
    ∧ readRecord path after = .ok (some r') ∧ r'.id = r.id
    ∧ kind.uncomputed r'.configuration = kind.uncomputed r.configuration

/-- However often a document is planned and its object is read, there is nothing to do, and the
record stands for the document. -/
theorem run_of_stands (hvalid : (kind.binding.report desired).isValid = true)
    (hr : Stands kind desired r) (hchained : Chained path (.file r.text) later)
    (hlater : ∀ p ∈ later, p.Plans kind path desired ∨ p.Reads kind path) :
    ∀ p ∈ later, p.outcome.code = 0 ∧ (p.Plans kind path desired → p.PrintsNoOp)
      ∧ ∃ r', Stands kind desired r' ∧ p.leaves path = .file r'.text ∧ r'.id = r.id
        ∧ kind.uncomputed r'.configuration = kind.uncomputed r.configuration := by
  induction later generalizing r with
  | nil => exact nofun
  | cons p later ih =>
    obtain ⟨hfinds, hrest⟩ := hchained
    obtain ⟨hcode, r₁, hr₁, hleaves, hid₁, hsame₁⟩ :=
      step_of_stands (hlater p List.mem_cons_self) hvalid hr hfinds
    rw [hleaves] at hrest
    have hall := ih hr₁ hrest fun q hq => hlater q (List.mem_cons_of_mem p hq)
    intro q hq
    rcases List.mem_cons.mp hq with rfl | hq
    · exact ⟨hcode, fun hplans => (hplans.does hvalid hr hfinds).printsNoOp, r₁, hr₁, hleaves, hid₁,
        hsame₁⟩
    · obtain ⟨hcode', hnoOp, r₂, hr₂, hleaves', hid₂, hsame₂⟩ := hall q hq
      exact ⟨hcode', hnoOp, r₂, hr₂, hleaves', hid₂.trans hid₁, hsame₂.trans hsame₁⟩

/-- After an `apply` that succeeds, a plan of the same document says that there is nothing to do if
and only if no part of the key of the document has a slash in it. If it has none, the document can
be planned and its object be read in any order and number: all succeed, and the record keeps its
identifier and its document, up to what the plane computes. -/
theorem life_cycle_settles_iff {first : Process σ} (hfirst : first.Applies kind path desired)
    (hexact : kind.Exact desired) (hcode : first.outcome.code = 0)
    (hchained : Chained path (first.leaves path) later)
    (hlater : ∀ p ∈ later, p.Plans kind path desired ∨ p.Reads kind path) :
    (∀ p ∈ later, p.Plans kind path desired →
      (p.PrintsNoOp ↔ (kind.binding.key desired).Plain))
    ∧ ((kind.binding.key desired).Plain → ∀ p ∈ later, p.outcome.code = 0
      ∧ Keeps kind path (first.leaves path) (p.leaves path)) := by
  have hsettles (hplain : (kind.binding.key desired).Plain) (p : Process σ) (hp : p ∈ later) :
      p.outcome.code = 0 ∧ (p.Plans kind path desired → p.PrintsNoOp)
        ∧ Keeps kind path (first.leaves path) (p.leaves path) := by
    obtain ⟨hvalid, r, hr, hleaves⟩ := hfirst.stands hexact hcode hplain
    rw [hleaves] at hchained ⊢
    obtain ⟨hdone, hnoOp, r', hr', hleaves', hid, hsame⟩ :=
      run_of_stands hvalid hr hchained hlater p hp
    rw [hleaves']
    exact ⟨hdone, hnoOp, r, r', readRecord_text hr.exact, readRecord_text hr'.exact, hid, hsame⟩
  refine ⟨fun p hp hplans => ⟨hplans.plain_of_printsNoOp, fun hplain => ?_⟩, fun hplain p hp => ?_⟩
  · exact (hsettles hplain p hp).2.1 hplans
  · obtain ⟨hdone, -, hkeeps⟩ := hsettles hplain p hp
    exact ⟨hdone, hkeeps⟩

end Runs

/-! ### A group on a simulated plane -/

/-- The text of the brief document of a name. -/
def briefText (name : String) : String :=
  "name: " ++ name ++ "\nlocation: eu\nresource_group_name: rg\nos_type: Linux\n"
    ++ "container: [\x7bname: c, image: i, cpu: 1, memory: 1.5, port: 80\x7d]\n"

/-- The group of a name of which the least is said. -/
def brief (name : String) : Document.Group where
  name
  location := "eu"
  resourceGroup := "rg"
  containers := [{
    name := "c"
    image := "i"
    cpu := ⟨0x3FF0000000000000⟩
    memory := ⟨0x3FF8000000000000⟩
    port := some 80 }]

theorem exact_brief (name : String) : Kind.group.Exact (brief name) := by
  intro c hc
  obtain rfl := List.mem_singleton.mp hc
  exact ⟨eq_ok_of_toOption_eq_some (by decide +kernel),
    eq_ok_of_toOption_eq_some (by decide +kernel)⟩

deriving instance DecidableEq for Access, Errand, Action, Invocation

/-- A simulated plane with its record in a file, and nothing else. -/
def Access.offline : Access where
  state := "web.state"
  simulate := true
  endpoint := Remote.Settings.defaultEndpoint
  subscription := none
  token := none
  timeout := none
  pollInterval := none

/-- The arguments for an errand about a group on a simulated plane. -/
def Errand.offline (errand : Errand) : List String :=
  let own := match errand with
    | .plan file => ["plan", "--file=" ++ file]
    | .apply file => ["apply", "--file=" ++ file]
    | .read => ["read"]
    | .delete => ["delete"]
  own ++ ["--kind=container-group", "--state=web.state", "--simulate"]

namespace Process

/-- A process with an errand about the group of a name, in surroundings without a network. -/
def offline (name : String) (errand : Errand) (record : Content) : Process Unit where
  surroundings := {
    environment := fun _ => none
    find := fun path => if path = "web.yaml" then .file (briefText name) else record
    network := fun _ _ => .now (.error "no network") ()
    wire := ()
    clock := .machine 0 }
  arguments := errand.offline

variable (name : String) (errand : Errand) (record : Content)

theorem finds_state_offline : (offline name errand record).finds "web.state" = record := by
  simp [finds, offline]

theorem finds_document_offline :
    (offline name errand record).finds "web.yaml" = .file (briefText name) := by
  simp [finds, offline]

theorem asks_offline {errand : Errand}
    (h : errand ∈ [Errand.apply "web.yaml", .plan "web.yaml", .read, .delete]) :
    (offline name errand record).Asks .group .offline errand := by
  have hread : ∀ e ∈ [Errand.apply "web.yaml", .plan "web.yaml", .read, .delete],
      (Invocation.read (fun _ => none) e.offline).toOption
        = some ⟨.info, .group, .manage e .offline⟩ := by decide +kernel
  exact ⟨rfl, .info, eq_ok_of_toOption_eq_some (hread errand h)⟩

theorem reads_offline : (offline name .read record).Reads .group "web.state" :=
  ⟨.offline, rfl, asks_offline _ _ (by simp)⟩

variable {name}

theorem applies_offline
    (h : readDocument "web.yaml" (.file (briefText name)) = .ok (brief name)) :
    (offline name (.apply "web.yaml") record).Applies .group "web.state" (brief name) :=
  ⟨.offline, "web.yaml", rfl, asks_offline _ _ (by simp), by rwa [finds_document_offline]⟩

theorem plans_offline
    (h : readDocument "web.yaml" (.file (briefText name)) = .ok (brief name)) :
    (offline name (.plan "web.yaml") record).Plans .group "web.state" (brief name) :=
  ⟨.offline, "web.yaml", rfl, asks_offline _ _ (by simp), by rwa [finds_document_offline]⟩

/-- A process succeeds in applying the document of a name if the operation succeeds. -/
theorem code_offline {record : Content} {known : Option (Record Document.Group)}
    {store : Store Object.Group} {messages : List Message}
    (hdocument : readDocument "web.yaml" (.file (briefText name)) = .ok (brief name))
    (hrecord : readRecord "web.state" record = .ok known)
    (hrebuilt : rebuilt Kind.group.binding known = .ok (store, messages))
    (hsucceeds : succeeds ((Access.offline.lifecycle .group).apply (known.map Record.id)
      (brief name) (known.map Record.configuration)) ⟨store, .machine 0, []⟩ = true)
    (hwritable : record.writeError = none) :
    (offline name (.apply "web.yaml") record).outcome.code = 0 := by
  have hstate : (offline name (.apply "web.yaml") record).finds Access.offline.state = record :=
    finds_state_offline name _ record
  refine (asks_offline name record (by simp)).code_of_succeeds ?_ ?_ hrebuilt hsucceeds ?_
  · rw [finds_document_offline]
    exact hdocument
  · rw [hstate]
    exact hrecord
  · rw [hstate]
    exact hwritable

theorem readDocument_web : readDocument "web.yaml" (.file (briefText "web")) = .ok (brief "web") :=
  eq_ok_of_toOption_eq_some (by decide +kernel)

/-- A group can be applied where there is no record yet. -/
theorem code_offline_web : (offline "web" (.apply "web.yaml") .vacant).outcome.code = 0 := by
  have hrecord : readRecord "web.state" .vacant
      = .ok (none : Option (Record Document.Group)) := rfl
  have hrebuilt : rebuilt Kind.group.binding (none : Option (Record Document.Group))
      = .ok (.empty ⟨[]⟩ none, []) := rfl
  exact code_offline readDocument_web hrecord hrebuilt (by decide +kernel) rfl

end Process

/-- A life cycle of a group that settles. -/
theorem life_cycle_settles_web : ∃ first read plan : Process Unit,
    first.Applies .group "web.state" (brief "web") ∧ first.outcome.code = 0
    ∧ read.Reads .group "web.state" ∧ plan.Plans .group "web.state" (brief "web")
    ∧ Chained "web.state" (first.leaves "web.state") [read, plan]
    ∧ plan.PrintsNoOp
    ∧ Keeps .group "web.state" (first.leaves "web.state") (plan.leaves "web.state") := by
  have hcode := Process.code_offline_web
  have happlies := Process.applies_offline .vacant Process.readDocument_web
  generalize Process.offline "web" (.apply "web.yaml") .vacant = first at hcode happlies
  have hreads := Process.reads_offline "web" (first.leaves "web.state")
  have hfound := Process.finds_state_offline "web" .read (first.leaves "web.state")
  generalize Process.offline "web" .read (first.leaves "web.state") = read at hreads hfound
  have hplans := Process.plans_offline (read.leaves "web.state") Process.readDocument_web
  have hleft := Process.finds_state_offline "web" (.plan "web.yaml") (read.leaves "web.state")
  generalize Process.offline "web" (.plan "web.yaml") (read.leaves "web.state") = plan
    at hplans hleft
  have hchained : Chained "web.state" (first.leaves "web.state") [read, plan] :=
    ⟨hfound, hleft, trivial⟩
  have hlater : ∀ p ∈ [read, plan], p.Plans .group "web.state" (brief "web")
      ∨ p.Reads .group "web.state" :=
    List.forall_mem_cons.mpr ⟨Or.inr hreads, List.forall_mem_singleton.mpr (Or.inl hplans)⟩
  have hlast : plan ∈ [read, plan] := List.mem_cons_of_mem read List.mem_cons_self
  have hplain : (Kind.group.binding.key (brief "web")).Plain := by decide
  obtain ⟨hnoOp, hkeeps⟩ := life_cycle_settles_iff happlies (exact_brief _) hcode hchained hlater
  exact ⟨first, read, plan, happlies, hcode, hreads, hplans, hchained,
    (hnoOp plan hlast hplans).mpr hplain, (hkeeps hplain plan hlast).2⟩

/-- A record that names an object that is gone, with the document of another one. -/
def stale : Record Document.Group := ⟨Store.idFor Object.Group ⟨"rg", "gone"⟩, brief "web"⟩

/-- A group can have a slash in its name. Where the record names an object that is gone, and has
the document of one whose name is the same but for the slash, an `apply` succeeds by reading that
object, and for a plan that follows there is something to do. -/
theorem life_cycle_slash_unsettled : ¬ ∀ (kind : Kind) (path : String) (desired : kind.Doc)
    (first : Process Unit) (later : List (Process Unit)), first.Applies kind path desired →
    kind.Exact desired → first.outcome.code = 0 → Chained path (first.leaves path) later →
    (∀ p ∈ later, p.Plans kind path desired ∨ p.Reads kind path) →
    ∀ p ∈ later, p.Plans kind path desired → p.PrintsNoOp := by
  intro h
  have hdocument : readDocument "web.yaml" (.file (briefText "web/")) = .ok (brief "web/") :=
    eq_ok_of_toOption_eq_some (by decide +kernel)
  have hrecord : readRecord "web.state" (.file stale.text) = .ok (some stale) :=
    @readRecord_text .group stale "web.state" (exact_brief _)
  have hexpand : Kind.group.binding.expand stale.configuration = .ok _ := rfl
  obtain ⟨messages, hrebuilt⟩ := rebuilt_of_expand hexpand
  have hcode := Process.code_offline hdocument hrecord hrebuilt (by decide +kernel) rfl
  have happlies := Process.applies_offline (.file stale.text) hdocument
  generalize Process.offline "web/" (.apply "web.yaml") (.file stale.text) = first
    at hcode happlies
  have hplans := Process.plans_offline (first.leaves "web.state") hdocument
  have hfound := Process.finds_state_offline "web/" (.plan "web.yaml") (first.leaves "web.state")
  generalize Process.offline "web/" (.plan "web.yaml") (first.leaves "web.state") = plan
    at hplans hfound
  have hnoOp := h .group "web.state" (brief "web/") first [plan] happlies (exact_brief _) hcode
    ⟨hfound, trivial⟩ (List.forall_mem_singleton.mpr (Or.inl hplans)) plan List.mem_cons_self hplans
  exact absurd (hplans.plain_of_printsNoOp hnoOp) (by decide)

end Provisioning.Command
