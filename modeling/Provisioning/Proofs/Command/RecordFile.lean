import Provisioning.Proofs.Command.LifeCycle
import Provisioning.Proofs.Lifecycle.Residue

/-!
The file with the record, which is all that one run of the program hands on to the next. A run
leaves there what its effects make of it, up to the first that is not possible
(`Process.Invokes.change_eq`). Since no errand has two effects on the file, one that fails has
had none (`change_of_obstacle`); and one that succeeds leaves what it has come to on the plane that
its access leads to (`Errand.Leaves`), whatever that plane answers.
-/

namespace Provisioning.Command

open Lifecycle

/-! ### Effects on the file -/

/-- Whether an effect is on the file with the record. -/
def Effect.isChange : Effect → Bool
  | .print _ => false
  | .save _ => true
  | .remove => true

section Performing

variable {path : String} {before : Content} {effects : List Effect}

/-- What is only printed meets no obstacle, and changes nothing. -/
theorem perform_of_prints (h : effects.countP Effect.isChange = 0) :
    (perform path before effects).obstacle = none
      ∧ (perform path before effects).change = none := by
  induction effects with
  | nil => exact ⟨rfl, rfl⟩
  | cons effect rest ih =>
    cases effect with
    | print text => exact ih (by simpa [Effect.isChange] using h)
    | save text => simp [Effect.isChange] at h
    | remove => simp [Effect.isChange] at h

/-- Of effects with at most one on the file, those before an obstacle do not change it. -/
theorem change_of_obstacle (h : effects.countP Effect.isChange ≤ 1)
    (hobstacle : (perform path before effects).obstacle ≠ none) :
    (perform path before effects).change = none := by
  induction effects with
  | nil => rfl
  | cons effect rest ih =>
    cases effect with
    | print text =>
      refine ih (by simpa [Effect.isChange] using h) ?_
      simpa [perform] using hobstacle
    | save text =>
      rw [List.countP_cons_of_pos rfl] at h
      have hrest : rest.countP Effect.isChange = 0 := by omega
      cases hwrite : before.writeError with
      | some reason => simp [perform, hwrite]
      | none => simp [perform, hwrite, (perform_of_prints hrest).1] at hobstacle
    | remove =>
      rw [List.countP_cons_of_pos rfl] at h
      have hrest : rest.countP Effect.isChange = 0 := by omega
      simp [perform, (perform_of_prints hrest).1] at hobstacle

end Performing

/-- How many effects on the file an errand has. -/
def Errand.changes : Errand → Nat
  | .plan _ => 0
  | .apply _ => 1
  | .read => 1
  | .delete => 1

theorem Errand.changes_le (errand : Errand) : errand.changes ≤ 1 := by
  cases errand <;> simp [changes]

/-! ### Errands at work -/

section Work

variable {σ Doc Obj : Type} {w after : World σ Obj} [Managed Obj] {l : Lifecycle σ Doc Obj}

variable (l) in
/-- Whether the plane says of an object with an identifier that it is not there. -/
def Missing (id : String) (s : σ) : Prop :=
  ∃ key e, keyOf Obj id = .ok key ∧ (l.client.get key s).value = .error e ∧ e.isNotFound = true

/-- A read comes to nothing exactly if the object is not there. -/
theorem read_eq_none_iff {id : String} {prior found : Option Doc}
    (h : l.read id prior w = .ok found after) : found = none ↔ Missing l id w.plane := by
  have hends : Ends (l.read id prior) w (fun found _ => found = none → Missing l id w.plane)
      (fun _ _ => True) := by
    unfold Lifecycle.read
    refine ends_bind (ends_parseId (fun _ _ => trivial) fun key hkey => ?_)
    refine ends_bind (ends_call ?_)
    cases hanswer : (l.client.get key w.plane).value with
    | error e =>
      dsimp only
      cases hmissing : e.isNotFound with
      | true => exact ends_bind (ends_note (ends_pure fun _ => ⟨key, e, hkey, hanswer, hmissing⟩))
      | false => exact ends_fail trivial
    | ok object =>
      dsimp only
      cases l.binding.flatten key object prior with
      | ok document => exact ends_pure nofun
      | error e => exact ends_fail trivial
  refine ⟨hends.of_ok h, ?_⟩
  · rintro ⟨key, e, hkey, hanswer, hmissing⟩
    cases h.symm.trans (read_of_missing hkey hanswer hmissing)
    rfl

end Work

section Errands

variable {σ Doc Obj : Type} [Document Doc] [Managed Obj]

/-- What an errand that succeeds on a plane leaves at the path of its record. -/
def Errand.Leaves (l : Lifecycle σ Doc Obj) (plane : σ) (clock : Clock) (path : String)
    (find : String → Content) (left : Content) : Errand → Prop
  | .plan _ => left = find path
  | .apply file => ∃ (desired : Doc) (record : Option (Record Doc)) (done : Applied Doc)
      (after : World σ Obj), readDocument file (find file) = .ok desired
      ∧ readRecord path (find path) = .ok record
      ∧ l.apply (record.map Record.id) desired (record.map Record.configuration) ⟨plane, clock, []⟩
        = .ok done after
      ∧ left = .file (Record.text ⟨done.id, done.configuration⟩)
  | .read => ∃ (record : Record Doc) (found : Option Doc) (after : World σ Obj),
      readRecord path (find path) = .ok (some record)
      ∧ l.read record.id (some record.configuration) ⟨plane, clock, []⟩ = .ok found after
      ∧ left = found.elim .vacant (fun configuration =>
        .file (Record.text ⟨record.id, configuration⟩))
      ∧ (left = .vacant ↔ Missing l record.id plane)
  | .delete => ∃ (record : Record Doc) (after : World σ Obj),
      readRecord path (find path) = .ok (some record)
      ∧ l.delete record.id ⟨plane, clock, []⟩ = .ok () after ∧ left = .vacant

theorem Errand.leaves_of_work {l : Lifecycle σ Doc Obj} {plane : σ} {clock : Clock} {path : String}
    {find : String → Content} {effects : List Effect} {after : World σ Obj} {errand : Errand}
    (h : errand.work l path find ⟨plane, clock, []⟩ = .ok effects after) :
    effects.countP Effect.isChange = errand.changes
      ∧ ((perform path (find path) effects).obstacle = none →
      errand.Leaves l plane clock path find
        ((find path).after (perform path (find path) effects).change)) := by
  unfold Errand.work at h
  cases errand with
  | plan file =>
    obtain ⟨desired, -, h⟩ := settle_bind_eq_ok_iff.mp h
    obtain ⟨record, -, h⟩ := settle_bind_eq_ok_iff.mp h
    obtain ⟨plan, -, rfl⟩ := planned_eq_ok_iff.mp h
    exact ⟨rfl, fun _ => rfl⟩
  | apply file =>
    obtain ⟨desired, hdocument, h⟩ := settle_bind_eq_ok_iff.mp h
    obtain ⟨record, hrecord, h⟩ := settle_bind_eq_ok_iff.mp h
    obtain ⟨done, hdone, rfl⟩ := applied_eq_ok_iff.mp h
    refine ⟨rfl, fun hpossible => ?_⟩
    exact ⟨desired, record, done, after, hdocument, hrecord, hdone,
      after_perform_save rfl hpossible⟩
  | read =>
    obtain ⟨record, hneed, h⟩ := settle_bind_eq_ok_iff.mp h
    have hrecord := needRecord_eq_ok_iff.mp hneed
    rcases refreshed_eq_ok_iff.mp h with ⟨configuration, hread, rfl⟩ | ⟨hread, rfl⟩
    · refine ⟨rfl, fun hpossible => ?_⟩
      have hleft := @after_perform_save path (Record.text ⟨record.id, configuration⟩) (find path)
        [] rfl hpossible
      refine ⟨record, some configuration, after, hrecord, hread, hleft, ?_⟩
      refine iff_of_false ?_ fun h => nomatch (read_eq_none_iff hread).mpr h
      exact fun h => nomatch hleft.symm.trans h
    · refine ⟨rfl, fun _ => ⟨record, none, after, hrecord, hread, rfl, ?_⟩⟩
      exact iff_of_true rfl ((read_eq_none_iff hread).mp rfl)
  | delete =>
    obtain ⟨record, hneed, h⟩ := settle_bind_eq_ok_iff.mp h
    obtain ⟨hdelete, rfl⟩ := deleted_eq_ok_iff.mp h
    exact ⟨rfl, fun _ =>
      ⟨record, after, needRecord_eq_ok_iff.mp hneed, hdelete, rfl⟩⟩

end Errands

/-! ### Processes and the planes that they work on -/

/-- Whether an access leads a run to a plane, on which objects of a kind are looked after in a
certain way: the one that is rebuilt from the record, or the one that is there. -/
inductive Access.LeadsTo {σ : Type} (access : Access) (kind : Kind) (s : Surroundings σ) :
    {τ : Type} → Lifecycle τ kind.Doc kind.Obj → τ → Prop
  | simulated {record : Option (Record kind.Doc)} {store : Store kind.Obj}
      {messages : List Message} (hsimulate : access.simulate = true)
      (hrecord : readRecord access.state (s.find access.state) = .ok record)
      (hrebuilt : rebuilt kind.binding record = .ok (store, messages)) :
      LeadsTo access kind s (access.lifecycle kind) store
  | remote {settings : Remote.Settings} (hsimulate : access.simulate = false)
      (hsettings : access.settings = .ok settings) :
      LeadsTo access kind s (kind.through (Remote.client kind.Obj settings s.network)
        (access.timeouts kind.binding.timeouts) patience) s.wire

section Processes

variable {σ : Type} {kind : Kind} {errand : Errand} {access : Access} {effects : List Effect}

/-- An errand has its effects on the plane that its access leads to. -/
theorem Errand.exists_leadsTo {s : Surroundings σ}
    (h : (errand.ending kind.binding s access).result = .ok effects) :
    ∃ (τ : Type) (l : Lifecycle τ kind.Doc kind.Obj) (plane : τ) (after : World τ kind.Obj),
      access.LeadsTo kind s l plane
      ∧ errand.work l access.state s.find ⟨plane, s.clock, []⟩ = .ok effects after := by
  cases hsimulate : access.simulate with
  | true =>
    obtain ⟨record, store, messages, after, hrecord, hrebuilt, hwork⟩ :=
      (result_ending_eq_ok_iff hsimulate).mp h
    exact ⟨_, _, _, after, .simulated hsimulate hrecord hrebuilt, hwork⟩
  | false =>
    unfold Errand.ending at h
    simp only [hsimulate, Bool.false_eq_true, if_false] at h
    cases hsettings : access.settings with
    | error o =>
      rw [hsettings] at h
      cases h
    | ok settings =>
      rw [hsettings] at h
      obtain ⟨after, hwork⟩ := result_endingOn_eq_ok_iff.mp h
      exact ⟨_, _, _, after, .remote hsimulate hsettings, hwork⟩

theorem Errand.countP_of_result {s : Surroundings σ}
    (h : (errand.ending kind.binding s access).result = .ok effects) :
    effects.countP Effect.isChange = errand.changes := by
  obtain ⟨τ, l, plane, after, -, hwork⟩ := exists_leadsTo h
  exact (leaves_of_work hwork).1

variable {p : Process σ}

/-- A process changes what its effects change, up to the first that is not possible. -/
theorem Process.Invokes.change_eq (h : p.Invokes kind (.manage errand access)) :
    p.outcome.change = match (errand.ending kind.binding p.surroundings access).result with
      | .error _ => none
      | .ok effects => (perform access.state (p.finds access.state) effects).change.map
          fun change => (access.state, change) := by
  obtain ⟨f, warnings, houtcome⟩ := h.outcome
  rw [houtcome]
  unfold Action.outcome Process.finds
  dsimp only
  cases hresult : (errand.ending kind.binding p.surroundings access).result with
  | error o => rfl
  | ok effects =>
    dsimp only
    cases hobstacle :
        (perform access.state (p.surroundings.find access.state) effects).obstacle with
    | none => rfl
    | some o =>
      have hcount := (Errand.countP_of_result hresult).trans_le errand.changes_le
      rw [change_of_obstacle hcount (by simp [hobstacle])]
      rfl

/-- A process that changes nothing leaves what it finds. -/
theorem Process.leaves_of_no_change (h : p.outcome.change = none) (path : String) :
    p.leaves path = p.finds path := by
  unfold Process.leaves
  rw [h]
  rfl

/-- A process is asked for an action, or its arguments make no sense and nothing is done. -/
theorem Process.exists_invokes (p : Process σ) :
    (∃ kind action, p.Invokes kind action) ∨ p.outcome.change = none := by
  unfold Process.Invokes
  cases hread : Invocation.read p.surroundings.environment p.arguments with
  | error e =>
    refine .inr ?_
    unfold Process.outcome run
    rw [hread]
  | ok i =>
    obtain ⟨level, subject, action⟩ := i
    cases subject with
    | group => exact .inl ⟨.group, action, level, rfl⟩
    | service => exact .inl ⟨.service, action, level, rfl⟩

theorem Process.Invokes.change_of_validate {file : String} (h : p.Invokes kind (.validate file)) :
    p.outcome.change = none := by
  obtain ⟨f, warnings, houtcome⟩ := h.outcome
  rw [houtcome]
  unfold Action.outcome
  dsimp only
  split <;> rfl

/-- A plan changes nothing. -/
theorem Process.Invokes.change_of_plan {file : String}
    (h : p.Invokes kind (.manage (.plan file) access)) : p.outcome.change = none := by
  rw [h.change_eq]
  cases hresult : ((Errand.plan file).ending kind.binding p.surroundings access).result with
  | error o => rfl
  | ok effects =>
    simp only [(perform_of_prints (Errand.countP_of_result hresult)).2]
    rfl

/-- A process that fails changes nothing. -/
theorem Process.Invokes.change_of_failure (h : p.Invokes kind (.manage errand access))
    (hcode : p.outcome.code ≠ 0) : p.outcome.change = none := by
  rw [h.change_eq]
  cases hresult : (errand.ending kind.binding p.surroundings access).result with
  | error o => rfl
  | ok effects =>
    have hcount := (Errand.countP_of_result hresult).trans_le errand.changes_le
    have hobstacle : (perform access.state (p.finds access.state) effects).obstacle ≠ none := by
      intro hpossible
      obtain ⟨f, warnings, houtcome⟩ := h.outcome
      obtain ⟨log, hdone⟩ := outcome_of_possible hresult hpossible
      rw [houtcome, hdone] at hcode
      exact hcode rfl
    simp only [change_of_obstacle hcount hobstacle]
    rfl

/-- A process that succeeds leaves what its errand comes to. -/
theorem Process.Invokes.leaves_of_success (h : p.Invokes kind (.manage errand access))
    (hcode : p.outcome.code = 0) :
    ∃ (τ : Type) (l : Lifecycle τ kind.Doc kind.Obj) (plane : τ),
      access.LeadsTo kind p.surroundings l plane
      ∧ errand.Leaves l plane p.surroundings.clock access.state p.finds
        (p.leaves access.state) := by
  obtain ⟨f, warnings, houtcome⟩ := h.outcome
  rw [houtcome] at hcode
  obtain ⟨effects, hresult, hpossible⟩ := exists_possible_of_code hcode
  obtain ⟨τ, l, plane, after, hleads, hwork⟩ := Errand.exists_leadsTo hresult
  obtain ⟨log, hdone⟩ := outcome_of_possible hresult hpossible
  refine ⟨τ, l, plane, hleads, ?_⟩
  rw [(Does.of_outcome hpossible (houtcome.trans hdone)).leaves]
  exact (Errand.leaves_of_work hwork).2 hpossible

/-- The file with the record is as it was after a run that fails, and after every validation and
every plan. After an `apply` that succeeds it has the identifier and the document that were
returned; after a read, the same identifier and the document that was read, or it is gone exactly
if the object is not there; and after a deletion it is gone. -/
theorem record_file_follows (p : Process σ) :
    (p.outcome.code ≠ 0 → ∀ path, p.leaves path = p.finds path)
    ∧ (∀ kind file, p.Invokes kind (.validate file) → ∀ path, p.leaves path = p.finds path)
    ∧ (∀ kind file access, p.Invokes kind (.manage (.plan file) access) →
      ∀ path, p.leaves path = p.finds path)
    ∧ ∀ kind errand access, p.Invokes kind (.manage errand access) → p.outcome.code = 0 →
      ∃ (τ : Type) (l : Lifecycle τ kind.Doc kind.Obj) (plane : τ),
        access.LeadsTo kind p.surroundings l plane
        ∧ errand.Leaves l plane p.surroundings.clock access.state p.finds
          (p.leaves access.state) := by
  refine ⟨fun hcode => Process.leaves_of_no_change ?_, ?_, ?_, ?_⟩
  · rcases p.exists_invokes with ⟨kind, action, hinvokes⟩ | hnone
    · cases action with
      | validate file => exact hinvokes.change_of_validate
      | manage errand access => exact hinvokes.change_of_failure hcode
    · exact hnone
  · exact fun kind file h => Process.leaves_of_no_change h.change_of_validate
  · exact fun kind file access h => Process.leaves_of_no_change h.change_of_plan
  · exact fun kind errand access h hcode => h.leaves_of_success hcode

end Processes

/-- The file with the record of a group, in the course of its life: one process makes it, the next
one reads the group, and the last one deletes it. -/
theorem record_file_follows_web : ∃ process : Errand → Process Unit,
    (process (.apply "web.yaml")).finds "web.state" = .vacant
    ∧ (process .read).finds "web.state" = (process (.apply "web.yaml")).leaves "web.state"
    ∧ (process .delete).finds "web.state" = (process .read).leaves "web.state"
    ∧ ∀ errand ∈ [.apply "web.yaml", .read, .delete],
      (process errand).Invokes .group (.manage errand .offline)
      ∧ (process errand).outcome.code = 0
      ∧ ∃ (τ : Type) (l : Lifecycle τ Document.Group Object.Group) (plane : τ),
        Access.offline.LeadsTo .group (process errand).surroundings l plane
        ∧ errand.Leaves l plane (.machine 0) "web.state" (process errand).finds
          ((process errand).leaves "web.state") := by
  have happlies := Process.applies_offline .vacant Process.readDocument_web
  obtain ⟨hvalid, r, hr, hleaves⟩ :=
    happlies.stands (exact_brief "web") Process.code_offline_web (by decide)
  have hread := (Process.reads_offline "web" (.file r.text)).does hvalid hr
    (Process.finds_state_offline _ _ _)
  have hkept := hread.leaves.trans (congrArg (Content.after · _)
    (Process.finds_state_offline "web" .read (.file r.text)))
  have hheld : (Clock.machine 0).Holds
      (Access.offline.timeouts Kind.group.binding.timeouts).delete := by decide
  have hdeleted := (Process.asks_offline "web" (.file r.reread.text) (by simp)).deletes hvalid
    hr.reread (Process.finds_state_offline _ _ _) (by decide) hheld
  have hfollows {errand : Errand} (record : Content)
      (hmem : errand ∈ [.apply "web.yaml", .plan "web.yaml", .read, .delete])
      (hcode : (Process.offline "web" errand record).outcome.code = 0) :=
    have hinvokes := (Process.asks_offline "web" record hmem).invokes
    And.intro hinvokes <| And.intro hcode <|
      (record_file_follows (Process.offline "web" errand record)).2.2.2 _ _ _ hinvokes hcode
  refine ⟨fun errand => Process.offline "web" errand (match errand with
    | .read => .file r.text
    | .delete => .file r.reread.text
    | _ => .vacant), Process.finds_state_offline _ _ _, ?_, ?_, ?_⟩
  · rw [Process.finds_state_offline, hleaves]
  · rw [Process.finds_state_offline]
    exact hkept.symm
  · intro errand hmem
    simp only [List.mem_cons, List.not_mem_nil, or_false] at hmem
    rcases hmem with rfl | rfl | rfl
    · exact hfollows .vacant (by simp) Process.code_offline_web
    · exact hfollows (.file r.text) (by simp) hread.code
    · exact hfollows (.file r.reread.text) (by simp) hdeleted.code

end Provisioning.Command
