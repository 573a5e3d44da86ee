import Provisioning.Proofs.Command.Rebuilt

/-!
Runs of the program as processes, each of which finds files and leaves one. A process with an errand
on a simulated plane succeeds with the effects that the errand has on the plane that is rebuilt from
the record that it finds (`Asks.does`), and with no others (`Asks.exists_does`).
-/

namespace Provisioning.Command

open Lifecycle

/-! ### Commands at work -/

section Work

variable {σ Doc Obj α β : Type} {w after : World σ Obj}

/-- An operation as the first step of a command. -/
theorem runFor_bind_eq_ok_iff {aim : Aim} {operation : Operation σ Obj α} {next : α → Work σ Obj β}
    {b : β} : (runFor aim operation >>= next) w = .ok b after
      ↔ ∃ a v, operation w = .ok a v ∧ next a v = .ok b after := by
  change EStateM.bind (runFor aim operation) next w = .ok b after ↔ _
  unfold EStateM.bind runFor
  cases operation w with
  | ok a v =>
    refine ⟨fun h => ⟨a, v, rfl, h⟩, ?_⟩
    rintro ⟨_, _, ⟨⟩, h⟩
    exact h
  | error stop v =>
    refine iff_of_false nofun ?_
    rintro ⟨_, _, ⟨⟩, -⟩

/-- What is known already as the first step of a command. -/
theorem settle_bind_eq_ok_iff {known : Except Obstacle α} {next : α → Work σ Obj β} {b : β} :
    (settle known >>= next) w = .ok b after ↔ ∃ a, known = .ok a ∧ next a w = .ok b after := by
  cases known with
  | ok a =>
    refine ⟨fun h => ⟨a, rfl, h⟩, ?_⟩
    rintro ⟨_, ⟨⟩, h⟩
    exact h
  | error o =>
    refine iff_of_false nofun ?_
    rintro ⟨_, ⟨⟩, -⟩

/-- A record that has to be there is what is read. -/
theorem needRecord_eq_ok_iff [Document Doc] {path : String} {content : Content} {r : Record Doc} :
    needRecord path content = .ok r ↔ readRecord path content = .ok (some r) := by
  unfold needRecord
  rw [bind_eq_ok_iff]
  constructor
  · rintro ⟨found, hfound, hr⟩
    cases found with
    | none => cases hr
    | some record =>
      cases hr
      exact hfound
  · intro h
    exact ⟨some r, h, rfl⟩

variable [Managed Obj] {l : Lifecycle σ Doc Obj} {desired : Doc} {record : Option (Record Doc)}
  {effects : List Effect}

theorem planned_eq_ok_iff : planned l desired record w = .ok effects after
    ↔ ∃ plan, l.plan (record.map Record.id) desired (record.map Record.configuration) w
        = .ok plan after ∧ effects = [shown plan.toJson] := by
  unfold planned
  rw [runFor_bind_eq_ok_iff]
  constructor
  · rintro ⟨plan, v, hplan, h⟩
    cases h
    exact ⟨plan, hplan, rfl⟩
  · rintro ⟨plan, hplan, rfl⟩
    exact ⟨plan, after, hplan, rfl⟩

variable [Document Doc]

theorem applied_eq_ok_iff {file : String} : applied l file desired record w = .ok effects after
    ↔ ∃ done, l.apply (record.map Record.id) desired (record.map Record.configuration) w
        = .ok done after
      ∧ effects = [.save (Record.text ⟨done.id, done.configuration⟩),
        shown (.obj [("id", .str done.id), ("plan", done.plan.toJson)])] := by
  unfold applied
  rw [runFor_bind_eq_ok_iff]
  constructor
  · rintro ⟨done, v, hdone, h⟩
    cases h
    exact ⟨done, hdone, rfl⟩
  · rintro ⟨done, hdone, rfl⟩
    exact ⟨done, after, hdone, rfl⟩

theorem refreshed_eq_ok_iff {r : Record Doc} :
    refreshed l r w = .ok effects after
      ↔ (∃ configuration, l.read r.id (some r.configuration) w = .ok (some configuration) after
          ∧ effects = [shown (Document.toJson configuration),
            .save (Record.text ⟨r.id, configuration⟩)])
        ∨ l.read r.id (some r.configuration) w = .ok none after
          ∧ effects = [.print ("'" ++ r.id ++ "' no longer exists.\n"), .remove] := by
  unfold refreshed
  rw [runFor_bind_eq_ok_iff]
  constructor
  · rintro ⟨found, v, hread, h⟩
    cases found with
    | some configuration =>
      cases h
      exact .inl ⟨configuration, hread, rfl⟩
    | none =>
      cases h
      exact .inr ⟨hread, rfl⟩
  · rintro (⟨configuration, hread, rfl⟩ | ⟨hread, rfl⟩)
    · exact ⟨some configuration, after, hread, rfl⟩
    · exact ⟨none, after, hread, rfl⟩

omit [Document Doc] in
theorem deleted_eq_ok_iff {r : Record Doc} :
    deleted l r w = .ok effects after
      ↔ l.delete r.id w = .ok () after
        ∧ effects = [.remove, .print ("Deleted '" ++ r.id ++ "'.\n")] := by
  unfold deleted
  rw [runFor_bind_eq_ok_iff]
  constructor
  · rintro ⟨_, v, hdelete, h⟩
    cases h
    exact ⟨hdelete, rfl⟩
  · rintro ⟨hdelete, rfl⟩
    exact ⟨(), after, hdelete, rfl⟩

end Work

/-- A text that could be saved is there afterwards, if nothing follows but what is printed. -/
theorem after_perform_save {path text : String} {before : Content} {rest : List Effect}
    (hrest : (perform path before rest).change = none)
    (h : (perform path before (.save text :: rest)).obstacle = none) :
    before.after (perform path before (.save text :: rest)).change = .file text := by
  cases hwrite : before.writeError with
  | some reason => simp [perform, hwrite] at h
  | none =>
    simp only [perform, hwrite, hrest]
    rfl

theorem Errand.result_endingOn_eq_ok_iff {σ Doc Obj : Type} [Document Doc] [Managed Obj]
    {errand : Errand} {l : Lifecycle σ Doc Obj} {plane : σ} {clock : Clock} {path : String}
    {find : String → Content} {effects : List Effect} :
    (errand.endingOn l plane clock path find).result = .ok effects
      ↔ ∃ after, errand.work l path find ⟨plane, clock, []⟩ = .ok effects after := by
  unfold Errand.endingOn
  cases errand.work l path find ⟨plane, clock, []⟩ with
  | ok done after =>
    constructor
    · intro h
      cases h
      exact ⟨after, rfl⟩
    · rintro ⟨_, ⟨⟩⟩
      rfl
  | error o after => exact iff_of_false nofun nofun

/-- How objects of a kind are looked after on a simulated plane that an access leads to. -/
def Access.lifecycle (access : Access) (kind : Kind) :
    Lifecycle (Store kind.Obj) kind.Doc kind.Obj :=
  kind.lifecycle (access.timeouts kind.binding.timeouts) patience

/-- Whether an errand has certain effects on the plane that is rebuilt from the record of an
access, where the clock is what it is. -/
def Errand.Yields (errand : Errand) (kind : Kind) (access : Access) (clock : Clock)
    (find : String → Content) (effects : List Effect) : Prop :=
  ∃ record store messages after, readRecord access.state (find access.state) = .ok record
    ∧ rebuilt kind.binding record = .ok (store, messages)
    ∧ errand.work (access.lifecycle kind) access.state find ⟨store, clock, []⟩ = .ok effects after

/-- An errand with a simulated plane has effects on the one that is rebuilt. -/
theorem Errand.result_ending_eq_ok_iff {σ : Type} {kind : Kind} {errand : Errand} {access : Access}
    {s : Surroundings σ} {effects : List Effect} (h : access.simulate = true) :
    (errand.ending kind.binding s access).result = .ok effects
      ↔ errand.Yields kind access s.clock s.find effects := by
  unfold Errand.ending Errand.Yields
  dsimp only
  rw [if_pos h]
  cases hplane : readRecord access.state (s.find access.state) >>= rebuilt kind.binding with
  | error o =>
    refine iff_of_false nofun ?_
    rintro ⟨record, store, messages, -, hrecord, hrebuilt, -⟩
    cases hplane.symm.trans (bind_eq_ok_iff.mpr ⟨record, hrecord, hrebuilt⟩)
  | ok plane =>
    obtain ⟨store, messages⟩ := plane
    obtain ⟨record, hrecord, hrebuilt⟩ := bind_eq_ok_iff.mp hplane
    change (errand.endingOn (access.lifecycle kind) store s.clock access.state s.find).result
      = .ok effects ↔ _
    rw [result_endingOn_eq_ok_iff]
    constructor
    · rintro ⟨after, hwork⟩
      exact ⟨record, store, messages, after, hrecord, hrebuilt, hwork⟩
    · rintro ⟨record', store', messages', after, hrecord', hrebuilt', hwork⟩
      cases hrecord.symm.trans hrecord'
      cases hrebuilt.symm.trans hrebuilt'
      exact ⟨after, hwork⟩

section Outcome

variable {σ Doc Obj : Type} [Document Doc] [Managed Obj] {b : Binding Doc Obj}
  {s : Surroundings σ} {f : Filter} {warnings : String} {errand : Errand} {access : Access}

theorem outcome_of_possible {effects : List Effect}
    (hresult : (errand.ending b s access).result = .ok effects)
    (hpossible : (perform access.state (s.find access.state) effects).obstacle = none) :
    ∃ log, (Action.manage errand access).outcome b s f warnings
      = ⟨0, (perform access.state (s.find access.state) effects).printed, log,
        (perform access.state (s.find access.state) effects).change.map
          fun change => (access.state, change)⟩ := by
  refine ⟨warnings ++ f.lines (errand.ending b s access).messages, ?_⟩
  unfold Action.outcome
  simp only [hresult, hpossible]

/-- An action that succeeds has effects that are possible. -/
theorem exists_possible_of_code
    (h : ((Action.manage errand access).outcome b s f warnings).code = 0) :
    ∃ effects, (errand.ending b s access).result = .ok effects
      ∧ (perform access.state (s.find access.state) effects).obstacle = none := by
  cases hresult : (errand.ending b s access).result with
  | error o =>
    unfold Action.outcome at h
    simp only [hresult] at h
    exact absurd h o.code_ne_zero
  | ok effects =>
    cases hpossible : (perform access.state (s.find access.state) effects).obstacle with
    | none => exact ⟨effects, rfl, hpossible⟩
    | some o =>
      unfold Action.outcome at h
      simp only [hresult, hpossible] at h
      exact absurd h o.code_ne_zero

end Outcome

/-! ### Processes -/

/-- A run of the program: what it finds, and its arguments. -/
structure Process (σ : Type) where
  surroundings : Surroundings σ
  arguments : List String

namespace Process

variable {σ : Type} {kind : Kind} {path : String} {desired : kind.Doc} {errand : Errand}

/-- What a process comes to. -/
def outcome (p : Process σ) : Outcome := run p.surroundings p.arguments

/-- What a process finds at a path. -/
def finds (p : Process σ) (path : String) : Content := p.surroundings.find path

/-- What a process leaves at a path. -/
def leaves (p : Process σ) (path : String) : Content :=
  (p.finds path).after <| p.outcome.change.bind fun change =>
    if change.1 = path then some change.2 else none

/-- Whether the arguments of a process ask for an action on objects of a kind. -/
def Invokes (p : Process σ) (kind : Kind) (action : Action) : Prop :=
  ∃ level, Invocation.read p.surroundings.environment p.arguments
    = .ok ⟨level, kind.subject, action⟩

/-- Whether a process has an errand on the simulated plane that an access leads to. -/
def Asks (p : Process σ) (kind : Kind) (access : Access) (errand : Errand) : Prop :=
  access.simulate = true ∧ ∃ level, Invocation.read p.surroundings.environment p.arguments
    = .ok ⟨level, kind.subject, .manage errand access⟩

/-- Whether a process is to apply a document that it finds in some file. -/
def Applies (p : Process σ) (kind : Kind) (path : String) (desired : kind.Doc) : Prop :=
  ∃ access file, access.state = path ∧ p.Asks kind access (.apply file)
    ∧ readDocument file (p.finds file) = .ok desired

/-- Whether a process is to plan a document that it finds in some file. -/
def Plans (p : Process σ) (kind : Kind) (path : String) (desired : kind.Doc) : Prop :=
  ∃ access file, access.state = path ∧ p.Asks kind access (.plan file)
    ∧ readDocument file (p.finds file) = .ok desired

/-- Whether a process is to read the recorded object. -/
def Reads (p : Process σ) (kind : Kind) (path : String) : Prop :=
  ∃ access, access.state = path ∧ p.Asks kind access .read

/-- Whether a process succeeds and prints that there is nothing to do. -/
def PrintsNoOp (p : Process σ) : Prop :=
  p.outcome.code = 0 ∧ p.outcome.output = Plan.noOp.toJson.pretty ++ "\n"

/-- Whether a process succeeds with certain effects, its record at a path. -/
structure Does (p : Process σ) (path : String) (effects : List Effect) : Prop where
  possible : (perform path (p.finds path) effects).obstacle = none
  code : p.outcome.code = 0
  output : p.outcome.output = (perform path (p.finds path) effects).printed
  leaves : p.leaves path = (p.finds path).after (perform path (p.finds path) effects).change

/-- The outcome of a process is that of the action that it is asked for. -/
theorem Invokes.outcome {p : Process σ} {action : Action} (h : p.Invokes kind action) :
    ∃ f warnings, p.outcome = action.outcome kind.binding p.surroundings f warnings := by
  obtain ⟨level, hread⟩ := h
  refine ⟨(filterOf p.surroundings.environment level).1,
    (filterOf p.surroundings.environment level).2, ?_⟩
  unfold Process.outcome run
  rw [hread]
  cases kind <;> rfl

theorem Asks.invokes {p : Process σ} {access : Access} (h : p.Asks kind access errand) :
    p.Invokes kind (.manage errand access) := h.2

theorem Does.of_outcome {p : Process σ} {effects : List Effect} {log : String}
    (hpossible : (perform path (p.finds path) effects).obstacle = none)
    (h : p.outcome = ⟨0, (perform path (p.finds path) effects).printed, log,
      (perform path (p.finds path) effects).change.map fun change => (path, change)⟩) :
    p.Does path effects where
  possible := hpossible
  code := by rw [h]
  output := by rw [h]
  leaves := by
    unfold Process.leaves
    rw [h]
    cases (perform path (p.finds path) effects).change with
    | none => rfl
    | some change => simp

/-- A process succeeds if its errand has effects that are possible. -/
theorem Asks.does {p : Process σ} {access : Access} {effects : List Effect}
    (h : p.Asks kind access errand)
    (hyields : errand.Yields kind access p.surroundings.clock p.finds effects)
    (hpossible : (perform access.state (p.finds access.state) effects).obstacle = none) :
    p.Does access.state effects := by
  obtain ⟨f, warnings, houtcome⟩ := h.invokes.outcome
  obtain ⟨log, hdone⟩ :=
    outcome_of_possible ((Errand.result_ending_eq_ok_iff h.1).mpr hyields) hpossible
  exact .of_outcome hpossible (houtcome.trans hdone)

/-- A process that succeeds has effects that are possible. -/
theorem Asks.exists_does {p : Process σ} {access : Access} (h : p.Asks kind access errand)
    (hcode : p.outcome.code = 0) :
    ∃ effects, errand.Yields kind access p.surroundings.clock p.finds effects
      ∧ p.Does access.state effects := by
  obtain ⟨f, warnings, houtcome⟩ := h.invokes.outcome
  rw [houtcome] at hcode
  obtain ⟨effects, hresult, hpossible⟩ := exists_possible_of_code hcode
  have hyields := (Errand.result_ending_eq_ok_iff h.1).mp hresult
  exact ⟨effects, hyields, h.does hyields hpossible⟩

end Process

end Provisioning.Command
