import Provisioning.Proofs.Lifecycle.Changes
import Provisioning.Proofs.Lifecycle.Kinds

/-!
What a plan announces is what `apply` does. The calls that carry a plan out (`Fulfils`) are those
that the plan tells of, whatever the plane answers; where `apply` stops (`Interrupted`) it has made
the first of them, and none if there is no plan yet.
-/

namespace Provisioning.Lifecycle

variable {σ Doc Obj : Type} [Managed Obj]

section Announced

variable (l : Lifecycle σ Doc Obj) (desired : Doc)

/-- The changes that a plan announces. -/
def announced (id : Option String) : Plan → List (Demand Obj)
  | .noOp => []
  | .create => l.writes desired
  | .update _ => l.writes desired
  | .replace _ => id.elim [] (deletions Obj) ++ l.writes desired

/-- The changes that carry out a plan, with their answers: the write of the object that the document
describes, under its key, and before it, where the object is replaced, the deletion under the key of
the identifier. -/
inductive Fulfils : Option String → Plan → List (Call Obj) → Prop
  | noOp {id : Option String} : Fulfils id .noOp []
  | create {id : Option String} {object stored : Obj}
      (hexpand : l.binding.expand desired = .ok object) :
      Fulfils id .create [.put (l.binding.key desired) object (.ok stored)]
  | update {id : Option String} {fields : List String} {object stored : Obj}
      (hexpand : l.binding.expand desired = .ok object) :
      Fulfils id (.update fields) [.put (l.binding.key desired) object (.ok stored)]
  | replace {id : String} {key : NaturalKey} {fields : List String}
      {answer : Except ClientError Unit} {object stored : Obj} (hkey : keyOf Obj id = .ok key)
      (hexpand : l.binding.expand desired = .ok object) :
      Fulfils (some id) (.replace fields)
        [.delete key answer, .put (l.binding.key desired) object (.ok stored)]

/-- The ways in which `apply` stops: while it plans, while it carries the plan out, or when it reads
the object afterwards. -/
inductive Interrupted (id : Option String) (prior : Option Doc) (w : World σ Obj) (stop : Stop)
    (after : World σ Obj) : Prop
  | planning (hplan : ∃ w₁, l.plan id desired prior w = .error stop w₁) (hmade : Makes [] w after)
  | carrying {plan : Plan} {w₁ : World σ Obj} (hplan : l.plan id desired prior w = .ok plan w₁)
      (hhalted : Halted (l.announced desired id plan) stop w after)
  | reading {plan : Plan} {id' : String} {w₁ w₂ : World σ Obj} {calls : List (Call Obj)}
      (hplan : l.plan id desired prior w = .ok plan w₁)
      (hcarried : l.carryOut id desired plan
        (w₁.noted (.planned (l.binding.key desired) plan)) = .ok id' w₂)
      (hmade : Makes calls w after) (hfulfils : l.Fulfils desired id plan calls)
      (hclear : stop.IsClear →
        (∃ failure, stop = .failed failure ∧ keyOf Obj id' = .error failure)
        ∨ ∃ key object e, l.binding.flatten key object (some desired) = .error e
          ∧ e.residue = .clear)

end Announced

variable {l : Lifecycle σ Doc Obj} {desired : Doc} {prior : Option Doc} {id : Option String}
  {plan : Plan} {calls : List (Call Obj)} {w after : World σ Obj}

/-- The changes that carry out a plan are those that it announces. -/
theorem Fulfils.changes_eq (h : l.Fulfils desired id plan calls) :
    calls.filterMap Call.demand? = l.announced desired id plan := by
  cases h with
  | noOp => rfl
  | create hexpand => exact (writes_of_ok hexpand).symm
  | update hexpand => exact (writes_of_ok hexpand).symm
  | replace hkey hexpand =>
    simp only [announced, Option.elim_some, deletions_of_ok hkey, writes_of_ok hexpand]
    rfl

/-- Where a plan takes a write, it is accepted. -/
theorem Fulfils.accepted (h : l.Fulfils desired id plan calls) (hplan : plan ≠ .noOp) :
    ∃ c ∈ calls, c.isAccepted = true := by
  cases h with
  | noOp => exact absurd rfl hplan
  | create _ => exact ⟨_, List.mem_cons_self, rfl⟩
  | update _ => exact ⟨_, List.mem_cons_self, rfl⟩
  | replace _ _ => exact ⟨_, List.mem_cons_of_mem _ List.mem_cons_self, rfl⟩

variable (l) in
/-- A plan is carried out by the changes that it announces, or stops after the first of them. -/
theorem carryOut_makes (desired : Doc) (w : World σ Obj)
    (hplan : plan = .create ∨ ∃ i key, id = some i ∧ keyOf Obj i = .ok key) :
    Ends (l.carryOut id desired plan) w
      (fun _ after => ∃ calls, Makes calls w after ∧ l.Fulfils desired id plan calls)
      (fun stop after => Halted (l.announced desired id plan) stop w after) := by
  have hcreate : Ends (l.create desired) w
      (fun _ after => ∃ calls, Makes calls w after ∧ l.Fulfils desired id .create calls)
      (fun stop after => Halted (l.announced desired id .create) stop w after) := by
    refine (create_makes l desired w).mono ?_ fun _ _ h => h
    rintro id' after ⟨object, stored, hexpand, hmade⟩
    exact ⟨_, hmade, .create hexpand⟩
  unfold carryOut
  rcases hplan with rfl | ⟨i, key, rfl, hkey⟩
  · exact hcreate
  cases plan with
  | create => exact hcreate
  | noOp => exact ends_pure ⟨[], .refl w, .noOp⟩
  | update fields =>
    refine (update_makes l i desired w).mono ?_ fun _ _ h => h
    rintro id' after ⟨object, stored, hexpand, hmade⟩
    exact ⟨_, hmade, .update hexpand⟩
  | replace fields =>
    refine (delete_makes l i w).bind (fun _ _ h => h.append) ?_
    rintro - w₁ ⟨key', answer, hkey', hdeleted⟩
    refine (create_makes l desired w₁).mono ?_ ?_
    · rintro id' after ⟨object, stored, hexpand, hmade⟩
      exact ⟨_, hdeleted.trans hmade, .replace hkey' hexpand⟩
    · intro stop after hhalted
      have hrefused : ∀ c ∈ [(.delete key' answer : Call Obj)], c.isAccepted = false := by
        intro c hc
        rw [List.mem_singleton.mp hc]
        rfl
      have h := hhalted.after hdeleted hrefused
      rwa [announced, Option.elim_some, deletions_of_ok hkey']

variable (l) in
theorem apply_makes (id : Option String) (desired : Doc) (prior : Option Doc) (w : World σ Obj) :
    Ends (l.apply id desired prior) w
      (fun applied after => (∃ w₁, l.plan id desired prior w = .ok applied.plan w₁)
        ∧ ∃ calls, Makes calls w after ∧ l.Fulfils desired id applied.plan calls)
      (fun stop after => l.Interrupted desired id prior w stop after) := by
  unfold apply
  refine (plan_makes l id desired prior w).with_run.bind ?_ ?_
  · rintro stop after ⟨hrun, hmade⟩
    exact .planning ⟨after, hrun⟩ hmade
  rintro plan w₁ ⟨hplan, hreads, hkeyed⟩
  replace hreads := hreads.noted (.planned (l.binding.key desired) plan)
  refine ends_bind (ends_note ((carryOut_makes l desired _ hkeyed).with_run.bind ?_ ?_))
  · rintro stop after ⟨-, hhalted⟩
    exact .carrying hplan (hhalted.after_reads hreads)
  rintro id' w₂ ⟨hcarried, calls, hmade, hfulfils⟩
  replace hmade : Makes calls w w₂ := hreads.trans hmade
  refine (read_makes l id' (some desired) w₂).bind ?_ ?_
  · rintro stop after ⟨hread, hclear⟩
    exact .reading hplan hcarried (hmade.trans_reads hread) hfulfils hclear
  rintro found after ⟨hread, -⟩
  cases found with
  | none =>
    exact ends_fail (.reading hplan hcarried (hmade.trans_reads hread) hfulfils nofun)
  | some configuration =>
    exact ends_pure ⟨⟨w₁, hplan⟩, calls, hmade.trans_reads hread, hfulfils⟩

/-- `apply` does what its plan announces. Reading and planning change nothing; an `apply` that
succeeds has the plan that planning comes to, and makes the changes that it announces, no others and
in their order; and one that stops has made the first of them, or none if it stopped while it
planned. -/
theorem apply_as_announced (l : Lifecycle σ Doc Obj) (id : Option String) (desired : Doc)
    (prior : Option Doc) (w : World σ Obj) :
    (∀ i, Adds (fun c => c.mutates = false) w (left (l.read i prior) w))
    ∧ Adds (fun c => c.mutates = false) w (left (l.plan id desired prior) w)
    ∧ (∀ applied after, l.apply id desired prior w = .ok applied after →
      (∃ w₁, l.plan id desired prior w = .ok applied.plan w₁)
        ∧ ∃ calls, Makes calls w after ∧ l.Fulfils desired id applied.plan calls)
    ∧ ∀ stop after, l.apply id desired prior w = .error stop after →
      (∃ w₁, l.plan id desired prior w = .error stop w₁) ∧ Makes [] w after
      ∨ ∃ plan w₁ calls, l.plan id desired prior w = .ok plan w₁ ∧ Makes calls w after
        ∧ calls.filterMap Call.demand? <+: l.announced desired id plan := by
  refine ⟨fun i => ?_, ?_, fun _ _ => (apply_makes l id desired prior w).of_ok, ?_⟩
  · exact Makes.nil_iff.mp
      ((read_makes l i prior w).mono (fun _ _ h => h.1) fun _ _ h => h.1).of_left
  · exact Makes.nil_iff.mp
      ((plan_makes l id desired prior w).mono (fun _ _ h => h.1) fun _ _ h => h).of_left
  · intro stop after hrun
    cases (apply_makes l id desired prior w).of_error hrun with
    | planning hplan hmade => exact .inl ⟨hplan, hmade⟩
    | carrying hplan hhalted =>
      obtain ⟨calls, hmade, hprefix, -⟩ := hhalted
      exact .inr ⟨_, _, calls, hplan, hmade, hprefix⟩
    | reading hplan _ hmade hfulfils _ =>
      exact .inr ⟨_, _, _, hplan, hmade, hfulfils.changes_eq ▸ List.prefix_rfl⟩

/-- A service that is applied where there is none is written once. -/
theorem apply_as_announced_web : ∃ applied after calls,
    (Kind.service.lifecycle .default 1).apply none (Document.Service.least "web") none
      (emptyWorld _) = .ok applied after
    ∧ Makes calls (emptyWorld _) after
    ∧ (Kind.service.lifecycle .default 1).Fulfils (Document.Service.least "web") none applied.plan
      calls := by
  obtain ⟨applied, after, h⟩ := exists_of_succeeds
    (x := (Kind.service.lifecycle .default 1).apply none (Document.Service.least "web") none)
    (w := emptyWorld _) (by decide +kernel)
  obtain ⟨-, -, hdone, -⟩ := apply_as_announced (Kind.service.lifecycle .default 1) none
    (Document.Service.least "web") none (emptyWorld _)
  obtain ⟨-, calls, hmade, hfulfils⟩ := hdone applied after h
  exact ⟨applied, after, calls, h, hmade, hfulfils⟩

end Provisioning.Lifecycle
