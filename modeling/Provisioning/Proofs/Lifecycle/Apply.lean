import Provisioning.Proofs.Plane.Writes

/-!
What `apply` goes through on a simulated plane: it plans (`Planned`), carries the plan out
(`Carried`) and reads the object back. There is one case for each way in which each of the steps can
go, so that a fact about `apply` is a case analysis of the two. Where it stops because there is an
object already (`Clash`), it may have deleted another one before.
-/

namespace Provisioning.Lifecycle

variable {Doc Obj : Type} [Managed Obj] {l : Lifecycle (Store Obj) Doc Obj}

/-- The ways in which planning can go, from the identifier of an earlier object to the plan and the
world that planning leaves. -/
inductive Planned (l : Lifecycle (Store Obj) Doc Obj) (desired : Doc) (prior : Option Doc)
    (w : World (Store Obj) Obj) : Option String → Plan → World (Store Obj) Obj → Prop
  /-- There was no object before. -/
  | fresh : Planned l desired prior w none .create w
  /-- The object of the identifier is not there. -/
  | lost {id : String} {key : NaturalKey} {after : World (Store Obj) Obj}
      (hkey : keyOf Obj id = .ok key) (hlooked : Looked key w after)
      (habsent : after.plane.objects key = none) :
      Planned l desired prior w (some id) .create after
  /-- The object of the identifier is there, and was compared with the document. -/
  | found {id : String} {key : NaturalKey} {object : Obj} {current : Doc}
      {after : World (Store Obj) Obj} (hkey : keyOf Obj id = .ok key)
      (hlooked : Looked key w after) (hpresent : after.plane.objects key = some object)
      (hflatten : l.binding.flatten key object prior = .ok current) :
      Planned l desired prior w (some id)
        (.ofDiff l.binding.updatable (l.binding.diff current desired)) after

/-- The ways in which a plan can be carried out, from the identifier before to the one after. -/
inductive Carried (l : Lifecycle (Store Obj) Doc Obj) (desired : Doc) :
    Option String → Plan → String → World (Store Obj) Obj → World (Store Obj) Obj → Prop
  | noOp {id : String} {w : World (Store Obj) Obj} : Carried l desired (some id) .noOp id w w
  | update {id : String} {fields : List String} {w after : World (Store Obj) Obj}
      (hchanged : Changed l id desired w after) :
      Carried l desired (some id) (.update fields) id w after
  | replace {id id' : String} {key : NaturalKey} {fields : List String}
      {w middle after : World (Store Obj) Obj} (hkey : keyOf Obj id = .ok key)
      (hgone : Gone key w middle) (hcreated : Created l desired id' middle after) :
      Carried l desired (some id) (.replace fields) id' w after
  | create {id : Option String} {plan : Plan} {id' : String} {w after : World (Store Obj) Obj}
      (hplan : plan = .create ∨ id = none) (hcreated : Created l desired id' w after) :
      Carried l desired id plan id' w after

/-- The ways in which a plan can fail because there is an object under the key of the document: at
once, or after the object of the identifier was deleted. -/
inductive Clash (l : Lifecycle (Store Obj) Doc Obj) (desired : Doc) :
    Option String → Plan → World (Store Obj) Obj → World (Store Obj) Obj → Prop
  | atOnce {id : Option String} {plan : Plan} {object : Obj} {w after : World (Store Obj) Obj}
      (hplan : plan = .create ∨ id = none) (hlooked : Looked (l.binding.key desired) w after)
      (hpresent : w.plane.objects (l.binding.key desired) = some object) :
      Clash l desired id plan w after
  | afterDeletion {id : String} {key : NaturalKey} {object : Obj} {fields : List String}
      {w middle after : World (Store Obj) Obj} (hkey : keyOf Obj id = .ok key)
      (hgone : Gone key w middle) (hlooked : Looked (l.binding.key desired) middle after)
      (hpresent : middle.plane.objects (l.binding.key desired) = some object) :
      Clash l desired (some id) (.replace fields) w after

theorem ofDiff_ne_create (updatable : Bool) (d : Diff) : Plan.ofDiff updatable d ≠ .create := by
  unfold Plan.ofDiff
  split
  · exact nofun
  · split <;> exact nofun

/-- Nothing is planned where the documents agree, and only there. -/
theorem ofDiff_eq_noOp_iff (updatable : Bool) (d : Diff) :
    Plan.ofDiff updatable d = .noOp ↔ d.isEmpty = true := by
  unfold Plan.ofDiff
  constructor
  · intro h
    split at h
    · assumption
    · split at h <;> cases h
  · intro h
    rw [if_pos h]

section OnStore

variable (hclient : l.client = Store.client Obj)

include hclient

theorem plan_ends (id : Option String) (desired : Doc) (prior : Option Doc)
    (w : World (Store Obj) Obj) :
    Ends (l.plan id desired prior) w
      (fun plan after => (l.binding.report desired).isValid = true
        ∧ Planned l desired prior w id plan after)
      (fun stop _ => ¬ stop.IsConflict) := by
  unfold plan
  refine ends_bind (ends_validate (fun _ => nofun) fun hvalid => ?_)
  cases id with
  | none => exact ends_pure ⟨hvalid, .fresh⟩
  | some id =>
    refine (read_ends hclient id prior w).bind (fun _ _ h => h.1) ?_
    rintro found after ⟨key, hkey, hlooked, hshown⟩
    cases found with
    | none => exact ends_pure ⟨hvalid, .lost hkey hlooked hshown⟩
    | some current =>
      obtain ⟨object, hpresent, hflatten⟩ := hshown
      exact ends_pure ⟨hvalid, .found hkey hlooked hpresent hflatten⟩

variable [LawfulManaged Obj]

theorem carryOut_ends (id : Option String) (desired : Doc) (plan : Plan)
    (w : World (Store Obj) Obj) :
    Ends (l.carryOut id desired plan) w (fun id' after => Carried l desired id plan id' w after)
      (fun stop after => stop.IsConflict → Clash l desired id plan w after) := by
  have hcreate (hplan : plan = .create ∨ id = none) :
      Ends (l.create desired) w (fun id' after => Carried l desired id plan id' w after)
        (fun stop after => stop.IsConflict → Clash l desired id plan w after) := by
    refine (create_ends hclient desired w).mono (fun _ _ h => .create hplan h) ?_
    rintro stop after ⟨-, hclash⟩ hconflict
    obtain ⟨hlooked, object, hpresent⟩ := hclash hconflict
    exact .atOnce hplan hlooked hpresent
  unfold carryOut
  cases id with
  | none => cases plan <;> exact hcreate (Or.inr rfl)
  | some id =>
    cases plan with
    | create => exact hcreate (Or.inl rfl)
    | noOp => exact ends_pure .noOp
    | update fields =>
      refine (update_ends hclient id desired w).mono ?_ ?_
      · rintro id' after ⟨rfl, hchanged⟩
        exact .update hchanged
      · rintro stop after ⟨hstop, -⟩ hconflict
        exact absurd hconflict hstop
    | replace fields =>
      refine (delete_ends hclient id w).bind (fun _ _ h hconflict => absurd hconflict h.1) ?_
      rintro - middle ⟨key, hkey, hgone⟩
      refine (create_ends hclient desired middle).mono (fun _ _ h => .replace hkey hgone h) ?_
      rintro stop after ⟨-, hclash⟩ hconflict
      obtain ⟨hlooked, object, hpresent⟩ := hclash hconflict
      exact .afterDeletion hkey hgone hlooked hpresent

/-- What a success of `apply` went through. -/
structure Brought (l : Lifecycle (Store Obj) Doc Obj) (id : Option String) (desired : Doc)
    (prior : Option Doc) (w : World (Store Obj) Obj) (applied : Applied Doc)
    (after : World (Store Obj) Obj) : Prop where
  valid : (l.binding.report desired).isValid = true
  steps : ∃ w₁ w₂, Planned l desired prior w id applied.plan w₁
    ∧ Carried l desired id applied.plan applied.id
      (w₁.noted (.planned (l.binding.key desired) applied.plan)) w₂
    ∧ ∃ key object, keyOf Obj applied.id = .ok key ∧ Looked key w₂ after
      ∧ after.plane.objects key = some object
      ∧ l.binding.flatten key object (some desired) = .ok applied.configuration

theorem apply_ends (id : Option String) (desired : Doc) (prior : Option Doc)
    (w : World (Store Obj) Obj) :
    Ends (l.apply id desired prior) w
      (fun applied after => Brought l id desired prior w applied after)
      (fun stop after => stop.IsConflict → ∃ plan w₁, Planned l desired prior w id plan w₁
        ∧ Clash l desired id plan (w₁.noted (.planned (l.binding.key desired) plan)) after) := by
  unfold apply
  refine (plan_ends hclient id desired prior w).bind (fun _ _ h hconflict => absurd hconflict h) ?_
  rintro plan w₁ ⟨hvalid, hplanned⟩
  refine ends_bind (ends_note ((carryOut_ends hclient id desired plan _).bind ?_ ?_))
  · intro stop after hclash hconflict
    exact ⟨plan, w₁, hplanned, hclash hconflict⟩
  intro id' w₂ hcarried
  refine (read_ends hclient id' (some desired) w₂).bind
    (fun _ _ h hconflict => absurd hconflict h.1) ?_
  rintro found after ⟨key, hkey, hlooked, hshown⟩
  cases found with
  | none => exact ends_fail nofun
  | some configuration =>
    obtain ⟨object, hpresent, hflatten⟩ := hshown
    exact ends_pure
      ⟨hvalid, w₁, w₂, hplanned, hcarried, key, object, hkey, hlooked, hpresent, hflatten⟩

end OnStore

end Provisioning.Lifecycle
