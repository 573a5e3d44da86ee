import Provisioning.Proofs.Lifecycle.Announced

/-!
What an operation says that it leaves behind. An operation is truthful (`Truthful`) if no write was
accepted where it fails with the word that nothing was written. All operations but one always are:
`apply` reads the object with the identifier that it has carried the plan out for, and denies the
write if that identifier names no key.
-/

namespace Provisioning

/-- An object that cannot be read as a document of its kind is never said not to be there. -/
theorem Kind.residue_flatten (kind : Kind) (key : NaturalKey) (object : kind.Obj)
    (prior : Option kind.Doc) :
    ErrorsIn (fun e => e.residue ≠ .clear) (kind.binding.flatten key object prior) := by
  cases kind with
  | group =>
    intro e he
    rw [Document.Group.residue_flatten key object prior e he]
    exact nofun
  | service =>
    intro e he
    rw [Document.Service.residue_flatten key object prior e he]
    exact nofun

namespace Lifecycle

variable {σ Doc Obj α : Type} {w : World σ Obj}

/-- Where an operation fails with the word that nothing was written, no write was accepted. -/
def Truthful (x : Operation σ Obj α) (w : World σ Obj) : Prop :=
  ∀ failure after, x w = .error (.failed failure) after → failure.residue = .clear →
    Adds (fun c => c.isAccepted = false) w after

theorem Truthful.of_halted {x : Operation σ Obj α} {done : α → World σ Obj → Prop}
    {changes : List (Demand Obj)}
    (h : Ends x w done fun stop after => Halted changes stop w after) : Truthful x w :=
  fun _ _ hrun hclear => (h.of_error hrun).refused hclear

theorem Truthful.of_reads {x : Operation σ Obj α} {done : α → World σ Obj → Prop}
    (h : Ends x w done fun _ after => Makes [] w after) : Truthful x w :=
  fun _ _ hrun _ => (h.of_error hrun).adds nofun fun _ => Call.isAccepted_of_reads

variable [Managed Obj] {l : Lifecycle σ Doc Obj} {desired : Doc} {prior : Option Doc}
  {id : Option String}

/-- An identifier that names no key is said to have left nothing behind. -/
theorem residue_keyOf {id : String} {failure : Failure} (h : keyOf Obj id = .error failure) :
    failure.residue = .clear := by
  unfold keyOf at h
  split at h
  · cases h
    rfl
  · split at h
    · cases h
    · cases h
      rfl

/-- What carries out a plan to an identifier that names no key has had a write accepted. -/
theorem accepted_of_keyOf {plan : Plan} {id' : String} {failure : Failure}
    {after : World σ Obj} (hplan : plan = .create ∨ ∃ i key, id = some i ∧ keyOf Obj i = .ok key)
    (hcarried : l.carryOut id desired plan w = .ok id' after)
    (hkey : keyOf Obj id' = .error failure) :
    ∃ calls, Makes calls w after ∧ ∃ c ∈ calls, c.isAccepted = true := by
  obtain ⟨calls, hmade, hfulfils⟩ := (carryOut_makes l desired w hplan).of_ok hcarried
  refine ⟨calls, hmade, hfulfils.accepted ?_⟩
  -- Where nothing is to be done, the identifier stays the one that the object was read by.
  rintro rfl
  obtain ⟨i, key, rfl, hi⟩ := hplan.resolve_left nofun
  cases hcarried
  cases hi.symm.trans hkey

/-- Where an identifier that names no key is what a plan was carried out to, `apply` denies it. -/
theorem apply_of_keyOf {plan : Plan} {id' : String} {failure : Failure} {w₁ w₂ : World σ Obj}
    (hplan : l.plan id desired prior w = .ok plan w₁)
    (hcarried : l.carryOut id desired plan (w₁.noted (.planned (l.binding.key desired) plan))
      = .ok id' w₂) (hkey : keyOf Obj id' = .error failure) :
    l.apply id desired prior w = .error (.failed failure) w₂ := by
  have hread : l.read id' (some desired) w₂ = .error (.failed failure) w₂ :=
    run_bind_of_error (run_parseId_of_error hkey)
  unfold apply
  rw [run_bind_of_ok hplan, run_note_bind, run_bind_of_ok hcarried]
  exact run_bind_of_error hread

/-- Where what cannot be read is never said not to be there, `apply` is truthful exactly if it does
not carry its plan out to an identifier that names no key. -/
theorem apply_truthful_iff
    (hflatten : ∀ key object prior, ErrorsIn (fun e => e.residue ≠ .clear)
      (l.binding.flatten key object prior)) :
    Truthful (l.apply id desired prior) w ↔ ∀ plan w₁ id' w₂ failure,
      l.plan id desired prior w = .ok plan w₁ →
      l.carryOut id desired plan (w₁.noted (.planned (l.binding.key desired) plan))
        = .ok id' w₂ → keyOf Obj id' ≠ .error failure := by
  constructor
  · intro htruthful plan w₁ id' w₂ failure hplan hcarried hkey
    obtain ⟨hreads, hkeyed⟩ := (plan_makes l id desired prior w).of_ok hplan
    obtain ⟨calls, hmade, c, hc, haccepted⟩ := accepted_of_keyOf hkeyed hcarried hkey
    replace hmade : Makes calls w w₂ := (hreads.noted _).trans hmade
    have hrun := apply_of_keyOf hplan hcarried hkey
    refine hmade.not_adds hc ?_ (htruthful failure w₂ hrun (residue_keyOf hkey))
    rw [haccepted]
    exact nofun
  · intro hkeyed failure after hrun hclear
    cases (apply_makes l id desired prior w).of_error hrun with
    | planning _ hmade => exact hmade.adds nofun fun _ => Call.isAccepted_of_reads
    | carrying _ hhalted => exact hhalted.refused hclear
    -- The last read may deny the write, for it tells nothing of what came before it.
    | reading hplan hcarried _ _ hdenied =>
      rcases hdenied hclear with ⟨failure', -, hkey⟩ | ⟨key, object, e, he, hresidue⟩
      · exact absurd hkey (hkeyed _ _ _ _ failure' hplan hcarried)
      · exact absurd hresidue (hflatten key object (some desired) e he)

end Lifecycle

open Lifecycle

/-- Whatever the plane answers, no operation but `apply` says that nothing was written where a write
was accepted; and `apply` does exactly where it carried its plan out to an identifier that names no
key. -/
theorem clear_truthful_iff {σ : Type} (kind : Kind) (client : Client σ kind.Obj)
    (timeouts : Timeouts) (patience : Nat) (id : Option String) (desired : kind.Doc)
    (prior : Option kind.Doc) (w : World σ kind.Obj) :
    let l := kind.through client timeouts patience
    Truthful (l.create desired) w
    ∧ (∀ i, Truthful (l.read i prior) w)
    ∧ (∀ i, Truthful (l.update i desired) w)
    ∧ (∀ i, Truthful (l.delete i) w)
    ∧ Truthful (l.plan id desired prior) w
    ∧ (Truthful (l.apply id desired prior) w ↔ ∀ plan w₁ id' w₂ failure,
      l.plan id desired prior w = .ok plan w₁ →
      l.carryOut id desired plan (w₁.noted (.planned (l.binding.key desired) plan)) = .ok id' w₂ →
      keyOf kind.Obj id' ≠ .error failure) := by
  intro l
  refine ⟨.of_halted (create_makes l desired w), fun i => ?_,
    fun i => .of_halted (update_makes l i desired w), fun i => .of_halted (delete_makes l i w),
    .of_reads (plan_makes l id desired prior w), apply_truthful_iff kind.residue_flatten⟩
  exact .of_reads ((read_makes l i prior w).mono (fun _ _ h => h) fun _ _ h => h.1)

/-- A service with a slash in its name is created, but the identifier that comes back names no key.
`apply` then says that nothing was written. -/
theorem apply_slash_denies_write : ¬ ∀ (σ : Type) (kind : Kind) (client : Client σ kind.Obj)
    (timeouts : Timeouts) (patience : Nat) (id : Option String) (desired : kind.Doc)
    (prior : Option kind.Doc) (w : World σ kind.Obj),
    Truthful ((kind.through client timeouts patience).apply id desired prior) w := by
  intro h
  obtain ⟨id, after, hcreate⟩ := exists_of_succeeds
    (x := (Kind.service.lifecycle .default 1).create (Document.Service.least "a/b"))
    (w := (emptyWorld _).noted (.planned ⟨"rg", "a/b"⟩ .create)) (by decide +kernel)
  have hid : id = Store.idFor Object.Service ⟨"rg", "a/b"⟩ :=
    ((create_ends rfl _ _).of_ok hcreate).id_eq
  have hkey : (keyOf Object.Service id).isOk = false := by
    rw [hid]
    decide +kernel
  cases hfailure : keyOf Object.Service id with
  | ok key =>
    rw [hfailure] at hkey
    cases hkey
  | error failure =>
    have hvalid : (Kind.service.binding.report (Document.Service.least "a/b")).isValid = true := by
      decide +kernel
    have hplan : (Kind.service.through (Store.client Object.Service) .default 1).plan none
        (Document.Service.least "a/b") none (emptyWorld _) = .ok .create (emptyWorld _) :=
      run_bind_of_ok (validate_of_valid hvalid)
    have htruthful := h _ .service (Store.client Object.Service) .default 1 none
      (Document.Service.least "a/b") none (emptyWorld _)
    exact (apply_truthful_iff (Kind.residue_flatten .service)).mp htruthful .create _ id after
      failure hplan hcreate hfailure

end Provisioning
