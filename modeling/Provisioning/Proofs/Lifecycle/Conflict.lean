import Provisioning.Proofs.Lifecycle.Kinds

/-!
Conflicts. A creation looks for an object under its key before it writes, so where `apply` creates,
a conflict leaves every object as it was. Where `apply` replaces, the look comes after the deletion:
a conflict then costs the object of the identifier, and that object alone.
-/

namespace Provisioning

open Lifecycle

section Frames

variable {Obj : Type} [Managed Obj] {key k : NaturalKey} {object : Obj}
  {w after : World (Store Obj) Obj}

/-- Reading under one key loses no object, under whatever key it is stored. -/
theorem Looked.kept (h : Looked k w after) (hstored : w.plane.objects key = some object) :
    ∃ found, after.plane.objects key = some found ∧ Moved object found := by
  by_cases hkey : key = k
  · subst hkey
    exact h.present hstored
  · exact ⟨object, (h.others key hkey).trans hstored, Moved.refl object⟩

variable [LawfulManaged Obj]

/-- What was kept until now is kept by a read. -/
theorem Looked.still_kept {before : Obj} (h : Looked k w after)
    (hstored : ∃ found, w.plane.objects key = some found ∧ Moved before found) :
    ∃ found, after.plane.objects key = some found ∧ Moved before found := by
  obtain ⟨object, hobject, hmoved⟩ := hstored
  obtain ⟨found, hfound, hmoved'⟩ := h.kept hobject
  exact ⟨found, hfound, hmoved.trans hmoved'⟩

end Frames

namespace Lifecycle

/-- Whether an operation fails with a conflict in a world. -/
def conflicts {σ Obj α : Type} (x : Operation σ Obj α) (w : World σ Obj) : Bool :=
  match x w with
  | .error (.failed failure) _ => failure.toClass = .conflict
  | _ => false

theorem exists_of_conflicts {σ Obj α : Type} {x : Operation σ Obj α} {w : World σ Obj}
    (h : conflicts x w = true) :
    ∃ failure after, x w = .error (.failed failure) after ∧ failure.toClass = .conflict := by
  unfold conflicts at h
  cases hx : x w with
  | ok a after => simp [hx] at h
  | error stop after =>
    cases stop with
    | endless why => simp [hx] at h
    | failed failure => exact ⟨failure, after, rfl, by simpa [hx] using h⟩

variable {Doc Obj : Type} [Managed Obj] {l : Lifecycle (Store Obj) Doc Obj} {desired : Doc}
  {prior : Option Doc} {id : Option String} {plan : Plan} {key : NaturalKey} {object : Obj}
  {w after : World (Store Obj) Obj}

/-- Planning loses no object. -/
theorem Planned.kept (h : Planned l desired prior w id plan after)
    (hstored : w.plane.objects key = some object) :
    ∃ found, after.plane.objects key = some found ∧ Moved object found := by
  cases h with
  | fresh => exact ⟨object, hstored, Moved.refl object⟩
  | lost _ hlooked _ => exact hlooked.kept hstored
  | found _ hlooked _ _ => exact hlooked.kept hstored

/-- Where the plan is to create, the object of the identifier is not stored. -/
theorem Planned.keyOf_ne (h : Planned l desired prior w id plan after)
    (hplan : plan = .create ∨ id = none) (hstored : w.plane.objects key = some object) (i : String)
    (hid : id = some i) : keyOf Obj i ≠ .ok key := by
  intro hkey
  cases h with
  | fresh => cases hid
  | lost hkey' hlooked habsent =>
    cases hid
    rw [hkey] at hkey'
    cases hkey'
    obtain ⟨found, hfound, -⟩ := hlooked.kept hstored
    rw [habsent] at hfound
    cases hfound
  | found _ _ _ _ =>
    rcases hplan with hplan | hnone
    · exact ofDiff_ne_create _ _ hplan
    · cases hnone

end Lifecycle

/-- An object outlives an `apply` that fails with a conflict, its state aside, if and only if it is
not the object of the identifier that `apply` was given. -/
theorem apply_conflict_keeps_iff (kind : Kind) (timeouts : Timeouts) (patience : Nat)
    {id : Option String} {desired : kind.Doc} {prior : Option kind.Doc} {failure : Failure}
    {w after : World (Store kind.Obj) kind.Obj} {key : NaturalKey} {object : kind.Obj}
    (h : (kind.lifecycle timeouts patience).apply id desired prior w
      = .error (.failed failure) after)
    (hconflict : failure.toClass = .conflict) (hstored : w.plane.objects key = some object) :
    (∃ found, after.plane.objects key = some found ∧ Moved object found)
      ↔ ∀ i, id = some i → keyOf kind.Obj i ≠ .ok key := by
  obtain ⟨plan, w₁, hplanned, hclash⟩ :=
    (apply_ends rfl id desired prior w).of_error h hconflict
  have hkept := hplanned.kept hstored
  cases hclash with
  | atOnce hplan hlooked _ =>
    exact iff_of_true (hlooked.still_kept hkept) (hplanned.keyOf_ne hplan hstored)
  | @afterDeletion i deleted other fields _ middle _ hkey hgone hlooked hpresent =>
    by_cases hdeleted : key = deleted
    · subst hdeleted
      -- The object is gone before the look that finds the other one.
      have hother : key ≠ kind.binding.key desired := by
        rintro rfl
        cases hgone.absent.symm.trans hpresent
      refine iff_of_false ?_ fun hall => hall i rfl hkey
      rintro ⟨found, hfound, -⟩
      rw [hlooked.others key hother, hgone.absent] at hfound
      cases hfound
    · refine iff_of_true ?_ ?_
      · obtain ⟨found, hfound, hmoved⟩ := hkept
        exact hlooked.still_kept ⟨found, (hgone.others key hdeleted).trans hfound, hmoved⟩
      · rintro i' ⟨⟩ hkey'
        rw [hkey] at hkey'
        exact hdeleted (Except.ok.inj hkey').symm

/-- A world with the objects of the least services of some names. -/
def servicesWorld (names : List String) : World (Store Object.Service) Object.Service :=
  { emptyWorld Object.Service with
    plane := names.foldl
      (fun s name => s.insert ⟨"rg", name⟩ (Document.Service.least name).expand)
      (emptyWorld Object.Service).plane }

/-- A creation that finds the name taken leaves the object that has it. -/
theorem apply_conflict_keeps_taken : ∃ failure after,
    (Kind.service.lifecycle .default 1).apply none (Document.Service.least "b") none
      (servicesWorld ["b"]) = .error (.failed failure) after
    ∧ ∃ found, after.plane.objects ⟨"rg", "b"⟩ = some found := by
  obtain ⟨failure, after, h, hconflict⟩ := exists_of_conflicts
    (x := (Kind.service.lifecycle .default 1).apply none (Document.Service.least "b") none)
    (w := servicesWorld ["b"]) (by decide +kernel)
  obtain ⟨object, hstored⟩ : ∃ object,
      (servicesWorld ["b"]).plane.objects ⟨"rg", "b"⟩ = some object := ⟨_, rfl⟩
  obtain ⟨found, hfound, -⟩ :=
    (apply_conflict_keeps_iff .service .default 1 h hconflict hstored).mpr nofun
  exact ⟨failure, after, h, found, hfound⟩

/-- Renaming a service to a name that is taken fails with a conflict, and deletes it. -/
theorem apply_rename_loses_object : ¬ ∀ (kind : Kind) (timeouts : Timeouts) (patience : Nat)
    (id : Option String) (desired : kind.Doc) (prior : Option kind.Doc) (failure : Failure)
    (w after : World (Store kind.Obj) kind.Obj) (key : NaturalKey) (object : kind.Obj),
    (kind.lifecycle timeouts patience).apply id desired prior w = .error (.failed failure) after →
    failure.toClass = .conflict → w.plane.objects key = some object →
    ∃ found, after.plane.objects key = some found ∧ Moved object found := by
  intro h
  obtain ⟨failure, after, hrun, hconflict⟩ := exists_of_conflicts
    (x := (Kind.service.lifecycle .default 1).apply
      (some (Store.idFor Object.Service ⟨"rg", "a"⟩)) (Document.Service.least "b") none)
    (w := servicesWorld ["a", "b"]) (by decide +kernel)
  obtain ⟨found, hfound, -⟩ :=
    h .service .default 1 _ _ _ failure _ after ⟨"rg", "a"⟩ _ hrun hconflict (by rfl)
  have hgone : (left ((Kind.service.lifecycle .default 1).apply
      (some (Store.idFor Object.Service ⟨"rg", "a"⟩)) (Document.Service.least "b") none)
      (servicesWorld ["a", "b"])).plane.objects ⟨"rg", "a"⟩ = none := by
    decide +kernel
  rw [left, hrun] at hgone
  rw [hfound] at hgone
  cases hgone

end Provisioning
