import Provisioning.Proofs.Lifecycle.Kinds
import Provisioning.Proofs.Lifecycle.Identity

/-!
Convergence. Once `apply` has brought an object in line with a document, the object reads as the
document (`Settled`), and goes on to do so while it is only read. So there is nothing to do for a
second `apply`, whether it knows the secrets or not.
-/

namespace Provisioning

namespace Lifecycle

variable {Doc Obj : Type} [Managed Obj] {l : Lifecycle (Store Obj) Doc Obj}
  {canonical : Doc → Doc} {normal : Obj → Obj} {id : String} {desired : Doc}
  {prior : Option Doc} {w after : World (Store Obj) Obj}

/-! ### Reading an object that is there -/

/-- An object that can be read in whatever state it is, is read. -/
theorem read_present_ends (hclient : l.client = Store.client Obj) {key : NaturalKey}
    {object : Obj} {current : Doc} (hkey : keyOf Obj id = .ok key)
    (hpresent : w.plane.objects key = some object)
    (hflatten : ∀ moved, Moved object moved → l.binding.flatten key moved prior = .ok current) :
    Ends (l.read id prior) w (fun found after => found = some current ∧ Looked key w after)
      fun _ _ => False := by
  unfold read
  refine ends_bind (ends_parseId ?_ ?_)
  · intro failure hfailure
    rw [hkey] at hfailure
    cases hfailure
  intro key' hkey'
  have hsame : key = key' := Except.ok.inj (hkey.symm.trans hkey')
  subst hsame
  refine (get_ends hclient key w).bind (fun _ _ h => h) ?_
  rintro answer after ⟨hlooked, htold⟩
  obtain ⟨moved, hmoved, hmove⟩ := hlooked.present hpresent
  cases answer with
  | error e =>
    obtain ⟨-, habsent⟩ := htold
    cases hmoved.symm.trans habsent
  | ok found =>
    have hfound : moved = found := Option.some.inj (hmoved.symm.trans htold)
    subst hfound
    simp only [hflatten moved hmove]
    exact ends_pure ⟨rfl, hlooked⟩

/-! ### Settled objects -/

/-- Whether the document that is known, if there is one, says what another one says. -/
def Known (canonical : Doc → Doc) (prior : Option Doc) (desired : Doc) : Prop :=
  ∀ known, prior = some known → canonical known = canonical desired

theorem known_none : Known canonical none desired := nofun

theorem known_some {known : Doc} (h : canonical known = canonical desired) :
    Known canonical (some known) desired := by
  rintro _ ⟨⟩
  exact h

/-- The object of a document is there, its identifier names it, and the document that it is read as
does not differ. -/
structure Settled (l : Lifecycle (Store Obj) Doc Obj) (id : String) (desired : Doc)
    (w : World (Store Obj) Obj) : Prop where
  valid : (l.binding.report desired).isValid = true
  keyOf_id : keyOf Obj id = .ok (l.binding.key desired)
  agrees : ∃ object prior current, w.plane.objects (l.binding.key desired) = some object
    ∧ l.binding.flatten (l.binding.key desired) object prior = .ok current
    ∧ (l.binding.diff current desired).isEmpty = true

theorem Settled.noted (n : Note) (h : Settled l id desired w) : Settled l id desired (w.noted n) :=
  ⟨h.valid, h.keyOf_id, h.agrees⟩

section Faithful

variable (hclient : l.client = Store.client Obj) (hb : l.binding.Faithful canonical normal)

include hb

theorem Settled.looked (h : Settled l id desired w)
    (hlooked : Looked (l.binding.key desired) w after) : Settled l id desired after := by
  obtain ⟨object, prior, current, hpresent, hflatten, hdiff⟩ := h.agrees
  obtain ⟨moved, hmoved, hmove⟩ := hlooked.present hpresent
  exact ⟨h.valid, h.keyOf_id, moved, prior, current, hmoved, hb.flatten_moved hmove hflatten, hdiff⟩

/-- What is known of a settled object, with or without its secrets, does not differ. -/
theorem Settled.flatten (h : Settled l id desired w)
    (hprior : Known canonical prior desired) :
    ∃ object current, w.plane.objects (l.binding.key desired) = some object
      ∧ (∀ moved, Moved object moved →
        l.binding.flatten (l.binding.key desired) moved prior = .ok current)
      ∧ (l.binding.diff current desired).isEmpty = true
      ∧ ∀ e, prior = some e → canonical current = canonical desired := by
  obtain ⟨object, earlier, read, hpresent, hflatten, hdiff⟩ := h.agrees
  cases prior with
  | none =>
    obtain ⟨current, hcurrent, hagrees⟩ := hb.reread_blind h.valid hflatten hdiff
    exact ⟨object, current, hpresent, fun moved hmove => hb.flatten_moved hmove hcurrent, hagrees,
      nofun⟩
  | some e =>
    obtain ⟨current, hcurrent, hsame⟩ := hb.reread h.valid hflatten hdiff (hprior e rfl)
    exact ⟨object, current, hpresent, fun moved hmove => hb.flatten_moved hmove hcurrent,
      hb.diff_of_canonical h.valid hsame, fun _ _ => hsame⟩

/-- An object that was written for a document is settled. -/
theorem Settled.of_written {object : Obj} (hvalid : (l.binding.report desired).isValid = true)
    (hkey : keyOf Obj id = .ok (l.binding.key desired))
    (hexpand : l.binding.expand desired = .ok object)
    (h : Written (l.binding.key desired) object w after) : Settled l id desired after := by
  obtain ⟨s, hfiled⟩ := h.filed
  obtain ⟨current, hflatten, hsame⟩ := hb.flatten_filed s hvalid hexpand
  exact ⟨hvalid, hkey, _, some desired, current, hfiled, hflatten,
    hb.diff_of_canonical hvalid hsame⟩

/-- An object that was created for a document is settled, if its identifier can name it. -/
theorem Settled.of_created [LawfulManaged Obj] (hplain : (l.binding.key desired).Plain)
    (h : Created l desired id w after) : Settled l id desired after := by
  obtain ⟨object, hexpand, hwritten⟩ := h.written
  obtain ⟨hscope, hname⟩ := hb.key_nonempty h.valid
  exact .of_written hb h.valid ((h.keyOf_id_iff hscope hname).mpr hplain) hexpand hwritten

/-- An object about which nothing was planned is settled. -/
theorem Planned.settled {i : String} (hvalid : (l.binding.report desired).isValid = true)
    (h : Planned l desired prior w (some i) .noOp after) : Settled l i desired after := by
  generalize hplan : Plan.noOp = plan at h
  cases h with
  | lost _ _ _ => cases hplan
  | @found _ key object current _ hkey _ hpresent hflatten =>
    have hempty := (ofDiff_eq_noOp_iff _ _).mp hplan.symm
    have hsame : l.binding.key desired = key :=
      (hb.key_of_diff hempty).symm.trans (hb.key_flatten hflatten)
    subst hsame
    exact ⟨hvalid, hkey, object, prior, current, hpresent, hflatten, hempty⟩

/-- What `apply` leaves is settled, and is read as a document of the canonical form of the one that
it was given. -/
theorem Brought.settled [LawfulManaged Obj] {first : Option String} {applied : Applied Doc}
    (hplain : (l.binding.key desired).Plain)
    (h : Brought l first desired prior w applied after) :
    Settled l applied.id desired after ∧ canonical applied.configuration = canonical desired := by
  obtain ⟨w₁, w₂, hplanned, hcarried, key, object, hkey, hlooked, hpresent, hread⟩ := h.steps
  have hsettled : Settled l applied.id desired w₂ := by
    generalize hplan : applied.plan = plan at hplanned hcarried
    generalize applied.id = id' at hcarried hkey
    cases hcarried with
    | noOp => exact (hplanned.settled hb h.valid).noted _
    | update hchanged =>
      obtain ⟨written, hexpand, hwritten⟩ := hchanged.written
      exact .of_written hb h.valid hchanged.keyOf_id hexpand hwritten
    | replace _ _ hcreated => exact .of_created hb hplain hcreated
    | create _ hcreated => exact .of_created hb hplain hcreated
  have hsame : l.binding.key desired = key := Except.ok.inj (hsettled.keyOf_id.symm.trans hkey)
  subst hsame
  have hafter := hsettled.looked hb hlooked
  obtain ⟨object', current, hpresent', hflatten, -, hcurrent⟩ :=
    hafter.flatten hb (known_some rfl)
  have hobject : object = object' := Option.some.inj (hpresent.symm.trans hpresent')
  subst hobject
  have hconfiguration : current = applied.configuration :=
    Except.ok.inj ((hflatten object (Moved.refl object)).symm.trans hread)
  exact ⟨hafter, hconfiguration ▸ hcurrent desired rfl⟩

include hclient

/-- There is nothing to do about a settled object. -/
theorem Settled.plan_ends (h : Settled l id desired w)
    (hprior : Known canonical prior desired) :
    Ends (l.plan (some id) desired prior) w
      (fun plan after => plan = .noOp ∧ Looked (l.binding.key desired) w after)
      fun _ _ => False := by
  obtain ⟨object, current, hpresent, hflatten, hdiff, -⟩ := h.flatten hb hprior
  unfold plan
  refine ends_bind (ends_validate (fun hinvalid => ?_) fun _ => ?_)
  · rw [h.valid] at hinvalid
    cases hinvalid
  refine (read_present_ends hclient h.keyOf_id hpresent hflatten).bind (fun _ _ h => h) ?_
  rintro found after ⟨rfl, hlooked⟩
  exact ends_pure ⟨(ofDiff_eq_noOp_iff _ _).mpr hdiff, hlooked⟩

/-- A second `apply` finds a settled object settled, and only reads. -/
theorem Settled.apply_ends [LawfulManaged Obj] (h : Settled l id desired w)
    (hprior : Known canonical prior desired) :
    Ends (l.apply (some id) desired prior) w
      (fun applied after => applied.plan = .noOp ∧ applied.id = id
        ∧ Looked (l.binding.key desired) w after)
      fun _ _ => False := by
  unfold apply
  refine (h.plan_ends hclient hb hprior).bind (fun _ _ h => h) ?_
  rintro plan w₁ ⟨rfl, hlooked⟩
  replace hlooked := hlooked.noted (.planned (l.binding.key desired) .noOp)
  refine ends_bind (ends_note (ends_bind (ends_pure ?_)))
  have hsettled := h.looked hb hlooked
  obtain ⟨object, current, hpresent, hflatten, -⟩ := hsettled.flatten hb (known_some rfl)
  refine (read_present_ends hclient hsettled.keyOf_id hpresent hflatten).bind (fun _ _ h => h) ?_
  rintro found w₂ ⟨rfl, hread⟩
  exact ends_pure ⟨rfl, rfl, hlooked.trans hread⟩

end Faithful

end Lifecycle

open Lifecycle

/-- After an `apply` there is nothing left to plan, for one who knows the document that it returned
as for one who knows none, and a second `apply` only reads. -/
theorem apply_converges (kind : Kind) (timeouts : Timeouts) (patience : Nat) {id : Option String}
    {desired : kind.Doc} {prior : Option kind.Doc} {applied : Applied kind.Doc}
    {w after : World (Store kind.Obj) kind.Obj} (hplain : (kind.binding.key desired).Plain)
    (h : (kind.lifecycle timeouts patience).apply id desired prior w = .ok applied after) :
    (∃ v, (kind.lifecycle timeouts patience).plan (some applied.id) desired
      (some applied.configuration) after = .ok .noOp v)
    ∧ (∃ v, (kind.lifecycle timeouts patience).plan (some applied.id) desired none after
      = .ok .noOp v)
    ∧ ∃ again v, (kind.lifecycle timeouts patience).apply (some applied.id) desired
        (some applied.configuration) after = .ok again v
      ∧ Adds (fun c => c.mutates = false) after v := by
  have hbrought := (apply_ends rfl id desired prior w).of_ok h
  obtain ⟨hsettled, hsame⟩ := hbrought.settled kind.faithful hplain
  have hknown := known_some hsame
  obtain ⟨plan, v, hplan, rfl, -⟩ := (hsettled.plan_ends rfl kind.faithful hknown).exists_ok
  obtain ⟨blind, v', hblind, rfl, -⟩ :=
    (hsettled.plan_ends rfl kind.faithful known_none).exists_ok
  obtain ⟨again, v'', hagain, -, -, hlooked⟩ :=
    (hsettled.apply_ends rfl kind.faithful hknown).exists_ok
  exact ⟨⟨v, hplan⟩, ⟨v', hblind⟩, again, v'', hagain, hlooked.reads⟩

/-- A creation after which there is nothing left to do. -/
theorem apply_converges_web : ∃ applied after again v,
    (Kind.service.lifecycle .default 1).apply none (Document.Service.least "web") none
      (emptyWorld _) = .ok applied after
    ∧ (Kind.service.lifecycle .default 1).apply (some applied.id) (Document.Service.least "web")
      (some applied.configuration) after = .ok again v := by
  obtain ⟨applied, after, h⟩ := exists_of_succeeds
    (x := (Kind.service.lifecycle .default 1).apply none (Document.Service.least "web") none)
    (w := emptyWorld _) (by decide +kernel)
  obtain ⟨-, -, again, v, hagain, -⟩ := apply_converges .service .default 1 (by decide) h
  exact ⟨applied, after, again, v, h, hagain⟩

end Provisioning
