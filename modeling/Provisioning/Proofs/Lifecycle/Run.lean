import Provisioning.Proofs.Lifecycle.Convergence

/-!
Runs of `apply`, in which each document is applied with what the one before came to. Such a run
keeps one object, that of the last document (`Sole`), and what was last written of it is what the
document says, secrets included: where nothing is written, there is nothing new.
-/

namespace Provisioning

namespace Lifecycle

/-- Applies one document after another, each with the identifier and the document that the one
before came to. -/
def applyAll {σ Doc Obj : Type} [Managed Obj] (l : Lifecycle σ Doc Obj) :
    Option (Applied Doc) → List Doc → Operation σ Obj (Option (Applied Doc))
  | last, [] => return last
  | last, desired :: rest => do
    let applied ← l.apply (last.map Applied.id) desired (last.map Applied.configuration)
    applyAll l (some applied) rest

variable {Doc Obj : Type} [Managed Obj] {l : Lifecycle (Store Obj) Doc Obj}
  {canonical : Doc → Doc} {normal : Obj → Obj} {desired next : Doc}
  {w after : World (Store Obj) Obj}

/-! ### What was sent -/

/-- An object was the last one to be written for a document, and is stored. -/
structure Sent (l : Lifecycle (Store Obj) Doc Obj) (document : Doc) (object : Obj)
    (w : World (Store Obj) Obj) : Prop where
  valid : (l.binding.report document).isValid = true
  expand : l.binding.expand document = .ok object
  accepted : w.lastAccepted (l.binding.key document) = some object
  filed : ∃ s, w.plane.objects (l.binding.key document)
    = some (Managed.withState s (Store.filed (l.binding.key document) object))

namespace Sent

variable {document : Doc} {object : Obj}

theorem of_written (hvalid : (l.binding.report document).isValid = true)
    (hexpand : l.binding.expand document = .ok object)
    (h : Written (l.binding.key document) object w after) : Sent l document object after :=
  ⟨hvalid, hexpand, h.accepted, h.filed⟩

theorem noted (n : Note) (h : Sent l document object w) : Sent l document object (w.noted n) :=
  ⟨h.valid, h.expand, (World.lastAccepted_noted w n _).trans h.accepted, h.filed⟩

theorem looked [LawfulManaged Obj] (h : Sent l document object w)
    (hlooked : Looked (l.binding.key document) w after) : Sent l document object after := by
  obtain ⟨s, hs⟩ := h.filed
  obtain ⟨found, hfound, hmoved⟩ := hlooked.present hs
  obtain ⟨t, rfl⟩ := hmoved.of_withState
  exact ⟨h.valid, h.expand, (hlooked.reads.lastAccepted_eq _).trans h.accepted, t, hfound⟩

/-- What was sent is read as the document by whoever knows it. -/
theorem canonical_eq (hb : l.binding.Faithful canonical normal) {known current : Doc} {found : Obj}
    (h : Sent l document object w) (hknown : canonical known = canonical document)
    (hfound : w.plane.objects (l.binding.key document) = some found)
    (hflatten : l.binding.flatten (l.binding.key document) found (some known) = .ok current) :
    canonical current = canonical document := by
  obtain ⟨s, hs⟩ := h.filed
  obtain ⟨own, hown, hsame⟩ := hb.flatten_filed s h.valid h.expand
  have hobject := Option.some.inj (hfound.symm.trans hs)
  subst hobject
  obtain ⟨read, hread, hcanonical⟩ :=
    hb.reread h.valid hown (hb.diff_of_canonical h.valid hsame) hknown
  have hcurrent : read = current := Except.ok.inj (hread.symm.trans hflatten)
  exact hcurrent ▸ hcanonical

end Sent

/-! ### One object -/

/-- There is one object, and it was sent for a document, or for another one that says the same. -/
structure Sole (l : Lifecycle (Store Obj) Doc Obj) (canonical : Doc → Doc) (desired : Doc)
    (w : World (Store Obj) Obj) : Prop where
  others : ∀ key, key ≠ l.binding.key desired → w.plane.objects key = none
  sent : ∃ document object, canonical document = canonical desired ∧ Sent l document object w

/-- An object that was written where there is no other one is the only one. -/
theorem Sole.of_written {object : Obj} (hvalid : (l.binding.report desired).isValid = true)
    (hexpand : l.binding.expand desired = .ok object)
    (h : Written (l.binding.key desired) object w after)
    (hothers : ∀ key, key ≠ l.binding.key desired → w.plane.objects key = none) :
    Sole l canonical desired after where
  others key hkey := (h.others key hkey).trans (hothers key hkey)
  sent := ⟨desired, object, rfl, .of_written hvalid hexpand h⟩

theorem Sole.noted (n : Note) (h : Sole l canonical desired w) :
    Sole l canonical desired (w.noted n) := by
  obtain ⟨document, object, hsame, hsent⟩ := h.sent
  exact ⟨h.others, document, object, hsame, hsent.noted n⟩

/-- What an `apply` comes to that left one object and returned what it reads as. -/
structure Followed (l : Lifecycle (Store Obj) Doc Obj) (canonical : Doc → Doc) (desired : Doc)
    (applied : Applied Doc) (w : World (Store Obj) Obj) : Prop where
  settled : Settled l applied.id desired w
  configuration : canonical applied.configuration = canonical desired
  sole : Sole l canonical desired w

section Faithful

variable [LawfulManaged Obj] (hb : l.binding.Faithful canonical normal)

include hb

theorem Sole.looked (h : Sole l canonical desired w)
    (hlooked : Looked (l.binding.key desired) w after) : Sole l canonical desired after := by
  obtain ⟨document, object, hsame, hsent⟩ := h.sent
  refine ⟨fun key hkey => (hlooked.others key hkey).trans (h.others key hkey), document, object,
    hsame, hsent.looked ?_⟩
  rw [hb.key_of_canonical hsame]
  exact hlooked

/-- Whoever knows the document of the only object plans by what has changed since. -/
theorem Sole.planned {id : String} {known : Doc} {plan : Plan} (h : Sole l canonical desired w)
    (hkey : keyOf Obj id = .ok (l.binding.key desired))
    (hknown : canonical known = canonical desired)
    (hplanned : Planned l next (some known) w (some id) plan after) :
    Sole l canonical desired after ∧ ∃ current, canonical current = canonical desired
      ∧ plan = .ofDiff l.binding.updatable (l.binding.diff current next) := by
  obtain ⟨document, object, hsame, hsent⟩ := h.sent
  have hdocument := hb.key_of_canonical hsame
  cases hplanned with
  | @lost _ key _ hkey' hlooked habsent =>
    have hown : l.binding.key desired = key := Except.ok.inj (hkey.symm.trans hkey')
    subst hown
    obtain ⟨s, hs⟩ := hsent.filed
    rw [hdocument] at hs
    obtain ⟨found, hfound, -⟩ := hlooked.present hs
    rw [habsent] at hfound
    cases hfound
  | @found _ key object' current _ hkey' hlooked hpresent hflatten =>
    have hown : l.binding.key desired = key := Except.ok.inj (hkey.symm.trans hkey')
    subst hown
    refine ⟨h.looked hb hlooked, current, ?_, rfl⟩
    rw [← hdocument] at hlooked hpresent hflatten
    exact ((hsent.looked hlooked).canonical_eq hb (hknown.trans hsame.symm) hpresent hflatten).trans
      hsame

omit [LawfulManaged Obj] in
/-- However a plan is carried out, there is one object afterwards, that of the new document. -/
theorem Sole.carried {id id' : String} {plan : Plan} {current : Doc}
    (h : Sole l canonical desired w) (hkey : keyOf Obj id = .ok (l.binding.key desired))
    (hold : (l.binding.report desired).isValid = true)
    (hnew : (l.binding.report next).isValid = true)
    (hcurrent : canonical current = canonical desired)
    (hplan : plan = .ofDiff l.binding.updatable (l.binding.diff current next))
    (hcarried : Carried l next (some id) plan id' w after) : Sole l canonical next after := by
  cases hcarried with
  | noOp =>
    have hempty := (ofDiff_eq_noOp_iff _ _).mp hplan.symm
    have hsame : canonical desired = canonical next :=
      hcurrent.symm.trans (hb.canonical_of_diff hnew hold hcurrent hempty)
    obtain ⟨document, object, hdocument, hsent⟩ := h.sent
    refine ⟨?_, document, object, hdocument.trans hsame, hsent⟩
    rw [← hb.key_of_canonical hsame]
    exact h.others
  | update hchanged =>
    obtain ⟨object, hexpand, hwritten⟩ := hchanged.written
    have hown : l.binding.key desired = l.binding.key next :=
      Except.ok.inj (hkey.symm.trans hchanged.keyOf_id)
    exact .of_written hnew hexpand hwritten (hown ▸ h.others)
  | @replace _ _ deleted _ _ middle _ hkey' hgone hcreated =>
    obtain ⟨object, hexpand, hwritten⟩ := hcreated.written
    have hown : l.binding.key desired = deleted := Except.ok.inj (hkey.symm.trans hkey')
    subst hown
    refine .of_written hnew hexpand hwritten fun key _ => ?_
    by_cases hdeleted : key = l.binding.key desired
    · rw [hdeleted]
      exact hgone.absent
    · exact (hgone.others key hdeleted).trans (h.others key hdeleted)
  | create hcreate _ =>
    rcases hcreate with hcreate | hnone
    · exact absurd (hplan.symm.trans hcreate) (ofDiff_ne_create _ _)
    · cases hnone

/-- An `apply` that has one object when its plan is carried out is followed. -/
theorem Brought.followed {id : Option String} {prior : Option Doc} {applied : Applied Doc}
    (h : Brought l id next prior w applied after) (hplain : (l.binding.key next).Plain)
    (hsole : ∀ plan id' w₁ w₂, Planned l next prior w id plan w₁ →
      Carried l next id plan id' (w₁.noted (.planned (l.binding.key next) plan)) w₂ →
      Sole l canonical next w₂) :
    Followed l canonical next applied after := by
  obtain ⟨hsettled, hsame⟩ := h.settled hb hplain
  obtain ⟨w₁, w₂, hplanned, hcarried, key, object, hkey, hlooked, -, -⟩ := h.steps
  have hown : l.binding.key next = key := Except.ok.inj (hsettled.keyOf_id.symm.trans hkey)
  subst hown
  exact ⟨hsettled, hsame, (hsole _ _ w₁ w₂ hplanned hcarried).looked hb hlooked⟩

/-- The first `apply` finds no object. -/
theorem Brought.followed_first {applied : Applied Doc}
    (h : Brought l none next none w applied after) (hplain : (l.binding.key next).Plain)
    (hempty : ∀ key, w.plane.objects key = none) : Followed l canonical next applied after := by
  refine h.followed hb hplain fun plan id' w₁ w₂ hplanned hcarried => ?_
  cases hplanned with
  | fresh =>
    cases hcarried with
    | create _ hcreated =>
      obtain ⟨object, hexpand, hwritten⟩ := hcreated.written
      exact .of_written h.valid hexpand hwritten fun key _ => hempty key

/-- Every further `apply` finds the object of the one before. -/
theorem Followed.step {applied applied' : Applied Doc}
    (h : Followed l canonical desired applied w)
    (hbrought : Brought l (some applied.id) next (some applied.configuration) w applied' after)
    (hplain : (l.binding.key next).Plain) : Followed l canonical next applied' after := by
  refine hbrought.followed hb hplain fun plan id' w₁ w₂ hplanned hcarried => ?_
  obtain ⟨hsole, current, hcurrent, hplan⟩ :=
    h.sole.planned hb h.settled.keyOf_id h.configuration hplanned
  exact (hsole.noted _).carried hb h.settled.keyOf_id h.settled.valid hbrought.valid hcurrent hplan
    hcarried

/-! ### Runs -/

variable (hclient : l.client = Store.client Obj)

include hclient

/-- What is followed by a run is followed to the end of the run. -/
theorem Followed.applyAll_ends {applied : Applied Doc} (rest : List Doc)
    (h : Followed l canonical desired applied w)
    (hplain : ∀ d ∈ rest, (l.binding.key d).Plain) :
    Ends (applyAll l (some applied) rest) w
      (fun last after => ∃ applied', last = some applied'
        ∧ Followed l canonical ((desired :: rest).getLast (List.cons_ne_nil _ _)) applied' after)
      fun _ _ => True := by
  induction rest generalizing desired applied w with
  | nil => exact ends_pure ⟨applied, rfl, h⟩
  | cons next rest ih =>
    obtain ⟨hnext, hrest⟩ := List.forall_mem_cons.mp hplain
    unfold applyAll
    refine (apply_ends hclient _ next _ w).bind (fun _ _ _ => trivial) fun applied' middle h' => ?_
    rw [List.getLast_cons (List.cons_ne_nil next rest)]
    exact ih (h.step hb h' hnext) hrest

/-- A run that begins without objects is followed to its end. -/
theorem applyAll_ends (docs : List Doc) (hdocs : docs ≠ [])
    (hempty : ∀ key, w.plane.objects key = none)
    (hplain : ∀ d ∈ docs, (l.binding.key d).Plain) :
    Ends (applyAll l none docs) w
      (fun last after => ∃ applied, last = some applied
        ∧ Followed l canonical (docs.getLast hdocs) applied after)
      fun _ _ => True := by
  cases docs with
  | nil => exact absurd rfl hdocs
  | cons first rest =>
    obtain ⟨hfirst, hrest⟩ := List.forall_mem_cons.mp hplain
    unfold applyAll
    refine (apply_ends hclient _ first _ w).bind (fun _ _ _ => trivial) fun applied middle h => ?_
    exact (h.followed_first hb hfirst hempty).applyAll_ends hb hclient rest hrest

end Faithful

end Lifecycle

open Lifecycle

/-- A run that begins without objects ends with one, under the key of its last document. What was
last accepted under this key is the object of this document, secrets included, up to the spelling of
its location and the case of machine sizes. -/
theorem applyAll_keeps_last (kind : Kind) (timeouts : Timeouts) (patience : Nat)
    {docs : List kind.Doc} (hdocs : docs ≠ []) {last : Option (Applied kind.Doc)}
    {w after : World (Store kind.Obj) kind.Obj} (hempty : ∀ key, w.plane.objects key = none)
    (hplain : ∀ d ∈ docs, (kind.binding.key d).Plain)
    (h : applyAll (kind.lifecycle timeouts patience) none docs w = .ok last after) :
    (∀ key, (after.plane.objects key).isSome = true
      ↔ key = kind.binding.key (docs.getLast hdocs))
    ∧ ∃ sent expected, after.lastAccepted (kind.binding.key (docs.getLast hdocs)) = some sent
      ∧ kind.binding.expand (docs.getLast hdocs) = .ok expected
      ∧ kind.normal sent = kind.normal expected := by
  obtain ⟨applied, -, hfollowed⟩ :=
    (applyAll_ends kind.faithful rfl docs hdocs hempty hplain).of_ok h
  obtain ⟨document, sent, hsame, hsent⟩ := hfollowed.sole.sent
  have hkey : kind.binding.key document = kind.binding.key (docs.getLast hdocs) :=
    kind.faithful.key_of_canonical hsame
  constructor
  · intro key
    constructor
    · intro hsome
      by_contra hother
      rw [hfollowed.sole.others key hother] at hsome
      cases hsome
    · rintro rfl
      obtain ⟨s, hs⟩ := hsent.filed
      exact hkey ▸ Option.isSome_iff_exists.mpr ⟨_, hs⟩
  · obtain ⟨object, expected, hobject, hexpected, hnormal⟩ :=
      kind.faithful.expand_congr hsent.valid hfollowed.settled.valid hsame
    have hsentObject : sent = object := Except.ok.inj (hsent.expand.symm.trans hobject)
    subst hsentObject
    exact ⟨sent, expected, hkey ▸ hsent.accepted, hexpected, hnormal⟩

/-- A service of a principal with a secret. -/
def Document.Service.withSecret (secret : String) : Document.Service :=
  { least "web" with principal := some { clientId := "client", secret := some secret } }

/-- A run in which nothing but a secret changes. -/
theorem applyAll_keeps_changed_secret : ∃ last after,
    applyAll (Kind.service.lifecycle .default 1) none
      [Document.Service.withSecret "old", Document.Service.withSecret "new"] (emptyWorld _)
      = .ok last after
    ∧ ∃ sent, after.lastAccepted ⟨"rg", "web"⟩ = some sent
      ∧ Document.Service.normal sent
        = Document.Service.normal (Document.Service.withSecret "new").expand := by
  obtain ⟨last, after, h⟩ := exists_of_succeeds
    (x := applyAll (Kind.service.lifecycle .default 1) none
      [Document.Service.withSecret "old", Document.Service.withSecret "new"])
    (w := emptyWorld _) (by decide +kernel)
  obtain ⟨-, sent, expected, hsent, hexpected, hnormal⟩ :=
    applyAll_keeps_last .service .default 1 (List.cons_ne_nil _ _) (fun _ => rfl) (by decide) h
  cases hexpected
  exact ⟨last, after, h, sent, hsent, hnormal⟩

end Provisioning
