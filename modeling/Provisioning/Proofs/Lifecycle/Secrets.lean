import Provisioning.Proofs.Lifecycle.Changes
import Provisioning.Proofs.Lifecycle.Convergence
import Provisioning.Proofs.Lifecycle.Drift

/-!
The secrets that `apply` records where there is nothing to do. The object is read with the wanted
document as the earlier one, so the document that is returned has the secrets that are wanted; those
of the object are compared only as far as they are known. The two are the same exactly if all wanted
secrets are known (`apply_noOp_secrets_iff`), so a secret that is not known is recorded although it
was never sent (`apply_noOp_records_unsent`).
-/

namespace Provisioning

namespace Kind

/-- Documents of one canonical form have the same secrets. -/
theorem secret_of_canonical (kind : Kind) {c d : kind.Doc}
    (h : kind.canonical c = kind.canonical d) (place : kind.Place) :
    kind.secret c place = kind.secret d place := by
  cases kind with
  | group =>
    replace h : Document.Group.canonical c = Document.Group.canonical d := h
    have hcredentials := Document.Group.credentials_of_canonical h
    have hcontainers := Document.Group.containers_of_canonical h
    cases place with
    | password i => simp only [secret, Document.Group.secret, hcredentials]
    | key i j => simp only [secret, Document.Group.secret, hcontainers]
  | service =>
    obtain ⟨-, -, -, -, -, -, -, hprincipal, -⟩ := Document.Service.canonical_eq_iff.mp h
    cases place with
    | principal => simp only [secret, Document.Service.secret, hprincipal]

/-- A secret of a document that does not differ from another one is the secret of that one. -/
theorem secret_of_diff (kind : Kind) {c d : kind.Doc}
    (h : (kind.binding.diff c d).isEmpty = true) (place : kind.Place) {s : String}
    (hs : kind.secret c place = some s) : kind.secret d place = some s := by
  cases kind with
  | group => exact (Document.Group.isEmpty_diff_iff.mp h).secret place hs
  | service => exact (Document.Service.isEmpty_diff_iff.mp h).secret place hs

/-- A document that does not differ from another one has the same secrets exactly if it has one
wherever the other one does. -/
theorem secrets_eq_iff_of_diff (kind : Kind) {c d : kind.Doc}
    (h : (kind.binding.diff c d).isEmpty = true) :
    (∀ place, kind.secret d place = kind.secret c place)
      ↔ ∀ place, kind.secret d place ≠ none → kind.secret c place ≠ none := by
  constructor
  · intro hsame place hd
    rwa [← hsame place]
  · intro hknown place
    cases hc : kind.secret c place with
    | some s => exact kind.secret_of_diff h place hc
    | none =>
      by_contra hd
      exact hknown place hd hc

end Kind

namespace Lifecycle

section Steps

variable {σ Doc Obj α : Type} [Managed Obj] {l : Lifecycle σ Doc Obj} {id : Option String}
  {desired : Doc} {prior : Option Doc} {w after : World σ Obj}

/-- The result of an operation in a world, if it has one. -/
def result? (x : Operation σ Obj α) (w : World σ Obj) : Option α :=
  match x w with
  | .ok a _ => some a
  | .error _ _ => none

omit [Managed Obj] in
theorem exists_of_result? {x : Operation σ Obj α} {a : α} (h : result? x w = some a) :
    ∃ after, x w = .ok a after := by
  unfold result? at h
  cases hx : x w with
  | ok b after =>
    rw [hx] at h
    exact ⟨after, congrArg (fun b => EStateM.Result.ok b after) (Option.some.inj h)⟩
  | error stop after =>
    rw [hx] at h
    cases h

omit [Managed Obj] in
theorem result?_of_ok {x : Operation σ Obj α} {a : α} (h : x w = .ok a after) :
    result? x w = some a := by
  simp only [result?, h]

omit [Managed Obj] in
/-- How an operation that has a result ends is that it has it. -/
theorem ends_run (x : Operation σ Obj α) (w : World σ Obj) :
    Ends x w (fun a after => x w = .ok a after) fun _ _ => True := by
  unfold Ends
  cases x w with
  | ok _ _ => rfl
  | error _ _ => trivial

/-- That there is nothing to do is read off the object. -/
theorem plan_noOp (h : l.plan id desired prior w = .ok .noOp after) :
    ∃ i current, id = some i ∧ l.read i prior w = .ok (some current) after
      ∧ (l.binding.diff current desired).isEmpty = true := by
  have hplan : Ends (l.plan id desired prior) w
      (fun plan after => plan = .noOp → ∃ i current, id = some i
        ∧ l.read i prior w = .ok (some current) after
        ∧ (l.binding.diff current desired).isEmpty = true) (fun _ _ => True) := by
    unfold plan
    refine ends_bind (ends_validate (fun _ => trivial) fun _ => ?_)
    cases id with
    | none => exact ends_pure nofun
    | some i =>
      refine (ends_run (l.read i prior) w).bind (fun _ _ _ => trivial) ?_
      intro found after hrun
      cases found with
      | none => exact ends_pure nofun
      | some current =>
        exact ends_pure fun hnoOp => ⟨i, current, rfl, hrun, (ofDiff_eq_noOp_iff _ _).mp hnoOp⟩
  exact hplan.of_ok h rfl

/-- Where `apply` finds nothing to do, it reads the object twice: first with the earlier document,
and then with the wanted one. -/
theorem apply_noOp {applied : Applied Doc} (h : l.apply id desired prior w = .ok applied after)
    (hplan : applied.plan = .noOp) :
    id = some applied.id ∧ ∃ current read, l.read applied.id prior w = .ok (some current) read
      ∧ (l.binding.diff current desired).isEmpty = true
      ∧ l.read applied.id (some desired) (read.noted (.planned (l.binding.key desired) .noOp))
        = .ok (some applied.configuration) after := by
  have happly : Ends (l.apply id desired prior) w
      (fun applied after => applied.plan = .noOp → id = some applied.id
        ∧ ∃ current read, l.read applied.id prior w = .ok (some current) read
          ∧ (l.binding.diff current desired).isEmpty = true
          ∧ l.read applied.id (some desired)
            (read.noted (.planned (l.binding.key desired) .noOp))
            = .ok (some applied.configuration) after) (fun _ _ => True) := by
    unfold apply
    refine (ends_run (l.plan id desired prior) w).bind (fun _ _ _ => trivial) ?_
    intro plan read hrun
    refine ends_bind (ends_note ?_)
    refine (ends_run (l.carryOut id desired plan) _).bind (fun _ _ _ => trivial) ?_
    intro i carried hcarried
    refine (ends_run (l.read i (some desired)) carried).bind (fun _ _ _ => trivial) ?_
    intro found after hagain
    cases found with
    | none => exact ends_fail trivial
    | some configuration =>
      refine ends_pure ?_
      rintro rfl
      obtain ⟨i', current, rfl, hread, hempty⟩ := plan_noOp hrun
      -- There is nothing to carry out, so the second read begins where the plan was noted.
      cases hcarried
      exact ⟨rfl, current, read, hread, hempty, hagain⟩
  exact happly.of_ok h hplan

end Steps

end Lifecycle

open Lifecycle

/-- An `apply` that finds nothing to do returns a document with the secrets that are wanted. They
are those that the object is read with, before and after, exactly if each wanted secret is known. -/
theorem apply_noOp_secrets_iff (kind : Kind) (timeouts : Timeouts) (patience : Nat)
    {id : Option String} {desired : kind.Doc} {prior : Option kind.Doc} {applied : Applied kind.Doc}
    {w after : World (Store kind.Obj) kind.Obj}
    (h : (kind.lifecycle timeouts patience).apply id desired prior w = .ok applied after)
    (hplan : applied.plan = .noOp) :
    id = some applied.id ∧ ∃ current,
      (∃ v, (kind.lifecycle timeouts patience).read applied.id prior w = .ok (some current) v)
      ∧ (∃ v, (kind.lifecycle timeouts patience).read applied.id prior after
        = .ok (some current) v)
      ∧ (∀ place, kind.secret applied.configuration place = kind.secret desired place)
      ∧ ((∀ place, kind.secret applied.configuration place = kind.secret current place)
        ↔ ∀ place, kind.secret desired place ≠ none → kind.secret current place ≠ none) := by
  have hvalid := ((apply_ends rfl id desired prior w).of_ok h).valid
  obtain ⟨hid, current, read, hread, hempty, hagain⟩ := apply_noOp h hplan
  obtain ⟨key, hkey, -, object, hpresent, hflatten⟩ := (read_ends rfl _ _ _).of_ok hread
  obtain ⟨key', hkey', hlooked, object', hpresent', hconfiguration⟩ :=
    (read_ends rfl _ _ _).of_ok hagain
  have hsame : key = key' := Except.ok.inj (hkey.symm.trans hkey')
  subst hsame
  -- Between the two reads the object has at most gone on to another state.
  obtain ⟨moved, hmoved, hmove⟩ := hlooked.present hpresent
  have hobject : moved = object' := Option.some.inj (hmoved.symm.trans hpresent')
  subst hobject
  have hcurrent := kind.faithful.flatten_moved hmove hflatten
  obtain ⟨c, hc, hcanonical⟩ := kind.faithful.reread hvalid hcurrent hempty rfl
  have happlied : c = applied.configuration := Except.ok.inj (hc.symm.trans hconfiguration)
  subst happlied
  have hwanted := kind.secret_of_canonical hcanonical
  refine ⟨hid, current, ⟨read, hread⟩, ?_, hwanted, ?_⟩
  · have hstill (next : kind.Obj) (hnext : Moved moved next) :
        kind.binding.flatten key next prior = .ok current :=
      kind.faithful.flatten_moved hnext hcurrent
    obtain ⟨found, v, hv, rfl, -⟩ :=
      (read_present_ends (l := kind.lifecycle timeouts patience) rfl hkey hpresent'
        hstill).exists_ok
    exact ⟨v, hv⟩
  · rw [← kind.secrets_eq_iff_of_diff hempty]
    exact forall_congr' fun place => by rw [hwanted place]

/-- The least service of a name, under a principal with a secret. -/
def Document.Service.guarded (name secret : String) : Document.Service :=
  { least name with principal := some { clientId := "client", secret := some secret } }

/-- The world of a plane to which a guarded service was written. -/
def guardedWorld (name secret : String) : World (Store Object.Service) Object.Service :=
  { emptyWorld Object.Service with
    plane := ((emptyWorld Object.Service).plane.put ⟨"rg", name⟩
      (Document.Service.guarded name secret).expand).2 }

/-- Someone who knows the secret finds nothing to do, and keeps it. -/
theorem apply_noOp_keeps_known : ∃ applied after current v,
    (Kind.service.lifecycle .default 1).apply (some (Store.idFor Object.Service ⟨"rg", "web"⟩))
      (.guarded "web" "old") (some (.guarded "web" "old")) (guardedWorld "web" "old")
      = .ok applied after
    ∧ (Kind.service.lifecycle .default 1).read applied.id (some (.guarded "web" "old"))
      (guardedWorld "web" "old") = .ok (some current) v
    ∧ ∀ place, Kind.service.secret applied.configuration place
      = Kind.service.secret current place := by
  obtain ⟨applied, hresult, hplan⟩ := Option.map_eq_some_iff.mp (show
    (result? ((Kind.service.lifecycle .default 1).apply
      (some (Store.idFor Object.Service ⟨"rg", "web"⟩)) (.guarded "web" "old")
      (some (.guarded "web" "old"))) (guardedWorld "web" "old")).map Applied.plan = some .noOp by
    decide +kernel)
  obtain ⟨after, h⟩ := exists_of_result? hresult
  obtain ⟨hid, current, ⟨v, hread⟩, -, -, hiff⟩ :=
    apply_noOp_secrets_iff .service .default 1 h hplan
  refine ⟨applied, after, current, v, h, hread, hiff.mpr fun place _ => ?_⟩
  cases place with
  | principal =>
    have hsecret : (result? ((Kind.service.lifecycle .default 1).read
        (Store.idFor Object.Service ⟨"rg", "web"⟩) (some (.guarded "web" "old")))
        (guardedWorld "web" "old")).map (Option.map fun c => Kind.service.secret c .principal)
        = some (some (some "old")) := by decide +kernel
    rw [Option.some.inj hid, result?_of_ok hread] at hsecret
    simp only [Option.map_some, Option.some.injEq] at hsecret
    simp only [hsecret, ne_eq, reduceCtorEq, not_false_eq_true]

/-- Someone who does not know the secret of a service, and wants another one, finds nothing to do
and is told that it is the one that is wanted, which was never sent. -/
theorem apply_noOp_records_unsent : ¬ ∀ (kind : Kind) (timeouts : Timeouts) (patience : Nat)
    (id : Option String) (desired : kind.Doc) (prior : Option kind.Doc)
    (applied : Applied kind.Doc) (current : kind.Doc)
    (w after v : World (Store kind.Obj) kind.Obj),
    (kind.lifecycle timeouts patience).apply id desired prior w = .ok applied after →
    applied.plan = .noOp →
    (kind.lifecycle timeouts patience).read applied.id prior w = .ok (some current) v →
    ∀ place, kind.secret applied.configuration place = kind.secret current place := by
  intro h
  obtain ⟨applied, hresult, happlied⟩ := Option.map_eq_some_iff.mp (show
    (result? ((Kind.service.lifecycle .default 1).apply
      (some (Store.idFor Object.Service ⟨"rg", "web"⟩)) (.guarded "web" "new") none)
      (guardedWorld "web" "old")).map
        (fun a => (a.id, a.plan, Kind.service.secret a.configuration .principal))
      = some (Store.idFor Object.Service ⟨"rg", "web"⟩, .noOp, some "new") by
    decide +kernel)
  simp only [Prod.mk.injEq] at happlied
  obtain ⟨hid, hplan, hnew⟩ := happlied
  obtain ⟨found, hfound, hnone⟩ := Option.map_eq_some_iff.mp (show
    (result? ((Kind.service.lifecycle .default 1).read
      (Store.idFor Object.Service ⟨"rg", "web"⟩) none) (guardedWorld "web" "old")).map
        (Option.map fun c => Kind.service.secret c .principal) = some (some none) by
    decide +kernel)
  obtain ⟨current, rfl, hunknown⟩ := Option.map_eq_some_iff.mp hnone
  obtain ⟨after, hrun⟩ := exists_of_result? hresult
  obtain ⟨v, hread⟩ := exists_of_result? hfound
  rw [← hid] at hread
  have hsame := h .service .default 1 _ _ _ applied current _ after v hrun hplan hread .principal
  rw [hnew, hunknown] at hsame
  cases hsame

end Provisioning
