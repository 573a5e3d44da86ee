import Provisioning.Proofs.Lifecycle.Creation

/-!
Failures of validation. An operation refuses its arguments (`Refuses`) if it fails in that class and
leaves the world as it was, so that the plane is not called. From its first call on no operation
fails in the class any more (`Proceeds`), so there is one condition on the arguments for each of
them: where it is met the operation refuses, and elsewhere it fails in other classes only
(`RefusesIff`).
-/

namespace Provisioning.Lifecycle

variable {σ Doc Obj α β : Type}

/-! ### Steps that fail in other classes -/

/-- Whether an operation never fails validation, whatever the world. -/
def Proceeds (x : Operation σ Obj α) : Prop :=
  ∀ w failure after, x w = .error (.failed failure) after → failure.toClass ≠ .validation

namespace Proceeds

variable {l : Lifecycle σ Doc Obj} {key : NaturalKey}

theorem pure (a : α) : Proceeds (Pure.pure a : Operation σ Obj α) := by
  rintro w failure after ⟨⟩

theorem fail {failure : Failure} (h : failure.toClass ≠ .validation) :
    Proceeds (Lifecycle.fail failure : Operation σ Obj α) := by
  rintro w failure after ⟨⟩
  exact h

theorem noteAll (notes : List Note) :
    Proceeds (Lifecycle.noteAll notes : Operation σ Obj Unit) := by
  rintro w failure after ⟨⟩

theorem note (n : Note) : Proceeds (Lifecycle.note n : Operation σ Obj Unit) := noteAll [n]

theorem call (ask : σ → Answer σ α) (entry : α → Call Obj) :
    Proceeds (Lifecycle.call ask entry : Operation σ Obj α) := by
  rintro w failure after ⟨⟩

theorem bind {x : Operation σ Obj α} {next : α → Operation σ Obj β} (hx : Proceeds x)
    (hnext : ∀ a, Proceeds (next a)) : Proceeds (x >>= next) := by
  intro w failure after hrun
  cases hfirst : x w with
  | ok a middle =>
    rw [run_bind_of_ok hfirst] at hrun
    exact hnext a middle failure after hrun
  | error stop middle =>
    rw [run_bind_of_error hfirst] at hrun
    cases hrun
    exact hx w failure after hfirst

variable (l) in
theorem keep {γ : Type} (watch : Watch (World σ Obj) α γ β) : Proceeds (l.keep watch) := by
  intro w failure after hrun
  unfold Lifecycle.keep at hrun
  split at hrun <;> cases hrun

variable (l) in
theorem expand (key : NaturalKey) (desired : Doc) : Proceeds (l.expand key desired) := by
  unfold Lifecycle.expand
  cases l.binding.expand desired with
  | ok object => exact pure object
  | error e => exact fail nofun

variable [Managed Obj]

variable (l) in
theorem write (key : NaturalKey) (object : Obj) : Proceeds (l.write key object) := by
  refine bind (noteAll _) fun _ => bind (call _ _) fun answer => ?_
  cases answer with
  | ok _ => exact pure ()
  | error _ => exact fail nofun

variable (l) in
theorem await (key : NaturalKey) (change : StateChange) : Proceeds (l.await key change) := by
  refine bind (keep l _) fun watched => ?_
  match StateChange.outcome watched with
  | .error _ => exact fail nofun
  | .ok (.succeeded state) => exact pure state
  | .ok (.failed _) => exact fail nofun
  | .ok (.timedOut _) => exact fail nofun

variable (l) in
theorem awaitDeletion (key : NaturalKey) : Proceeds (l.awaitDeletion key) := by
  refine bind (keep l _) fun watched => ?_
  match watched with
  | .settled (.ok ()) => exact pure ()
  | .settled (.error _) => exact fail nofun
  | .expired _ => exact fail nofun

variable (l) in
theorem ensureAbsent (key : NaturalKey) : Proceeds (l.ensureAbsent key) := by
  refine bind (call _ _) fun answer => ?_
  cases answer with
  | ok _ => exact fail nofun
  | error e =>
    dsimp only
    cases e.isNotFound with
    | true => exact pure ()
    | false => exact fail nofun

variable (l) in
theorem readBackId (key : NaturalKey) : Proceeds (l.readBackId key) := by
  refine bind (call _ _) fun answer => ?_
  cases answer with
  | ok object =>
    dsimp only
    cases Managed.id object with
    | some id => exact pure id
    | none => exact fail nofun
  | error e =>
    dsimp only
    cases e.isNotFound with
    | true => exact fail nofun
    | false => exact fail nofun

end Proceeds

/-! ### Refusals -/

/-- Whether an operation fails validation before it has done anything. -/
def Refuses (x : Operation σ Obj α) (w : World σ Obj) : Prop :=
  ∃ failure, failure.toClass = .validation ∧ x w = .error (.failed failure) w

/-- Whether an operation refuses exactly if something is the case, and fails validation in no other
way. -/
structure RefusesIff (x : Operation σ Obj α) (w : World σ Obj) (p : Prop) : Prop where
  refuses_iff : Refuses x w ↔ p
  untouched : ∀ failure after, x w = .error (.failed failure) after →
    failure.toClass = .validation → after = w

section Cases

variable {x : Operation σ Obj α} {next : α → Operation σ Obj β} {w : World σ Obj} {p : Prop}

theorem RefusesIff.of_error {failure : Failure} (h : x w = .error (.failed failure) w)
    (hclass : failure.toClass = .validation) (hp : p) : RefusesIff x w p where
  refuses_iff := iff_of_true ⟨failure, hclass, h⟩ hp
  untouched _ _ hrun _ := by
    rw [h] at hrun
    cases hrun
    rfl

theorem RefusesIff.of_proceeds (h : Proceeds x) (hp : ¬ p) : RefusesIff x w p where
  refuses_iff := by
    refine iff_of_false ?_ hp
    rintro ⟨failure, hclass, hrun⟩
    exact h w failure w hrun hclass
  untouched failure after hrun hclass := absurd hclass (h w failure after hrun)

theorem RefusesIff.congr {q : Prop} (h : RefusesIff x w p) (hpq : p ↔ q) : RefusesIff x w q :=
  ⟨h.refuses_iff.trans hpq, h.untouched⟩

/-- What comes after a check that is passed is what refuses. -/
theorem RefusesIff.after {a : α} (hx : x w = .ok a w) (h : RefusesIff (next a) w p) :
    RefusesIff (x >>= next) w p := by
  have hrun : (x >>= next) w = next a w := run_bind_of_ok hx
  exact ⟨by simpa only [Refuses, hrun] using h.refuses_iff, by simpa only [hrun] using h.untouched⟩

/-- Steps that refuse nothing may follow. -/
theorem RefusesIff.before (h : RefusesIff x w p) (hnext : ∀ a, Proceeds (next a)) :
    RefusesIff (x >>= next) w p := by
  cases hx : x w with
  | ok a middle =>
    have hrefuses : ¬ Refuses x w := by
      rintro ⟨failure, -, hrun⟩
      cases hx.symm.trans hrun
    have hrun : (x >>= next) w = next a middle := run_bind_of_ok hx
    refine ⟨iff_of_false ?_ fun hp => hrefuses (h.refuses_iff.mpr hp), ?_⟩
    · rintro ⟨failure, hclass, hfail⟩
      exact hnext a middle failure w (hrun ▸ hfail) hclass
    · intro failure after hfail hclass
      exact absurd hclass (hnext a middle failure after (hrun ▸ hfail))
  | error stop middle =>
    have hrun : (x >>= next) w = .error stop middle := run_bind_of_error hx
    have hsame {failure : Failure} {after : World σ Obj} :
        (x >>= next) w = .error (.failed failure) after ↔ x w = .error (.failed failure) after := by
      rw [hrun, hx]
      constructor <;> rintro ⟨⟩ <;> rfl
    refine ⟨?_, fun failure after hfail => h.untouched failure after (hsame.mp hfail)⟩
    rw [← h.refuses_iff]
    exact exists_congr fun failure => and_congr_right fun _ => hsame

/-- What refuses as a first step refuses as a whole. -/
theorem Refuses.bind (h : Refuses x w) :
    Refuses (x >>= next) w := by
  obtain ⟨failure, hclass, hrun⟩ := h
  exact ⟨failure, hclass, run_bind_of_error hrun⟩

end Cases

/-! ### Operations -/

section Operations

variable [Managed Obj] {l : Lifecycle σ Doc Obj} {id : String} {desired : Doc}
  {prior : Option Doc} {w : World σ Obj}

/-- Whether an identifier is of no object of a type: it cannot be parsed, or its object is of
another type. -/
def Misnamed (Obj : Type) [Managed Obj] (id : String) : Prop :=
  ∀ resource, ResourceId.parse id = .ok resource → resource.isType (Managed.type Obj) = false

theorem misnamed_iff : Misnamed Obj id ↔ ∃ failure, keyOf Obj id = .error failure := by
  unfold Misnamed keyOf
  cases ResourceId.parse id with
  | error e => exact iff_of_true nofun ⟨_, rfl⟩
  | ok resource =>
    dsimp only
    cases htype : resource.isType (Managed.type Obj) with
    | true =>
      refine iff_of_false (fun h => ?_) (by simp)
      cases htype.symm.trans (h resource rfl)
    | false =>
      refine iff_of_true ?_ ⟨_, rfl⟩
      rintro _ ⟨⟩
      exact htype

variable (l desired w) in
theorem create_refuses_iff :
    RefusesIff (l.create desired) w ((l.binding.report desired).isValid = false) := by
  cases hvalid : (l.binding.report desired).isValid with
  | false => exact .of_error (run_bind_of_error (validate_of_invalid hvalid)) rfl rfl
  | true =>
    refine .after (validate_of_valid hvalid) (.of_proceeds ?_ (by simp))
    refine .bind (.ensureAbsent l _) fun _ => .bind (.expand l _ desired) fun _ =>
      .bind (.note _) fun _ => .bind (.write l _ _) fun _ => .bind (.readBackId l _) fun _ =>
      .bind (.note _) fun _ => .bind (.await l _ _) fun _ => .bind (.note _) fun _ => .pure _

variable (l id prior w) in
theorem read_refuses_iff : RefusesIff (l.read id prior) w (Misnamed Obj id) := by
  rw [misnamed_iff]
  cases hkey : keyOf Obj id with
  | error failure =>
    exact .of_error (run_bind_of_error (run_parseId_of_error hkey)) (toClass_keyOf hkey) ⟨_, rfl⟩
  | ok key =>
    refine .after (run_parseId hkey) (.of_proceeds ?_ (by simp))
    refine .bind (.call _ _) fun answer => ?_
    cases answer with
    | error e =>
      dsimp only
      cases e.isNotFound with
      | true => exact .bind (.note _) fun _ => .pure _
      | false => exact .fail nofun
    | ok object =>
      dsimp only
      cases l.binding.flatten key object prior with
      | ok document => exact .pure _
      | error e => exact .fail nofun

variable (l id w) in
theorem delete_refuses_iff : RefusesIff (l.delete id) w (Misnamed Obj id) := by
  rw [misnamed_iff]
  cases hkey : keyOf Obj id with
  | error failure =>
    exact .of_error (run_bind_of_error (run_parseId_of_error hkey)) (toClass_keyOf hkey) ⟨_, rfl⟩
  | ok key =>
    refine .after (run_parseId hkey) (.of_proceeds ?_ (by simp))
    refine .bind (.note _) fun _ => .bind (.call _ _) fun answer => ?_
    cases answer with
    | error e =>
      dsimp only
      cases e.isNotFound with
      | true => exact .note _
      | false => exact .fail nofun
    | ok _ => exact .bind (.awaitDeletion l key) fun _ => .note _

/-- Whether the arguments of an update are at odds with each other or with the type: what cannot be
changed in place, a document with problems, an identifier of no object, or of one that the document
does not describe. -/
def Misapplied (l : Lifecycle σ Doc Obj) (id : String) (desired : Doc) : Prop :=
  l.binding.updatable = false ∨ (l.binding.report desired).isValid = false ∨ Misnamed Obj id
    ∨ ∃ key, keyOf Obj id = .ok key ∧ key ≠ l.binding.key desired

variable (l id desired w) in
theorem update_refuses_iff : RefusesIff (l.update id desired) w (l.Misapplied id desired) := by
  unfold Misapplied
  rw [misnamed_iff]
  unfold update
  dsimp only
  cases hupdatable : l.binding.updatable with
  | false => exact .of_error rfl rfl (.inl rfl)
  | true =>
  simp only [Bool.not_true, Bool.false_eq_true, if_false]
  cases hvalid : (l.binding.report desired).isValid with
  | false =>
    exact .of_error (run_bind_of_error (validate_of_invalid hvalid)) rfl (.inr (.inl rfl))
  | true =>
  refine .after (validate_of_valid hvalid) ?_
  cases hkey : keyOf Obj id with
  | error failure =>
    exact .of_error (run_bind_of_error (run_parseId_of_error hkey)) (toClass_keyOf hkey)
      (.inr (.inr (.inl ⟨failure, rfl⟩)))
  | ok key =>
  refine .after (run_parseId hkey) ?_
  by_cases hmatch : key = l.binding.key desired
  · simp only [ne_eq, hmatch, not_true_eq_false, if_false]
    refine .of_proceeds (.bind (.expand l _ desired) fun _ => .bind (.note _) fun _ =>
      .bind (.write l _ _) fun _ => .bind (.await l _ _) fun _ => .bind (.note _) fun _ =>
      .pure _) ?_
    simp
  · simp only [ne_eq, hmatch, not_false_eq_true, if_true]
    exact .of_error rfl rfl (.inr (.inr (.inr ⟨key, rfl, hmatch⟩)))

variable (l desired prior w) in
theorem plan_refuses_iff (id : Option String) : RefusesIff (l.plan id desired prior) w
    ((l.binding.report desired).isValid = false ∨ ∃ i, id = some i ∧ Misnamed Obj i) := by
  cases hvalid : (l.binding.report desired).isValid with
  | false => exact .of_error (run_bind_of_error (validate_of_invalid hvalid)) rfl (.inl rfl)
  | true =>
  refine .after (validate_of_valid hvalid) ?_
  cases id with
  | none => exact .of_proceeds (.pure _) (by simp)
  | some id =>
    refine .before ((read_refuses_iff l id prior w).congr (by simp)) fun found => ?_
    cases found with
    | none => exact .pure _
    | some current => exact .pure _

end Operations

/-- Failures of validation reach no plane, whatever it would answer. A creation refuses a document
with problems, a read and a deletion an identifier of no object, an update whatever is misapplied,
and a plan either of the two; none of them fails in this class in any other way. What a plan
refuses, `apply` refuses. -/
theorem validation_reaches_no_plane [Managed Obj] (l : Lifecycle σ Doc Obj) (i : String)
    (id : Option String) (desired : Doc) (prior : Option Doc) (w : World σ Obj) :
    let unplannable :=
      (l.binding.report desired).isValid = false ∨ ∃ i, id = some i ∧ Misnamed Obj i
    RefusesIff (l.create desired) w ((l.binding.report desired).isValid = false)
    ∧ RefusesIff (l.read i prior) w (Misnamed Obj i)
    ∧ RefusesIff (l.update i desired) w (l.Misapplied i desired)
    ∧ RefusesIff (l.delete i) w (Misnamed Obj i)
    ∧ RefusesIff (l.plan id desired prior) w unplannable
    ∧ (unplannable → Refuses (l.apply id desired prior) w) := by
  have hplan := plan_refuses_iff l desired prior w id
  exact ⟨create_refuses_iff l desired w, read_refuses_iff l i prior w,
    update_refuses_iff l i desired w, delete_refuses_iff l i w, hplan,
    fun h => (hplan.refuses_iff.mpr h).bind⟩

end Provisioning.Lifecycle
