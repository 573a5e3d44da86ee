import Provisioning.Lifecycle.Operations
import Provisioning.Proofs.Watch

/-!
How operations end. `Ends x w done stopped` says what the operation `x` comes to in the world `w`:
`done` of its result, or `stopped` of the reason why there is none, and in both cases of the world
that is left. The laws follow the steps that operations are made of, so that what is known of an
operation is put together from what is known of its steps.
-/

namespace Provisioning

/-- Whether an operation stopped because there was an object already. -/
def Stop.IsConflict : Stop → Prop
  | .failed failure => failure.toClass = .conflict
  | .endless _ => False

namespace Lifecycle

variable {σ Doc Obj α β : Type} {w : World σ Obj} {done : α → World σ Obj → Prop}
  {stopped : Stop → World σ Obj → Prop}

/-- What is true of the end of an operation in a world: of its result, or of why it stopped, and of
the world that it leaves. -/
def Ends (x : Operation σ Obj α) (w : World σ Obj) (done : α → World σ Obj → Prop)
    (stopped : Stop → World σ Obj → Prop) : Prop :=
  match x w with
  | .ok a after => done a after
  | .error stop after => stopped stop after

/-- Whether an operation has a result in a world. -/
def succeeds (x : Operation σ Obj α) (w : World σ Obj) : Bool :=
  match x w with
  | .ok _ _ => true
  | .error _ _ => false

/-- The world that an operation leaves, whether it has a result or not. -/
def left (x : Operation σ Obj α) (w : World σ Obj) : World σ Obj :=
  match x w with
  | .ok _ after => after
  | .error _ after => after

/-! ### Reading off an end -/

theorem exists_of_succeeds {x : Operation σ Obj α} (h : succeeds x w = true) :
    ∃ a after, x w = .ok a after := by
  unfold succeeds at h
  cases hx : x w with
  | ok a after => exact ⟨a, after, rfl⟩
  | error stop after =>
    rw [hx] at h
    cases h

/-- What is true of the world at either end is true of the world that is left. -/
theorem Ends.of_left {x : Operation σ Obj α} {P : World σ Obj → Prop}
    (h : Ends x w (fun _ after => P after) fun _ after => P after) : P (left x w) := by
  unfold Ends at h
  unfold left
  cases hx : x w with
  | ok a after =>
    rw [hx] at h
    exact h
  | error stop after =>
    rw [hx] at h
    exact h

theorem Ends.of_ok {x : Operation σ Obj α} {a : α} {after : World σ Obj}
    (h : Ends x w done stopped) (hx : x w = .ok a after) : done a after := by
  simpa only [Ends, hx] using h

theorem Ends.of_error {x : Operation σ Obj α} {stop : Stop} {after : World σ Obj}
    (h : Ends x w done stopped) (hx : x w = .error stop after) : stopped stop after := by
  simpa only [Ends, hx] using h

/-- An operation that cannot stop has a result. -/
theorem Ends.exists_ok {x : Operation σ Obj α} (h : Ends x w done fun _ _ => False) :
    ∃ a after, x w = .ok a after ∧ done a after := by
  unfold Ends at h
  cases hx : x w with
  | ok a after =>
    rw [hx] at h
    exact ⟨a, after, rfl, h⟩
  | error stop after =>
    rw [hx] at h
    exact h.elim

theorem Ends.mono {x : Operation σ Obj α} {done' : α → World σ Obj → Prop}
    {stopped' : Stop → World σ Obj → Prop} (h : Ends x w done stopped)
    (hdone : ∀ a after, done a after → done' a after)
    (hstopped : ∀ stop after, stopped stop after → stopped' stop after) :
    Ends x w done' stopped' := by
  unfold Ends at h ⊢
  cases hx : x w with
  | ok a after =>
    rw [hx] at h
    exact hdone a after h
  | error stop after =>
    rw [hx] at h
    exact hstopped stop after h

/-- The run itself may be kept beside what is true of its end. -/
theorem Ends.with_run {x : Operation σ Obj α} (h : Ends x w done stopped) :
    Ends x w (fun a after => x w = .ok a after ∧ done a after)
      (fun stop after => x w = .error stop after ∧ stopped stop after) := by
  unfold Ends at h ⊢
  cases hx : x w with
  | ok a after =>
    rw [hx] at h
    exact ⟨rfl, h⟩
  | error stop after =>
    rw [hx] at h
    exact ⟨rfl, h⟩

/-! ### Steps -/

theorem ends_pure {a : α} (h : done a w) : Ends (pure a) w done stopped := h

theorem ends_fail {failure : Failure} (h : stopped (.failed failure) w) :
    Ends (fail failure) w done stopped := h

theorem ends_noteAll {notes : List Note} {done : Unit → World σ Obj → Prop}
    (h : done () { w with journal := w.journal ++ notes.map .note }) :
    Ends (noteAll notes) w done stopped := h

theorem ends_note {n : Note} {done : Unit → World σ Obj → Prop}
    (h : done () { w with journal := w.journal ++ [.note n] }) :
    Ends (note n) w done stopped := h

theorem ends_call {ask : σ → Answer σ α} {entry : α → Call Obj}
    (h : done (ask w.plane).value
      { plane := (ask w.plane).next
        clock := w.clock.after (ask w.plane).delay
        journal := w.journal ++ [.call (entry (ask w.plane).value)] }) :
    Ends (call ask entry) w done stopped := h

theorem ends_bind {x : Operation σ Obj α} {next : α → Operation σ Obj β}
    {done : β → World σ Obj → Prop}
    (h : Ends x w (fun a after => Ends (next a) after done stopped) stopped) :
    Ends (x >>= next) w done stopped := by
  unfold Ends at h ⊢
  change match EStateM.bind x next w with
    | .ok a after => done a after
    | .error stop after => stopped stop after
  unfold EStateM.bind
  cases hrun : x w with
  | ok a after =>
    rw [hrun] at h
    exact h
  | error stop after =>
    rw [hrun] at h
    exact h

/-- One operation after another: where the first one stops, that is the end; otherwise the second
one begins with what the first one leaves. -/
theorem Ends.bind {x : Operation σ Obj α} {next : α → Operation σ Obj β}
    {done' : β → World σ Obj → Prop} {stopped' : Stop → World σ Obj → Prop}
    (hx : Ends x w done stopped)
    (hstopped : ∀ stop after, stopped stop after → stopped' stop after)
    (hnext : ∀ a after, done a after → Ends (next a) after done' stopped') :
    Ends (x >>= next) w done' stopped' :=
  ends_bind (hx.mono hnext hstopped)

variable {l : Lifecycle σ Doc Obj}

/-- A document that is not refused is valid. Nothing is done to the world. -/
theorem ends_validate {desired : Doc} {done : Unit → World σ Obj → Prop}
    (hinvalid : (l.binding.report desired).isValid = false →
      stopped (.failed (.invalidDocument (l.binding.report desired))) w)
    (hvalid : (l.binding.report desired).isValid = true → done () w) :
    Ends (l.validate desired) w done stopped := by
  unfold validate
  cases hreport : (l.binding.report desired).isValid with
  | true => simpa [hreport] using ends_pure (hvalid hreport)
  | false => simpa [hreport] using ends_fail (hinvalid hreport)

theorem ends_expand {key : NaturalKey} {desired : Doc} {done : Obj → World σ Obj → Prop}
    (herror : ∀ e, l.binding.expand desired = .error e →
      stopped (.failed (.binding .expand key e)) w)
    (hok : ∀ object, l.binding.expand desired = .ok object → done object w) :
    Ends (l.expand key desired) w done stopped := by
  unfold expand
  cases hexpand : l.binding.expand desired with
  | ok object => exact ends_pure (hok object hexpand)
  | error e => exact ends_fail (herror e hexpand)

/-- An identifier that names no key is a failure of validation. -/
theorem toClass_keyOf [Managed Obj] {id : String} {failure : Failure}
    (h : keyOf Obj id = .error failure) : failure.toClass = .validation := by
  unfold keyOf at h
  split at h
  · cases h
    rfl
  · split at h
    · cases h
    · cases h
      rfl

theorem not_isConflict_of_keyOf [Managed Obj] {id : String} {failure : Failure}
    (h : keyOf Obj id = .error failure) : ¬ (Stop.failed failure).IsConflict := by
  rw [Stop.IsConflict, toClass_keyOf h]
  exact nofun

/-- What holds of the key of an identifier holds of every key that it names. -/
theorem forall_keyOf [Managed Obj] {id : String} {key : NaturalKey} {P : NaturalKey → Prop}
    (hkey : keyOf Obj id = .ok key) (h : P key) : ∀ k, keyOf Obj id = .ok k → P k := by
  intro k hk
  rw [hkey] at hk
  cases hk
  exact h

theorem ends_parseId [Managed Obj] {id : String} {done : NaturalKey → World σ Obj → Prop}
    (herror : ∀ failure, keyOf Obj id = .error failure → stopped (.failed failure) w)
    (hok : ∀ key, keyOf Obj id = .ok key → done key w) :
    Ends (parseId id) w done stopped := by
  unfold parseId
  cases hkey : keyOf Obj id with
  | ok key => exact ends_pure (hok key hkey)
  | error failure => exact ends_fail (herror failure hkey)

/-- What a watch leaves of a world: what its looks leave, at another time. -/
theorem ends_keep {γ : Type} {watch : Watch (World σ Obj) α γ β}
    {R : World σ Obj → World σ Obj → Prop} (hrefl : ∀ v, R v v)
    (htrans : ∀ {u v v'}, R u v → R v v' → R u v')
    (hclock : ∀ {v v'} (clock : Clock), R v v' → R v { v' with clock })
    (hlook : ∀ time v, R v (watch.look time v).next ∧ R v (watch.look time v).abandoned) :
    Ends (l.keep watch) w (fun _ after => R w after)
      (fun stop after => (∃ why, stop = .endless why) ∧ after = w) := by
  unfold Ends keep
  cases hstart : watch.start w.clock l.patience w with
  | error why => exact ⟨⟨why, rfl⟩, rfl⟩
  | ok e =>
    obtain ⟨-, hrun⟩ := Watch.start_eq_ok_iff.mp hstart
    obtain ⟨hcourse, -⟩ := Watch.run_eq_some_iff.mp hrun
    exact hclock _ (hcourse.relates hrefl htrans hlook)

end Lifecycle

end Provisioning
