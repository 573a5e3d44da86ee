import Provisioning.Proofs.Plane.Writes

/-!
What a binding owes to whoever brings objects in line with documents. Documents count up to a
canonical form, which leaves out what the management plane computes, and objects up to a normal
form, which leaves out how it spells. That `diff` finds nothing has to be a reason to do nothing,
and what was written has to be found again, whatever is known of the secrets.
-/

namespace Provisioning

/-- A binding on whose comparison of documents one can rely. -/
structure Binding.Faithful {Doc Obj : Type} [Managed Obj] (b : Binding Doc Obj)
    (canonical : Doc → Doc) (normal : Obj → Obj) : Prop where
  /-- A valid document names its object and the group that holds it. -/
  key_nonempty : ∀ {d : Doc}, (b.report d).isValid = true →
    (b.key d).scope ≠ "" ∧ (b.key d).name ≠ ""
  key_of_canonical : ∀ {c d : Doc}, canonical c = canonical d → b.key c = b.key d
  key_of_diff : ∀ {c d : Doc}, (b.diff c d).isEmpty = true → b.key c = b.key d
  key_flatten : ∀ {key : NaturalKey} {object : Obj} {prior : Option Doc} {c : Doc},
    b.flatten key object prior = .ok c → b.key c = key
  /-- The state of an object is not part of its document. -/
  flatten_withState : ∀ {key : NaturalKey} {object : Obj} {prior : Option Doc} {c : Doc}
    (s : State), b.flatten key object prior = .ok c →
    b.flatten key (Managed.withState s object) prior = .ok c
  /-- What was written is read back. -/
  flatten_filed : ∀ {d : Doc} {object : Obj} (s : State), (b.report d).isValid = true →
    b.expand d = .ok object → ∃ c, b.flatten (b.key d)
      (Managed.withState s (Store.filed (b.key d) object)) (some d) = .ok c
      ∧ canonical c = canonical d
  /-- A document does not differ from a valid one of its canonical form. -/
  diff_of_canonical : ∀ {c d : Doc}, (b.report d).isValid = true → canonical c = canonical d →
    (b.diff c d).isEmpty = true
  /-- A document that knows the secrets of a valid one has the canonical form of any valid one that
  it does not differ from. -/
  canonical_of_diff : ∀ {c d e : Doc}, (b.report d).isValid = true → (b.report e).isValid = true →
    canonical c = canonical e → (b.diff c d).isEmpty = true → canonical c = canonical d
  /-- An object that does not differ from a valid document is that document, once its reader knows
  the secrets. -/
  reread : ∀ {key : NaturalKey} {object : Obj} {prior : Option Doc} {c d e : Doc},
    (b.report d).isValid = true → b.flatten key object prior = .ok c →
    (b.diff c d).isEmpty = true → canonical e = canonical d →
    ∃ c', b.flatten key object (some e) = .ok c' ∧ canonical c' = canonical d
  /-- An object that does not differ from a valid document does not differ for a reader who knows
  no secrets. -/
  reread_blind : ∀ {key : NaturalKey} {object : Obj} {prior : Option Doc} {c d : Doc},
    (b.report d).isValid = true → b.flatten key object prior = .ok c →
    (b.diff c d).isEmpty = true →
    ∃ c', b.flatten key object none = .ok c' ∧ (b.diff c' d).isEmpty = true
  /-- Valid documents of one canonical form have objects of one normal form. -/
  expand_congr : ∀ {c d : Doc}, (b.report c).isValid = true → (b.report d).isValid = true →
    canonical c = canonical d →
    ∃ o o', b.expand c = .ok o ∧ b.expand d = .ok o' ∧ normal o = normal o'

namespace Binding.Faithful

variable {Doc Obj : Type} [Managed Obj] {b : Binding Doc Obj} {canonical : Doc → Doc}
  {normal : Obj → Obj} {key : NaturalKey} {object after : Obj} {prior : Option Doc} {c : Doc}

/-- An object that has moved on is read as the document it was read as before. -/
theorem flatten_moved (hb : b.Faithful canonical normal) (hmoved : Moved object after)
    (h : b.flatten key object prior = .ok c) : b.flatten key after prior = .ok c := by
  rcases hmoved with rfl | ⟨s, rfl⟩
  · exact h
  · exact hb.flatten_withState s h

end Binding.Faithful

end Provisioning
