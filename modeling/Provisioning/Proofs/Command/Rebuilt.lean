import Provisioning.Command.Run
import Provisioning.Proofs.Document.Reading
import Provisioning.Proofs.Lifecycle.Convergence
import Provisioning.Proofs.Lifecycle.Drift

/-!
Planes that are rebuilt from a record. A record that stands for a document (`Stands`) comes back
from its text, and the plane that is rebuilt from it has the object of the document
(`Stands.rebuilt_ok`). What is read there stands for the document again (`Stands.reread`), and is
what was recorded, up to what the plane computes (`Kind.uncomputed_held`).
-/

namespace Provisioning

open Command

/-! ### Documents as the plane holds them -/

namespace Kind

instance : (kind : Kind) → Document kind.Doc
  | group => inferInstanceAs (Document Document.Group)
  | service => inferInstanceAs (Document Document.Service)

/-- What the command line calls a kind. -/
def subject : Kind → Subject
  | group => .group
  | service => .service

/-- Where an object is wanted. -/
def location : (kind : Kind) → kind.Doc → String
  | group => Document.Group.location
  | service => Document.Service.location

/-- A document as the management plane holds it. -/
def held : (kind : Kind) → kind.Doc → kind.Doc
  | group => Document.Group.held
  | service => Document.Service.held

/-- Whether each number of a document is what its own text is read as. A service has no numbers but
counts. -/
def Exact : (kind : Kind) → kind.Doc → Prop
  | group => fun d => ∀ c ∈ d.containers, c.Exact
  | service => fun _ => True

variable {kind : Kind} {c d : kind.Doc}

theorem Exact.congr (hd : kind.Exact d) (h : kind.canonical c = kind.canonical d) :
    kind.Exact c := by
  cases kind with
  | group =>
    intro container hcontainer
    exact hd container (Document.Group.containers_of_canonical h ▸ hcontainer)
  | service => trivial

theorem canonical_held (c : kind.Doc) : kind.canonical (kind.held c) = kind.canonical c := by
  cases kind with
  | group => exact Document.Group.canonical_held c
  | service => exact Document.Service.canonical_held c

theorem location_held (c : kind.Doc) :
    kind.location (kind.held c) = normalizeLocation (kind.location c) := by
  cases kind <;> rfl

/-- A document whose location is written the way the management plane writes it is held as it is, up
to what the plane computes. -/
theorem uncomputed_held (h : normalizeLocation (kind.location c) = kind.location c) :
    kind.uncomputed (kind.held c) = kind.uncomputed c := by
  cases kind with
  | group =>
    have hlocation : normalizeLocation c.location = c.location := h
    simp only [uncomputed, held, Document.Group.uncomputed, Document.Group.held, hlocation]
  | service =>
    have hlocation : normalizeLocation c.location = c.location := h
    simp only [uncomputed, held, Document.Service.uncomputed, Document.Service.held, hlocation]

theorem location_of_flatten {key : NaturalKey} {object : kind.Obj} {prior : Option kind.Doc}
    (h : kind.binding.flatten key object prior = .ok c) :
    normalizeLocation (kind.location c) = kind.location c := by
  cases kind with
  | group => exact Document.Group.normalizeLocation_of_flatten h
  | service => exact Document.Service.normalizeLocation_of_flatten h

/-- A document that says what a valid one says has an object, from which it is read back by whoever
knows it. -/
theorem flatten_filedAs_self (hvalid : (kind.binding.report d).isValid = true)
    (h : kind.canonical c = kind.canonical d) (id : String) :
    ∃ object, kind.binding.expand c = .ok object
      ∧ kind.binding.flatten (kind.binding.key c)
        (Managed.filedAs id (kind.binding.key c) object) (some c) = .ok (kind.held c) := by
  cases kind with
  | group =>
    have hd := Document.Group.isValid_report_iff.mp hvalid
    have hcontainers := Document.Group.containers_of_canonical h
    have hcoherent := hd.coherent.congr hcontainers
    exact ⟨_, Document.Group.expand_eq_ok hcoherent.port,
      Document.Group.flatten_filedAs_self hcoherent (hd.keyed.congr hcontainers) id⟩
  | service => exact ⟨c.expand, rfl, Document.Service.flatten_held_self c id⟩

/-- It does not matter when an object gets its identifier and its state. -/
theorem withId_withState (id : String) (s : State) (key : NaturalKey) (object : kind.Obj) :
    Managed.withId id (Managed.withState s (Managed.scrub (Managed.populate key object)))
      = Managed.withState s (Managed.filedAs id key object) := by
  cases kind with
  | group =>
    obtain ⟨_, _, _, _, properties⟩ := object
    cases properties <;> rfl
  | service =>
    obtain ⟨_, _, _, _, properties⟩ := object
    cases properties <;> rfl

/-- A record comes back from its text. -/
theorem ofText_text {r : Record kind.Doc} (h : kind.Exact r.configuration) :
    Record.ofText r.text = .ok r := by
  cases kind with
  | group =>
    exact Record.ofText_text (Document.Group.reads fun c hc => (h c hc).finite)
      (Document.Group.legible h)
  | service =>
    exact Record.ofText_text (Document.Service.reads _) (Document.Service.legible _)

end Kind

/-! ### Records -/

namespace Command

open Lifecycle

variable {kind : Kind} {desired : kind.Doc} {r : Record kind.Doc} {path : String}

/-- A record is read back from a file with its text. -/
theorem readRecord_text (h : kind.Exact r.configuration) :
    readRecord path (.file r.text) = .ok (some r) := by
  have hpresent : (Content.file r.text).isPresent = true := rfl
  unfold readRecord
  rw [if_pos hpresent]
  refine bind_eq_ok_iff.mpr ⟨r.text, rfl, bind_eq_ok_iff.mpr ⟨r, ?_, rfl⟩⟩
  rw [Kind.ofText_text h]
  rfl

/-- Whether a record stands for a document: its identifier names the object of the document, its own
document says the same, was read off an object, and can be read back from a text. -/
structure Stands (kind : Kind) (desired : kind.Doc) (r : Record kind.Doc) : Prop where
  keyOf_id : keyOf kind.Obj r.id = .ok (kind.binding.key desired)
  canonical : kind.canonical r.configuration = kind.canonical desired
  location : normalizeLocation (kind.location r.configuration) = kind.location r.configuration
  exact : kind.Exact r.configuration

/-- A record as it is after the object was read again. -/
def Record.reread (r : Record kind.Doc) : Record kind.Doc :=
  { r with configuration := kind.held r.configuration }

/-- The plane that is rebuilt from a record has the object of its document. -/
theorem rebuilt_of_expand {object : kind.Obj}
    (h : kind.binding.expand r.configuration = .ok object) :
    ∃ messages, rebuilt kind.binding (some r)
      = .ok ((Store.empty ⟨[]⟩ none).insert (kind.binding.key r.configuration)
        (Managed.withState .succeeded
          (Managed.scrub (Managed.populate (kind.binding.key r.configuration) object))),
        messages) := by
  refine ⟨if Store.idFor kind.Obj (kind.binding.key r.configuration) = r.id then []
    else [otherId r.id (Store.idFor kind.Obj (kind.binding.key r.configuration))], ?_⟩
  unfold rebuilt
  dsimp only
  rw [h]
  rfl

namespace Stands

theorem reread (h : Stands kind desired r) : Stands kind desired r.reread where
  keyOf_id := h.keyOf_id
  canonical := (Kind.canonical_held r.configuration).trans h.canonical
  location := by
    rw [Record.reread, Kind.location_held, h.location, h.location]
  exact := h.exact.congr (Kind.canonical_held r.configuration)

/-- On the plane that is rebuilt from a record there is the object of the document. In whatever
state it is, it is read as it was recorded, up to what the plane computes. -/
theorem rebuilt_ok (h : Stands kind desired r)
    (hvalid : (kind.binding.report desired).isValid = true) :
    ∃ (store : Store kind.Obj) (messages : List Message) (object : kind.Obj),
      rebuilt kind.binding (some r) = .ok (store, messages)
      ∧ store.objects (kind.binding.key desired) = some object
      ∧ ∀ moved, Moved object moved →
        kind.binding.flatten (kind.binding.key desired) moved (some r.configuration)
          = .ok r.reread.configuration := by
  obtain ⟨object, hexpand, hflatten⟩ := Kind.flatten_filedAs_self hvalid h.canonical
    (Store.idFor kind.Obj (kind.binding.key r.configuration))
  obtain ⟨messages, hrebuilt⟩ := rebuilt_of_expand hexpand
  rw [kind.faithful.key_of_canonical h.canonical] at hflatten hrebuilt
  refine ⟨_, messages, _, hrebuilt,
    (Store.assign_self _ _ _).trans (congrArg some (Kind.withId_withState _ _ _ _)), ?_⟩
  intro moved hmoved
  exact kind.faithful.flatten_moved hmoved (kind.faithful.flatten_withState _ hflatten)

end Stands

end Command

end Provisioning
