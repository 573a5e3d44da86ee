import Provisioning.Proofs.Binding.Group.FixedPoint
import Provisioning.Proofs.Binding.Group.Places
import Provisioning.Proofs.Binding.Service.Places
import Provisioning.Proofs.Lifecycle.Kinds

/-!
What a plan is made of. The difference of two documents of a kind has the places at which they
differ and no others, each once, and tells those that an object is replaced for from those that are
changed in place (`diff_accurate`). A group is never changed in place.
-/

namespace Provisioning

namespace Kind

/-- Whether the numbers of a document are numbers. A service has no numbers but counts. -/
def Numbered : (kind : Kind) → kind.Doc → Prop
  | group => Document.Group.Numbered
  | service => fun _ => True

/-- Where a document is not as another one wants it, so that its object has to be replaced. -/
def ReplacedAt : (kind : Kind) → (c d : kind.Doc) → String → Prop
  | group => Document.Group.DiffersAt
  | service => Document.Service.ReplacedAt

/-- Where a document is not as another one wants it, but its object can be changed in place. -/
def ChangedAt : (kind : Kind) → (c d : kind.Doc) → String → Prop
  | group => fun _ _ _ => False
  | service => Document.Service.ChangedAt

/-- Whether a document is as another one wants it. -/
def Agrees : (kind : Kind) → (c d : kind.Doc) → Prop
  | group => Document.Group.Agrees
  | service => Document.Service.Agrees

end Kind

/-- The difference of two documents has exactly the places at which they differ. It has none if and
only if the one is as the other wants it, as every document is for itself. -/
theorem diff_accurate (kind : Kind) {c d : kind.Doc} (hc : kind.Numbered c)
    (hd : kind.Numbered d) :
    (kind.binding.diff c d).Accurate (kind.ReplacedAt c d) (kind.ChangedAt c d)
    ∧ ((kind.binding.diff c d).isEmpty = true ↔ kind.Agrees c d)
    ∧ (kind.binding.diff c c).isEmpty = true := by
  cases kind with
  | group =>
    refine ⟨.of_lists (Document.Group.lists_diff hc hd) ?_, Document.Group.isEmpty_diff_iff, ?_⟩
    · exact ⟨List.nodup_nil, fun p => iff_of_false List.not_mem_nil nofun⟩
    · exact Document.Group.isEmpty_diff_iff.mpr (Document.Group.agrees_of_canonical_eq rfl hc)
  | service =>
    refine ⟨.of_lists (Document.Service.lists_replace c d) (Document.Service.lists_update c d),
      Document.Service.isEmpty_diff_iff, ?_⟩
    exact Document.Service.isEmpty_diff_iff.mpr (Document.Service.agrees_of_canonical_eq rfl)

/-- The pair differs in one volume of one container. -/
theorem diff_accurate_pair :
    Kind.group.Numbered Document.Group.pair ∧ Kind.group.Numbered Document.Group.pairLocked
    ∧ (Kind.group.binding.diff Document.Group.pair Document.Group.pairLocked).replace
      = ["container.1.volume.0.read_only"]
    ∧ (Kind.group.binding.diff Document.Group.pair Document.Group.pairLocked).Accurate
      (Kind.group.ReplacedAt Document.Group.pair Document.Group.pairLocked)
      (Kind.group.ChangedAt Document.Group.pair Document.Group.pairLocked)
    ∧ ((Kind.group.binding.diff Document.Group.pair Document.Group.pairLocked).isEmpty = true
      ↔ Kind.group.Agrees Document.Group.pair Document.Group.pairLocked)
    ∧ (Kind.group.binding.diff Document.Group.pair Document.Group.pair).isEmpty = true := by
  have hpair : Kind.group.Numbered Document.Group.pair := by
    unfold Kind.Numbered Document.Group.Numbered
    decide +kernel
  have hlocked : Kind.group.Numbered Document.Group.pairLocked := by
    unfold Kind.Numbered Document.Group.Numbered
    decide +kernel
  exact ⟨hpair, hlocked, by decide +kernel, diff_accurate .group hpair hlocked⟩

end Provisioning
