import Provisioning.Proofs.Binding.Group.FixedPoint
import Provisioning.Proofs.Binding.Group.Faithful
import Provisioning.Proofs.Binding.Service.FixedPoint
import Provisioning.Proofs.Binding.Service.Faithful
import Provisioning.Proofs.Lifecycle.Kinds

/-!
Drift: what an object has become, against what is wanted of it. A document that was read is a fixed
point (`canonical_documents_fixed`): written and read again it is the same, so an object does not
drift from its own document. And a document that does not differ from a valid one sends what that
one sends (`nothing_sent_escapes_diff`), so nothing drifts unseen but a secret that is not known.
-/

namespace Provisioning

namespace Kind

/-- Where the documents of a kind have secrets. -/
abbrev Place : Kind → Type
  | group => Document.Group.Place
  | service => Document.Service.Place

/-- The secret that a document has at a place. -/
def secret : (kind : Kind) → kind.Doc → kind.Place → Option String
  | group => Document.Group.secret
  | service => Document.Service.secret

/-- A document without what the management plane computes. -/
def uncomputed : (kind : Kind) → kind.Doc → kind.Doc
  | group => Document.Group.uncomputed
  | service => Document.Service.uncomputed

/-- Whether the numbers of an object are finite and, for a group, its containers have different
names. A service has no numbers but counts. -/
def Regular : (kind : Kind) → kind.Obj → Prop
  | group => Object.Group.Regular
  | service => fun _ => True

end Kind

/-! ### Documents that were read -/

/-- What was read off an object has an object of its own. From that one, as the management plane
keeps it, it is read back with its secrets, up to what the plane computes, and does not differ. -/
theorem canonical_documents_fixed (kind : Kind) {key : NaturalKey} {object : kind.Obj}
    {prior : Option kind.Doc} {c : kind.Doc} (hobject : kind.Regular object)
    (h : kind.binding.flatten key object prior = .ok c) (id : String) :
    ∃ object' c', kind.binding.expand c = .ok object'
      ∧ kind.binding.flatten key (Managed.filedAs id key object') (some c) = .ok c'
      ∧ kind.uncomputed c' = kind.uncomputed c
      ∧ (kind.binding.diff c' c).isEmpty = true := by
  cases kind with
  | group =>
    obtain ⟨hexpand, c', hread, hsame, hdiff⟩ :=
      Document.Group.flatten_filedAs_of_flatten hobject h id
    exact ⟨_, c', hexpand, hread, hsame, hdiff⟩
  | service =>
    obtain ⟨c', hread, hsame, hdiff⟩ := Document.Service.flatten_filedAs_of_flatten h id
    exact ⟨_, c', rfl, hread, hsame, hdiff⟩

/-- A group that no document describes: both containers have the port that the group lists twice,
one mounts a volume twice and two that are not there, and its command has no words. -/
def Object.Group.untidy : Object.Group where
  location := some "West Europe"
  properties := some {
    containers := [
      { name := some "web"
        properties := some {
          command := some []
          ports := some [{ port := some 80 }, { port := some 81 }]
          mounts := some [{ name := some "data" }, { name := some "data", path := some "/in" },
            { name := some "gone" }, {}] } },
      { name := some "log", properties := some { ports := some [{ port := some 80 }] } }]
    address := some {
      ports := [{ protocol := some "udp", port := some 80 },
        { protocol := some "TCP", port := some 80 }] }
    osType := some "linux"
    volumes := some [{ name := some "data", file := some {} }, { name := some "gone" }] }

/-- A group that is untidy only once. -/
theorem canonical_documents_fixed_untidy : Object.Group.untidy.Regular ∧ ∃ c object' c',
    Kind.group.binding.flatten ⟨"rg", "pair"⟩ Object.Group.untidy none = .ok c
    ∧ Kind.group.binding.expand c = .ok object'
    ∧ Kind.group.binding.flatten ⟨"rg", "pair"⟩ (Managed.filedAs "/pair" ⟨"rg", "pair"⟩ object')
      (some c) = .ok c'
    ∧ Kind.group.uncomputed c' = Kind.group.uncomputed c
    ∧ (Kind.group.binding.diff c' c).isEmpty = true := by
  have hregular : Object.Group.untidy.Regular := ⟨by decide, by decide, by decide⟩
  obtain ⟨c, h⟩ : ∃ c,
      Kind.group.binding.flatten ⟨"rg", "pair"⟩ Object.Group.untidy none = .ok c := ⟨_, rfl⟩
  exact ⟨hregular, c, (canonical_documents_fixed .group hregular h "/pair").imp fun _ =>
    Exists.imp fun _ hfixed => ⟨h, hfixed⟩⟩

/-! ### Documents that do not differ -/

/-- A document that does not differ from a valid one sends the same object, secrets and spelling
aside, and each secret that it has is the one that is wanted. -/
theorem nothing_sent_escapes_diff (kind : Kind) {c d : kind.Doc}
    (hvalid : (kind.binding.report d).isValid = true)
    (h : (kind.binding.diff c d).isEmpty = true) :
    (∃ o o', kind.binding.expand c = .ok o ∧ kind.binding.expand d = .ok o'
      ∧ kind.normal (Managed.scrub o) = kind.normal (Managed.scrub o'))
    ∧ ∀ place s, kind.secret c place = some s → kind.secret d place = some s := by
  cases kind with
  | group =>
    have hd := Document.Group.isValid_report_iff.mp hvalid
    have hagrees := Document.Group.isEmpty_diff_iff.mp h
    exact ⟨⟨_, _, hagrees.expand_eq_ok hd, Document.Group.expand_eq_ok hd.coherent.port,
      hagrees.sent hd⟩, fun place _ hs => hagrees.secret place hs⟩
  | service =>
    have hagrees := Document.Service.isEmpty_diff_iff.mp h
    exact ⟨⟨_, _, rfl, rfl, hagrees.sent⟩, fun place _ hs => hagrees.secret place hs⟩

/-- A group that was read by someone who knows the key of its volume but no password. -/
def Document.Group.pairRead : Document.Group :=
  { pair with
    location := "westeurope"
    credentials := pair.credentials.map Credential.redacted }

/-- Nothing that the wanted group sends escapes from the group that was read. -/
theorem nothing_sent_escapes_diff_pair :
    (∃ o o', Kind.group.binding.expand Document.Group.pairRead = .ok o
      ∧ Kind.group.binding.expand Document.Group.pair = .ok o'
      ∧ Kind.group.normal (Managed.scrub o) = Kind.group.normal (Managed.scrub o'))
    ∧ ∀ place s, Kind.group.secret Document.Group.pairRead place = some s →
      Kind.group.secret Document.Group.pair place = some s :=
  nothing_sent_escapes_diff .group (by decide +kernel) (by decide +kernel)

end Provisioning
