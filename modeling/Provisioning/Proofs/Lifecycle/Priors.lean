import Provisioning.Proofs.Plane.Secrecy

/-!
The say of an earlier document. It decides the secrets of what is read and nothing else, not even
whether anything is read; and it gives away a secret only to the part that the secret belongs to:
the key of a volume to the volume of that name in the container of that name, a password to the
credential at the same position for the same server, a secret to the principal of the same client
(`prior_supplies_matching_secrets`). `Due` says whose secret is whose.
-/

namespace Provisioning

namespace Document

/-! ### Groups -/

/-- Whether an earlier group has a secret for a place of a group. -/
inductive Group.Due (prior : Option Group) (d : Group) : Group.Place → String → Prop
  | password {p : Group} {i : Nat} {old new : Credential} {secret : String}
    (hprior : prior = some p) (hold : p.credentials[i]? = some old)
    (hnew : d.credentials[i]? = some new) (hserver : old.server = new.server)
    (hsecret : old.password = some secret) : Due prior d (.password i) secret
  | key {p : Group} {i j : Nat} {c old : Container} {v known : Volume} {secret : String}
    (hprior : prior = some p) (hc : d.containers[i]? = some c) (hv : c.volumes[j]? = some v)
    (hold : IsFirst (fun e => e.name = c.name) p.containers old)
    (hknown : IsFirst (fun w => w.name = v.name) old.volumes known)
    (hsecret : known.key = some secret) : Due prior d (.key i j) secret

namespace Group

theorem priorPassword_eq_some_iff {prior : Option Group} {i : Nat} {server secret : String} :
    priorPassword prior i server = some secret ↔ ∃ p old, prior = some p
      ∧ p.credentials[i]? = some old ∧ old.server = server ∧ old.password = some secret := by
  simp [priorPassword, Option.bind_eq_some_iff]

theorem priorContainer_eq_some_iff {prior : Option Group} {name : String} {old : Container} :
    priorContainer prior (some name) = some old ↔ ∃ p, prior = some p
      ∧ IsFirst (fun e => e.name = name) p.containers old := by
  rw [priorContainer, Option.bind_eq_bind, Option.bind_eq_some_iff]
  refine exists_congr fun p => and_congr_right fun _ => ?_
  exact find?_eq_some_iff_isFirst fun e => by simp

theorem priorKey_eq_some_iff {prior : Option Container} {name secret : String} :
    priorKey prior name = some secret ↔ ∃ old known, prior = some old
      ∧ IsFirst (fun w => w.name = name) old.volumes known ∧ known.key = some secret := by
  have hfind {volumes : List Volume} {known : Volume} :
      (volumes.find? fun w => w.name == name) = some known
        ↔ IsFirst (fun w => w.name = name) volumes known :=
    find?_eq_some_iff_isFirst fun w => beq_iff_eq
  simp [priorKey, Option.bind_eq_some_iff, hfind]

/-- Whether a group has the secrets that an earlier one has for it, and no others. -/
structure Restored (prior : Option Group) (d : Group) : Prop where
  password : ∀ {i : Nat} {c : Credential}, d.credentials[i]? = some c →
    c.password = priorPassword prior i c.server
  key : ∀ {c : Container}, c ∈ d.containers → ∀ {v : Volume}, v ∈ c.volumes →
    v.key = priorKey (priorContainer prior (some c.name)) v.name

theorem password_of_getElem?_restoreCredentials {prior : Option Group} {index i : Nat}
    {credentials : List Credential} {c : Credential}
    (h : (restoreCredentials prior index credentials)[i]? = some c) :
    c.password = priorPassword prior (index + i) c.server := by
  induction credentials generalizing index i with
  | nil => cases h
  | cons a credentials ih =>
    cases i with
    | zero =>
      cases h
      rfl
    | succ i =>
      rw [ih h, Nat.add_right_comm, Nat.add_assoc]

theorem restored_restore (prior : Option Group) (d : Group) : Restored prior (d.restore prior) where
  password h := by simpa using password_of_getElem?_restoreCredentials h
  key {c} hc {v} hv := by
    obtain ⟨c, -, rfl⟩ := List.mem_map.mp hc
    obtain ⟨v, -, rfl⟩ := List.mem_map.mp hv
    rfl

/-- The secrets of a group that was read are those of the earlier one. -/
theorem restored_of_flatten {key : NaturalKey} {object : Object.Group} {prior : Option Group}
    {d : Group} (h : flatten key object prior = .ok d) : Restored prior d := by
  have hd : d = d.restore prior := Except.ok.inj (h.symm.trans (flatten_restore h prior))
  rw [hd]
  exact restored_restore prior d

theorem Restored.secret_eq_some_iff {prior : Option Group} {d : Group} (h : Restored prior d)
    {place : Place} {secret : String} :
    d.secret place = some secret ↔ Due prior d place secret := by
  cases place with
  | password i =>
    rw [Group.secret, Option.bind_eq_some_iff]
    constructor
    · rintro ⟨c, hc, hsecret⟩
      rw [h.password hc] at hsecret
      obtain ⟨p, old, hprior, hold, hserver, hsecret⟩ := priorPassword_eq_some_iff.mp hsecret
      exact .password hprior hold hc hserver hsecret
    · rintro ⟨hprior, hold, hc, hserver, hsecret⟩
      refine ⟨_, hc, (h.password hc).trans ?_⟩
      exact priorPassword_eq_some_iff.mpr ⟨_, _, hprior, hold, hserver, hsecret⟩
  | key i j =>
    rw [Group.secret, Option.bind_eq_some_iff]
    constructor
    · rintro ⟨v, hfound, hsecret⟩
      obtain ⟨c, hc, hv⟩ := Option.bind_eq_some_iff.mp hfound
      rw [h.key (List.mem_of_getElem? hc) (List.mem_of_getElem? hv)] at hsecret
      obtain ⟨old, known, hold, hknown, hsecret⟩ := priorKey_eq_some_iff.mp hsecret
      obtain ⟨p, hprior, hold⟩ := priorContainer_eq_some_iff.mp hold
      exact .key hprior hc hv hold hknown hsecret
    · rintro (_ | ⟨hprior, hc, hv, hold, hknown, hsecret⟩)
      refine ⟨_, Option.bind_eq_some_iff.mpr ⟨_, hc, hv⟩, ?_⟩
      rw [h.key (List.mem_of_getElem? hc) (List.mem_of_getElem? hv)]
      exact priorKey_eq_some_iff.mpr
        ⟨_, _, priorContainer_eq_some_iff.mpr ⟨_, hprior, hold⟩, hknown, hsecret⟩

theorem map_redacted_flatten (key : NaturalKey) (object : Object.Group) (p : Option Group) :
    (flatten key object p).map redacted = flatten key object none := by
  rw [flatten_eq_map_restore key object p none]
  exact congrArg (fun f => (flatten key object p).map f) (funext fun d => (restore_none d).symm)

end Group

/-! ### Services -/

/-- Whether a service has its own secret for a place, or else an earlier service has one for it. -/
inductive Service.Due (object : Object.Service) (prior : Option Service) (d : Service) :
    Service.Place → String → Prop
  | own {wire : Object.Principal} {secret : String}
    (hwire : object.properties.bind (·.principal) = some wire)
    (hsecret : wire.secret = some secret) : Due object prior d .principal secret
  | earlier {wire : Object.Principal} {p : Service} {old new : Principal} {secret : String}
    (hwire : object.properties.bind (·.principal) = some wire) (hown : wire.secret = none)
    (hprior : prior = some p) (hold : p.principal = some old) (hnew : d.principal = some new)
    (hclient : old.clientId = new.clientId) (hsecret : old.secret = some secret) :
    Due object prior d .principal secret

namespace Service

theorem priorSecret_eq_some_iff {prior : Option Service} {clientId secret : String} :
    priorSecret clientId prior = some secret ↔ ∃ p old, prior = some p
      ∧ p.principal = some old ∧ old.clientId = clientId ∧ old.secret = some secret := by
  simp [priorSecret, Option.bind_eq_some_iff]

theorem map_redacted_flatten (key : NaturalKey) (object : Object.Service)
    (p q : Option Service) :
    (flatten key object p).map redacted = (flatten key object q).map redacted := by
  have hprincipal (principal : Option Object.Principal) :
      (principal.map (flattenPrincipal p)).map Principal.redacted
        = (principal.map (flattenPrincipal q)).map Principal.redacted := by
    cases principal <;> rfl
  unfold flatten
  refine map_bind_congr fun properties => map_bind_congr fun label =>
    map_bind_congr fun platform => map_bind_congr fun masters => map_bind_congr fun pool =>
    map_bind_congr fun linux => map_bind_congr fun sshKey => congrArg Except.ok ?_
  simp only [redacted, hprincipal properties.principal]

theorem secret_flattenPrincipal_eq_some_iff {prior : Option Service} {wire : Object.Principal}
    {secret : String} : (flattenPrincipal prior wire).secret = some secret
      ↔ wire.secret = some secret ∨ wire.secret = none
        ∧ priorSecret (flattenPrincipal prior wire).clientId prior = some secret := by
  cases hown : wire.secret <;> simp [flattenPrincipal, hown]

/-- The secret of a service that was read is the object's own, or that of the earlier one. -/
theorem secret_eq_some_iff_of_flatten {key : NaturalKey} {object : Object.Service}
    {prior : Option Service} {d : Service} (h : flatten key object prior = .ok d) {place : Place}
    {secret : String} : d.secret place = some secret ↔ Due object prior d place secret := by
  obtain ⟨properties, _, _, _, _, _, _, hproperties, -, -, -, -, -, -, hd⟩ :=
    flatten_eq_ok_iff.mp h
  have hprincipal : d.principal
      = (object.properties.bind (·.principal)).map (flattenPrincipal prior) := by
    rw [hd, hproperties]
    rfl
  cases place with
  | principal =>
    rw [Service.secret, Option.bind_eq_some_iff]
    constructor
    · rintro ⟨new, hnew, hsecret⟩
      obtain ⟨wire, hwire, rfl⟩ := Option.map_eq_some_iff.mp (hprincipal.symm.trans hnew)
      rcases secret_flattenPrincipal_eq_some_iff.mp hsecret with hown | ⟨hown, hprior⟩
      · exact .own hwire hown
      · obtain ⟨p, old, hprior, hold, hclient, hsecret⟩ := priorSecret_eq_some_iff.mp hprior
        exact .earlier hwire hown hprior hold hnew hclient hsecret
    · rintro (⟨hwire, hsecret⟩ | ⟨hwire, hown, hprior, hold, hnew, hclient, hsecret⟩)
      · rw [hwire] at hprincipal
        exact ⟨_, hprincipal, secret_flattenPrincipal_eq_some_iff.mpr (.inl hsecret)⟩
      · rw [hwire, Option.map_some] at hprincipal
        cases hprincipal.symm.trans hnew
        refine ⟨_, hnew, secret_flattenPrincipal_eq_some_iff.mpr (.inr ⟨hown, ?_⟩)⟩
        exact priorSecret_eq_some_iff.mpr ⟨_, _, hprior, hold, hclient, hsecret⟩

end Service

end Document

/-! ### Both kinds -/

/-- Whether an object, or an earlier document, has a secret for a place of the document that the
object is read as. An object of a group has none to give. -/
def Kind.Due : (kind : Kind) → kind.Obj → Option kind.Doc → kind.Doc → kind.Place → String → Prop
  | group => fun _ => Document.Group.Due
  | service => Document.Service.Due

/-- What is read with one earlier document and what is read with another are the same but for their
secrets, or the same error. A secret of what is read is one that is due to its place, and every
secret that is due is there. -/
theorem prior_supplies_matching_secrets (kind : Kind) (key : NaturalKey) (object : kind.Obj) :
    (∀ p q : Option kind.Doc, (kind.binding.flatten key object p).map kind.redacted
      = (kind.binding.flatten key object q).map kind.redacted)
    ∧ ∀ (prior : Option kind.Doc) (d : kind.Doc), kind.binding.flatten key object prior = .ok d →
      ∀ place secret, kind.secret d place = some secret ↔ kind.Due object prior d place secret := by
  cases kind with
  | group =>
    refine ⟨fun p q => ?_, fun prior d h place secret => ?_⟩
    · exact (Document.Group.map_redacted_flatten key object p).trans
        (Document.Group.map_redacted_flatten key object q).symm
    · exact (Document.Group.restored_of_flatten h).secret_eq_some_iff
  | service =>
    refine ⟨fun p q => ?_, fun prior d h place secret => ?_⟩
    · exact Document.Service.map_redacted_flatten key object p q
    · exact Document.Service.secret_eq_some_iff_of_flatten h

/-- An object with two credentials and a container with two volumes. -/
def Object.Group.shuffled : Object.Group where
  properties := some {
    osType := some "Linux"
    credentials := some [{ server := some "a.io" }, { server := some "b.io" }]
    volumes := some [
      { name := some "data", file := some { key := some "given out" } },
      { name := some "logs", file := some {} }]
    containers := [
      { name := some "web"
        properties := some {
          mounts := some [{ name := some "logs" }, { name := some "data" }] } }] }

/-- A group with a server at another position, and with two containers of one name. -/
def Document.Group.outdated : Document.Group where
  credentials := [
    { server := "b.io", username := "", password := some "moved" },
    { server := "b.io", username := "", password := some "in place" }]
  containers := [
    { name := "web", image := "", cpu := .zero, memory := .zero
      volumes := [{ name := "data", mountPath := "", share := "", account := "",
                    key := some "first" }] },
    { name := "web", image := "", cpu := .zero, memory := .zero
      volumes := [{ name := "data", mountPath := "", share := "", account := "",
                    key := some "second" },
                  { name := "logs", mountPath := "", share := "", account := "",
                    key := some "unreachable" }] }]

theorem prior_supplies_matching_secrets_outdated :
    ∃ d, Kind.group.binding.flatten ⟨"rg", "group"⟩ .shuffled (some .outdated) = .ok d
      ∧ (∀ secret, ¬ Kind.group.Due .shuffled (some .outdated) d (.password 0) secret)
      ∧ Kind.group.Due .shuffled (some .outdated) d (.password 1) "in place"
      ∧ (∀ secret, ¬ Kind.group.Due .shuffled (some .outdated) d (.key 0 0) secret)
      ∧ Kind.group.Due .shuffled (some .outdated) d (.key 0 1) "first" := by
  obtain ⟨d, hd⟩ : ∃ d, Kind.group.binding.flatten ⟨"rg", "group"⟩ .shuffled
      (some .outdated) = .ok d := ⟨_, rfl⟩
  have hdue := (prior_supplies_matching_secrets .group _ .shuffled).2 (some .outdated) d hd
  cases hd
  refine ⟨_, rfl, fun secret h => ?_, (hdue _ _).mp rfl, fun secret h => ?_, (hdue _ _).mp rfl⟩
  · cases (hdue _ _).mpr h
  · cases (hdue _ _).mpr h

end Provisioning
