import Mathlib.Data.List.Nodup
import Provisioning.Document.GroupReport

/-!
The report on a group is empty exactly if the group is well formed (`isValid_report_iff`). What it
takes to be well formed is said without the bookkeeping of the report: each container by itself, and
any two of them with each other. The report keeps the shares known so far in a table; a share is in
it as the first container that declares a volume of its name has it (`Declares`).

Which groups are accepted can be said of the group alone: its parts are well formed one by one, and
what its containers have to settle among them they have settled pair by pair (`Group.accepted_iff`).
-/

namespace Provisioning.Document

/-- Whether a text is given and not blank. -/
def Filled (text : String) : Prop := Text.isBlank text = false

theorem Filled.ne_empty {text : String} (h : Filled text) : text ≠ "" := by
  rintro rfl
  exact absurd h (by simp [Filled])

theorem isValid_nonBlank {field text : String} :
    (Report.nonBlank field text).isValid = true ↔ Filled text := by
  simp [Report.nonBlank, Filled]

theorem isValid_concat {parts : List Report} :
    (Report.concat parts).isValid = true ↔ ∀ part ∈ parts, part.isValid = true := by
  simp [Report.concat, Report.isValid]

theorem isValid_nonBlankIfGiven {field : String} {text : Option String} :
    (nonBlankIfGiven field text).isValid = true ↔ ∀ s, text = some s → Filled s := by
  cases text with
  | none => simp [nonBlankIfGiven]
  | some s => simp [nonBlankIfGiven, isValid_nonBlank]

/-- A secret that is not blank is known. -/
theorem eq_some_of_filled {secret : Option String} (h : Filled (secret.getD "")) :
    ∃ s, secret = some s := by
  cases secret with
  | none => exact absurd h (by simp [Filled])
  | some s => exact ⟨s, rfl⟩

/-! ### Volumes and credentials -/

/-- What it takes for a volume to be well formed. -/
structure Volume.WellFormed (v : Volume) : Prop where
  name : Filled v.name
  mountPath : Filled v.mountPath
  share : Filled v.share
  account : Filled v.account
  key : Filled (v.key.getD "")

theorem Volume.isValid_report_iff {v : Volume} : v.report.isValid = true ↔ v.WellFormed := by
  simp only [Volume.report, Report.isValid_append, Bool.and_eq_true, isValid_nonBlank]
  constructor
  · rintro ⟨⟨⟨⟨hname, hpath⟩, hshare⟩, haccount⟩, hkey⟩
    exact ⟨hname, hpath, hshare, haccount, hkey⟩
  · rintro ⟨hname, hpath, hshare, haccount, hkey⟩
    exact ⟨⟨⟨⟨hname, hpath⟩, hshare⟩, haccount⟩, hkey⟩

theorem Volume.sameShare_iff {v w : Volume} :
    v.sameShare w = true ↔ v.share = w.share ∧ v.account = w.account ∧ v.key = w.key := by
  simp [Volume.sameShare, and_assoc]

/-- What it takes for a credential to be well formed. -/
structure Credential.WellFormed (c : Credential) : Prop where
  server : Filled c.server
  username : Filled c.username
  password : Filled (c.password.getD "")

theorem Credential.isValid_report_iff {c : Credential} :
    c.report.isValid = true ↔ c.WellFormed := by
  simp only [Credential.report, Report.isValid_append, Bool.and_eq_true, isValid_nonBlank]
  constructor
  · rintro ⟨⟨hserver, husername⟩, hpassword⟩
    exact ⟨hserver, husername, hpassword⟩
  · rintro ⟨hserver, husername, hpassword⟩
    exact ⟨⟨hserver, husername⟩, hpassword⟩

theorem isValid_credentialsReport_iff {index : Nat} {credentials : List Credential} :
    (credentialsReport index credentials).isValid = true ↔ ∀ c ∈ credentials, c.WellFormed := by
  induction credentials generalizing index with
  | nil => simp [credentialsReport]
  | cons c credentials ih =>
    simp [credentialsReport, ih, Credential.isValid_report_iff]

/-! ### Containers -/

theorem isValid_volumesReport_iff {earlier : List String} {index : Nat} {volumes : List Volume} :
    (volumesReport earlier index volumes).isValid = true ↔ (∀ v ∈ volumes, v.WellFormed)
      ∧ (volumes.map Volume.name).Nodup ∧ ∀ v ∈ volumes, v.name ∉ earlier := by
  induction volumes generalizing earlier index with
  | nil => simp [volumesReport]
  | cons v volumes ih =>
    simp only [volumesReport, Report.isValid_append, Report.isValid_nest, Report.isValid_check,
      Bool.and_eq_true, Volume.isValid_report_iff, ih, List.map_cons, List.nodup_cons,
      Bool.not_eq_true', List.contains_eq_mem, decide_eq_false_iff_not, List.mem_map,
      List.mem_cons, forall_eq_or_imp, not_or]
    constructor
    · rintro ⟨⟨hv, hfresh⟩, hvolumes, hnodup, hearlier⟩
      refine ⟨⟨hv, hvolumes⟩, ⟨?_, hnodup⟩, hfresh, fun w hw => (hearlier w hw).2⟩
      rintro ⟨w, hw, hname⟩
      exact (hearlier w hw).1 hname
    · rintro ⟨⟨hv, hvolumes⟩, ⟨hname, hnodup⟩, hfresh, hearlier⟩
      refine ⟨⟨hv, hfresh⟩, hvolumes, hnodup, fun w hw => ⟨?_, hearlier w hw⟩⟩
      intro heq
      exact hname ⟨w, hw, heq⟩

/-- What it takes for a container to be well formed, whatever the other ones are. -/
structure Container.WellFormed (c : Container) : Prop where
  name : Filled c.name
  image : Filled c.image
  cpu : c.cpu.positive = true
  memory : c.memory.positive = true
  port : ∀ port, c.port = some port → portInRange port = true
  protocol : c.port = none → c.protocol = none
  command : ∀ command, c.command = some command → Filled command
  environment : ∀ name ∈ c.environment.keys, Filled name
  volumes : ∀ v ∈ c.volumes, v.WellFormed
  names : (c.volumes.map Volume.name).Nodup

theorem isValid_portReport_iff {port : Option UInt32} :
    (portReport port).isValid = true ↔ ∀ n, port = some n → portInRange n = true := by
  cases port with
  | none => simp [portReport]
  | some n => simp [portReport]

theorem Container.isValid_report_iff {c : Container} :
    c.report.isValid = true ↔ c.WellFormed := by
  have hprotocol : (c.protocol.isNone || c.port.isSome) = true
      ↔ (c.port = none → c.protocol = none) := by
    cases c.port <;> simp
  have henvironment : (∀ part ∈ c.environment.keys.map fun name =>
        Report.check (!Text.isBlank name) "environment_variables"
          "variable names must not be empty", part.isValid = true)
      ↔ ∀ name ∈ c.environment.keys, Filled name := by
    simp [Filled]
  simp only [Container.report, Report.isValid_append, Bool.and_eq_true, isValid_nonBlank,
    Report.isValid_check, isValid_portReport_iff, hprotocol, isValid_nonBlankIfGiven,
    isValid_concat, henvironment, isValid_volumesReport_iff]
  constructor
  · rintro ⟨⟨⟨⟨⟨⟨⟨⟨hname, himage⟩, hcpu⟩, hmemory⟩, hport⟩, hprotocol⟩, hcommand⟩, henv⟩,
      hvolumes, hnames, -⟩
    exact ⟨hname, himage, hcpu, hmemory, hport, hprotocol, hcommand, henv, hvolumes, hnames⟩
  · rintro ⟨hname, himage, hcpu, hmemory, hport, hprotocol, hcommand, henv, hvolumes, hnames⟩
    exact ⟨⟨⟨⟨⟨⟨⟨⟨hname, himage⟩, hcpu⟩, hmemory⟩, hport⟩, hprotocol⟩, hcommand⟩, henv⟩,
      hvolumes, hnames, by simp⟩

/-! ### Containers among each other -/

/-- Whether two containers, one before the other, get along in one group. -/
structure Container.Compatible (a b : Container) : Prop where
  name : a.name ≠ b.name
  port : ∀ port, b.port = some port → a.port ≠ some port
  volumes : ∀ v ∈ a.volumes, ∀ w ∈ b.volumes, v.name = w.name → w.sameShare v = true

/-- The volumes that some containers declare, each with the name of its container. -/
def declared (containers : List Container) : List (String × Volume) :=
  containers.flatMap fun c => c.volumes.map fun v => (c.name, v)

theorem mem_declared {containers : List Container} {owner : String} {v : Volume} :
    (owner, v) ∈ declared containers ↔ ∃ c ∈ containers, c.name = owner ∧ v ∈ c.volumes := by
  simp only [declared, List.mem_flatMap, List.mem_map, Prod.mk.injEq]
  constructor
  · rintro ⟨c, hc, w, hw, hname, rfl⟩
    exact ⟨c, hc, hname, hw⟩
  · rintro ⟨c, hc, hname, hv⟩
    exact ⟨c, hc, v, hv, hname, rfl⟩

/-- Whether a table of shares has for each name the first volume of that name that some containers
declare. -/
def Shares.Declares (shares : Shares) (containers : List Container) : Prop :=
  ∀ name, shares.lookup name = (declared containers).find? fun entry => entry.2.name == name

theorem Shares.lookup_cons (shares : Shares) (owner name : String) (v : Volume) :
    List.lookup name ((v.name, owner, v) :: shares)
      = if name = v.name then some (owner, v) else shares.lookup name := by
  rw [List.lookup_cons]
  by_cases hname : name = v.name
  · simp [hname]
  · rw [beq_false_of_ne hname, if_neg hname]

/-- The report on how the volumes of a container fit the shares known before, and the shares known
afterwards, if none of the volumes is its owner's already. -/
theorem sharesReport_spec {path owner : String} {shares : Shares} {index : Nat}
    {volumes : List Volume} (hnames : (volumes.map Volume.name).Nodup)
    (hforeign : ∀ v ∈ volumes, ∀ w, shares.lookup v.name ≠ some (owner, w)) :
    ((sharesReport path owner shares index volumes).1.isValid = true
      ↔ ∀ v ∈ volumes, ∀ other w, shares.lookup v.name = some (other, w) → v.sameShare w = true)
    ∧ ∀ name, (sharesReport path owner shares index volumes).2.lookup name
      = (shares.lookup name).or
        ((volumes.find? fun v => v.name == name).map fun v => (owner, v)) := by
  induction volumes generalizing shares index with
  | nil => simp [sharesReport]
  | cons v volumes ih =>
    obtain ⟨hfresh, hnodup⟩ := List.nodup_cons.mp hnames
    cases hlookup : shares.lookup v.name with
    | some entry =>
      obtain ⟨other, w⟩ := entry
      have hother : other ≠ owner := by
        rintro rfl
        exact hforeign v List.mem_cons_self w hlookup
      obtain ⟨hvalid, hafter⟩ := @ih shares (index + 1) hnodup fun u hu =>
        hforeign u (List.mem_cons_of_mem _ hu)
      simp only [sharesReport, hlookup, hother, if_false]
      constructor
      · rw [Report.isValid_append, Report.isValid_check, Bool.and_eq_true, hvalid,
          List.forall_mem_cons, hlookup]
        simp
      · intro name
        rw [hafter]
        by_cases hname : v.name = name
        · rw [← hname, hlookup]
          rfl
        · rw [List.find?_cons_of_neg (by simpa using hname)]
    | none =>
      have hne : ∀ u ∈ volumes, u.name ≠ v.name := by
        intro u hu hname
        exact hfresh (hname ▸ List.mem_map_of_mem hu)
      obtain ⟨hvalid, hafter⟩ := @ih ((v.name, owner, v) :: shares) (index + 1) hnodup (by
        intro u hu
        rw [Shares.lookup_cons, if_neg (hne u hu)]
        exact hforeign u (List.mem_cons_of_mem _ hu))
      simp only [sharesReport, hlookup]
      constructor
      · rw [hvalid, List.forall_mem_cons, hlookup]
        simp only [reduceCtorEq, false_implies, implies_true, true_and]
        refine forall₂_congr fun u hu => ?_
        rw [Shares.lookup_cons, if_neg (hne u hu)]
      · intro name
        rw [hafter, Shares.lookup_cons]
        by_cases hname : name = v.name
        · rw [if_pos hname, hname, hlookup, List.find?_cons_of_pos (by simp)]
          rfl
        · rw [if_neg hname, List.find?_cons_of_neg (by simpa using Ne.symm hname)]

theorem isValid_portClashReport_iff {path : String} {earlier : List Container}
    {port : Option UInt32} :
    (portClashReport path earlier port).isValid = true
      ↔ ∀ n, port = some n → ∀ a ∈ earlier, a.port ≠ some n := by
  cases port with
  | none => simp [portClashReport]
  | some n =>
    cases hfind : earlier.find? fun a => a.port == some n with
    | none =>
      have hnone := List.find?_eq_none.mp hfind
      simp only [portClashReport, hfind, Report.isValid_empty, true_iff]
      rintro m ⟨⟩ a ha hport
      exact hnone a ha (by simp [hport])
    | some other =>
      simp only [portClashReport, hfind, Report.isValid, Report.problem, List.isEmpty_cons,
        Bool.false_eq_true, false_iff]
      intro h
      exact h n rfl other (List.mem_of_find?_eq_some hfind) (by simpa using List.find?_some hfind)

/-- Any two containers of a list in which they get along, from front to back, get along. -/
theorem eq_or_compatible {containers : List Container}
    (h : containers.Pairwise Container.Compatible) {a b : Container} (ha : a ∈ containers)
    (hb : b ∈ containers) : a = b ∨ a.Compatible b ∨ b.Compatible a := by
  induction h with
  | nil => cases ha
  | cons hfirst _ ih =>
    rcases List.mem_cons.mp ha with rfl | ha'
    · rcases List.mem_cons.mp hb with rfl | hb'
      · exact Or.inl rfl
      · exact Or.inr (Or.inl (hfirst b hb'))
    · rcases List.mem_cons.mp hb with rfl | hb'
      · exact Or.inr (Or.inr (hfirst a ha'))
      · exact ih ha' hb'

/-- Volumes of one name are one share, in whichever containers they are declared. -/
theorem sameShare_of_name_eq {containers : List Container}
    (hcompatible : containers.Pairwise Container.Compatible)
    (hnames : ∀ c ∈ containers, (c.volumes.map Volume.name).Nodup) {a b : Container}
    (ha : a ∈ containers) (hb : b ∈ containers) {v w : Volume} (hv : v ∈ a.volumes)
    (hw : w ∈ b.volumes) (hname : v.name = w.name) : w.sameShare v = true := by
  rcases eq_or_compatible hcompatible ha hb with rfl | hab | hba
  · rw [List.inj_on_of_nodup_map (hnames a ha) hv hw hname]
    exact Volume.sameShare_iff.mpr ⟨rfl, rfl, rfl⟩
  · exact hab.volumes v hv w hw hname
  · obtain ⟨hshare, haccount, hkey⟩ :=
      Volume.sameShare_iff.mp (hba.volumes w hw v hv hname.symm)
    exact Volume.sameShare_iff.mpr ⟨hshare.symm, haccount.symm, hkey.symm⟩

section Table

variable {earlier : List Container} {shares : Shares} {c : Container} {path : String}

/-- What the report finds on a container among those before it, if its name is a new one: nothing
exactly if it gets along with each of them. -/
theorem isValid_clashes_iff (hdeclares : shares.Declares earlier.reverse)
    (hcompatible : earlier.reverse.Pairwise Container.Compatible)
    (hnames : ∀ a ∈ earlier, (a.volumes.map Volume.name).Nodup)
    (hvalid : (sharesReport path c.name shares 0 c.volumes).1.isValid = true
      ↔ ∀ v ∈ c.volumes, ∀ other w, shares.lookup v.name = some (other, w) → v.sameShare w = true)
    (hfresh : ∀ a ∈ earlier, a.name ≠ c.name) :
    ((portClashReport path earlier c.port).isValid = true
      ∧ (sharesReport path c.name shares 0 c.volumes).1.isValid = true)
      ↔ ∀ a ∈ earlier, a.Compatible c := by
  rw [isValid_portClashReport_iff, hvalid]
  constructor
  · rintro ⟨hport, hshare⟩ a ha
    refine ⟨hfresh a ha, fun port h => hport port h a ha, ?_⟩
    intro v hv w hw hname
    -- The table has the first volume of the name, which is the same share as this one.
    have hmem : (a.name, v) ∈ declared earlier.reverse :=
      mem_declared.mpr ⟨a, List.mem_reverse.mpr ha, rfl, hv⟩
    obtain ⟨⟨owner, first⟩, hfirst⟩ := Option.isSome_iff_exists.mp
      (List.find?_isSome.mpr ⟨(a.name, v), hmem, (by simpa using hname)⟩ :
        ((declared earlier.reverse).find? fun entry => entry.2.name == w.name).isSome)
    obtain ⟨b, hb, -, hfirstmem⟩ := mem_declared.mp (List.mem_of_find?_eq_some hfirst)
    have hfirstname : first.name = w.name := by simpa using List.find?_some hfirst
    have hsame := sameShare_of_name_eq hcompatible (fun a ha => hnames a (List.mem_reverse.mp ha))
      (List.mem_reverse.mpr ha) hb hv hfirstmem (hname.trans hfirstname.symm)
    obtain ⟨hshare₁, haccount₁, hkey₁⟩ :=
      Volume.sameShare_iff.mp (hshare w hw owner first ((hdeclares w.name).trans hfirst))
    obtain ⟨hshare₂, haccount₂, hkey₂⟩ := Volume.sameShare_iff.mp hsame
    exact Volume.sameShare_iff.mpr
      ⟨hshare₁.trans hshare₂, haccount₁.trans haccount₂, hkey₁.trans hkey₂⟩
  · intro h
    refine ⟨fun port hport a ha => (h a ha).port port hport, ?_⟩
    intro v hv other w hlookup
    rw [hdeclares v.name] at hlookup
    obtain ⟨a, ha, -, hw⟩ := mem_declared.mp (List.mem_of_find?_eq_some hlookup)
    have hname : w.name = v.name := by simpa using List.find?_some hlookup
    exact (h a (List.mem_reverse.mp ha)).volumes w hw v hv hname

/-- The table of shares after a container is the one of all containers so far. -/
theorem Shares.Declares.append {after : Shares} (hdeclares : shares.Declares earlier.reverse)
    (hafter : ∀ name, after.lookup name = (shares.lookup name).or
      ((c.volumes.find? fun v => v.name == name).map fun v => (c.name, v))) :
    after.Declares (c :: earlier).reverse := by
  intro name
  have hdeclared : declared (c :: earlier).reverse
      = declared earlier.reverse ++ c.volumes.map fun v => (c.name, v) := by
    simp [declared]
  rw [hafter, hdeclares, hdeclared, List.find?_append, List.find?_map]
  rfl

end Table

/-- The report on containers is empty exactly if each is well formed and all of them get along,
those before them included. -/
theorem isValid_containersReport_iff {earlier : List Container} {shares : Shares} {index : Nat}
    {containers : List Container} (hdeclares : shares.Declares earlier.reverse)
    (hcompatible : earlier.reverse.Pairwise Container.Compatible)
    (hnames : ∀ a ∈ earlier, (a.volumes.map Volume.name).Nodup) :
    (containersReport earlier shares index containers).isValid = true
      ↔ (∀ c ∈ containers, c.WellFormed)
        ∧ (earlier.reverse ++ containers).Pairwise Container.Compatible := by
  induction containers generalizing earlier shares index with
  | nil => simp [containersReport, hcompatible]
  | cons c containers ih =>
    have hsplit : earlier.reverse ++ c :: containers = (c :: earlier).reverse ++ containers := by
      simp
    have hbefore : (earlier.reverse ++ c :: containers).Pairwise Container.Compatible →
        ∀ a ∈ earlier, a.Compatible c := by
      intro hpairwise a ha
      obtain ⟨-, -, hacross⟩ := List.pairwise_append.mp hpairwise
      exact hacross a (List.mem_reverse.mpr ha) c List.mem_cons_self
    simp only [containersReport, Report.isValid_append, Report.isValid_nest, Report.isValid_check,
      Bool.and_eq_true, Container.isValid_report_iff, List.forall_mem_cons]
    by_cases hc : c.WellFormed
    swap
    · simp [hc]
    by_cases hfresh : ∀ a ∈ earlier, a.name ≠ c.name
    swap
    · refine iff_of_false ?_ ?_
      · rintro ⟨⟨⟨⟨-, hname⟩, -⟩, -⟩, -⟩
        exact hfresh (by simpa using hname)
      · rintro ⟨-, hall⟩
        exact hfresh fun a ha => (hbefore hall a ha).name
    have hforeign : ∀ v ∈ c.volumes, ∀ w, shares.lookup v.name ≠ some (c.name, w) := by
      intro v _ w hlookup
      rw [hdeclares v.name] at hlookup
      obtain ⟨a, ha, hname, -⟩ := mem_declared.mp (List.mem_of_find?_eq_some hlookup)
      exact hfresh a (List.mem_reverse.mp ha) hname
    obtain ⟨hvalid, hafter⟩ := @sharesReport_spec ("container." ++ toString index)
      c.name shares 0 c.volumes hc.names hforeign
    have hclashes := isValid_clashes_iff hdeclares hcompatible hnames hvalid hfresh
    by_cases hall : ∀ a ∈ earlier, a.Compatible c
    swap
    · refine iff_of_false ?_ ?_
      · rintro ⟨⟨⟨-, hport⟩, hshare⟩, -⟩
        exact hall (hclashes.mp ⟨hport, hshare⟩)
      · rintro ⟨-, hpairwise⟩
        exact hall (hbefore hpairwise)
    have hcompatible' : (c :: earlier).reverse.Pairwise Container.Compatible := by
      rw [List.reverse_cons, List.pairwise_append]
      refine ⟨hcompatible, List.pairwise_singleton _ _, ?_⟩
      intro a ha b hb
      rw [List.mem_singleton.mp hb]
      exact hall a (List.mem_reverse.mp ha)
    have hnames' : ∀ a ∈ c :: earlier, (a.volumes.map Volume.name).Nodup :=
      List.forall_mem_cons.mpr ⟨hc.names, hnames⟩
    obtain ⟨hport, hshare⟩ := hclashes.mpr hall
    have hname : (!earlier.any fun o => o.name == c.name) = true := by
      simpa using hfresh
    rw [ih (hdeclares.append hafter) hcompatible' hnames', hsplit]
    simp only [hc, hname, hport, hshare, true_and, and_true]

/-! ### Groups -/

/-- What it takes for a group to be well formed. -/
structure Group.WellFormed (g : Group) : Prop where
  name : Filled g.name
  location : Filled g.location
  resourceGroup : Filled g.resourceGroup
  label : ∀ label, g.label = some label → Filled label
  credentials : ∀ c ∈ g.credentials, c.WellFormed
  nonempty : g.containers ≠ []
  containers : ∀ c ∈ g.containers, c.WellFormed
  compatible : g.containers.Pairwise Container.Compatible

/-- The report on a group is empty exactly if the group is well formed. -/
theorem Group.isValid_report_iff {g : Group} : g.report.isValid = true ↔ g.WellFormed := by
  have hcontainers : (containersReport [] [] 0 g.containers).isValid = true
      ↔ (∀ c ∈ g.containers, c.WellFormed) ∧ g.containers.Pairwise Container.Compatible :=
    isValid_containersReport_iff (fun _ => rfl) .nil nofun
  have hnonempty : (!g.containers.isEmpty) = true ↔ g.containers ≠ [] := by
    simp
  simp only [Group.report, Report.isValid_append, Report.isValid_check, Bool.and_eq_true,
    isValid_nonBlank, isValid_nonBlankIfGiven, isValid_credentialsReport_iff, hcontainers,
    hnonempty]
  constructor
  · rintro ⟨⟨⟨⟨⟨⟨hname, hlocation⟩, hgroup⟩, hlabel⟩, hcredentials⟩, hne⟩, hall, hpairwise⟩
    exact ⟨hname, hlocation, hgroup, hlabel, hcredentials, hne, hall, hpairwise⟩
  · rintro ⟨hname, hlocation, hgroup, hlabel, hcredentials, hne, hall, hpairwise⟩
    exact ⟨⟨⟨⟨⟨⟨hname, hlocation⟩, hgroup⟩, hlabel⟩, hcredentials⟩, hne⟩, hall, hpairwise⟩

/-! ### Groups that are accepted -/

/-- Whether the volumes of two containers that have one name are one share, reached with one key. -/
def Container.SharesVolumes (a b : Container) : Prop :=
  ∀ v ∈ a.volumes, ∀ w ∈ b.volumes, v.name = w.name →
    v.share = w.share ∧ v.account = w.account ∧ v.key = w.key

theorem Container.compatible_iff {a b : Container} :
    a.Compatible b ↔ a.name ≠ b.name
      ∧ (∀ port, a.port = some port → ∀ other, b.port = some other → port ≠ other)
      ∧ a.SharesVolumes b := by
  constructor
  · rintro ⟨hname, hport, hvolumes⟩
    refine ⟨hname, ?_, ?_⟩
    · rintro port ha _ hb rfl
      exact hport port hb ha
    · intro v hv w hw hsame
      obtain ⟨hshare, haccount, hkey⟩ := Volume.sameShare_iff.mp (hvolumes v hv w hw hsame)
      exact ⟨hshare.symm, haccount.symm, hkey.symm⟩
  · rintro ⟨hname, hport, hvolumes⟩
    refine ⟨hname, fun port hb ha => hport port ha port hb rfl, ?_⟩
    intro v hv w hw hsame
    obtain ⟨hshare, haccount, hkey⟩ := hvolumes v hv w hw hsame
    exact Volume.sameShare_iff.mpr ⟨hshare.symm, haccount.symm, hkey.symm⟩

/-- Containers get along pair by pair exactly if no name and no port is there twice and any two of
them share their volumes. -/
theorem pairwise_compatible_iff {containers : List Container} :
    containers.Pairwise Container.Compatible ↔ (containers.map Container.name).Nodup
      ∧ (containers.filterMap Container.port).Nodup
      ∧ containers.Pairwise Container.SharesVolumes := by
  rw [List.Nodup, List.Nodup, List.pairwise_map, List.pairwise_filterMap, ← List.pairwise_and_iff,
    ← List.pairwise_and_iff]
  exact List.Pairwise.iff fun a b => Container.compatible_iff

/-- A group is accepted exactly if its texts are filled, its credentials and containers are well
formed, there is a container, and no two containers have one name, one port, or a volume of one name
that is not one share. -/
theorem Group.accepted_iff {g : Group} : g.report.isValid = true ↔
    Filled g.name ∧ Filled g.location ∧ Filled g.resourceGroup
    ∧ (∀ label, g.label = some label → Filled label)
    ∧ (∀ c ∈ g.credentials, c.WellFormed)
    ∧ g.containers ≠ [] ∧ (∀ c ∈ g.containers, c.WellFormed)
    ∧ (g.containers.map Container.name).Nodup
    ∧ (g.containers.filterMap Container.port).Nodup
    ∧ g.containers.Pairwise Container.SharesVolumes := by
  rw [Group.isValid_report_iff, ← pairwise_compatible_iff]
  constructor
  · rintro ⟨hname, hlocation, hgroup, hlabel, hcredentials, hne, hall, hpairwise⟩
    exact ⟨hname, hlocation, hgroup, hlabel, hcredentials, hne, hall, hpairwise⟩
  · rintro ⟨hname, hlocation, hgroup, hlabel, hcredentials, hne, hall, hpairwise⟩
    exact ⟨hname, hlocation, hgroup, hlabel, hcredentials, hne, hall, hpairwise⟩

end Provisioning.Document
