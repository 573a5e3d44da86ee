import Provisioning.Proofs.Traversal
import Provisioning.Report

/-!
What stands in a report. A check is known by its position in the tree of steps, and what it finds by
the paths of the parts around it (`FailsAt`). A report has an entry for each check that fails and no
others, in the order of their positions, under all the paths from the outermost part inwards
(`report_lists_failures`). A tree is gone through from its leaves: what is listed of the parts is
listed of the whole (`Listed.nest`, `Listed.append`).
-/

namespace Provisioning

/-- The problem as it is put by a document around the part that has it; `paths` lead to the part,
the outermost first. -/
def Problem.under (paths : List String) (p : Problem) : Problem :=
  ⟨".".intercalate (paths ++ [p.field]), p.message⟩

@[simp] theorem Problem.under_nil (p : Problem) : p.under [] = p := by
  simp [under]

theorem Problem.under_cons (path : String) (paths : List String) (p : Problem) :
    p.under (path :: paths) = ⟨path ++ "." ++ (p.under paths).field, p.message⟩ := by
  rw [under, List.cons_append, String.intercalate_cons_of_ne_nil (by simp)]
  rfl

namespace Report

/-! ### Failures -/

/-- Whether a check in a step fails: its position in the step, the paths to it, the outermost first,
and what it finds. -/
inductive Step.FailsAt : Step → List Nat → List String → Problem → Prop
  | problem {field message : String} : FailsAt (.problem field message) [] [] ⟨field, message⟩
  | check {field message : String} : FailsAt (.check false field message) [] [] ⟨field, message⟩
  | nonBlank {field value : String} (h : Text.isBlank value = true) :
      FailsAt (.nonBlank field value) [] [] ⟨field, "must not be empty"⟩
  | nest {path : String} {steps : List Step} {i : Nat} {step : Step} {position : List Nat}
      {paths : List String} {p : Problem} (hstep : steps[i]? = some step)
      (h : step.FailsAt position paths p) :
      FailsAt (.nest path steps) (i :: position) (path :: paths) p

/-- Whether a check in some steps fails, the first of which has a number. -/
def FailsFrom (first : Nat) (steps : List Step) (position : List Nat) (paths : List String)
    (p : Problem) : Prop :=
  ∃ i rest step, position = (first + i) :: rest ∧ steps[i]? = some step ∧ step.FailsAt rest paths p

/-- At a position of a step there is one check. -/
theorem Step.FailsAt.unique {step : Step} {position : List Nat} {paths paths' : List String}
    {p p' : Problem} (h : step.FailsAt position paths p) (h' : step.FailsAt position paths' p') :
    paths = paths' ∧ p = p' := by
  induction h generalizing paths' with
  | nest hstep _ ih =>
    cases h' with
    | nest hother hfails =>
      cases hstep.symm.trans hother
      obtain ⟨rfl, rfl⟩ := ih hfails
      exact ⟨rfl, rfl⟩
  | _ => cases h'; exact ⟨rfl, rfl⟩

theorem FailsFrom.unique {first : Nat} {steps : List Step} {position : List Nat}
    {paths paths' : List String} {p p' : Problem} (h : FailsFrom first steps position paths p)
    (h' : FailsFrom first steps position paths' p') : paths = paths' ∧ p = p' := by
  obtain ⟨i, rest, step, rfl, hstep, hfails⟩ := h
  obtain ⟨j, rest', other, hposition, hother, hfails'⟩ := h'
  obtain ⟨hij, rfl⟩ := List.cons.inj hposition
  obtain rfl := Nat.add_left_cancel hij
  cases hstep.symm.trans hother
  exact hfails.unique hfails'

/-- Whether a check in some steps fails. -/
abbrev FailsAt (steps : List Step) : List Nat → List String → Problem → Prop := FailsFrom 0 steps

/-- Whether some problems are those of certain failures, each of them once, in the order of their
positions. -/
def Listed (fails : List Nat → List String → Problem → Prop) (problems : List Problem) : Prop :=
  ∃ positions : List (List Nat), positions.Pairwise (· < ·)
    ∧ (∀ position, position ∈ positions ↔ ∃ paths p, fails position paths p)
    ∧ List.Forall₂ (fun position problem => ∃ paths p, fails position paths p
        ∧ problem = p.under paths) positions problems

namespace Listed

variable {fails more : List Nat → List String → Problem → Prop} {problems others : List Problem}

theorem congr (h : Listed fails problems) (hfails : ∀ position paths p,
    fails position paths p ↔ more position paths p) : Listed more problems := by
  have hsame : fails = more :=
    funext fun position => funext fun paths => funext fun p => propext (hfails position paths p)
  exact hsame ▸ h

theorem none (h : ∀ position paths p, ¬ fails position paths p) : Listed fails [] :=
  ⟨[], .nil, by simpa using h, .nil⟩

theorem one (p : Problem) :
    Listed (fun position paths q => position = [] ∧ paths = [] ∧ q = p) [p] := by
  refine ⟨[[]], List.pairwise_singleton _ _, fun position => ?_, .cons ⟨[], p, ?_, ?_⟩ .nil⟩
  · simp
  · simp
  · simp

/-- A check has one failure at most. -/
theorem check (condition : Bool) (field message : String) :
    Listed (fun position paths p => condition = false ∧ position = [] ∧ paths = []
      ∧ p = ⟨field, message⟩) (Report.check condition field message).problems := by
  cases condition with
  | true => exact .none fun position paths p h => Bool.noConfusion h.1
  | false => exact (one ⟨field, message⟩).congr fun position paths p => by simp

/-- Failures in a part are failures in a document around it. -/
theorem nest (path : String) (h : Listed fails problems) :
    Listed (fun position paths p => ∃ inner, paths = path :: inner ∧ fails position inner p)
      (problems.map fun p => ⟨path ++ "." ++ p.field, p.message⟩) := by
  obtain ⟨positions, hsorted, hmem, hentries⟩ := h
  refine ⟨positions, hsorted, fun position => ?_, ?_⟩
  · rw [hmem]
    constructor
    · rintro ⟨inner, p, hfails⟩
      exact ⟨path :: inner, p, inner, rfl, hfails⟩
    · rintro ⟨_, p, inner, rfl, hfails⟩
      exact ⟨inner, p, hfails⟩
  · rw [List.forall₂_map_right_iff]
    refine hentries.imp ?_
    rintro position _ ⟨inner, p, hfails, rfl⟩
    exact ⟨path :: inner, p, ⟨inner, rfl, hfails⟩, (Problem.under_cons path inner p).symm⟩

/-- Failures in a step are failures in steps that have it at a position. -/
theorem at_position (i : Nat) (h : Listed fails problems) :
    Listed (fun position paths p => ∃ rest, position = i :: rest ∧ fails rest paths p)
      problems := by
  obtain ⟨positions, hsorted, hmem, hentries⟩ := h
  refine ⟨positions.map (i :: ·), hsorted.map _ fun a b hab => ?_, fun position => ?_, ?_⟩
  · exact List.cons_lt_cons_self.mpr hab
  · rw [List.mem_map]
    constructor
    · rintro ⟨rest, hrest, rfl⟩
      obtain ⟨paths, p, hfails⟩ := (hmem rest).mp hrest
      exact ⟨paths, p, rest, rfl, hfails⟩
    · rintro ⟨paths, p, rest, rfl, hfails⟩
      exact ⟨rest, (hmem rest).mpr ⟨paths, p, hfails⟩, rfl⟩
  · rw [List.forall₂_map_left_iff]
    refine hentries.imp ?_
    rintro rest problem ⟨paths, p, hfails, hproblem⟩
    exact ⟨paths, p, ⟨rest, rfl, hfails⟩, hproblem⟩

/-- Failures are listed together where all of the one kind come before those of the other. -/
theorem append (h : Listed fails problems) (hmore : Listed more others)
    (hlt : ∀ position paths p, fails position paths p → ∀ position' paths' p',
      more position' paths' p' → position < position') :
    Listed (fun position paths p => fails position paths p ∨ more position paths p)
      (problems ++ others) := by
  obtain ⟨positions, hsorted, hmem, hentries⟩ := h
  obtain ⟨positions', hsorted', hmem', hentries'⟩ := hmore
  refine ⟨positions ++ positions', List.pairwise_append.mpr ⟨hsorted, hsorted', ?_⟩,
    fun position => ?_, List.rel_append ?_ ?_⟩
  · intro position hposition position' hposition'
    obtain ⟨paths, p, hfails⟩ := (hmem position).mp hposition
    obtain ⟨paths', p', hfails'⟩ := (hmem' position').mp hposition'
    exact hlt position paths p hfails position' paths' p' hfails'
  · rw [List.mem_append, hmem, hmem']
    simp only [exists_or]
  · refine hentries.imp ?_
    rintro position problem ⟨paths, p, hfails, hproblem⟩
    exact ⟨paths, p, .inl hfails, hproblem⟩
  · refine hentries'.imp ?_
    rintro position problem ⟨paths, p, hfails, hproblem⟩
    exact ⟨paths, p, .inr hfails, hproblem⟩

end Listed

/-! ### Steps -/

theorem failsFrom_nil {first : Nat} {position : List Nat} {paths : List String} {p : Problem} :
    ¬ FailsFrom first [] position paths p := by
  rintro ⟨i, rest, step, -, hstep, -⟩
  cases hstep

/-- A check in some steps is in the first or in the others. -/
theorem failsFrom_cons {first : Nat} {step : Step} {steps : List Step} {position : List Nat}
    {paths : List String} {p : Problem} : FailsFrom first (step :: steps) position paths p
      ↔ (∃ rest, position = first :: rest ∧ step.FailsAt rest paths p)
        ∨ FailsFrom (first + 1) steps position paths p := by
  constructor
  · rintro ⟨_ | i, rest, other, rfl, hother, hfails⟩
    · cases hother
      exact .inl ⟨rest, rfl, hfails⟩
    · exact .inr ⟨i, rest, other, by rw [Nat.add_right_comm, Nat.add_assoc], hother, hfails⟩
  · rintro (⟨rest, rfl, hfails⟩ | ⟨i, rest, other, rfl, hother, hfails⟩)
    · exact ⟨0, rest, step, rfl, rfl, hfails⟩
    · exact ⟨i + 1, rest, other, by rw [Nat.add_right_comm, Nat.add_assoc], hother, hfails⟩

mutual

/-- The failures of a step are listed in its report. -/
theorem Step.listed : (step : Step) → Listed step.FailsAt step.report.problems
  | .problem field message => (Listed.one ⟨field, message⟩).congr fun position paths p => by
    constructor
    · rintro ⟨rfl, rfl, rfl⟩
      exact .problem
    · rintro ⟨⟩
      exact ⟨rfl, rfl, rfl⟩
  | .check condition field message =>
    (Listed.check condition field message).congr fun position paths p => by
      constructor
      · rintro ⟨rfl, rfl, rfl, rfl⟩
        exact .check
      · rintro ⟨⟩
        exact ⟨rfl, rfl, rfl, rfl⟩
  | .nonBlank field value =>
    (Listed.check _ field "must not be empty").congr fun position paths p => by
      constructor
      · rintro ⟨hblank, rfl, rfl, rfl⟩
        exact .nonBlank (by simpa using hblank)
      · intro h
        cases h with
        | nonBlank hblank => exact ⟨by simpa using hblank, rfl, rfl, rfl⟩
  | .nest path steps => ((listed_ofSteps 0 steps).nest path).congr fun position paths p => by
    constructor
    · rintro ⟨inner, rfl, i, rest, step, rfl, hstep, hfails⟩
      rw [Nat.zero_add]
      exact .nest hstep hfails
    · intro h
      cases h with
      | nest hstep hfails => exact ⟨_, rfl, _, _, _, by rw [Nat.zero_add], hstep, hfails⟩

/-- The failures of some steps are listed in the report of them all. -/
theorem listed_ofSteps (first : Nat) :
    (steps : List Step) → Listed (FailsFrom first steps) (ofSteps steps).problems
  | [] => .none fun _ _ _ => failsFrom_nil
  | step :: steps => by
    have hstep := step.listed.at_position first
    have hsteps := listed_ofSteps (first + 1) steps
    refine (hstep.append hsteps ?_).congr fun position paths p => failsFrom_cons.symm
    rintro _ _ _ ⟨rest, rfl, -⟩ _ _ _ ⟨i, rest', _, rfl, -⟩
    exact List.cons_lt_cons_iff.mpr (.inl (by omega))

end

theorem nest_nest (outer inner : String) (r : Report) :
    nest outer (nest inner r) = nest (outer ++ "." ++ inner) r := by
  simp [nest, String.append_assoc]

/-- A report is valid exactly if there are no failures to list. -/
theorem Listed.valid_iff {fails : List Nat → List String → Problem → Prop} {r : Report}
    (h : Listed fails r.problems) :
    r.isValid = true ↔ ∀ position paths p, ¬ fails position paths p := by
  obtain ⟨positions, -, hmem, hentries⟩ := h
  rw [Report.isValid_iff]
  constructor
  · intro hvalid position paths p hfails
    rw [hvalid, List.forall₂_nil_right_iff] at hentries
    have hposition := (hmem position).mpr ⟨paths, p, hfails⟩
    rw [hentries] at hposition
    cases hposition
  · intro hnone
    cases hproblems : r.problems with
    | nil => rfl
    | cons problem rest =>
      rw [hproblems, List.forall₂_cons_right_iff] at hentries
      obtain ⟨position, _, ⟨paths, p, hfails, -⟩, -, -⟩ := hentries
      exact absurd hfails (hnone position paths p)

/-- A report has one entry for each failing check, at any depth, in the order of the steps: what the
check finds, under the paths of all the parts around it. Parts of parts can be put under both paths
at once. The report is valid exactly if no check fails. -/
theorem report_lists_failures (steps : List Step) :
    (∃ positions : List (List Nat), positions.Pairwise (· < ·)
      ∧ (∀ position, position ∈ positions ↔ ∃ paths p, FailsAt steps position paths p)
      ∧ List.Forall₂ (fun position problem => ∀ paths p, FailsAt steps position paths p →
          problem = ⟨".".intercalate (paths ++ [p.field]), p.message⟩)
        positions (ofSteps steps).problems)
    ∧ (∀ outer inner (r : Report), nest outer (nest inner r) = nest (outer ++ "." ++ inner) r)
    ∧ ((ofSteps steps).isValid = true ↔ ∀ position paths p, ¬ FailsAt steps position paths p) := by
  have hlisted := listed_ofSteps 0 steps
  refine ⟨?_, nest_nest, hlisted.valid_iff⟩
  obtain ⟨positions, hsorted, hmem, hentries⟩ := hlisted
  refine ⟨positions, hsorted, hmem, hentries.imp ?_⟩
  rintro position _ ⟨paths, p, hfails, rfl⟩ paths' p' hfails'
  obtain ⟨rfl, rfl⟩ := hfails.unique hfails'
  rfl

/-- The check of a volume in a container. -/
def volumeSteps (share : String) : List Step :=
  [.check true "container" "at least one container is required",
    .nest "container.0" [.nest "volume.1" [.nonBlank "share_name" share]]]

theorem report_lists_failures_blank :
    FailsAt (volumeSteps " ") [1, 0, 0] ["container.0", "volume.1"]
      ⟨"share_name", "must not be empty"⟩
    ∧ ⟨"container.0.volume.1.share_name", "must not be empty"⟩
      ∈ (ofSteps (volumeSteps " ")).problems := by
  have hfails : FailsAt (volumeSteps " ") [1, 0, 0] ["container.0", "volume.1"]
      ⟨"share_name", "must not be empty"⟩ :=
    ⟨1, _, _, rfl, rfl, .nest rfl (.nest rfl (.nonBlank (by decide)))⟩
  obtain ⟨⟨positions, -, hmem, hentries⟩, -, -⟩ := report_lists_failures (volumeSteps " ")
  have hposition := (hmem [1, 0, 0]).mpr ⟨_, _, hfails⟩
  obtain ⟨problem, hproblem, hentry⟩ := exists_mem_of_forall₂ hentries.flip hposition
  have hvolume : problem = ⟨"container.0.volume.1.share_name", "must not be empty"⟩ :=
    hentry _ _ hfails
  exact ⟨hfails, hvolume ▸ hproblem⟩

end Report

end Provisioning
