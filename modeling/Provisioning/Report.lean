import Provisioning.Text.Basic

/-!
Reports on documents: every problem found, each with the dotted path of its field. Reports are put
together from single checks and from the reports on nested parts; a document with an empty report
is well formed.
-/

namespace Provisioning

/-- A problem with one field. -/
structure Problem where
  field : String
  message : String
deriving DecidableEq

/-- The wording of a problem. -/
def Problem.text (p : Problem) : String := p.field ++ ": " ++ p.message

/-- The problems of a document, in the order in which they were found. -/
structure Report where
  problems : List Problem
deriving DecidableEq

namespace Report

/-- The report without problems. -/
def empty : Report := ⟨[]⟩

instance : Append Report := ⟨fun a b => ⟨a.problems ++ b.problems⟩⟩

@[simp] theorem problems_append (a b : Report) : (a ++ b).problems = a.problems ++ b.problems := rfl

@[simp] theorem problems_empty : empty.problems = [] := rfl

/-- The report of a single problem. -/
def problem (field message : String) : Report := ⟨[⟨field, message⟩]⟩

/-- A problem unless the condition holds. -/
def check (condition : Bool) (field message : String) : Report :=
  if condition then empty else problem field message

/-- A problem if the text is blank. -/
def nonBlank (field value : String) : Report :=
  check (!Text.isBlank value) field "must not be empty"

/-- The report on a nested part, its fields put under the given path. -/
def nest (path : String) (part : Report) : Report :=
  ⟨part.problems.map fun p => ⟨path ++ "." ++ p.field, p.message⟩⟩

/-- The reports on the parts of a list, one after the other. -/
def concat (parts : List Report) : Report := ⟨parts.flatMap Report.problems⟩

/-- Whether nothing is wrong. -/
def isValid (r : Report) : Bool := r.problems.isEmpty

/-- The wording of a report. -/
def text (r : Report) : String := "; ".intercalate (r.problems.map Problem.text)

theorem isValid_iff (r : Report) : r.isValid = true ↔ r.problems = [] := by
  simp [isValid]

@[simp] theorem isValid_empty : empty.isValid = true := rfl

@[simp] theorem isValid_append (a b : Report) : (a ++ b).isValid = (a.isValid && b.isValid) := by
  cases a with | mk ps => cases ps <;> simp [isValid]

@[simp] theorem isValid_check (condition : Bool) (field message : String) :
    (check condition field message).isValid = condition := by
  cases condition <;> rfl

@[simp] theorem isValid_nest (path : String) (r : Report) : (nest path r).isValid = r.isValid := by
  simp [isValid, nest]

/-! ### Reports by their making -/

/-- A step in the making of a report. Steps make a tree whose branches are the nested parts of a
document: it says what is checked where, and `Step.report` carries the checks out. -/
inductive Step where
  /-- A problem, whatever the document. -/
  | problem (field message : String)
  | check (condition : Bool) (field message : String)
  | nonBlank (field value : String)
  /-- The steps for a nested part under the given path. -/
  | nest (path : String) (steps : List Step)

mutual

/-- The report of a step. -/
def Step.report : Step → Report
  | .problem field message => Report.problem field message
  | .check condition field message => Report.check condition field message
  | .nonBlank field value => Report.nonBlank field value
  | .nest path steps => Report.nest path (ofSteps steps)

/-- The report of some steps, one after the other. -/
def ofSteps : List Step → Report
  | [] => .empty
  | step :: steps => step.report ++ ofSteps steps

end

end Report

end Provisioning
