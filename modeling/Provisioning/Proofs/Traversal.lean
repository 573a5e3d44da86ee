import Mathlib.Data.List.Forall2
import Mathlib.Data.List.Nodup

/-!
Steps that can fail, one after the other and over the items of a list. A traversal succeeds exactly
if every item does, so what relates the items before and after relates the lists; and it fails only
with the errors of its steps. What a lookup finds is the first item of its kind (`IsFirst`).
-/

namespace Provisioning

variable {α β γ ε : Type}

theorem bind_eq_ok_iff {x : Except ε α} {next : α → Except ε β} {b : β} :
    (x >>= next) = .ok b ↔ ∃ a, x = .ok a ∧ next a = .ok b := by
  cases x with
  | error e =>
    constructor
    · intro h
      cases h
    · rintro ⟨a, ⟨⟩, -⟩
  | ok a =>
    constructor
    · intro h
      exact ⟨a, rfl, h⟩
    · rintro ⟨_, ⟨⟩, h⟩
      exact h

theorem toOption_eq_some_iff {x : Except ε α} {a : α} : x.toOption = some a ↔ x = .ok a := by
  cases x <;> simp [Except.toOption]

theorem eq_ok_of_toOption_eq_some {x : Except ε α} {a : α} (h : x.toOption = some a) :
    x = .ok a :=
  toOption_eq_some_iff.mp h

/-- A traversal gives a list exactly if its items are given one by one. -/
theorem mapM_eq_ok_iff {f : α → Except ε β} {items : List α} {results : List β} :
    items.mapM f = .ok results ↔ List.Forall₂ (fun a b => f a = .ok b) items results := by
  induction items generalizing results with
  | nil =>
    rw [List.mapM_nil, List.forall₂_nil_left_iff]
    constructor
    · intro h
      exact (Except.ok.inj h).symm
    · rintro rfl
      rfl
  | cons a items ih =>
    rw [List.mapM_cons, bind_eq_ok_iff]
    constructor
    · rintro ⟨b, hb, h⟩
      obtain ⟨rest, hrest, h⟩ := bind_eq_ok_iff.mp h
      cases h
      exact .cons hb (ih.mp hrest)
    · intro h
      cases h with
      | cons hb hrest => exact ⟨_, hb, bind_eq_ok_iff.mpr ⟨_, ih.mpr hrest, rfl⟩⟩

/-- A traversal of steps that all succeed gives what the steps give. -/
theorem mapM_eq_ok_map {f : α → Except ε β} {g : α → β} {items : List α}
    (h : ∀ a ∈ items, f a = .ok (g a)) : items.mapM f = .ok (items.map g) := by
  refine mapM_eq_ok_iff.mpr ?_
  rw [List.forall₂_map_right_iff, List.forall₂_same]
  exact h

/-- What changes the result of the second step changes the result of both. -/
theorem bind_eq_map_bind {x : Except ε α} {f : α → Except ε β} {g : α → Except ε γ}
    {h : β → γ} (hstep : ∀ a, g a = (f a).map h) : (x >>= g) = (x >>= f).map h := by
  cases x with
  | error e => rfl
  | ok a => exact hstep a

/-- Second steps whose results have one image make the results of both steps have one image. -/
theorem map_bind_congr {x : Except ε α} {f g : α → Except ε β} {h : β → γ}
    (hstep : ∀ a, (f a).map h = (g a).map h) : (x >>= f).map h = (x >>= g).map h := by
  cases x with
  | error e => rfl
  | ok a => exact hstep a

/-- What changes the result of each step changes the result of a traversal item by item. -/
theorem mapM_eq_map_mapM {f : α → Except ε β} {g : α → Except ε γ} {h : β → γ}
    (hstep : ∀ a, g a = (f a).map h) (items : List α) :
    items.mapM g = (items.mapM f).map (List.map h) := by
  induction items with
  | nil => rfl
  | cons a items ih =>
    rw [List.mapM_cons, List.mapM_cons, hstep, ih]
    cases f a with
    | error e => rfl
    | ok b =>
      cases items.mapM f with
      | error e => rfl
      | ok rest => rfl

/-! ### The errors of a step -/

/-- Whether every error that a step may fail with has a property. -/
def ErrorsIn (p : ε → Prop) (x : Except ε α) : Prop := ∀ e, x = .error e → p e

namespace ErrorsIn

variable {p : ε → Prop}

theorem ok (a : α) : ErrorsIn p (.ok a : Except ε α) := nofun

theorem error {e : ε} (he : p e) : ErrorsIn p (.error e : Except ε α) := by
  rintro _ ⟨⟩
  exact he

theorem bind {x : Except ε α} {next : α → Except ε β} (hx : ErrorsIn p x)
    (hnext : ∀ a, ErrorsIn p (next a)) : ErrorsIn p (x >>= next) := by
  cases x with
  | error e => exact error (hx e rfl)
  | ok a => exact hnext a

theorem mapM {f : α → Except ε β} (hf : ∀ a, ErrorsIn p (f a)) (items : List α) :
    ErrorsIn p (items.mapM f) := by
  induction items with
  | nil => exact ok []
  | cons a items ih =>
    rw [List.mapM_cons]
    exact (hf a).bind fun b => ih.bind fun rest => ok (b :: rest)

end ErrorsIn

/-! ### Steps that fail -/

/-- Whether a step has no result. -/
def Fails (x : Except ε α) : Prop := ∃ e, x = .error e

namespace Fails

theorem of_error (e : ε) : Fails (.error e : Except ε α) := ⟨e, rfl⟩

theorem not_ok (a : α) : ¬ Fails (.ok a : Except ε α) := nofun

/-- Two steps fail with the first of them, or with the second if that fails whatever the first one
gives. -/
theorem bind_iff {x : Except ε α} {next : α → Except ε β} {p : Prop}
    (hnext : ∀ a, Fails (next a) ↔ p) : Fails (x >>= next) ↔ Fails x ∨ p := by
  cases x with
  | error e => exact iff_of_true (of_error e) (.inl (of_error e))
  | ok a => exact (hnext a).trans (or_iff_right (not_ok a)).symm

theorem bind_pure_iff {x : Except ε α} {f : α → β} : Fails (x >>= fun a => pure (f a)) ↔ Fails x :=
  (bind_iff fun a => iff_false_intro (not_ok (f a))).trans (iff_of_eq (or_false _))

theorem option_mapM_iff {f : α → Except ε β} {part : Option α} :
    Fails (part.mapM f) ↔ ∃ a, part = some a ∧ Fails (f a) := by
  cases part with
  | none =>
    refine iff_of_false (not_ok none) ?_
    rintro ⟨a, ⟨⟩, -⟩
  | some a =>
    refine bind_pure_iff.trans ⟨fun h => ⟨a, rfl, h⟩, ?_⟩
    rintro ⟨_, ⟨⟩, h⟩
    exact h

/-- A traversal fails exactly if it fails at one of the items. -/
theorem mapM_iff {f : α → Except ε β} {items : List α} :
    Fails (items.mapM f) ↔ ∃ a ∈ items, Fails (f a) := by
  induction items with
  | nil =>
    refine iff_of_false (not_ok []) ?_
    rintro ⟨a, ha, -⟩
    cases ha
  | cons a items ih =>
    have hrest (b : β) : Fails (items.mapM f >>= fun rest => pure (b :: rest))
        ↔ ∃ c ∈ items, Fails (f c) := bind_pure_iff.trans ih
    rw [List.mapM_cons, bind_iff hrest, List.exists_mem_cons_iff]

end Fails

/-! ### Lists item by item -/

/-- Related lists have the same images if related items of them have. -/
theorem map_eq_map_of_forall₂ {R : α → β → Prop} {f : α → γ} {g : β → γ} {left : List α}
    {right : List β} (hrelated : List.Forall₂ R left right)
    (hitem : ∀ a ∈ left, ∀ b ∈ right, R a b → f a = g b) : left.map f = right.map g := by
  induction hrelated with
  | nil => rfl
  | cons hab _ ih =>
    rw [List.map_cons, List.map_cons,
      hitem _ List.mem_cons_self _ List.mem_cons_self hab]
    rw [ih fun a ha b hb => hitem a (List.mem_cons_of_mem _ ha) b (List.mem_cons_of_mem _ hb)]

/-- Related lists are equal if related items of them are. -/
theorem eq_of_forall₂ {R : α → α → Prop} {left right : List α}
    (hrelated : List.Forall₂ R left right) (hitem : ∀ a ∈ left, ∀ b ∈ right, R a b → a = b) :
    left = right := by
  simpa using map_eq_map_of_forall₂ (f := id) (g := id) hrelated hitem

theorem map_eq_self_iff {f : α → α} {items : List α} :
    items.map f = items ↔ ∀ a ∈ items, f a = a := by
  simpa using @List.map_inj_left _ _ items f id

theorem option_map_eq_self_iff {f : α → α} {part : Option α} :
    part.map f = part ↔ ∀ a ∈ part, f a = a := by
  cases part <;> simp

/-- What is found in a list has an item that it is related to at the same position of a related
list. -/
theorem exists_getElem?_of_forall₂ {R : α → β → Prop} {left : List α} {right : List β}
    (hrelated : List.Forall₂ R left right) {i : Nat} {a : α} (ha : left[i]? = some a) :
    ∃ b, right[i]? = some b ∧ R a b := by
  induction hrelated generalizing i with
  | nil => cases ha
  | @cons a' b _ _ hab _ ih =>
    cases i with
    | zero =>
      cases ha
      exact ⟨b, rfl, hab⟩
    | succ i => exact ih ha

/-- Every item of a list is related to one of a related list. -/
theorem exists_mem_of_forall₂ {R : α → β → Prop} {left : List α} {right : List β}
    (hrelated : List.Forall₂ R left right) {b : β} (hb : b ∈ right) : ∃ a ∈ left, R a b := by
  obtain ⟨i, hi⟩ := List.mem_iff_getElem?.mp hb
  obtain ⟨a, ha, hab⟩ := exists_getElem?_of_forall₂ hrelated.flip hi
  exact ⟨a, List.mem_of_getElem? ha, hab⟩

/-- The items that a list is filtered for are related to what they are turned into. -/
theorem forall₂_filter_filterMap {R : α → β → Prop} {p : α → Prop} [DecidablePred p]
    {f : α → Option β} (hsome : ∀ a, p a ↔ (f a).isSome = true)
    (hrelated : ∀ a b, f a = some b → R a b) (items : List α) :
    List.Forall₂ R (items.filter p) (items.filterMap f) := by
  induction items with
  | nil => exact .nil
  | cons a items ih =>
    cases hfa : f a with
    | none =>
      have hp : ¬ p a := by simp [hsome, hfa]
      rw [List.filter_cons_of_neg (by simpa using hp), List.filterMap_cons_none hfa]
      exact ih
    | some b =>
      have hp : p a := by simp [hsome, hfa]
      rw [List.filter_cons_of_pos (by simpa using hp), List.filterMap_cons_some hfa]
      exact .cons (hrelated a b hfa) ih

/-! ### The first item of a list -/

/-- Whether an item is the first of a list that has a property. -/
def IsFirst (p : α → Prop) (items : List α) (a : α) : Prop :=
  p a ∧ ∃ earlier later, items = earlier ++ a :: later ∧ ∀ b ∈ earlier, ¬ p b

theorem find?_eq_some_iff_isFirst {p : α → Prop} {test : α → Bool}
    (htest : ∀ a, test a = true ↔ p a) {items : List α} {a : α} :
    items.find? test = some a ↔ IsFirst p items a := by
  simp [List.find?_eq_some_iff_append, IsFirst, ← htest]

/-- The only item of a list for which a test holds is the first one. -/
theorem find?_eq_some_of_unique {test : α → Bool} {items : List α} {a : α} (ha : a ∈ items)
    (htest : test a = true) (hunique : ∀ b ∈ items, test b = true → b = a) :
    items.find? test = some a := by
  cases hfind : items.find? test with
  | none => exact absurd htest (List.find?_eq_none.mp hfind a ha)
  | some b =>
    rw [hunique b (List.mem_of_find?_eq_some hfind) (List.find?_some hfind)]

/-- Where no two items have one name, an item is the first one of its name. -/
theorem find?_eq_some_of_nodup [BEq β] [LawfulBEq β] {name : α → β} {items : List α} {a : α}
    (hnames : (items.map name).Nodup) (ha : a ∈ items) :
    (items.find? fun item => name item == name a) = some a :=
  find?_eq_some_of_unique ha (by simp) fun b hb hname =>
    List.inj_on_of_nodup_map hnames hb ha (by simpa using hname)

end Provisioning
