import Mathlib.Data.List.Nodup
import Provisioning.Binding.Basic
import Provisioning.Proofs.Text.Segments

/-!
The places at which documents differ, as the paths of a difference name them. A list of paths is
exact (`Lists`) if it has each place of a set once and nothing else. The fields of a record make an
exact list because they have different names (`lists_fields`), and lists that lead into different
fields stay exact together (`Lists.append`). A path says where it leads because names have no point
in them (`Within.unique`) and neither have positions (`position_inj`).
-/

namespace Provisioning

/-! ### Differences that are none -/

namespace Diff

theorem pathUnless_eq_nil_iff {agree : Bool} {path : String} :
    pathUnless agree path = [] ↔ agree = true := by
  cases agree <;> simp [pathUnless]

theorem changed_eq_nil_iff {α : Type} [DecidableEq α] {path : String} {current desired : α} :
    changed path current desired = [] ↔ current = desired := by
  rw [changed, pathUnless_eq_nil_iff, decide_eq_true_eq]

/-- Whether what is known of a value is what is wanted. -/
def Known (current desired : Option String) : Prop := current = none ∨ current = desired

theorem Known.eq_some {current desired : Option String} (h : Known current desired) {s : String}
    (hs : current = some s) : desired = some s := by
  rcases h with hnone | hsame
  · rw [hnone] at hs
    cases hs
  · exact hsame.symm.trans hs

theorem changedIfKnown_eq_nil_iff {path : String} {current desired : Option String} :
    changedIfKnown path current desired = [] ↔ Known current desired := by
  rw [changedIfKnown, pathUnless_eq_nil_iff, Bool.or_eq_true, Option.isNone_iff_eq_none,
    decide_eq_true_eq]
  rfl

theorem isEmpty_iff {d : Diff} : d.isEmpty = true ↔ d.replace = [] ∧ d.update = [] := by
  simp [isEmpty]

end Diff

/-! ### Paths -/

/-- Whether a name has no point in it. -/
def Undotted (name : String) : Prop := '.' ∉ name.toList

instance (name : String) : Decidable (Undotted name) := inferInstanceAs (Decidable (_ ∉ _))

/-- A point ends a name. -/
theorem Undotted.append_inj {a b s t : String} (ha : Undotted a) (hb : Undotted b)
    (h : a ++ "." ++ s = b ++ "." ++ t) : a = b ∧ s = t := by
  have hlists : a.toList ++ '.' :: s.toList = b.toList ++ '.' :: t.toList := by
    simpa using congrArg String.toList h
  have hparts := congrArg (Text.split '.') hlists
  rw [Text.split_append_cons ha, Text.split_append_cons hb] at hparts
  obtain rfl : a = b := String.ext (List.cons.inj hparts).1
  have hrest := List.append_cancel_left hlists
  exact ⟨rfl, String.ext (List.cons.inj hrest).2⟩

theorem undotted_toString (i : Nat) : Undotted (toString i) := by
  intro h
  rw [Nat.toString_eq_repr, Nat.toList_repr] at h
  exact absurd (Nat.isDigit_of_mem_toDigits (by decide) (by decide) h) (by decide)

/-- A position ends at a point. -/
theorem position_inj {i j : Nat} {s t : String}
    (h : toString i ++ "." ++ s = toString j ++ "." ++ t) : i = j ∧ s = t := by
  obtain ⟨hposition, hrest⟩ := (undotted_toString i).append_inj (undotted_toString j) h
  have hdigits : Nat.toDigits 10 i = Nat.toDigits 10 j := by
    simpa only [Nat.toString_eq_repr, Nat.toList_repr] using congrArg String.toList hposition
  have hvalue := congrArg (fun digits => Nat.ofDigitChars 10 digits 0) hdigits
  simp only [Nat.ofDigitChars_toDigits (show 1 < 10 by decide) (Nat.le_refl 10)] at hvalue
  exact ⟨hvalue, hrest⟩

/-- Whether a path is that of a field or leads into it. -/
def Within (field path : String) : Prop := path = field ∨ ∃ rest, path = field ++ "." ++ rest

theorem Within.self (field : String) : Within field field := Or.inl rfl

/-- A path leads into one field only. -/
theorem Within.unique {f g path : String} (hf : Undotted f) (hg : Undotted g)
    (hpathf : Within f path) (hpathg : Within g path) : f = g := by
  rcases hpathf with rfl | ⟨s, rfl⟩
  · rcases hpathg with rfl | ⟨t, rfl⟩
    · rfl
    · exact absurd (by simp) hf
  · rcases hpathg with rfl | ⟨t, h⟩
    · exact absurd (by simp) hg
    · exact (hf.append_inj hg h).1

namespace Diff

/-! ### Exact lists of paths -/

/-- Whether some paths are those of the places in a set, each of them once, behind what they all
begin with. -/
structure Lists (start : String) (paths : List String) (place : String → Prop) : Prop where
  nodup : paths.Nodup
  mem_iff : ∀ path, path ∈ paths ↔ ∃ p, place p ∧ path = start ++ p

variable {start : String} {paths more : List String} {place other : String → Prop}

theorem Lists.congr (h : Lists start paths place) (hplace : ∀ p, place p ↔ other p) :
    Lists start paths other :=
  (funext fun p => propext (hplace p) : place = other) ▸ h

theorem lists_singleton {p : String} : Lists start [start ++ p] (· = p) where
  nodup := List.nodup_singleton _
  mem_iff path := by simp

/-- What all paths begin with may be part of the places. -/
theorem Lists.under {lead : String} (h : Lists (start ++ lead) paths place) :
    Lists start paths fun p => ∃ q, place q ∧ p = lead ++ q where
  nodup := h.nodup
  mem_iff path := by
    rw [h.mem_iff]
    constructor
    · rintro ⟨q, hq, rfl⟩
      exact ⟨lead ++ q, ⟨q, hq, rfl⟩, String.append_assoc⟩
    · rintro ⟨_, ⟨q, hq, rfl⟩, rfl⟩
      exact ⟨q, hq, String.append_assoc.symm⟩

/-- Lists of different places are exact together. -/
theorem Lists.append (hpaths : Lists start paths place) (hmore : Lists start more other)
    (hdisjoint : ∀ p, place p → ¬ other p) :
    Lists start (paths ++ more) fun p => place p ∨ other p where
  nodup := by
    refine List.nodup_append.mpr ⟨hpaths.nodup, hmore.nodup, ?_⟩
    rintro path hpath _ hother rfl
    obtain ⟨p, hp, rfl⟩ := (hpaths.mem_iff path).mp hpath
    obtain ⟨q, hq, hsame⟩ := (hmore.mem_iff _).mp hother
    obtain rfl := (String.append_right_inj start).mp hsame
    exact hdisjoint p hp hq
  mem_iff path := by
    rw [List.mem_append, hpaths.mem_iff, hmore.mem_iff, ← exists_or]
    exact exists_congr fun p => or_and_right.symm

/-- Whether a difference has each place for which an object is replaced once, each place at which it
is changed in place once, and no others. -/
structure Accurate (d : Diff) (replaced changed : String → Prop) : Prop where
  nodup_replace : d.replace.Nodup
  mem_replace_iff : ∀ p, p ∈ d.replace ↔ replaced p
  nodup_update : d.update.Nodup
  mem_update_iff : ∀ p, p ∈ d.update ↔ changed p

theorem Accurate.of_lists {d : Diff} {replaced changed : String → Prop}
    (hreplace : Lists "" d.replace replaced) (hupdate : Lists "" d.update changed) :
    d.Accurate replaced changed where
  nodup_replace := hreplace.nodup
  mem_replace_iff p := by simp [hreplace.mem_iff]
  nodup_update := hupdate.nodup
  mem_update_iff p := by simp [hupdate.mem_iff]

/-! ### Fields of a record -/

/-- The paths of the fields that do not agree. -/
def disagreeing (start : String) (fields : List (String × Bool)) : List String :=
  fields.flatMap fun field => pathUnless field.2 (start ++ field.1)

theorem disagreeing_eq_map (start : String) (fields : List (String × Bool)) :
    disagreeing start fields
      = (fields.filter fun field => !field.2).map fun field => start ++ field.1 := by
  induction fields with
  | nil => rfl
  | cons field fields ih =>
    obtain ⟨name, agree⟩ := field
    rw [disagreeing, List.flatMap_cons, ← disagreeing, ih]
    cases agree <;> rfl

/-- The fields of a record that do not agree are listed exactly if their names are different. -/
theorem lists_fields {fields : List (String × Bool)} (hnames : (fields.map Prod.fst).Nodup) :
    Lists start (disagreeing start fields) fun p => (p, false) ∈ fields where
  nodup := by
    have hkept : ((fields.filter fun field => !field.2).map Prod.fst).Nodup :=
      hnames.sublist (List.filter_sublist.map _)
    have hinjective : Function.Injective (start ++ ·) := fun _ _ =>
      (String.append_right_inj start).mp
    have hpaths := hkept.map hinjective
    rw [List.map_map] at hpaths
    rw [disagreeing_eq_map]
    exact hpaths
  mem_iff path := by
    rw [disagreeing_eq_map, List.mem_map]
    constructor
    · rintro ⟨⟨p, agree⟩, hp, rfl⟩
      obtain ⟨hp, hagree⟩ := List.mem_filter.mp hp
      obtain rfl : agree = false := by simpa using hagree
      exact ⟨p, hp, rfl⟩
    · rintro ⟨p, hp, rfl⟩
      exact ⟨(p, false), List.mem_filter.mpr ⟨hp, rfl⟩, rfl⟩

/-- No field of a record leads into a field of another name. -/
theorem not_within_of_mem {fields : List (String × Bool)} {field p : String} {agree : Bool}
    (hnames : ∀ name ∈ fields.map Prod.fst, Undotted name ∧ name ≠ field)
    (hfield : Undotted field) (h : (p, agree) ∈ fields) : ¬ Within field p := by
  intro hwithin
  obtain ⟨hp, hne⟩ := hnames p (List.mem_map_of_mem h)
  exact hne (Within.unique hp hfield (Within.self p) hwithin)

end Diff

end Provisioning
