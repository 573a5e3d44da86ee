/-!
Dictionaries from texts to texts, as tags and environment variables are. Entries are kept in the
order of their keys, each key once, so two dictionaries with the same entries are equal.
-/

namespace Provisioning

/-- A dictionary: entries in ascending order of their keys. -/
structure Dictionary where
  entries : List (String × String)
  ascending : entries.Pairwise fun a b => a.1 < b.1
deriving DecidableEq

namespace Dictionary

/-- The dictionary without entries. -/
def empty : Dictionary := ⟨[], .nil⟩

instance : Inhabited Dictionary := ⟨empty⟩

/-- Whether there is no entry. -/
def isEmpty (d : Dictionary) : Bool := d.entries.isEmpty

/-- The keys in ascending order. -/
def keys (d : Dictionary) : List String := d.entries.map (·.1)

/-- An ascending list of entries with an entry put in its place, instead of one of the same key. -/
def put (key value : String) : List (String × String) → List (String × String)
  | [] => [(key, value)]
  | entry :: rest =>
    if key < entry.1 then (key, value) :: entry :: rest
    else if entry.1 < key then entry :: put key value rest
    else (key, value) :: rest

theorem mem_put {key value : String} {entries : List (String × String)} {e : String × String}
    (h : e ∈ put key value entries) : e = (key, value) ∨ e ∈ entries := by
  induction entries with
  | nil => simpa [put] using h
  | cons entry rest ih =>
    unfold put at h
    split at h
    · simpa using h
    · split at h
      · rcases List.mem_cons.1 h with rfl | h
        · simp
        · rcases ih h with h | h <;> simp [h]
      · rcases List.mem_cons.1 h with h | h <;> simp [h]

theorem ascending_put (key value : String) {entries : List (String × String)}
    (h : entries.Pairwise fun a b => a.1 < b.1) :
    (put key value entries).Pairwise fun a b => a.1 < b.1 := by
  induction entries with
  | nil => simp [put]
  | cons entry rest ih =>
    rw [List.pairwise_cons] at h
    unfold put
    split
    · rename_i hlt
      refine List.pairwise_cons.2 ⟨fun e he => ?_, List.pairwise_cons.2 h⟩
      rcases List.mem_cons.1 he with rfl | he
      · exact hlt
      · exact String.lt_trans hlt (h.1 e he)
    · split
      · rename_i hgt
        refine List.pairwise_cons.2 ⟨fun e he => ?_, ih h.2⟩
        rcases mem_put he with rfl | he
        · exact hgt
        · exact h.1 e he
      · rename_i hnlt hngt
        have heq : key = entry.1 := String.le_antisymm hngt hnlt
        refine List.pairwise_cons.2 ⟨fun e he => ?_, h.2⟩
        exact heq ▸ h.1 e he

/-- The dictionary with an entry added, or its value replaced. -/
def insert (d : Dictionary) (key value : String) : Dictionary :=
  ⟨put key value d.entries, ascending_put key value d.ascending⟩

/-- The dictionary of a list of entries, the last one of a key standing. -/
def ofList (entries : List (String × String)) : Dictionary :=
  entries.foldl (fun d e => d.insert e.1 e.2) empty

end Dictionary

end Provisioning
