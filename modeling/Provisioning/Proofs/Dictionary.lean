import Provisioning.Dictionary

/-!
Dictionaries are made from their own entries: an entry whose key comes after all others is put at
the end.
-/

namespace Provisioning.Dictionary

theorem put_of_last {key value : String} {entries : List (String × String)}
    (h : ∀ e ∈ entries, e.1 < key) : put key value entries = entries ++ [(key, value)] := by
  induction entries with
  | nil => rfl
  | cons entry rest ih =>
    have hfirst : entry.1 < key := h entry List.mem_cons_self
    have hnot : ¬ key < entry.1 := String.lt_asymm hfirst
    rw [put, if_neg hnot, if_pos hfirst, ih fun e he => h e (List.mem_cons_of_mem _ he)]
    rfl

theorem eq_of_entries_eq {a b : Dictionary} (h : a.entries = b.entries) : a = b := by
  cases a
  cases b
  cases h
  rfl

/-- Entries in ascending order, inserted one after the other, are all the entries there are. -/
theorem entries_foldl_insert {entries : List (String × String)} {d : Dictionary}
    (h : (d.entries ++ entries).Pairwise fun a b => a.1 < b.1) :
    (entries.foldl (fun d e => d.insert e.1 e.2) d).entries = d.entries ++ entries := by
  induction entries generalizing d with
  | nil => simp
  | cons e entries ih =>
    have hinsert : (d.insert e.1 e.2).entries = d.entries ++ [e] := by
      refine put_of_last fun a ha => ?_
      exact (List.pairwise_append.mp h).2.2 a ha e List.mem_cons_self
    rw [List.foldl_cons, ih, hinsert, List.append_assoc]
    · rfl
    · rw [hinsert, List.append_assoc]
      exact h

/-- A dictionary is made from its entries. -/
theorem ofList_entries (d : Dictionary) : ofList d.entries = d := by
  refine eq_of_entries_eq ?_
  exact entries_foldl_insert (d := empty) (by simpa [empty] using d.ascending)

/-- A dictionary that is left out when it is empty is not lost. -/
theorem getD_unlessEmpty (d : Dictionary) :
    (if d.isEmpty then none else some d).getD .empty = d := by
  cases hempty : d.isEmpty with
  | false => rfl
  | true =>
    refine eq_of_entries_eq ?_
    simpa [isEmpty, empty] using hempty.symm

end Provisioning.Dictionary
