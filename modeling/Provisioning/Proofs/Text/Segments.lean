import Provisioning.Text.Basic

/-!
Splitting and joining undo each other in both orders: on parts that are free of the separator
(`split_join`), and on any text, also where the parts are put together as texts
(`intercalate_splitText`). A part of a split text is free of the separator (`not_mem_of_mem_split`).
What is left of a text that is trimmed is known by its ends (`trimBoth_eq_iff`).
-/

namespace Provisioning.Text

variable {sep : Char}

theorem join_cons_cons (part next : List Char) (others : List (List Char)) :
    join sep (part :: next :: others) = part ++ sep :: join sep (next :: others) := rfl

/-- No part of a split text has the separator in it. -/
theorem not_mem_of_mem_split {cs part : List Char} (h : part ∈ split sep cs) : sep ∉ part := by
  induction cs generalizing part with
  | nil =>
    rw [List.mem_singleton.mp h]
    exact List.not_mem_nil
  | cons c rest ih =>
    unfold split at h
    split at h
    · rcases List.mem_cons.mp h with rfl | h
      · exact List.not_mem_nil
      · exact ih h
    · rename_i hc
      cases hs : split sep rest with
      | nil => exact absurd hs (split_ne_nil sep rest)
      | cons first others =>
        rw [hs] at h ih
        rcases List.mem_cons.mp h with rfl | h
        · intro hmem
          rcases List.mem_cons.mp hmem with heq | hmem
          · exact hc heq.symm
          · exact ih List.mem_cons_self hmem
        · exact ih (List.mem_cons_of_mem _ h)

theorem split_of_not_mem {part : List Char} (h : sep ∉ part) : split sep part = [part] := by
  induction part with
  | nil => rfl
  | cons c rest ih =>
    obtain ⟨hc, hrest⟩ := not_or.mp (mt List.mem_cons.mpr h)
    rw [split, if_neg (Ne.symm hc), ih hrest]

theorem split_append_cons {part : List Char} (h : sep ∉ part) (cs : List Char) :
    split sep (part ++ sep :: cs) = part :: split sep cs := by
  induction part with
  | nil => simp [split]
  | cons c rest ih =>
    obtain ⟨hc, hrest⟩ := not_or.mp (mt List.mem_cons.mpr h)
    rw [List.cons_append, split, if_neg (Ne.symm hc), ih hrest]

/-- Splitting undoes joining on parts that are free of the separator. -/
theorem split_join {parts : List (List Char)} (hne : parts ≠ [])
    (h : ∀ part ∈ parts, sep ∉ part) : split sep (join sep parts) = parts := by
  induction parts with
  | nil => exact absurd rfl hne
  | cons part parts ih =>
    have hpart : sep ∉ part := h part List.mem_cons_self
    cases parts with
    | nil => exact split_of_not_mem hpart
    | cons next others =>
      have hothers := ih (List.cons_ne_nil _ _) fun p hp => h p (List.mem_cons_of_mem _ hp)
      rw [join_cons_cons, split_append_cons hpart, hothers]

/-! ### Trimming -/

/-- Dropping the edges at the front leaves a text that does not begin with one. -/
theorem dropWhile_edge_eq_iff {edge : Char} {cs rest : List Char} :
    cs.dropWhile (· = edge) = rest
      ↔ rest.head? ≠ some edge ∧ ∃ n, cs = List.replicate n edge ++ rest := by
  constructor
  · rintro rfl
    induction cs with
    | nil => exact ⟨nofun, 0, rfl⟩
    | cons c cs ih =>
      by_cases hc : c = edge
      · obtain ⟨hhead, n, hn⟩ := ih
        rw [List.dropWhile_cons_of_pos (by simpa using hc)]
        exact ⟨hhead, n + 1, by rw [List.replicate_succ, List.cons_append, ← hn, hc]⟩
      · rw [List.dropWhile_cons_of_neg (by simpa using hc)]
        exact ⟨by simpa using hc, 0, rfl⟩
  · rintro ⟨hhead, n, rfl⟩
    rw [List.dropWhile_append_of_pos (by simp)]
    cases rest with
    | nil => rfl
    | cons c rest => exact List.dropWhile_cons_of_neg (by simpa using hhead)

/-- Trimming takes off the edges at both ends, however many there are, and nothing else. -/
theorem trimBoth_eq_iff {edge : Char} {cs body : List Char} :
    trimBoth edge cs = body ↔ body.head? ≠ some edge ∧ body.getLast? ≠ some edge
      ∧ ∃ before after, cs = List.replicate before edge ++ body ++ List.replicate after edge := by
  have hend : trimBoth edge cs = body ↔ body.getLast? ≠ some edge
      ∧ ∃ after, cs.dropWhile (· = edge) = body ++ List.replicate after edge := by
    rw [trimBoth, List.reverse_eq_iff, dropWhile_edge_eq_iff, List.head?_reverse]
    simp only [List.reverse_eq_iff, List.reverse_append, List.reverse_replicate,
      List.reverse_reverse]
  rw [hend]
  constructor
  · rintro ⟨hlast, after, hdrop⟩
    obtain ⟨hhead, before, hcs⟩ := dropWhile_edge_eq_iff.mp hdrop
    refine ⟨?_, hlast, before, after, by rw [hcs, List.append_assoc]⟩
    cases body with
    | nil => exact nofun
    | cons c body => exact hhead
  · rintro ⟨hhead, hlast, before, after, rfl⟩
    refine ⟨hlast, ?_⟩
    cases body with
    | nil =>
      -- A text of edges alone may have lost all of them at the front.
      exact ⟨0, dropWhile_edge_eq_iff.mpr ⟨nofun, before + after, by simp⟩⟩
    | cons c body =>
      exact ⟨after, dropWhile_edge_eq_iff.mpr ⟨hhead, before, List.append_assoc ..⟩⟩

/-! ### Texts -/

theorem toList_intercalate_ofList (parts : List (List Char)) :
    ((String.ofList [sep]).intercalate (parts.map String.ofList)).toList = join sep parts := by
  induction parts with
  | nil => rfl
  | cons part parts ih =>
    cases parts with
    | nil => simp [join]
    | cons next others =>
      rw [List.map_cons, String.intercalate_cons_of_ne_nil (by simp)]
      simp only [String.toList_append, String.toList_ofList, ih]
      rw [join_cons_cons]
      simp

/-- The parts of a text, put together again with the separator, are the text. -/
theorem intercalate_splitText (s : String) :
    (String.ofList [sep]).intercalate (splitText sep s) = s := by
  have hlist : ((String.ofList [sep]).intercalate (splitText sep s)).toList = s.toList := by
    rw [splitText, toList_intercalate_ofList, join_split]
  exact String.toList_injective hlist

end Provisioning.Text
