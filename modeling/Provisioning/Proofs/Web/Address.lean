import Mathlib.Data.List.TakeWhile
import Provisioning.Proofs.Text.Segments
import Provisioning.Proofs.Traversal
import Provisioning.Web.Address

/-!
Addresses that reach the server as they are written. If every segment of a path is tidy, there is
nothing to encode in it, no character that ends it early and no dots to resolve, so the server is
asked for that very path (`target_eq`).
-/

namespace Provisioning.Web

/-- A character that stands for itself in a segment of a path. -/
def standsForItself (c : Char) : Bool :=
  0x20 < c.toNat && c.toNat ≤ 0x7E && !Text.pathReserved.contains c && !isSlash c && c != '%'

/-- A segment of a path that stands for itself. -/
structure Tidy (segment : List Char) : Prop where
  plain : ∀ c ∈ segment, standsForItself c = true
  ne_dot : segment ≠ ['.']
  ne_dots : segment ≠ ['.', '.']

instance (segment : List Char) : Decidable (Tidy segment) :=
  decidable_of_iff (segment.all standsForItself = true ∧ segment ≠ ['.'] ∧ segment ≠ ['.', '.'])
    ⟨fun h => ⟨List.all_eq_true.mp h.1, h.2.1, h.2.2⟩,
      fun h => ⟨List.all_eq_true.mpr h.plain, h.ne_dot, h.ne_dots⟩⟩

/-- The scheme and the server of an address, with what stands between them. -/
structure Reaches (origin : List Char) : Prop where
  visible : ∀ c ∈ origin, 0x20 < c.toNat
  parts : ∃ scheme host, origin = scheme ++ ':' :: '/' :: '/' :: host ∧ ':' ∉ scheme ∧ host ≠ []
    ∧ ∀ c ∈ host, isSlash c = false ∧ endsPath c = false

variable {origin cs : List Char} {segments : List (List Char)}

theorem standsForItself_iff {c : Char} : standsForItself c = true ↔ (0x20 < c.toNat
    ∧ c.toNat ≤ 0x7E) ∧ c ∉ Text.pathReserved ∧ isSlash c = false ∧ c ≠ '%' := by
  simp [standsForItself, and_assoc]

theorem endsPath_of_standsForItself {c : Char} (h : standsForItself c = true) :
    endsPath c = false := by
  obtain ⟨-, hreserved, -⟩ := standsForItself_iff.mp h
  simp only [Text.pathReserved, List.mem_cons, not_or] at hreserved
  simp [endsPath, hreserved]

/-! ### Parts of an address -/

/-- Visible characters all count. -/
theorem cleaned_eq {address : String} (h : ∀ c ∈ address.toList, 0x20 < c.toNat) :
    cleaned address = address.toList := by
  have hedge {cs : List Char} (hcs : ∀ c ∈ cs, 0x20 < c.toNat) :
      cs.dropWhile (fun c => decide (c.toNat ≤ 0x20)) = cs := by
    cases cs with
    | nil => rfl
    | cons c rest =>
      have hc := hcs c List.mem_cons_self
      exact List.dropWhile_cons_of_neg (by simpa using hc)
  have hreverse : ∀ c ∈ address.toList.reverse, 0x20 < c.toNat := by simpa using h
  unfold cleaned
  simp only [hedge h, hedge hreverse, List.reverse_reverse]
  refine List.filter_eq_self.mpr fun c hc => ?_
  have hvisible := h c hc
  have htab : c ≠ '\t' := by rintro rfl; exact absurd hvisible (by decide)
  have hline : c ≠ '\n' := by rintro rfl; exact absurd hvisible (by decide)
  have hreturn : c ≠ '\r' := by rintro rfl; exact absurd hvisible (by decide)
  simp [htab, hline, hreturn]

theorem behindServer_eq (horigin : Reaches origin) :
    behindServer (origin ++ '/' :: cs) = '/' :: cs := by
  obtain ⟨-, scheme, host, rfl, hscheme, hne, hhost⟩ := horigin
  have hcolon : (scheme ++ ':' :: '/' :: '/' :: host ++ '/' :: cs).dropWhile (· != ':')
      = ':' :: '/' :: '/' :: (host ++ '/' :: cs) := by
    rw [List.append_assoc, List.dropWhile_append_of_pos]
    · simp
    · intro c hc
      simpa using ne_of_mem_of_not_mem hc hscheme
  have hslashes : (host ++ '/' :: cs).dropWhile isSlash = host ++ '/' :: cs := by
    obtain ⟨c, rest, rfl⟩ := List.exists_cons_of_ne_nil hne
    have hc := (hhost c List.mem_cons_self).1
    exact List.dropWhile_cons_of_neg (by simp [hc])
  unfold behindServer
  rw [hcolon, List.drop_one, List.tail_cons, List.dropWhile_cons_of_pos (by rfl),
    List.dropWhile_cons_of_pos (by rfl), hslashes, List.dropWhile_append_of_pos]
  · exact List.dropWhile_cons_of_neg (by simp [isSlash])
  · intro c hc
    simp [hhost c hc]

/-- Dots that are not percent-encoded are just that. -/
theorem eq_replicate_of_isDots {count : Nat} (hplain : '%' ∉ cs) (h : isDots count cs = true) :
    cs = List.replicate count '.' := by
  fun_induction isDots count cs with
  | case1 cs => exact List.isEmpty_iff.mp h
  | case2 count rest ih =>
    rw [List.replicate_succ, ← ih (mt (List.mem_cons_of_mem _) hplain) h]
  | case3 => exact absurd List.mem_cons_self hplain
  | case4 => cases h

theorem Tidy.not_percent {segment : List Char} (h : Tidy segment) : '%' ∉ segment := by
  intro hmem
  obtain ⟨-, -, -, hpercent⟩ := standsForItself_iff.mp (h.plain _ hmem)
  exact hpercent rfl

theorem Tidy.isDots_eq_false {segment : List Char} (h : Tidy segment) :
    isDots 1 segment = false ∧ isDots 2 segment = false := by
  refine ⟨Bool.eq_false_iff.mpr fun hdot => ?_, Bool.eq_false_iff.mpr fun hdots => ?_⟩
  · exact h.ne_dot (eq_replicate_of_isDots h.not_percent hdot)
  · exact h.ne_dots (eq_replicate_of_isDots h.not_percent hdots)

/-- There is nothing to resolve between tidy segments. -/
theorem resolve_eq (before : List (List Char)) (h : ∀ s ∈ segments, Tidy s) :
    resolve before segments = before.reverse ++ segments := by
  induction segments generalizing before with
  | nil => simp [resolve]
  | cons segment rest ih =>
    obtain ⟨hdot, hdots⟩ := (h segment List.mem_cons_self).isDots_eq_false
    have hrest := ih (segment :: before) fun s hs => h s (List.mem_cons_of_mem _ hs)
    simp [resolve, hdot, hdots, hrest]

theorem percentEncode_eq {reserved : List Char}
    (h : ∀ c ∈ cs, (0x20 < c.toNat ∧ c.toNat ≤ 0x7E) ∧ c ∉ reserved) :
    Text.percentEncode reserved cs = cs := by
  induction cs with
  | nil => rfl
  | cons c rest ih =>
    obtain ⟨⟨⟨hlow, hhigh⟩, hreserved⟩, hrest⟩ := List.forall_mem_cons.mp h
    have hkept : (c.toNat < 0x20 || 0x7E < c.toNat || reserved.contains c) = false := by
      simp [hreserved, Nat.le_of_lt hlow, hhigh]
    rw [Text.percentEncode, List.flatMap_cons, hkept, ← Text.percentEncode, ih hrest]
    rfl

/-! ### The whole address -/

/-- A character of segments that are joined is a slash or stands in one of them. -/
theorem mem_join {c : Char} (h : c ∈ Text.join '/' segments) :
    c = '/' ∨ ∃ segment ∈ segments, c ∈ segment := by
  induction segments with
  | nil => cases h
  | cons segment rest ih =>
    cases rest with
    | nil => exact .inr ⟨segment, List.mem_cons_self, h⟩
    | cons next others =>
      rw [Text.join_cons_cons, List.mem_append, List.mem_cons] at h
      rcases h with hsegment | rfl | hothers
      · exact .inr ⟨segment, List.mem_cons_self, hsegment⟩
      · exact .inl rfl
      · rcases ih hothers with hslash | ⟨other, hother, hc⟩
        · exact .inl hslash
        · exact .inr ⟨other, List.mem_cons_of_mem _ hother, hc⟩

/-- A character of a path with tidy segments is a slash or stands for itself. -/
theorem mem_path (h : ∀ s ∈ segments, Tidy s) {c : Char} (hc : c ∈ '/' :: Text.join '/' segments) :
    c = '/' ∨ standsForItself c = true := by
  rcases List.mem_cons.mp hc with rfl | hc
  · exact .inl rfl
  · rcases mem_join hc with hslash | ⟨segment, hsegment, hmem⟩
    · exact .inl hslash
    · exact .inr ((h segment hsegment).plain c hmem)

theorem unreserved_of_mem_path (h : ∀ s ∈ segments, Tidy s) {c : Char}
    (hc : c ∈ '/' :: Text.join '/' segments) :
    (0x20 < c.toNat ∧ c.toNat ≤ 0x7E) ∧ c ∉ Text.pathReserved := by
  rcases mem_path h hc with rfl | hplain
  · decide
  · obtain ⟨hvisible, hreserved, -⟩ := standsForItself_iff.mp hplain
    exact ⟨hvisible, hreserved⟩

theorem endsPath_of_mem_path (h : ∀ s ∈ segments, Tidy s) {c : Char}
    (hc : c ∈ '/' :: Text.join '/' segments) : endsPath c = false := by
  rcases mem_path h hc with rfl | hplain
  · rfl
  · exact endsPath_of_standsForItself hplain

/-- A path with tidy segments is sent as it is written. -/
theorem path_eq (hne : segments ≠ []) (h : ∀ s ∈ segments, Tidy s) :
    path ('/' :: Text.join '/' segments ++ '?' :: cs) = '/' :: Text.join '/' segments := by
  have htake : ('/' :: Text.join '/' segments ++ '?' :: cs).takeWhile (!endsPath ·)
      = '/' :: Text.join '/' segments := by
    rw [List.takeWhile_append_of_pos]
    · simp [endsPath]
    · intro c hc
      simp [endsPath_of_mem_path h hc]
  have hmap : ('/' :: Text.join '/' segments).map (fun c => if isSlash c then '/' else c)
      = '/' :: Text.join '/' segments := by
    refine map_eq_self_iff.mpr fun c hc => ?_
    rcases mem_path h hc with rfl | hplain
    · rfl
    · obtain ⟨-, -, hslash, -⟩ := standsForItself_iff.mp hplain
      simp [hslash]
  have hfree : ∀ s ∈ segments, '/' ∉ s := by
    intro s hs hslash
    obtain ⟨-, -, hplain, -⟩ := standsForItself_iff.mp ((h s hs).plain _ hslash)
    cases hplain
  unfold path
  simp only [htake, hmap, List.drop_one, List.tail_cons, Text.split_join hne hfree,
    resolve_eq [] h, List.reverse_nil, List.nil_append]
  rw [percentEncode_eq fun c hc => unreserved_of_mem_path h (List.mem_cons_of_mem _ hc)]

/-! Segments that are not tidy may lead elsewhere: a backslash ends one, and what stands between two
of them may be dots. -/
example : path "/web/old\\..\\acs?".toList = path "/web/acs?".toList := by
  decide +kernel

/-- A query of plain characters is sent as it is written. -/
theorem query_eq (h : ∀ s ∈ segments, Tidy s)
    (hcs : ∀ c ∈ cs, (0x20 < c.toNat ∧ c.toNat ≤ 0x7E) ∧ c ∉ Text.queryReserved) :
    query ('/' :: Text.join '/' segments ++ '?' :: cs) = '?' :: cs := by
  have hdrop : ('/' :: Text.join '/' segments ++ '?' :: cs).dropWhile (!endsPath ·)
      = '?' :: cs := by
    rw [List.dropWhile_append_of_pos]
    · exact List.dropWhile_cons_of_neg (by simp [endsPath])
    · intro c hc
      simp [endsPath_of_mem_path h hc]
  have htake : cs.takeWhile (· != '#') = cs := by
    refine List.takeWhile_eq_self_iff.mpr fun c hc => ?_
    have hreserved := (hcs c hc).2
    simp only [Text.queryReserved, List.mem_cons, not_or] at hreserved
    simp [hreserved]
  unfold query
  rw [hdrop]
  simp only [htake, percentEncode_eq hcs]

/-- The server is asked for the path of an address and its query as they are written, if the
segments of the path are tidy and the query is of plain characters. -/
theorem target_eq (horigin : Reaches origin) (hne : segments ≠ []) (h : ∀ s ∈ segments, Tidy s)
    (hcs : ∀ c ∈ cs, (0x20 < c.toNat ∧ c.toNat ≤ 0x7E) ∧ c ∉ Text.queryReserved) :
    target (String.ofList (origin ++ ('/' :: Text.join '/' segments ++ '?' :: cs)))
      = String.ofList ('/' :: Text.join '/' segments ++ '?' :: cs) := by
  have hvisible : ∀ c ∈ origin ++ ('/' :: Text.join '/' segments ++ '?' :: cs), 0x20 < c.toNat := by
    intro c hc
    rcases List.mem_append.mp hc with horig | hc
    · exact horigin.visible c horig
    rcases List.mem_append.mp hc with hpath | hquery
    · exact (unreserved_of_mem_path h hpath).1.1
    rcases List.mem_cons.mp hquery with rfl | hquery
    · decide
    · exact (hcs c hquery).1.1
  unfold target
  rw [cleaned_eq (by simpa using hvisible), String.toList_ofList]
  simp only [List.cons_append, behindServer_eq horigin]
  rw [← List.cons_append, path_eq hne h, query_eq h hcs]

end Provisioning.Web
