import Provisioning.Proofs.Text.Segments
import Provisioning.Resource.Id

/-!
Identifiers as texts. A text is read as an identifier exactly if it spells it (`parse_eq_ok_iff`):
`Spells` says which texts do, without a word on how they are read. What is read has parts that are
neither empty nor have a slash in them (`Sound.of_parse`), and the text of an identifier is read as
that identifier exactly if its parts are like that (`parse_text`, `parse_exact`).
-/

namespace Provisioning

/-- A key whose parts have no slash in them. -/
structure NaturalKey.Plain (key : NaturalKey) : Prop where
  scope : '/' ∉ key.scope.toList
  name : '/' ∉ key.name.toList

instance (key : NaturalKey) : Decidable key.Plain :=
  decidable_of_iff ('/' ∉ key.scope.toList ∧ '/' ∉ key.name.toList)
    ⟨fun h => ⟨h.1, h.2⟩, fun h => ⟨h.1, h.2⟩⟩

namespace ResourceId

/-- A text that can stand between two slashes of an identifier. -/
structure Segment (s : String) : Prop where
  nonempty : s ≠ ""
  plain : '/' ∉ s.toList

theorem Segment.head? {s : String} (h : Segment s) : s.toList.head? ≠ some '/' := by
  intro hhead
  exact h.plain (List.mem_of_mem_head? hhead)

theorem Segment.getLast? {s : String} (h : Segment s) : s.toList.getLast? ≠ some '/' := by
  intro hlast
  exact h.plain (List.mem_of_mem_getLast? hlast)

theorem Segment.toList_ne_nil {s : String} (h : Segment s) : s.toList ≠ [] := by
  intro hnil
  exact h.nonempty (String.toList_injective hnil)

/-! ### Segments put together -/

theorem join_ne_nil {part : String} {others : List String} (hpart : Segment part) :
    Text.join '/' ((part :: others).map String.toList) ≠ [] := by
  cases others with
  | nil => exact hpart.toList_ne_nil
  | cons next others => simp [Text.join_cons_cons]

theorem head?_join {parts : List String} (hne : parts ≠ [])
    (hparts : ∀ part ∈ parts, Segment part) :
    (Text.join '/' (parts.map String.toList)).head? ≠ some '/' := by
  cases parts with
  | nil => exact absurd rfl hne
  | cons part others =>
    have hpart := hparts part List.mem_cons_self
    obtain ⟨c, rest, hcons⟩ := List.exists_cons_of_ne_nil hpart.toList_ne_nil
    have hhead : (Text.join '/' ((part :: others).map String.toList)).head?
        = part.toList.head? := by
      cases others with
      | nil => rfl
      | cons next others => rw [List.map_cons, List.map_cons, Text.join_cons_cons, hcons]; rfl
    rw [hhead]
    exact hpart.head?

theorem getLast?_join {parts : List String} (hne : parts ≠ [])
    (hparts : ∀ part ∈ parts, Segment part) :
    (Text.join '/' (parts.map String.toList)).getLast? ≠ some '/' := by
  induction parts with
  | nil => exact absurd rfl hne
  | cons part others ih =>
    cases others with
    | nil => exact (hparts part List.mem_cons_self).getLast?
    | cons next others =>
      have hlast := ih (List.cons_ne_nil _ _) fun p hp => hparts p (List.mem_cons_of_mem _ hp)
      have hjoin : Text.join '/' ((next :: others).map String.toList) ≠ [] :=
        join_ne_nil (hparts next (by simp))
      rw [List.map_cons, List.map_cons, Text.join_cons_cons, ← List.map_cons,
        List.getLast?_append, List.getLast?_cons_of_ne_nil hjoin]
      cases hfound : (Text.join '/' ((next :: others).map String.toList)).getLast? with
      | none => exact absurd (List.getLast?_eq_none_iff.mp hfound) hjoin
      | some c =>
        rw [hfound] at hlast
        exact hlast

/-- A run of slashes. -/
def slashes (n : Nat) : String := String.ofList (List.replicate n '/')

theorem toList_intercalate_slash (parts : List String) :
    ("/".intercalate parts).toList = Text.join '/' (parts.map String.toList) := by
  simpa [Function.comp_def] using
    @Text.toList_intercalate_ofList '/' (parts.map String.toList)

/-- The segments of a text are those that it has slashes between, whatever slashes there are at its
ends. -/
theorem segments_eq_iff {text : String} {parts : List String} (hne : parts ≠ [])
    (hparts : ∀ part ∈ parts, Segment part) : segments text = parts
      ↔ ∃ before after, text = slashes before ++ "/".intercalate parts ++ slashes after := by
  have hfree : ∀ part ∈ parts.map String.toList, '/' ∉ part := by
    intro part hpart
    obtain ⟨s, hs, rfl⟩ := List.mem_map.mp hpart
    exact (hparts s hs).plain
  have hmap : parts.map String.toList ≠ [] := mt List.map_eq_nil_iff.mp hne
  have htrim : segments text = parts
      ↔ Text.trimBoth '/' text.toList = Text.join '/' (parts.map String.toList) := by
    constructor
    · rintro rfl
      simp [segments, Function.comp_def]
    · intro h
      rw [segments, h, Text.split_join hmap hfree]
      simp
  rw [htrim, Text.trimBoth_eq_iff,
    and_iff_right (head?_join hne hparts), and_iff_right (getLast?_join hne hparts)]
  refine exists_congr fun before => exists_congr fun after => ?_
  rw [← String.toList_inj, ← toList_intercalate_slash]
  simp [slashes]

/-- An identifier whose parts are segments. Its type is two of them. -/
structure Sound (id : ResourceId) : Prop where
  subscription : Segment id.subscription
  group : Segment id.group
  type : ∃ space kind, Segment space ∧ Segment kind ∧ id.type = space ++ "/" ++ kind
  name : Segment id.name

/-- Whether a text spells an identifier: eight segments with a slash between any two, the words
among them in any case of their letters, and any slashes around. -/
inductive Spells : String → ResourceId → Prop
  | of_segments (before after : Nat) {subscriptions subscription groups group providers space kind
      name : String}
    (hsegments : ∀ s ∈ [subscriptions, subscription, groups, group, providers, space, kind, name],
      Segment s)
    (hsubscriptions : Text.equalFold subscriptions "subscriptions" = true)
    (hgroups : Text.equalFold groups "resourceGroups" = true)
    (hproviders : Text.equalFold providers "providers" = true) :
    Spells (slashes before ++ "/".intercalate
        [subscriptions, subscription, groups, group, providers, space, kind, name]
        ++ slashes after)
      ⟨subscription, group, space ++ "/" ++ kind, name⟩

/-- Eight segments make an identifier if the words are among them and none is empty. -/
theorem ofSegments_eq_ok_iff {parts : List String} {id : ResourceId} :
    ofSegments parts = .ok id ↔ ∃ s0 s1 s2 s3 s4 s5 s6 s7, parts = [s0, s1, s2, s3, s4, s5, s6, s7]
      ∧ Text.equalFold s0 "subscriptions" = true ∧ Text.equalFold s2 "resourceGroups" = true
      ∧ Text.equalFold s4 "providers" = true ∧ (∀ s ∈ parts, s ≠ "")
      ∧ id = ⟨s1, s3, s5 ++ "/" ++ s6, s7⟩ := by
  unfold ofSegments
  split
  · rename_i s0 s1 s2 s3 s4 s5 s6 s7
    constructor
    · intro h
      split at h
      · cases h
      split at h
      · cases h
      split at h
      · cases h
      split at h
      · cases h
      rename_i h0 h2 h4 hempty
      cases h
      refine ⟨s0, s1, s2, s3, s4, s5, s6, s7, rfl, by simpa using h0, by simpa using h2,
        by simpa using h4, ?_, rfl⟩
      rintro s hs rfl
      exact hempty (List.any_eq_true.mpr ⟨"", hs, by simp⟩)
    · rintro ⟨_, _, _, _, _, _, _, _, hparts, h0, h2, h4, hfilled, rfl⟩
      cases hparts
      have hempty : [s0, s1, s2, s3, s4, s5, s6, s7].any String.isEmpty = false := by
        refine List.any_eq_false.mpr fun s hs => ?_
        simpa using hfilled s hs
      rw [h0, h2, h4, hempty]
      rfl
  · next hcount =>
    constructor
    · intro h
      cases h
    · rintro ⟨s0, s1, s2, s3, s4, s5, s6, s7, rfl, -⟩
      exact absurd rfl (hcount s0 s1 s2 s3 s4 s5 s6 s7)

/-- A text is read as what it spells. -/
theorem parse_eq_ok_iff {text : String} {id : ResourceId} :
    parse text = .ok id ↔ Spells text id := by
  have hparse : parse text = .ok id ↔ ofSegments (segments text) = .ok id := by
    unfold parse
    cases ofSegments (segments text) <;> simp
  rw [hparse, ofSegments_eq_ok_iff]
  constructor
  · rintro ⟨s0, s1, s2, s3, s4, s5, s6, s7, hparts, h0, h2, h4, hfilled, rfl⟩
    have hsegments : ∀ s ∈ segments text, Segment s := by
      intro s hs
      refine ⟨hfilled s hs, ?_⟩
      obtain ⟨cs, hcs, rfl⟩ := List.mem_map.mp hs
      rw [String.toList_ofList]
      exact Text.not_mem_of_mem_split hcs
    rw [hparts] at hsegments
    obtain ⟨before, after, rfl⟩ := (segments_eq_iff (List.cons_ne_nil _ _) hsegments).mp hparts
    exact .of_segments before after hsegments h0 h2 h4
  · rintro ⟨before, after, hsegments, h0, h2, h4⟩
    have hparts := (segments_eq_iff (List.cons_ne_nil _ _) hsegments).mpr ⟨before, after, rfl⟩
    rw [hparts]
    exact ⟨_, _, _, _, _, _, _, _, rfl, h0, h2, h4, fun s hs => (hsegments s hs).nonempty, rfl⟩

theorem Spells.sound {text : String} {id : ResourceId} (h : Spells text id) : Sound id := by
  obtain ⟨before, after, hsegments, -, -, -⟩ := h
  simp only [List.forall_mem_cons] at hsegments
  obtain ⟨-, hsubscription, -, hgroup, -, hspace, hkind, hname, -⟩ := hsegments
  exact ⟨hsubscription, hgroup, ⟨_, _, hspace, hkind, rfl⟩, hname⟩

/-- A text that is put together with its slashes in the words has them between its segments. -/
theorem append_eq_intercalate {first middle last type s0 s1 s2 s3 s4 s5 s6 s7 : String}
    (hfirst : first = "/" ++ s0 ++ "/") (hmiddle : middle = "/" ++ s2 ++ "/")
    (hlast : last = "/" ++ s4 ++ "/") (htype : type = s5 ++ "/" ++ s6) :
    first ++ s1 ++ middle ++ s3 ++ last ++ type ++ "/" ++ s7
      = slashes 1 ++ "/".intercalate [s0, s1, s2, s3, s4, s5, s6, s7] ++ slashes 0 := by
  have hslash : "/".toList = ['/'] := by simp
  subst hfirst hmiddle hlast htype
  rw [← String.toList_inj]
  simp only [String.toList_append, toList_intercalate_slash, hslash, Text.join, slashes,
    String.toList_ofList, List.replicate_succ, List.replicate_zero, List.map_cons, List.map_nil,
    List.append_assoc, List.cons_append, List.nil_append, List.append_nil]

/-- The text of a sound identifier spells it. -/
theorem Sound.spells_text {id : ResourceId} (h : Sound id) : Spells id.text id := by
  obtain ⟨subscription, group, type, name⟩ := id
  obtain ⟨hsubscription, hgroup, ⟨space, kind, hspace, hkind, htype⟩, hname⟩ := h
  dsimp only at hsubscription hgroup htype hname
  have hsegments : ∀ s ∈ ["subscriptions", subscription, "resourceGroups", group, "providers",
      space, kind, name], Segment s := by
    simp only [List.forall_mem_cons, List.not_mem_nil, false_imp_iff, implies_true, and_true]
    exact ⟨⟨by simp, by simp⟩, hsubscription, ⟨by simp, by simp⟩, hgroup, ⟨by simp, by simp⟩,
      hspace, hkind, hname⟩
  have htext : text ⟨subscription, group, type, name⟩ = slashes 1 ++ "/".intercalate
      ["subscriptions", subscription, "resourceGroups", group, "providers", space, kind, name]
      ++ slashes 0 :=
    append_eq_intercalate (by simp) (by simp) (by simp) htype
  rw [htext, htype]
  exact .of_segments 1 0 hsegments (Text.equalFold_self "subscriptions")
    (Text.equalFold_self "resourceGroups") (Text.equalFold_self "providers")

/-- A sound identifier is read back from its text. -/
theorem parse_text {id : ResourceId} (h : Sound id) : parse id.text = .ok id :=
  parse_eq_ok_iff.mpr h.spells_text

/-- What is read from a text is sound. -/
theorem Sound.of_parse {text : String} {id : ResourceId} (h : parse text = .ok id) : Sound id :=
  (parse_eq_ok_iff.mp h).sound

/-- Reading is the inverse of printing on the sound identifiers and on no others. A text is read
exactly if it spells an identifier, as the identifier that it spells; that one is sound, so that
printing and reading it again makes no difference. -/
theorem parse_exact :
    (∀ id : ResourceId, parse id.text = .ok id ↔ Sound id)
    ∧ ∀ text : String, (∀ id, parse text = .ok id ↔ Spells text id)
      ∧ ∀ id, parse text = .ok id → Sound id ∧ parse id.text = .ok id := by
  refine ⟨fun id => ⟨Sound.of_parse, parse_text⟩, fun text => ⟨fun id => parse_eq_ok_iff, ?_⟩⟩
  intro id h
  have hsound : Sound id := .of_parse h
  exact ⟨hsound, parse_text hsound⟩

theorem parse_exact_untidy :
    parse "//SUBSCRIPTIONS/s/resourcegroups/rg/Providers/ns/kind/web///"
        = .ok ⟨"s", "rg", "ns/kind", "web"⟩
      ∧ Sound ⟨"s", "rg", "ns/kind", "web"⟩
      ∧ parse (text ⟨"s", "rg", "ns/kind", "web"⟩) = .ok ⟨"s", "rg", "ns/kind", "web"⟩ := by
  have hparse : parse "//SUBSCRIPTIONS/s/resourcegroups/rg/Providers/ns/kind/web///"
      = .ok ⟨"s", "rg", "ns/kind", "web"⟩ := by rfl
  exact ⟨hparse, (parse_exact.2 _).2 _ hparse⟩

/-! A name with a slash at its end is read, but as another name. -/
example : parse (text ⟨"s", "rg", "ns/kind", "web/"⟩) = .ok ⟨"s", "rg", "ns/kind", "web"⟩ := by
  rfl

end ResourceId

end Provisioning
