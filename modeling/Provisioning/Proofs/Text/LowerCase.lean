import Provisioning.Text.Case

/-!
Lower-casing settles at once. A character that lower-casing puts out is one that lower-casing leaves
as it is, wherever it stands, so that a text in lower case is its own lower-case form
(`lower_lower`). No blank comes in on the way (`blank_mem_of_mem_lower`), which gives the same for
locations (`normalizeLocation_normalizeLocation`).

What is known of the table of partners is one check over its entries (`partners_settled`): no
partner has a partner of its own. The characters that have one are held as the bits of a number, so
that the check takes one look for each entry.
-/

namespace Provisioning.Text

/-! ### The table of partners -/

/-- The codes of a stretch, in ascending order. -/
def CaseRun.codes (r : CaseRun) : List Nat :=
  (List.range ((r.last - r.first) / r.step + 1)).map fun i => r.first + r.step * i

theorem CaseRun.mem_codes {r : CaseRun} {c : Nat} (h : r.covers c = true) : c ∈ r.codes := by
  simp only [CaseRun.covers, Bool.and_eq_true, decide_eq_true_eq, beq_iff_eq] at h
  obtain ⟨⟨hfirst, hlast⟩, hstep⟩ := h
  refine List.mem_map.mpr ⟨(c - r.first) / r.step, List.mem_range.mpr ?_, ?_⟩
  · exact Nat.lt_succ_of_le (Nat.div_le_div_right (by omega))
  · have hmul := Nat.mul_div_cancel' (Nat.dvd_of_mod_eq_zero hstep)
    omega

/-- A number with the bits of some codes set. -/
def bitsOf (codes : List Nat) (bits : Nat) : Nat :=
  codes.foldl (fun bits c => bits ||| 1 <<< c) bits

theorem testBit_bitsOf {codes : List Nat} {bits c : Nat}
    (h : c ∈ codes ∨ bits.testBit c = true) : (bitsOf codes bits).testBit c = true := by
  induction codes generalizing bits with
  | nil => simpa [bitsOf] using h
  | cons d codes ih =>
    refine ih ?_
    rcases h with h | h
    · rcases List.mem_cons.mp h with rfl | h
      · exact Or.inr (by simp)
      · exact Or.inl h
    · exact Or.inr (by simp [h])

/-- The codes of the characters that lower-casing replaces, and of the blank, as bits. -/
def restless : Nat :=
  bitsOf (lowerCaseRuns.flatMap CaseRun.codes) (1 <<< 'İ'.toNat ||| 1 <<< ' '.toNat)

theorem testBit_restless {r : CaseRun} {c : Nat} (hr : r ∈ lowerCaseRuns)
    (h : r.covers c = true) : restless.testBit c = true :=
  testBit_bitsOf (Or.inl (List.mem_flatMap.mpr ⟨r, hr, CaseRun.mem_codes h⟩))

/-- No partner is a character that is replaced in turn, and none is the blank. -/
theorem partners_settled : ∀ r ∈ lowerCaseRuns, ∀ c ∈ r.codes,
    restless.testBit ((c : Int) + r.shift).toNat = false
      ∧ ((c : Int) + r.shift).toNat.isValidChar := by
  decide +kernel

theorem toNat_ofNat_of_isValidChar {c : Nat} (h : c.isValidChar) : (Char.ofNat c).toNat = c := by
  rw [Char.ofNat, dif_pos h]
  rfl

theorem lowerCode_of_not_restless {c : Nat} (h : restless.testBit c = false) :
    lowerCode c = c := by
  have hnone : lowerCaseRuns.find? (·.covers c) = none := by
    refine List.find?_eq_none.mpr fun r hr hcovers => ?_
    rw [testBit_restless hr hcovers] at h
    cases h
  simp [lowerCode, hnone]

/-- A code is its own partner, or it has one that lower-casing leaves alone. -/
theorem lowerCode_cases (c : Nat) :
    lowerCode c = c ∨
      (restless.testBit (lowerCode c) = false ∧ (lowerCode c).isValidChar) := by
  cases hfind : lowerCaseRuns.find? (·.covers c) with
  | none => exact Or.inl (by simp [lowerCode, hfind])
  | some r =>
    have hr := List.mem_of_find?_eq_some hfind
    have hcodes := CaseRun.mem_codes (r := r) (c := c) (by simpa using List.find?_some hfind)
    have hpartner := partners_settled r hr c hcodes
    exact Or.inr (by simpa [lowerCode, hfind] using hpartner)

/-! ### Characters -/

/-- A character that lower-casing leaves as it is, wherever it stands. -/
def Settled (c : Char) : Prop := c ≠ 'Σ' ∧ lowerChar c = [c]

theorem settled_of_not_restless {c : Char} (h : restless.testBit c.toNat = false) : Settled c := by
  have hsigma : restless.testBit 'Σ'.toNat = true := by decide +kernel
  have hdotted : restless.testBit 'İ'.toNat = true := by decide +kernel
  refine ⟨?_, ?_⟩
  · rintro rfl
    rw [hsigma] at h
    cases h
  · have hne : c ≠ 'İ' := by
      rintro rfl
      rw [hdotted] at h
      cases h
    simp [lowerChar, hne, lowerCode_of_not_restless h]

/-- What a character other than the capital sigma becomes: itself, if it was settled before, or
characters that are neither replaced again nor blank. -/
theorem mem_lowerChar {c d : Char} (hc : c ≠ 'Σ') (hd : d ∈ lowerChar c) :
    (d = c ∧ Settled c) ∨ restless.testBit d.toNat = false := by
  by_cases hdotted : c = 'İ'
  · subst hdotted
    have hd : d = 'i' ∨ d = '\u0307' := by simpa [lowerChar] using hd
    rcases hd with rfl | rfl
    · exact Or.inr (by decide +kernel)
    · exact Or.inr (by decide +kernel)
  · have hd : d = Char.ofNat (lowerCode c.toNat) := by simpa [lowerChar, hdotted] using hd
    rcases lowerCode_cases c.toNat with hself | ⟨hbit, hvalid⟩
    · have hsame : d = c := by rw [hd, hself, Char.ofNat_toNat]
      exact Or.inl ⟨hsame, hc, by simp [lowerChar, hdotted, hself]⟩
    · right
      rw [hd, toNat_ofNat_of_isValidChar hvalid]
      exact hbit

/-! ### Texts -/

/-- Every character of a text in lower case is settled, and is blank only if the text was blank
there. -/
theorem mem_lowerAfter {before cs : List Char} {d : Char} (h : d ∈ lowerAfter before cs) :
    Settled d ∧ (d = ' ' → ' ' ∈ cs) := by
  induction cs generalizing before with
  | nil => simp [lowerAfter] at h
  | cons c rest ih =>
    rw [lowerAfter, List.mem_append] at h
    rcases h with h | h
    · by_cases hsigma : c = 'Σ'
      · have hd : d = 'ς' ∨ d = 'σ' := by
          rw [if_pos hsigma, List.mem_singleton] at h
          split at h
          · exact Or.inl h
          · exact Or.inr h
        rcases hd with rfl | rfl
        · exact ⟨settled_of_not_restless (by decide +kernel), by simp⟩
        · exact ⟨settled_of_not_restless (by decide +kernel), by simp⟩
      · rw [if_neg hsigma] at h
        rcases mem_lowerChar hsigma h with ⟨rfl, hsettled⟩ | hbit
        · exact ⟨hsettled, fun hblank => by simp [hblank]⟩
        · refine ⟨settled_of_not_restless hbit, ?_⟩
          rintro rfl
          have hblank : restless.testBit ' '.toNat = true := by decide +kernel
          rw [hblank] at hbit
          cases hbit
    · obtain ⟨hsettled, hblank⟩ := ih h
      exact ⟨hsettled, fun hd => List.mem_cons_of_mem _ (hblank hd)⟩

theorem lowerAfter_of_settled {before cs : List Char} (h : ∀ c ∈ cs, Settled c) :
    lowerAfter before cs = cs := by
  induction cs generalizing before with
  | nil => rfl
  | cons c rest ih =>
    have hc : Settled c := h c List.mem_cons_self
    rw [lowerAfter, if_neg hc.1, hc.2, ih fun d hd => h d (List.mem_cons_of_mem _ hd)]
    rfl

/-- Lower-casing is idempotent. -/
@[simp] theorem lower_lower (s : String) : lower (lower s) = lower s := by
  unfold lower
  rw [String.toList_ofList, lowerAfter_of_settled fun d hd => (mem_lowerAfter hd).1]

/-- Lower-casing brings in no blank. -/
theorem blank_mem_of_mem_lower {s : String} (h : ' ' ∈ (lower s).toList) : ' ' ∈ s.toList := by
  unfold lower at h
  rw [String.toList_ofList] at h
  exact (mem_lowerAfter h).2 rfl

end Provisioning.Text

namespace Provisioning

/-- A location the way the management plane writes it is written that way already. -/
@[simp] theorem normalizeLocation_normalizeLocation (location : String) :
    normalizeLocation (normalizeLocation location) = normalizeLocation location := by
  have hfree : ∀ c ∈ (normalizeLocation location).toList, (c != ' ') = true := by
    intro c hc
    rw [bne_iff_ne]
    rintro rfl
    have hblank := Text.blank_mem_of_mem_lower hc
    simp at hblank
  show Text.lower (String.ofList ((normalizeLocation location).toList.filter (· != ' '))) = _
  rw [List.filter_eq_self.mpr hfree, String.ofList_toList]
  exact Text.lower_lower _

end Provisioning
