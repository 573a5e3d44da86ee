import Mathlib.Data.List.TakeWhile
import Provisioning.Json.Decode
import Provisioning.Proofs.Json.Strings
import Provisioning.Proofs.Traversal

/-!
Numbers in JSON texts. A number ends where no character follows that could go on with it
(`Delimited`), so what follows then has no influence on how it is read (`Local`). An integer is read
as it is written (`readScalar_natural`). Any other number is read in front of other text as it is
read by itself (`local_readScalar_of_number`).
-/

namespace Provisioning.Json

/-- Whether a text begins with nothing that could go on with a number. -/
def Delimited (rest : List Char) : Prop :=
  ∀ c ∈ rest.head?, isDigit c = false ∧ c ≠ '.' ∧ c ≠ 'e' ∧ c ≠ 'E'

/-- Whether a step takes off a text what it takes off it where more follows. -/
def Local {α : Type} (step : Cursor → Step α) : Prop :=
  ∀ cur a left, step cur = .ok (a, left) → left.rest <:+ cur.rest
    ∧ ∀ more, Delimited more → ∀ other : Cursor, other.rest = cur.rest ++ more →
      Takes (step other) a (left.rest ++ more)

/-! ### Digits -/

theorem takeWhile_append_of_stop {p : Char → Bool} (l : List Char) {more : List Char}
    (h : ∀ c ∈ more.head?, p c = false) : (l ++ more).takeWhile p = l.takeWhile p := by
  induction l with
  | nil =>
    cases more with
    | nil => rfl
    | cons c more => simp [h c rfl]
  | cons c l ih =>
    by_cases hc : p c = true
    · rw [List.cons_append, List.takeWhile_cons_of_pos hc, List.takeWhile_cons_of_pos hc, ih]
    · rw [List.cons_append, List.takeWhile_cons_of_neg hc, List.takeWhile_cons_of_neg hc]

theorem readDigits_eq_ok_iff {cur left : Cursor} {digits : List Char} :
    readDigits cur = .ok (digits, left)
      ↔ cur.rest.takeWhile isDigit = digits ∧ digits ≠ [] ∧ left = cur.skip digits.length := by
  unfold readDigits
  cases hdigits : cur.rest.takeWhile isDigit with
  | nil =>
    refine iff_of_false nofun ?_
    rintro ⟨rfl, hne, -⟩
    exact hne rfl
  | cons c cs =>
    constructor
    · intro h
      cases h
      exact ⟨rfl, List.cons_ne_nil _ _, rfl⟩
    · rintro ⟨rfl, -, rfl⟩
      rfl

theorem local_readDigits : Local readDigits := by
  intro cur digits left h
  obtain ⟨hdigits, hne, rfl⟩ := readDigits_eq_ok_iff.mp h
  have hcur : cur.rest = digits ++ cur.rest.dropWhile isDigit := by
    rw [← hdigits, List.takeWhile_append_dropWhile]
  have hleft := Cursor.rest_skip_length hcur
  refine ⟨hleft ▸ List.dropWhile_suffix _, fun more hmore other hother => ?_⟩
  have hsame : other.rest.takeWhile isDigit = digits := by
    rw [hother, takeWhile_append_of_stop _ fun c hc => (hmore c hc).1, hdigits]
  refine ⟨_, readDigits_eq_ok_iff.mpr ⟨hsame, hne, rfl⟩, ?_⟩
  rw [hleft]
  refine Cursor.rest_skip_length ?_
  rw [hother, ← List.append_assoc, ← hcur]

/-! ### Parts of a number -/

theorem readWhole_of_zero {cur : Cursor} {rest : List Char} (h : cur.rest = '0' :: rest)
    (hrest : ∀ c ∈ rest.head?, isDigit c = false) : Takes (readWhole cur) ['0'] rest := by
  cases rest with
  | nil =>
    have hdigits : cur.rest.takeWhile isDigit = ['0'] := by
      rw [h]
      rfl
    have hread : readWhole cur = readDigits cur := by simp only [readWhole, h]
    rw [hread]
    exact ⟨_, readDigits_eq_ok_iff.mpr ⟨hdigits, by simp, rfl⟩, Cursor.rest_skip_length h⟩
  | cons d rest =>
    have hd : isDigit d = false := hrest d rfl
    refine ⟨cur.next, ?_, Cursor.rest_next h⟩
    simp [readWhole, h, hd]

theorem readWhole_of_ne_zero {cur : Cursor} (h : cur.rest.head? ≠ some '0') :
    readWhole cur = readDigits cur := by
  unfold readWhole
  split
  · next heq =>
    rw [heq] at h
    exact absurd rfl h
  · rfl

/-- Nothing but a zero is read where more digits follow a zero. -/
theorem head_of_readWhole {cur left : Cursor} {whole rest : List Char} (h : cur.rest = '0' :: rest)
    (hread : readWhole cur = .ok (whole, left)) : ∀ c ∈ rest.head?, isDigit c = false := by
  intro c hc
  cases rest with
  | nil => cases hc
  | cons d rest =>
    cases hc
    by_contra hdigit
    rw [Bool.not_eq_false] at hdigit
    simp [readWhole, h, hdigit] at hread

theorem local_readWhole : Local readWhole := by
  intro cur whole left h
  by_cases hhead : cur.rest.head? = some '0'
  · obtain ⟨rest, hcur⟩ : ∃ rest, cur.rest = '0' :: rest := List.head?_eq_some_iff.mp hhead
    have hrest := head_of_readWhole hcur h
    obtain ⟨left', hleft, hleft'⟩ := readWhole_of_zero hcur hrest
    cases h.symm.trans hleft
    refine ⟨hcur ▸ hleft' ▸ List.suffix_cons _ _, fun more hmore other hother => ?_⟩
    rw [hcur, List.cons_append] at hother
    rw [hleft']
    refine readWhole_of_zero hother fun c hc => ?_
    cases rest with
    | nil => exact (hmore c hc).1
    | cons d rest => exact hrest c hc
  · rw [readWhole_of_ne_zero hhead] at h
    obtain ⟨hpart, hmore⟩ := local_readDigits cur whole left h
    refine ⟨hpart, fun more hdelimited other hother => ?_⟩
    have hsame : other.rest.head? ≠ some '0' := by
      cases hcur : cur.rest with
      | nil => simp [readDigits, hcur] at h
      | cons c rest =>
        rw [hother, hcur]
        rwa [hcur] at hhead
    rw [readWhole_of_ne_zero hsame]
    exact hmore more hdelimited other hother

theorem readFraction_of_point {cur : Cursor} {rest : List Char} (h : cur.rest = '.' :: rest) :
    readFraction cur = readDigits cur.next := by simp only [readFraction, h]

theorem readFraction_of_no_point {cur : Cursor} (h : cur.rest.head? ≠ some '.') :
    readFraction cur = .ok ([], cur) := by
  unfold readFraction
  split
  · next heq =>
    rw [heq] at h
    exact absurd rfl h
  · rfl

theorem local_readFraction : Local readFraction := by
  intro cur fraction left h
  by_cases hhead : cur.rest.head? = some '.'
  · obtain ⟨rest, hcur⟩ : ∃ rest, cur.rest = '.' :: rest := List.head?_eq_some_iff.mp hhead
    rw [readFraction_of_point hcur] at h
    have hnext := Cursor.rest_next hcur
    obtain ⟨hpart, hmore⟩ := local_readDigits cur.next fraction left h
    refine ⟨?_, fun more hdelimited other hother => ?_⟩
    · rw [hcur, ← hnext]
      exact hpart.trans (List.suffix_cons _ _)
    · rw [hcur, List.cons_append] at hother
      rw [readFraction_of_point hother]
      exact hmore more hdelimited other.next (by rw [Cursor.rest_next hother, hnext])
  · rw [readFraction_of_no_point hhead] at h
    cases h
    refine ⟨List.suffix_rfl, fun more hdelimited other hother => ?_⟩
    have hnone : other.rest.head? ≠ some '.' := by
      rw [hother]
      cases hcur : cur.rest with
      | nil => exact fun heq => (hdelimited _ heq).2.1 rfl
      | cons c rest =>
        rw [hcur] at hhead
        exact hhead
    rw [readFraction_of_no_point hnone]
    exact takes_ok hother

theorem skipSign_of_cons {cur : Cursor} {c : Char} {rest : List Char} (h : cur.rest = c :: rest) :
    cur.skipSign = if c = '+' ∨ c = '-' then cur.next else cur := by
  unfold Cursor.skipSign
  rw [h]
  by_cases hplus : c = '+'
  · subst hplus
    rfl
  · by_cases hminus : c = '-'
    · subst hminus
      rfl
    · simp [hplus, hminus]

/-- What is behind a sign is what follows it. -/
theorem rest_skipSign {cur other : Cursor} {more : List Char} (hne : cur.rest ≠ [])
    (hother : other.rest = cur.rest ++ more) :
    other.skipSign.rest = cur.skipSign.rest ++ more := by
  obtain ⟨c, rest, hcur⟩ := List.exists_cons_of_ne_nil hne
  have hother' : other.rest = c :: (rest ++ more) := by rw [hother, hcur, List.cons_append]
  rw [skipSign_of_cons hcur, skipSign_of_cons hother']
  by_cases h : c = '+' ∨ c = '-'
  · rw [if_pos h, if_pos h, Cursor.rest_next hcur, Cursor.rest_next hother']
  · rw [if_neg h, if_neg h, hother]

theorem skipSign_suffix (cur : Cursor) : cur.skipSign.rest <:+ cur.rest := by
  have hnext : cur.next.rest <:+ cur.rest := by
    rw [show cur.next = cur.skip 1 from rfl, Cursor.rest_skip]
    exact List.drop_suffix _ _
  unfold Cursor.skipSign
  split
  · exact hnext
  · exact hnext
  · exact List.suffix_rfl

theorem readExponent_of_no_mark {zero : Bool} {cur : Cursor}
    (h : ∀ c ∈ cur.rest.head?, c ≠ 'e' ∧ c ≠ 'E') : readExponent zero cur = .ok (none, cur) := by
  unfold readExponent
  cases hcur : cur.rest with
  | nil => rfl
  | cons c rest =>
    rw [hcur] at h
    obtain ⟨hsmall, hgreat⟩ := h c rfl
    simp only [hsmall, hgreat, or_self, if_false]

theorem readExponent_eq_ok_iff {zero : Bool} {cur left : Cursor} {c : Char} {rest : List Char}
    {exponent : Option Int} (hcur : cur.rest = c :: rest) (hc : c = 'e' ∨ c = 'E') :
    readExponent zero cur = .ok (exponent, left)
      ↔ ∃ digits, readDigits cur.next.skipSign = .ok (digits, left)
        ∧ (digitsBeyond 0 digits = none ∨ rest.head? = some '-' ∨ zero = true)
        ∧ exponent = some (if rest.head? = some '-' then -(digitsValue digits : Int)
          else digitsValue digits) := by
  unfold readExponent
  simp only [hcur, hc, if_true, Cursor.rest_next hcur]
  cases hdigits : readDigits cur.next.skipSign with
  | error e => simp
  | ok read =>
    obtain ⟨digits, behind⟩ := read
    simp only [Except.ok.injEq, Prod.mk.injEq]
    cases hbeyond : digitsBeyond 0 digits with
    | none =>
      constructor
      · intro h
        cases h
        exact ⟨digits, ⟨rfl, rfl⟩, Or.inl hbeyond, rfl⟩
      · rintro ⟨_, ⟨rfl, rfl⟩, -, rfl⟩
        rfl
    | some count =>
      by_cases hin : rest.head? = some '-' ∨ zero = true
      · simp only [if_pos hin]
        constructor
        · intro h
          cases h
          exact ⟨digits, ⟨rfl, rfl⟩, Or.inr hin, rfl⟩
        · rintro ⟨_, ⟨rfl, rfl⟩, -, rfl⟩
          rfl
      · simp only [if_neg hin]
        refine iff_of_false nofun ?_
        rintro ⟨_, ⟨rfl, -⟩, hnone | hin', -⟩
        · cases hbeyond.symm.trans hnone
        · exact hin hin'

theorem local_readExponent (zero : Bool) : Local (readExponent zero) := by
  intro cur exponent left h
  by_cases hmark : ∃ c ∈ cur.rest.head?, c = 'e' ∨ c = 'E'
  · obtain ⟨c, hhead, hc⟩ := hmark
    obtain ⟨rest, hcur⟩ : ∃ rest, cur.rest = c :: rest := List.head?_eq_some_iff.mp hhead
    obtain ⟨digits, hdigits, hin, hvalue⟩ := (readExponent_eq_ok_iff hcur hc).mp h
    have hnext := Cursor.rest_next hcur
    have hne : rest ≠ [] := by
      rintro rfl
      have hempty : cur.next.skipSign.rest = [] := by
        simp only [Cursor.skipSign, hnext]
      simp [readDigits, hempty] at hdigits
    obtain ⟨hpart, hmore⟩ := local_readDigits _ digits left hdigits
    refine ⟨?_, fun more hdelimited other hother => ?_⟩
    · rw [hcur]
      refine hpart.trans ((skipSign_suffix _).trans ?_)
      rw [hnext]
      exact List.suffix_cons _ _
    · rw [hcur, List.cons_append] at hother
      have hsign : other.next.skipSign.rest = cur.next.skipSign.rest ++ more :=
        rest_skipSign (by rwa [hnext]) (by rw [Cursor.rest_next hother, hnext])
      obtain ⟨left', hleft, hrest⟩ := hmore more hdelimited _ hsign
      refine ⟨left', (readExponent_eq_ok_iff hother hc).mpr ⟨digits, hleft, ?_, ?_⟩, hrest⟩
      · rwa [List.head?_append_of_ne_nil _ hne]
      · rwa [List.head?_append_of_ne_nil _ hne]
  · have hnone : ∀ c ∈ cur.rest.head?, c ≠ 'e' ∧ c ≠ 'E' := fun c hc =>
      ⟨fun heq => hmark ⟨c, hc, Or.inl heq⟩, fun heq => hmark ⟨c, hc, Or.inr heq⟩⟩
    rw [readExponent_of_no_mark hnone] at h
    cases h
    refine ⟨List.suffix_rfl, fun more hdelimited other hother => ?_⟩
    rw [readExponent_of_no_mark]
    · exact takes_ok hother
    · intro c hc
      rw [hother] at hc
      cases hcur : cur.rest with
      | nil =>
        rw [hcur] at hc
        exact (hdelimited c hc).2.2
      | cons d rest =>
        rw [hcur] at hc hnone
        exact hnone c hc

theorem local_readNumber (negative : Bool) : Local (readNumber negative) := by
  intro cur value left h
  unfold readNumber at h
  obtain ⟨⟨whole, cur₁⟩, hwhole, h⟩ := bind_eq_ok_iff.mp h
  obtain ⟨⟨fraction, cur₂⟩, hfraction, h⟩ := bind_eq_ok_iff.mp h
  obtain ⟨⟨exponent, cur₃⟩, hexponent, h⟩ := bind_eq_ok_iff.mp h
  obtain ⟨hpart₁, hmore₁⟩ := local_readWhole _ _ _ hwhole
  obtain ⟨hpart₂, hmore₂⟩ := local_readFraction _ _ _ hfraction
  obtain ⟨hpart₃, hmore₃⟩ := local_readExponent _ _ _ _ hexponent
  dsimp only at h
  cases hnumber : numberOf negative whole fraction exponent with
  | none =>
    rw [hnumber] at h
    cases h
  | some number =>
    rw [hnumber] at h
    cases h
    refine ⟨hpart₃.trans (hpart₂.trans hpart₁), fun more hdelimited other hother => ?_⟩
    obtain ⟨other₁, hother₁, hrest₁⟩ := hmore₁ more hdelimited other hother
    obtain ⟨other₂, hother₂, hrest₂⟩ := hmore₂ more hdelimited other₁ hrest₁
    obtain ⟨other₃, hother₃, hrest₃⟩ := hmore₃ more hdelimited other₂ hrest₂
    refine ⟨other₃, ?_, hrest₃⟩
    unfold readNumber
    refine bind_eq_ok_iff.mpr ⟨_, hother₁, bind_eq_ok_iff.mpr ⟨_, hother₂, ?_⟩⟩
    refine bind_eq_ok_iff.mpr ⟨_, hother₃, ?_⟩
    simp only [hnumber]

/-! ### Integers -/

theorem le_ofDigitChars (ds : List Char) (n : Nat) : n ≤ Nat.ofDigitChars 10 ds n := by
  rw [Nat.ofDigitChars_eq_ofDigitChars_zero]
  have hpow : 0 < 10 ^ ds.length := Nat.pow_pos (by decide)
  exact Nat.le_add_right_of_le (Nat.le_mul_of_pos_left n hpow)

/-- Digits are added as long as the significand can hold them. -/
theorem addDigits_eq {ds : List Char} {n : Nat} (h : Nat.ofDigitChars 10 ds n ≤ maxSignificand) :
    addDigits n ds = (Nat.ofDigitChars 10 ds n, ds.length) := by
  induction ds generalizing n with
  | nil => rfl
  | cons c ds ih =>
    have hds : Nat.ofDigitChars 10 ds (10 * n + (c.toNat - 48)) ≤ maxSignificand := h
    have hmore : 10 * n + (c.toNat - 48) ≤ maxSignificand := Nat.le_trans (le_ofDigitChars ds _) hds
    simp only [addDigits, if_neg (Nat.not_lt.mpr hmore), ih hds]
    rfl

theorem digit_of_mem_toDigits {n : Nat} {c : Char} (h : c ∈ Nat.toDigits 10 n) :
    isDigit c = true := Nat.isDigit_of_mem_toDigits (by decide) (by decide) h

/-- Only zero is written with a leading zero. -/
theorem toDigits_zero_or (n : Nat) :
    Nat.toDigits 10 n = ['0'] ∨ (Nat.toDigits 10 n).head? ≠ some '0' := by
  by_cases hzero : n = 0
  · subst hzero
    exact Or.inl rfl
  · refine Or.inr ?_
    induction n using Nat.strongRecOn with
    | _ n ih =>
      rw [Nat.toDigits_eq_if (by decide)]
      split
      · simp [hzero]
      · rw [List.head?_append_of_ne_nil _ Nat.toDigits_ne_nil]
        exact ih (n / 10) (by omega) (by omega)

theorem numberOf_toDigits {n : Nat} (hn : n ≤ maxSignificand) :
    numberOf false (Nat.toDigits 10 n) [] none = some (.int n) := by
  have hvalue : Nat.ofDigitChars 10 (Nat.toDigits 10 n) 0 = n :=
    Nat.ofDigitChars_toDigits (by decide) (by decide)
  have hfits : Nat.ofDigitChars 10 (Nat.toDigits 10 n) 0 ≤ maxSignificand := by rwa [hvalue]
  have hadd := addDigits_eq hfits
  simp [numberOf, hadd, hvalue]

theorem toText_natural (n : Nat) : (toString (n : Int)).toList = Nat.toDigits 10 n :=
  Nat.toList_repr

theorem readWhole_toDigits {n : Nat} {rest : List Char} {cur : Cursor} (hrest : Delimited rest)
    (h : cur.rest = Nat.toDigits 10 n ++ rest) :
    Takes (readWhole cur) (Nat.toDigits 10 n) rest := by
  rcases toDigits_zero_or n with hzero | hhead
  · rw [hzero] at h ⊢
    exact readWhole_of_zero h fun c hc => (hrest c hc).1
  · have hdigits : cur.rest.takeWhile isDigit = Nat.toDigits 10 n := by
      rw [h, takeWhile_append_of_stop _ fun c hc => (hrest c hc).1]
      exact List.takeWhile_eq_self_iff.mpr fun c hc => digit_of_mem_toDigits hc
    rw [readWhole_of_ne_zero (by rwa [h, List.head?_append_of_ne_nil _ Nat.toDigits_ne_nil])]
    exact ⟨_, readDigits_eq_ok_iff.mpr ⟨hdigits, Nat.toDigits_ne_nil, rfl⟩,
      Cursor.rest_skip_length h⟩

theorem readNumber_toDigits {n : Nat} {rest : List Char} {cur : Cursor} (hn : n ≤ maxSignificand)
    (hrest : Delimited rest) (h : cur.rest = Nat.toDigits 10 n ++ rest) :
    Takes (readNumber false cur) (.int n) rest := by
  obtain ⟨left, hwhole, hleft⟩ := readWhole_toDigits hrest h
  have hfraction : readFraction left = .ok ([], left) := by
    refine readFraction_of_no_point fun hpoint => ?_
    rw [hleft] at hpoint
    exact (hrest _ hpoint).2.1 rfl
  have hexponent (zero : Bool) : readExponent zero left = .ok (none, left) := by
    refine readExponent_of_no_mark fun c hc => ?_
    rw [hleft] at hc
    exact (hrest c hc).2.2
  refine ⟨left, ?_, hleft⟩
  unfold readNumber
  refine bind_eq_ok_iff.mpr ⟨_, hwhole, bind_eq_ok_iff.mpr ⟨_, hfraction, ?_⟩⟩
  refine bind_eq_ok_iff.mpr ⟨_, hexponent _, ?_⟩
  simp only [numberOf_toDigits hn]

/-- A scalar that begins with a digit is a number. -/
theorem readScalar_of_digit {cur : Cursor} {c : Char} {rest : List Char} (h : cur.rest = c :: rest)
    (hc : isDigit c = true) : readScalar cur = readNumber false cur := by
  have hne (d : Char) (hd : isDigit d = false) : c ≠ d := by
    rintro rfl
    rw [hc] at hd
    cases hd
  simp only [readScalar, h, hne '"' rfl, hne 'n' rfl, hne 't' rfl, hne 'f' rfl, hne '-' rfl, hc,
    if_false, if_true]

theorem readScalar_of_minus {cur : Cursor} {rest : List Char} (h : cur.rest = '-' :: rest) :
    readScalar cur = readNumber true cur.next := by
  simp [readScalar, h]

/-- An integer is read as it is written. -/
theorem readScalar_natural {n : Nat} {rest : List Char} {cur : Cursor} (hn : n ≤ maxSignificand)
    (hrest : Delimited rest) (h : cur.rest = (toString (n : Int)).toList ++ rest) :
    Takes (readScalar cur) (.int n) rest := by
  rw [toText_natural] at h
  obtain ⟨c, digits, hdigits⟩ := List.exists_cons_of_ne_nil (Nat.toDigits_ne_nil (n := n) (b := 10))
  have hc : isDigit c = true := digit_of_mem_toDigits (n := n) (by rw [hdigits]; simp)
  rw [readScalar_of_digit (by rw [h, hdigits]; rfl) hc]
  exact readNumber_toDigits hn hrest h

/-! ### Other numbers -/

/-- A scalar that is taken for a number is read as one. -/
theorem readScalar_number {cur left : Cursor} {value : Scalar} {x : Binary64}
    {stop : Option Place} (h : readScalar cur = .ok (value, left))
    (hvalue : Decode.number (.scalar value stop) = .ok x) :
    ∃ c rest, cur.rest = c :: rest ∧ (c = '-' ∨ isDigit c = true) := by
  cases hcur : cur.rest with
  | nil => simp [readScalar, hcur] at h
  | cons c rest =>
    refine ⟨c, rest, rfl, ?_⟩
    by_contra hneither
    obtain ⟨hminus, hdigit⟩ := not_or.mp hneither
    simp only [readScalar, hcur, hminus, hdigit, if_false] at h
    -- What is read is a string or a word, and neither is a number.
    split at h
    · cases hstring : readString (c :: rest).length [] cur.next with
      | error e =>
        rw [hstring] at h
        cases h
      | ok read =>
        rw [hstring] at h
        cases h
        cases hvalue
    split at h
    · rw [eq_of_readWord h] at hvalue
      cases hvalue
    split at h
    · rw [eq_of_readWord h] at hvalue
      cases hvalue
    split at h
    · rw [eq_of_readWord h] at hvalue
      cases hvalue
    · cases h

/-- What is taken for a number is so wherever it stands. -/
theorem number_at {value : Scalar} {x : Binary64} {stop : Option Place}
    (h : Decode.number (.scalar value stop) = .ok x) (other : Option Place) :
    Decode.number (.scalar value other) = .ok x := by
  cases value with
  | int n => exact h
  | float y => exact h
  | null => cases h
  | bool b => cases h
  | str s => cases h

theorem local_readScalar_of_number {cur left : Cursor} {value : Scalar} {x : Binary64}
    {stop : Option Place} (h : readScalar cur = .ok (value, left))
    (hvalue : Decode.number (.scalar value stop) = .ok x) :
    left.rest <:+ cur.rest ∧ ∀ more, Delimited more → ∀ other : Cursor,
      other.rest = cur.rest ++ more → Takes (readScalar other) value (left.rest ++ more) := by
  obtain ⟨c, rest, hcur, hminus | hdigit⟩ := readScalar_number h hvalue
  · subst hminus
    have hnext := Cursor.rest_next hcur
    rw [readScalar_of_minus hcur] at h
    obtain ⟨hpart, hmore⟩ := local_readNumber true _ _ _ h
    refine ⟨?_, fun more hdelimited other hother => ?_⟩
    · rw [hcur]
      exact (hnext ▸ hpart).trans (List.suffix_cons _ _)
    · rw [hcur, List.cons_append] at hother
      rw [readScalar_of_minus hother]
      exact hmore more hdelimited other.next (by rw [Cursor.rest_next hother, hnext])
  · rw [readScalar_of_digit hcur hdigit] at h
    obtain ⟨hpart, hmore⟩ := local_readNumber false _ _ _ h
    refine ⟨hpart, fun more hdelimited other hother => ?_⟩
    rw [readScalar_of_digit (by rw [hother, hcur]; rfl) hdigit]
    exact hmore more hdelimited other hother

/-! ### The texts of other numbers -/

/-- Whether a text has no blanks. -/
def Nonblank (cs : List Char) : Prop := ∀ c ∈ cs, Cursor.isBlank c = false

namespace Nonblank

variable {as bs : List Char}

theorem nil : Nonblank [] := nofun

theorem append (ha : Nonblank as) (hb : Nonblank bs) : Nonblank (as ++ bs) := by
  intro c hc
  rcases List.mem_append.mp hc with hc | hc
  · exact ha c hc
  · exact hb c hc

theorem cons {c : Char} (hc : Cursor.isBlank c = false) (h : Nonblank as) : Nonblank (c :: as) := by
  intro d hd
  rcases List.mem_cons.mp hd with rfl | hd
  · exact hc
  · exact h d hd

theorem subset (h : Nonblank bs) (hsubset : as ⊆ bs) : Nonblank as := fun c hc => h c (hsubset hc)

theorem ite {p : Prop} [Decidable p] (ha : Nonblank as) (hb : Nonblank bs) :
    Nonblank (if p then as else bs) := by
  split
  · exact ha
  · exact hb

theorem digits (n : Nat) : Nonblank (Nat.toDigits 10 n) := by
  intro c hc
  exact Cursor.isBlank_eq_false (digit_of_mem_toDigits hc) rfl

theorem zeros (n : Nat) : Nonblank (List.replicate n '0') := by
  intro c hc
  rw [(List.mem_replicate.mp hc).2]
  rfl

theorem exponentText (n : Int) : Nonblank (Binary64.exponentText n) := by
  unfold Binary64.exponentText
  cases n with
  | ofNat n =>
    have htext : ("+" ++ toString (Int.ofNat n)).toList = '+' :: Nat.toDigits 10 n := by
      rw [String.toList_append, Int.ofNat_eq_natCast, toText_natural]
      rfl
    rw [if_pos (show 0 ≤ Int.ofNat n from Int.natCast_nonneg n), htext]
    exact .cons rfl (.digits n)
  | negSucc n =>
    have htext : (toString (Int.negSucc n)).toList = '-' :: Nat.toDigits 10 (n + 1) := by
      change ("-" ++ Nat.repr (n + 1)).toList = _
      rw [String.toList_append, Nat.toList_repr]
      rfl
    rw [if_neg (by simp), htext]
    exact .cons rfl (.digits (n + 1))

/-- The text of a number has no blanks. -/
theorem toText (x : Binary64) : Nonblank x.toText.toList := by
  have hdigits := digits x.shortest.significand
  have hpoint : Nonblank ['.', '0'] := .cons rfl (.cons rfl nil)
  unfold Binary64.toText
  rw [String.toList_ofList]
  refine append (ite (.cons rfl nil) nil) (ite (.cons rfl hpoint) (ite ?_ (ite ?_ (ite ?_ ?_))))
  · exact (hdigits.append (zeros _)).append hpoint
  · exact (hdigits.subset (List.take_subset _ _)).append
      (.cons rfl (hdigits.subset (List.drop_subset _ _)))
  · exact .cons rfl (.cons rfl ((zeros _).append hdigits))
  · have hfraction : Nonblank ((Nat.toDigits 10 x.shortest.significand).drop 1) :=
      hdigits.subset (List.drop_subset _ _)
    exact ((hdigits.subset (List.take_subset _ _)).append
      (ite nil (.cons rfl hfraction))).append (.cons rfl (exponentText _))

end Nonblank

theorem skipBlanks_of_nonblank {cur : Cursor} (h : Nonblank cur.rest) : cur.skipBlanks = cur := by
  have hnone : cur.rest.takeWhile Cursor.isBlank = [] := by
    cases hcur : cur.rest with
    | nil => rfl
    | cons c rest =>
      rw [hcur] at h
      exact List.takeWhile_cons_of_neg (by simp [h c List.mem_cons_self])
  rw [Cursor.skipBlanks, hnone]
  rfl

end Provisioning.Json
