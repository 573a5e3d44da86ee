import Provisioning.Json.Reader
import Provisioning.Json.Writer

/-!
Strings in JSON texts. A reader takes off a text what a writer put in front of it, whatever follows
(`readString_stringText`). Where the parts of the text stand has no influence on what is read.
-/

namespace Provisioning.Json

/-- Whether a step takes a part off a text and leaves the rest. -/
def Takes {α : Type} (step : Step α) (a : α) (rest : List Char) : Prop :=
  ∃ cur, step = .ok (a, cur) ∧ cur.rest = rest

theorem takes_ok {α : Type} {a : α} {cur : Cursor} {rest : List Char} (h : cur.rest = rest) :
    Takes (.ok (a, cur)) a rest := ⟨cur, rfl, h⟩

/-! ### Cursors -/

namespace Cursor

variable {cur : Cursor} {c : Char} {rest : List Char}

theorem rest_next (h : cur.rest = c :: rest) : cur.next.rest = rest := by
  unfold next
  rw [h]

theorem rest_skip (n : Nat) (cur : Cursor) : (cur.skip n).rest = cur.rest.drop n := by
  induction n generalizing cur with
  | zero => rfl
  | succ n ih =>
    rw [skip, ih]
    cases hrest : cur.rest with
    | nil =>
      have hnext : cur.next = cur := by
        unfold next
        rw [hrest]
      rw [hnext, hrest, List.drop_nil, List.drop_nil]
    | cons c rest => rw [rest_next hrest, List.drop_succ_cons]

theorem rest_skip_length {part : List Char} (h : cur.rest = part ++ rest) :
    (cur.skip part.length).rest = rest := by
  rw [rest_skip, h, List.drop_left]

theorem rest_skipBlanks (cur : Cursor) : cur.skipBlanks.rest = cur.rest.dropWhile isBlank := by
  rw [skipBlanks]
  exact rest_skip_length List.takeWhile_append_dropWhile.symm

/-- A character of a kind that no blank is of is no blank. -/
theorem isBlank_eq_false {kind : Char → Bool} (hc : kind c = true)
    (hblanks : [' ', '\n', '\t', '\r'].any kind = false) : isBlank c = false := by
  cases hblank : isBlank c with
  | false => rfl
  | true =>
    have hmem : c ∈ [' ', '\n', '\t', '\r'] := by
      simpa [isBlank, or_assoc] using hblank
    exact absurd hc (List.any_eq_false.mp hblanks c hmem)

/-- The blanks that a text begins with are skipped, and nothing else. -/
theorem rest_skipBlanks_of {blanks : List Char} (hblanks : ∀ b ∈ blanks, isBlank b = true)
    (hc : isBlank c = false) (h : cur.rest = blanks ++ c :: rest) :
    cur.skipBlanks.rest = c :: rest := by
  have hnone : (c :: rest).dropWhile isBlank = c :: rest := by
    rw [List.dropWhile_cons_of_neg (by simp [hc])]
  rw [rest_skipBlanks, h, List.dropWhile_append_of_pos hblanks, hnone]

theorem rest_skipBlanks_cons (hc : isBlank c = false) (h : cur.rest = c :: rest) :
    cur.skipBlanks.rest = c :: rest := by
  have hblanks : ∀ b ∈ ([] : List Char), isBlank b = true := nofun
  exact rest_skipBlanks_of hblanks hc h

end Cursor

/-! ### Words -/

theorem readWord_append {value : Scalar} {word rest : List Char} {cur : Cursor}
    (h : cur.rest = word ++ rest) : Takes (readWord value word cur) value rest := by
  induction word generalizing cur with
  | nil => exact takes_ok h
  | cons c word ih =>
    simp only [readWord, h, List.cons_append, if_true]
    exact ih (Cursor.rest_next h)

/-- A word is read as what it stands for, or not at all. -/
theorem eq_of_readWord {value word : Scalar} {letters : List Char} {cur left : Cursor}
    (h : readWord word letters cur = .ok (value, left)) : value = word := by
  induction letters generalizing cur with
  | nil =>
    cases h
    rfl
  | cons c letters ih =>
    unfold readWord at h
    split at h
    · cases h
    · split at h
      · exact ih h
      · cases h

/-! ### Characters -/

/-- Two hexadecimal digits spell a number below 256. -/
theorem hexDigit?_digitChar : ∀ n < 16, hexDigit? (Nat.digitChar n) = some n := by decide

/-- The escape by code of a character is read as that character. -/
theorem readCodeEscape_of_control {c : Char} {rest : List Char} {cur : Cursor}
    (hc : c.toNat < 0x20)
    (h : cur.rest
      = ['0', '0', Nat.digitChar (c.toNat / 16), Nat.digitChar (c.toNat % 16)] ++ rest) :
    Takes (readCodeEscape cur) c rest := by
  have hdigits : (cur.rest.take 4).mapM hexDigit? = some [0, 0, c.toNat / 16, c.toNat % 16] := by
    have hzero : hexDigit? '0' = some 0 := by decide
    have htake : cur.rest.take 4
        = ['0', '0', Nat.digitChar (c.toNat / 16), Nat.digitChar (c.toNat % 16)] := by
      rw [h]
      rfl
    simp [htake, hzero, hexDigit?_digitChar (c.toNat / 16) (by omega),
      hexDigit?_digitChar (c.toNat % 16) (by omega)]
  have hcode : readCode cur = .ok (c.toNat, cur.skip 4) := by
    have hvalue : 4096 * 0 + 256 * 0 + 16 * (c.toNat / 16) + c.toNat % 16 = c.toNat := by omega
    simp only [readCode, hdigits, hvalue]
  have hlow : ¬ (0xDC00 ≤ c.toNat ∧ c.toNat ≤ 0xDFFF) := by omega
  have hhigh : ¬ (0xD800 ≤ c.toNat ∧ c.toNat ≤ 0xDBFF) := by omega
  have hchar : Char.ofNat c.toNat = c := Char.ofNat_toNat c
  unfold readCodeEscape
  simp only [hcode, bind, Except.bind, if_neg hlow, if_neg hhigh, hchar]
  exact takes_ok (Cursor.rest_skip_length h)

/-- A character is read as it is written. -/
theorem readString_escaped (c : Char) {rest : List Char} {cur : Cursor}
    (h : cur.rest = escaped c ++ rest) (fuel : Nat) (taken : List Char) :
    ∃ cur', readString (fuel + 1) taken cur = readString fuel (c :: taken) cur'
      ∧ cur'.rest = rest := by
  -- An escape of one letter.
  have hletter {letter : Char} (hrest : cur.rest = ['\\', letter] ++ rest)
      (hread : ∀ cur : Cursor, cur.rest = letter :: rest → readEscape cur = .ok (c, cur.next)) :
      ∃ cur', readString (fuel + 1) taken cur = readString fuel (c :: taken) cur'
        ∧ cur'.rest = rest := by
    have hnext : cur.next.rest = letter :: rest := Cursor.rest_next hrest
    refine ⟨cur.next.next, ?_, Cursor.rest_next hnext⟩
    simp [readString, hrest, hread _ hnext]
  unfold escaped at h
  split at h
  · next hc =>
    refine hletter h fun cur hcur => ?_
    rcases hc with rfl | rfl <;> simp [readEscape, hcur]
  split at h
  · next hc =>
    subst hc
    exact hletter h fun cur hcur => by simp [readEscape, hcur]
  split at h
  · next hc =>
    subst hc
    exact hletter h fun cur hcur => by simp [readEscape, hcur]
  split at h
  · next hc =>
    subst hc
    exact hletter h fun cur hcur => by simp [readEscape, hcur]
  split at h
  · next hc =>
    subst hc
    exact hletter h fun cur hcur => by simp [readEscape, hcur]
  split at h
  · next hc =>
    subst hc
    exact hletter h fun cur hcur => by simp [readEscape, hcur]
  split at h
  · next hc =>
    -- An escape by code.
    rw [Nat.toDigits_of_lt_base (show c.toNat / 16 < 16 by omega),
      Nat.toDigits_of_lt_base (show c.toNat % 16 < 16 by omega)] at h
    have hslash : cur.rest = '\\' :: 'u' :: (['0', '0', Nat.digitChar (c.toNat / 16),
        Nat.digitChar (c.toNat % 16)] ++ rest) := h
    have hu := Cursor.rest_next hslash
    obtain ⟨cur', hcode, hrest⟩ := readCodeEscape_of_control hc (Cursor.rest_next hu)
    refine ⟨cur', ?_, hrest⟩
    have hescape : readEscape cur.next = readCodeEscape cur.next.next := by
      simp [readEscape, hu]
    simp [readString, hslash, hescape, hcode]
  · next hquote _ _ _ _ _ hcontrol =>
    refine ⟨cur.next, ?_, Cursor.rest_next h⟩
    have hc : cur.rest = c :: rest := h
    obtain ⟨hquote, hslash⟩ := not_or.mp hquote
    simp only [readString, hc, if_neg hquote, if_neg hslash, if_neg hcontrol]

/-! ### Strings -/

theorem length_le_flatMap_escaped (cs : List Char) : cs.length ≤ (cs.flatMap escaped).length := by
  induction cs with
  | nil => exact Nat.le_refl 0
  | cons c cs ih =>
    have hc : 1 ≤ (escaped c).length := by
      unfold escaped
      repeat' split
      all_goals simp
    rw [List.flatMap_cons, List.length_append, List.length_cons]
    omega

theorem readString_append (cs taken : List Char) {rest : List Char} {cur : Cursor} {fuel : Nat}
    (h : cur.rest = cs.flatMap escaped ++ '"' :: rest) (hfuel : cs.length < fuel) :
    Takes (readString fuel taken cur) (String.ofList (taken.reverse ++ cs)) rest := by
  induction cs generalizing taken cur fuel with
  | nil =>
    obtain ⟨fuel, rfl⟩ : ∃ n, fuel = n + 1 := ⟨fuel - 1, by simp at hfuel; omega⟩
    have hquote : cur.rest = '"' :: rest := h
    simp only [readString, hquote, if_true, List.append_nil]
    exact takes_ok (Cursor.rest_next hquote)
  | cons c cs ih =>
    obtain ⟨fuel, rfl⟩ : ∃ n, fuel = n + 1 := ⟨fuel - 1, by simp at hfuel; omega⟩
    rw [List.flatMap_cons, List.append_assoc] at h
    obtain ⟨cur', hread, hrest⟩ := readString_escaped c h fuel taken
    have htaken : taken.reverse ++ c :: cs = (c :: taken).reverse ++ cs := by simp
    rw [hread, htaken]
    exact ih (c :: taken) hrest (by simpa using hfuel)

/-- A string is read as it is written, behind its opening quote. -/
theorem readString_stringText {s : String} {rest : List Char} {cur : Cursor}
    (h : cur.rest = stringText s ++ rest) :
    Takes (readString cur.rest.length [] cur.next) s rest := by
  have hquote : cur.rest = '"' :: (s.toList.flatMap escaped ++ '"' :: rest) := by
    simpa [stringText] using h
  have hfuel : s.toList.length < cur.rest.length := by
    have hlength := length_le_flatMap_escaped s.toList
    rw [hquote, List.length_cons, List.length_append]
    omega
  have hread := readString_append s.toList [] (Cursor.rest_next hquote) hfuel
  rwa [List.reverse_nil, List.nil_append, String.ofList_toList] at hread

end Provisioning.Json
