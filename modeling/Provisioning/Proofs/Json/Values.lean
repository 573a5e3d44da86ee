import Provisioning.Proofs.Json.Numbers
import Provisioning.Proofs.Json.Says

/-!
Values in JSON texts. What a reader makes of a pretty text says the value that was written
(`gives_pretty`), as long as its integers fit 64 bits and each other number is what its own text is
read as (`Legible`). So the text is read as whatever the value is taken for (`readAs_pretty`). The
reader has fuel for three steps a character, which is more than it needs.
-/

namespace Provisioning.Json

/-- Whether a number is what its own text is read as. -/
def Exact (x : Binary64) : Prop := readAs Decode.number (ofFloat x).pretty = .ok x

/-- A number that is not finite has no text. -/
theorem Exact.isFinite {x : Binary64} (h : Exact x) : x.isFinite = true := by
  by_contra hx
  unfold Exact ofFloat at h
  rw [if_neg hx] at h
  cases h

theorem Exact.readAs_toText {x : Binary64} (h : Exact x) :
    readAs Decode.number x.toText = .ok x := by
  have htext : (ofFloat x).pretty = x.toText := by
    simp [ofFloat, pretty, prettyChars, scalarText, h.isFinite]
  unfold Exact at h
  rwa [htext] at h

mutual

/-- Whether the numbers of a value can be read back. -/
def Legible : Json → Prop
  | .int n => 0 ≤ n ∧ n ≤ maxSignificand
  | .float x => Exact x
  | .arr items => LegibleItems items
  | .obj members => LegibleMembers members
  | _ => True

/-- Whether the numbers of the items of a list can be read back. -/
def LegibleItems : List Json → Prop
  | [] => True
  | item :: items => Legible item ∧ LegibleItems items

/-- Whether the numbers of the members of an object can be read back. -/
def LegibleMembers : List (String × Json) → Prop
  | [] => True
  | (_, value) :: members => Legible value ∧ LegibleMembers members

end

/-! ### Legible values -/

@[simp] theorem legible_str (s : String) : Legible (.str s) := trivial

@[simp] theorem legible_bool (b : Bool) : Legible (.bool b) := trivial

@[simp] theorem legible_choice {α : Type} [Choice α] (a : α) : Legible (Choice.toJson a) := trivial

@[simp] theorem legible_ofWord16 (n : UInt16) : Legible (ofWord16 n) := by
  have hlt := n.toNat_lt
  refine ⟨Int.natCast_nonneg n.toNat, ?_⟩
  rw [maxSignificand]
  omega

@[simp] theorem legible_ofWord32 (n : UInt32) : Legible (ofWord32 n) := by
  have hlt := n.toNat_lt
  refine ⟨Int.natCast_nonneg n.toNat, ?_⟩
  rw [maxSignificand]
  omega

theorem Exact.legible {x : Binary64} (h : Exact x) : Legible (ofFloat x) := by
  unfold ofFloat
  rw [if_pos h.isFinite]
  exact h

theorem legible_orNull {α : Type} {encode : α → Json} {value : Option α}
    (h : ∀ a ∈ value, Legible (encode a)) : Legible (orNull encode value) := by
  cases value with
  | none => trivial
  | some a => exact h a rfl

theorem legible_ofList {α : Type} {encode : α → Json} {values : List α}
    (h : ∀ a ∈ values, Legible (encode a)) : Legible (ofList encode values) := by
  change LegibleItems (values.map encode)
  induction values with
  | nil => trivial
  | cons a values ih =>
    exact ⟨h a List.mem_cons_self, ih fun b hb => h b (List.mem_cons_of_mem a hb)⟩

theorem legibleMembers_iff {members : List (String × Json)} :
    LegibleMembers members ↔ ∀ m ∈ members, Legible m.2 := by
  induction members with
  | nil => exact iff_of_true trivial nofun
  | cons member members ih =>
    obtain ⟨name, value⟩ := member
    simp only [LegibleMembers, ih, List.forall_mem_cons]

theorem legible_ofDictionary (d : Dictionary) : Legible (ofDictionary d) := by
  refine legibleMembers_iff.mpr fun m hm => ?_
  obtain ⟨entry, -, rfl⟩ := List.mem_map.mp hm
  exact legible_str entry.2

/-- Whether the numbers of a member can be read back, if it is not left out. -/
def LegibleMember (member : Option (String × Json)) : Prop := ∀ m ∈ member, Legible m.2

theorem legible_record {members : List (Option (String × Json))}
    (h : ∀ member ∈ members, LegibleMember member) : Legible (record members) := by
  refine legibleMembers_iff.mpr fun m hm => ?_
  obtain ⟨member, hmember, rfl⟩ := List.mem_filterMap.mp hm
  exact h _ hmember m rfl

@[simp] theorem legibleMember_always_iff {name : String} {value : Json} :
    LegibleMember (always name value) ↔ Legible value := by
  refine ⟨fun h => h _ rfl, ?_⟩
  rintro h _ ⟨⟩
  exact h

theorem legibleMember_ifSome {α : Type} {name : String} {encode : α → Json} {value : Option α}
    (h : ∀ a ∈ value, Legible (encode a)) : LegibleMember (ifSome name encode value) := by
  intro m hm
  obtain ⟨a, ha, rfl⟩ := Option.map_eq_some_iff.mp hm
  exact h a ha

theorem legibleMember_ifAny {α : Type} {name : String} {encode : α → Json} {values : List α}
    (h : ∀ a, Legible (encode a)) : LegibleMember (ifAny name encode values) := by
  intro m hm
  unfold ifAny at hm
  split at hm
  · cases hm
  · cases hm
    exact legible_ofList fun a _ => h a

@[simp] theorem legibleMember_ifEntries (name : String) (d : Dictionary) :
    LegibleMember (ifEntries name d) := by
  intro m hm
  unfold ifEntries at hm
  split at hm
  · cases hm
  · cases hm
    exact legible_ofDictionary d

/-! ### Values by their first character -/

section FirstCharacter

variable {fuel : Nat} {cur : Cursor} {rest : List Char}

theorem readValue_of_bracket (h : cur.skipBlanks.rest = '[' :: rest) :
    readValue (fuel + 1) cur
      = (.list (some cur.skipBlanks.place) (readItems fuel true cur.skipBlanks.next).1
          (readItems fuel true cur.skipBlanks.next).2.1,
        (readItems fuel true cur.skipBlanks.next).2.2) := by
  simp only [readValue, h]

theorem readValue_of_brace (h : cur.skipBlanks.rest = '\x7b' :: rest) :
    readValue (fuel + 1) cur
      = (.record (some cur.skipBlanks.place) (readMembers fuel true cur.skipBlanks.next).1
          (readMembers fuel true cur.skipBlanks.next).2.1,
        (readMembers fuel true cur.skipBlanks.next).2.2) := by
  simp only [readValue, h]

theorem readValue_of_neither (fuel : Nat)
    (h : ∀ c ∈ cur.skipBlanks.rest.head?, c ≠ '[' ∧ c ≠ '\x7b') :
    readValue (fuel + 1) cur = match readScalar cur.skipBlanks with
      | .ok (value, left) => (.scalar value (some left.place), some left)
      | .error c => (.broken c, none) := by
  cases hrest : cur.skipBlanks.rest with
  | nil =>
    cases hscalar : readScalar cur.skipBlanks <;> simp only [readValue, hrest, hscalar]
  | cons c rest =>
    rw [hrest] at h
    obtain ⟨hbracket, hbrace⟩ := h c rfl
    simp only [readValue, hrest]
    split
    · next heq => exact absurd (List.cons.inj heq).1 hbracket
    · next heq => exact absurd (List.cons.inj heq).1 hbrace
    · rfl

end FirstCharacter

/-- A text is taken for a value if what is read of it is, and nothing but blanks follows. -/
theorem readAs_eq_ok_iff {α : Type} {decode : Decoder α} {text : String} {a : α} {source : Source}
    {behind : Option Cursor}
    (h : readValue (3 * text.toList.length + 3) ⟨text.toList, ⟨1, 0⟩⟩ = (source, behind)) :
    readAs decode text = .ok a
      ↔ decode source = .ok a ∧ ∀ cur ∈ behind, cur.skipBlanks.rest = [] := by
  unfold readAs read
  dsimp only
  rw [h]
  cases behind with
  | none =>
    cases decode source with
    | error c => exact iff_of_false nofun nofun
    | ok value => exact ⟨fun heq => ⟨heq, nofun⟩, And.left⟩
  | some cur =>
    cases decode source with
    | error c => exact iff_of_false nofun nofun
    | ok value =>
      cases hrest : cur.skipBlanks.rest with
      | nil =>
        refine ⟨fun heq => ⟨?_, ?_⟩, fun heq => ?_⟩
        · simpa [bind, Except.bind, hrest] using heq
        · rintro _ ⟨⟩
          exact hrest
        · simpa [bind, Except.bind, hrest] using heq.1
      | cons c rest =>
        refine iff_of_false (fun heq => ?_) fun heq => ?_
        · simp [bind, Except.bind, hrest] at heq
        · cases hrest.symm.trans (heq.2 cur rfl)

/-- A text without blanks that is taken for a number is read as a scalar, to its end. -/
theorem readScalar_of_readAs {text : String} {x : Binary64} (hnonblank : Nonblank text.toList)
    (h : readAs Decode.number text = .ok x) :
    ∃ value left, readScalar ⟨text.toList, ⟨1, 0⟩⟩ = .ok (value, left) ∧ left.skipBlanks.rest = []
      ∧ ∀ stop, Decode.number (.scalar value stop) = .ok x := by
  have hskip : (⟨text.toList, ⟨1, 0⟩⟩ : Cursor).skipBlanks = ⟨text.toList, ⟨1, 0⟩⟩ :=
    skipBlanks_of_nonblank hnonblank
  have hrest : (⟨text.toList, ⟨1, 0⟩⟩ : Cursor).skipBlanks.rest = text.toList :=
    congrArg Cursor.rest hskip
  have hhead : ∀ c ∈ text.toList.head?, c ≠ '[' ∧ c ≠ '\x7b' := by
    -- Neither a list nor an object is a number.
    intro c hc
    obtain ⟨rest, htext⟩ := List.head?_eq_some_iff.mp hc
    rw [htext] at hrest
    constructor
    · rintro rfl
      cases ((readAs_eq_ok_iff (readValue_of_bracket (by rw [htext]; exact hrest))).mp h).1
    · rintro rfl
      cases ((readAs_eq_ok_iff (readValue_of_brace (by rw [htext]; exact hrest))).mp h).1
  have hvalue := readValue_of_neither (3 * text.toList.length + 2) (by rwa [hrest])
  rw [hskip] at hvalue
  cases hscalar : readScalar ⟨text.toList, ⟨1, 0⟩⟩ with
  | error c =>
    rw [hscalar] at hvalue
    cases ((readAs_eq_ok_iff hvalue).mp h).1
  | ok taken =>
    obtain ⟨value, left⟩ := taken
    rw [hscalar] at hvalue
    obtain ⟨hnumber, hleft⟩ := (readAs_eq_ok_iff hvalue).mp h
    exact ⟨value, left, rfl, hleft left rfl, number_at hnumber⟩

/-! ### Scalars -/

/-- Whether a value holds no other values. -/
def IsScalar : Json → Prop
  | .arr _ => False
  | .obj _ => False
  | _ => True

/-- Whether the text of a scalar may begin with a character. -/
def beginsScalar (c : Char) : Bool :=
  c = '"' || c = 'n' || c = 't' || c = 'f' || c = '-' || isDigit c

/-- A number that its own text is read as is read in front of other text. -/
theorem readScalar_exact {x : Binary64} {rest : List Char} {cur : Cursor} (hx : Exact x)
    (hrest : Delimited rest) (h : cur.rest = x.toText.toList ++ rest) :
    ∃ value, Takes (readScalar cur) value rest
      ∧ ∀ stop, Decode.number (.scalar value stop) = .ok x := by
  have hnonblank := Nonblank.toText x
  obtain ⟨value, left, hread, hleft, hvalue⟩ := readScalar_of_readAs hnonblank hx.readAs_toText
  obtain ⟨hsuffix, hmore⟩ := local_readScalar_of_number hread (hvalue none)
  have hempty : left.rest = [] := by
    rwa [skipBlanks_of_nonblank (hnonblank.subset hsuffix.subset)] at hleft
  have htakes := hmore rest hrest cur h
  rw [hempty, List.nil_append] at htakes
  exact ⟨value, htakes, hvalue⟩

theorem scalarText_head {v : Json} (hscalar : v.IsScalar) (h : Legible v) :
    ∃ c cs, scalarText v = c :: cs ∧ beginsScalar c = true := by
  cases v with
  | null => exact ⟨'n', _, rfl, rfl⟩
  | bool b =>
    cases b with
    | true => exact ⟨'t', _, rfl, rfl⟩
    | false => exact ⟨'f', _, rfl, rfl⟩
  | int n =>
    obtain ⟨m, rfl⟩ := Int.eq_ofNat_of_zero_le h.1
    obtain ⟨c, digits, hdigits⟩ :=
      List.exists_cons_of_ne_nil (Nat.toDigits_ne_nil (n := m) (b := 10))
    have hc : isDigit c = true := digit_of_mem_toDigits (n := m) (by rw [hdigits]; simp)
    refine ⟨c, digits, (toText_natural m).trans hdigits, ?_⟩
    simp [beginsScalar, hc]
  | float x =>
    have hexact : Exact x := h
    obtain ⟨value, left, hread, -, hvalue⟩ :=
      readScalar_of_readAs (Nonblank.toText x) hexact.readAs_toText
    obtain ⟨c, cs, htext, hc⟩ := readScalar_number hread (hvalue none)
    refine ⟨c, cs, ?_, ?_⟩
    · rw [scalarText, if_pos hexact.isFinite]
      exact htext
    · rcases hc with rfl | hc
      · rfl
      · simp [beginsScalar, hc]
  | str s => exact ⟨'"', _, rfl, rfl⟩
  | arr items => exact hscalar.elim
  | obj members => exact hscalar.elim

/-- A scalar is read as it is written. -/
theorem readScalar_scalarText {v : Json} {rest : List Char} {cur : Cursor} (hscalar : v.IsScalar)
    (h : Legible v) (hrest : Delimited rest) (hcur : cur.rest = scalarText v ++ rest) :
    ∃ value, Takes (readScalar cur) value rest ∧ ∀ stop, Says v (.scalar value stop) := by
  cases v with
  | null =>
    refine ⟨.null, ?_, fun _ => .null⟩
    have hread : readScalar cur = readWord .null ['u', 'l', 'l'] cur.next := by
      simp [readScalar, hcur, scalarText]
    rw [hread]
    exact readWord_append (Cursor.rest_next hcur)
  | bool b =>
    refine ⟨.bool b, ?_, fun _ => .bool⟩
    cases b with
    | true =>
      have hread : readScalar cur = readWord (.bool true) ['r', 'u', 'e'] cur.next := by
        simp [readScalar, hcur, scalarText]
      rw [hread]
      exact readWord_append (Cursor.rest_next hcur)
    | false =>
      have hread : readScalar cur = readWord (.bool false) ['a', 'l', 's', 'e'] cur.next := by
        simp [readScalar, hcur, scalarText]
      rw [hread]
      exact readWord_append (Cursor.rest_next hcur)
  | int n =>
    obtain ⟨m, rfl⟩ := Int.eq_ofNat_of_zero_le h.1
    exact ⟨.int m, readScalar_natural (by exact_mod_cast h.2) hrest hcur, fun _ => .int⟩
  | float x =>
    have hexact : Exact x := h
    rw [scalarText, if_pos hexact.isFinite] at hcur
    obtain ⟨value, hread, hvalue⟩ := readScalar_exact hexact hrest hcur
    exact ⟨value, hread, fun stop => .float (hvalue stop)⟩
  | str s =>
    obtain ⟨left, hread, hleft⟩ := readString_stringText hcur
    refine ⟨.str s, ⟨left, ?_, hleft⟩, fun _ => .str⟩
    have hquote : ∃ cs, cur.rest = '"' :: cs := ⟨_, hcur⟩
    obtain ⟨cs, hquote⟩ := hquote
    rw [hquote] at hread
    simp only [readScalar, hquote, if_true, hread]
    rfl
  | arr items => exact hscalar.elim
  | obj members => exact hscalar.elim

/-! ### Texts of values -/

/-- The items behind the first one in a pretty list, each with the comma before it. -/
def moreItems (depth : Nat) : List Json → List Char
  | [] => []
  | item :: items => ',' :: (newLine depth ++ prettyChars depth item ++ moreItems depth items)

/-- The members behind the first one in a pretty object, each with the comma before it. -/
def moreMembers (depth : Nat) : List (String × Json) → List Char
  | [] => []
  | (name, value) :: members =>
    ',' :: (newLine depth ++ stringText name ++ ':' :: ' ' :: prettyChars depth value
      ++ moreMembers depth members)

theorem prettyItems_cons (depth : Nat) (item : Json) (items : List Json) :
    prettyItems depth (item :: items)
      = newLine depth ++ prettyChars depth item ++ moreItems depth items := by
  induction items generalizing item with
  | nil => simp [prettyItems, moreItems]
  | cons next items ih => simp [prettyItems, moreItems, ih next]

theorem prettyMembers_cons (depth : Nat) (name : String) (value : Json)
    (members : List (String × Json)) :
    prettyMembers depth ((name, value) :: members)
      = newLine depth ++ stringText name ++ ':' :: ' ' :: prettyChars depth value
        ++ moreMembers depth members := by
  induction members generalizing name value with
  | nil => simp [prettyMembers, moreMembers]
  | cons next members ih =>
    obtain ⟨name', value'⟩ := next
    simp [prettyMembers, moreMembers, ih name' value']

theorem prettyChars_of_scalar {v : Json} (h : v.IsScalar) (depth : Nat) :
    prettyChars depth v = scalarText v := by
  cases v with
  | arr items => exact h.elim
  | obj members => exact h.elim
  | _ => simp only [prettyChars]

theorem prettyChars_arr (depth : Nat) (item : Json) (items : List Json) :
    prettyChars depth (.arr (item :: items))
      = '[' :: (newLine (depth + 1) ++ prettyChars (depth + 1) item ++ moreItems (depth + 1) items
        ++ newLine depth ++ [']']) := by
  simp [prettyChars, prettyItems_cons]

theorem prettyChars_obj (depth : Nat) (name : String) (value : Json)
    (members : List (String × Json)) :
    prettyChars depth (.obj ((name, value) :: members))
      = '\x7b' :: (newLine (depth + 1) ++ stringText name ++ ':' :: ' ' ::
          prettyChars (depth + 1) value ++ moreMembers (depth + 1) members ++ newLine depth
          ++ ['\x7d']) := by
  simp [prettyChars, prettyMembers_cons]

theorem blank_of_mem_newLine {depth : Nat} {c : Char} (h : c ∈ newLine depth) :
    Cursor.isBlank c = true := by
  rcases List.mem_cons.mp h with rfl | h
  · rfl
  · rw [(List.mem_replicate.mp h).2]
    rfl

/-- Whether a value may begin with a character. -/
def beginsValue (c : Char) : Bool := c = '[' || c = '\x7b' || beginsScalar c

theorem ne_of_beginsValue {c d : Char} (hc : beginsValue c = true) (hd : beginsValue d = false) :
    c ≠ d := by
  rintro rfl
  rw [hc] at hd
  cases hd

theorem isBlank_of_beginsValue {c : Char} (h : beginsValue c = true) :
    Cursor.isBlank c = false := Cursor.isBlank_eq_false h rfl

theorem prettyChars_head {v : Json} (h : Legible v) (depth : Nat) :
    ∃ c cs, prettyChars depth v = c :: cs ∧ beginsValue c = true := by
  by_cases hscalar : v.IsScalar
  · obtain ⟨c, cs, htext, hc⟩ := scalarText_head hscalar h
    refine ⟨c, cs, (prettyChars_of_scalar hscalar depth).trans htext, ?_⟩
    simp [beginsValue, hc]
  · cases v with
    | arr items =>
      cases items with
      | nil => exact ⟨'[', [']'], by simp only [prettyChars], rfl⟩
      | cons item items => exact ⟨'[', _, prettyChars_arr depth item items, rfl⟩
    | obj members =>
      cases members with
      | nil => exact ⟨'\x7b', ['\x7d'], by simp only [prettyChars], rfl⟩
      | cons member members =>
        exact ⟨'\x7b', _, prettyChars_obj depth member.1 member.2 members, rfl⟩
    | _ => exact absurd trivial hscalar

/-- The blanks before the text of a value are skipped, and nothing else. -/
theorem rest_skipBlanks_prettyChars {v : Json} {depth : Nat} (blanks : List Char)
    {rest : List Char} {cur : Cursor} (h : Legible v)
    (hblanks : ∀ b ∈ blanks, Cursor.isBlank b = true)
    (hcur : cur.rest = blanks ++ (prettyChars depth v ++ rest)) :
    cur.skipBlanks.rest = prettyChars depth v ++ rest := by
  obtain ⟨c, cs, htext, hc⟩ := prettyChars_head h depth
  rw [htext] at hcur ⊢
  exact Cursor.rest_skipBlanks_of hblanks (isBlank_of_beginsValue hc) hcur

/-! ### Lists and objects -/

/-- Whether a value was read to its end, with the given text behind it. -/
def Gives (piece : Piece Source) (v : Json) (rest : List Char) : Prop :=
  ∃ source cur, piece = (source, some cur) ∧ Says v source ∧ cur.rest = rest

/-- Whether the items of a list were read up to its bracket, with the given text behind it. -/
def GivesItems (piece : List (Source × Option Complaint) × Close × Option Cursor)
    (items : List Json) (rest : List Char) : Prop :=
  ∃ sources stop cur, piece = (sources, .ended stop, some cur) ∧ SaysItems items sources
    ∧ cur.rest = rest

/-- Whether the members of an object were read up to its bracket, with the given text behind it. -/
def GivesMembers (piece : List (Key × Source) × Close × Option Cursor)
    (members : List (String × Json)) (rest : List Char) : Prop :=
  ∃ sources stop cur, piece = (sources, .ended stop, some cur) ∧ SaysMembers members sources
    ∧ cur.rest = rest

section Steps

variable {fuel : Nat} {cur : Cursor} {c : Char} {rest : List Char}

theorem gives_scalar {v : Json} (hscalar : v.IsScalar) (h : Legible v) (hrest : Delimited rest)
    (hcur : cur.skipBlanks.rest = scalarText v ++ rest) :
    Gives (readValue (fuel + 1) cur) v rest := by
  obtain ⟨value, ⟨left, hread, hleft⟩, hsource⟩ := readScalar_scalarText hscalar h hrest hcur
  refine ⟨.scalar value (some left.place), left, ?_, hsource _, hleft⟩
  rw [readValue_of_neither, hread]
  intro d hd
  obtain ⟨c, cs, htext, hc⟩ := scalarText_head hscalar h
  rw [hcur, htext] at hd
  cases hd
  constructor <;> rintro rfl <;> cases hc

theorem gives_list {items : List Json} (hcur : cur.skipBlanks.rest = '[' :: rest) {more : List Char}
    (hitems : GivesItems (readItems fuel true cur.skipBlanks.next) items more) :
    Gives (readValue (fuel + 1) cur) (.arr items) more := by
  obtain ⟨sources, stop, left, hread, hsource, hleft⟩ := hitems
  refine ⟨.list (some cur.skipBlanks.place) sources (.ended stop), left, ?_, .arr hsource, hleft⟩
  rw [readValue_of_bracket hcur, hread]

theorem gives_object {members : List (String × Json)} (hcur : cur.skipBlanks.rest = '\x7b' :: rest)
    {more : List Char}
    (hmembers : GivesMembers (readMembers fuel true cur.skipBlanks.next) members more) :
    Gives (readValue (fuel + 1) cur) (.obj members) more := by
  obtain ⟨sources, stop, left, hread, hsource, hleft⟩ := hmembers
  refine ⟨.record (some cur.skipBlanks.place) sources (.ended stop), left, ?_, .obj hsource, hleft⟩
  rw [readValue_of_brace hcur, hread]

theorem givesItems_nil (first : Bool) (hcur : cur.skipBlanks.rest = ']' :: rest) :
    GivesItems (readItems (fuel + 1) first cur) [] rest := by
  refine ⟨[], some cur.skipBlanks.next.place, cur.skipBlanks.next, ?_, .nil, Cursor.rest_next hcur⟩
  simp only [readItems, hcur]

theorem readItems_first {item : Json} {depth : Nat} (h : Legible item)
    (hcur : cur.skipBlanks.rest = prettyChars depth item ++ rest) :
    readItems (fuel + 1) true cur = readItem fuel cur.skipBlanks := by
  obtain ⟨c, cs, htext, hc⟩ := prettyChars_head h depth
  have hend : c ≠ ']' := ne_of_beginsValue hc rfl
  simp [readItems, hcur, htext]

theorem readItems_comma {item : Json} {depth : Nat} {more : List Char} (h : Legible item)
    (hcur : cur.skipBlanks.rest = ',' :: rest)
    (hnext : cur.skipBlanks.next.skipBlanks.rest = prettyChars depth item ++ more) :
    readItems (fuel + 1) false cur = readItem fuel cur.skipBlanks.next.skipBlanks := by
  obtain ⟨c, cs, htext, hc⟩ := prettyChars_head h depth
  have hend : c ≠ ']' := ne_of_beginsValue hc rfl
  simp [readItems, hcur, hnext, htext, hend]

theorem givesItems_cons {item : Json} {items : List Json} {more : List Char}
    (hitem : Gives (readValue fuel cur) item rest)
    (hitems : ∀ left : Cursor, left.rest = rest →
      GivesItems (readItems fuel false left) items more) :
    GivesItems (readItem (fuel + 1) cur) (item :: items) more := by
  obtain ⟨source, left, hread, hsource, hleft⟩ := hitem
  obtain ⟨sources, stop, behind, hmore, hmoreSources, hbehind⟩ := hitems left hleft
  refine ⟨(source, listEndFault left) :: sources, stop, behind, ?_,
    .cons hsource hmoreSources, hbehind⟩
  simp only [readItem, hread, hmore]

theorem givesMembers_nil (first : Bool) (hcur : cur.skipBlanks.rest = '\x7d' :: rest) :
    GivesMembers (readMembers (fuel + 1) first cur) [] rest := by
  refine ⟨[], some cur.skipBlanks.next.place, cur.skipBlanks.next, ?_, .nil, Cursor.rest_next hcur⟩
  simp only [readMembers, hcur]

theorem readMembers_first {name : String} (hcur : cur.skipBlanks.rest = stringText name ++ rest) :
    readMembers (fuel + 1) true cur = readMember fuel cur.skipBlanks := by
  obtain ⟨cs, hquote⟩ : ∃ cs, cur.skipBlanks.rest = '"' :: cs := ⟨_, hcur⟩
  simp [readMembers, hquote]

theorem readMembers_comma (hcur : cur.skipBlanks.rest = ',' :: rest) :
    readMembers (fuel + 1) false cur = readMember fuel cur.skipBlanks.next.skipBlanks := by
  simp [readMembers, hcur]

theorem givesMembers_cons {name : String} {value : Json} {members : List (String × Json)}
    {behind more : List Char} (hcur : cur.rest = stringText name ++ ':' :: rest)
    (hvalue : ∀ start : Cursor, start.rest = rest → Gives (readValue fuel start) value behind)
    (hmembers : ∀ left : Cursor, left.rest = behind →
      GivesMembers (readMembers fuel false left) members more) :
    GivesMembers (readMember (fuel + 1) cur) ((name, value) :: members) more := by
  obtain ⟨left, hname, hleft⟩ := readString_stringText hcur
  have hcolon : left.skipBlanks.rest = ':' :: rest := Cursor.rest_skipBlanks_cons rfl hleft
  have hpass : passColon left = .ok left.skipBlanks.next := by
    simp [passColon, hcolon]
  obtain ⟨source, behind', hread, hsource, hbehind⟩ := hvalue _ (Cursor.rest_next hcolon)
  obtain ⟨sources, stop, onward, hmore, hmoreSources, honward⟩ := hmembers behind' hbehind
  refine ⟨(⟨name, some (behindName left), none⟩, source) :: sources, stop, onward, ?_,
    .cons hsource hmoreSources, honward⟩
  obtain ⟨cs, hquote⟩ : ∃ cs, cur.rest = '"' :: cs := ⟨_, hcur⟩
  rw [hquote] at hname
  simp only [readMember, hquote, hname, hpass, hread, hmore]

end Steps

/-! ### Pretty texts -/

theorem delimited_cons {c : Char} {rest : List Char}
    (h : isDigit c = false ∧ c ≠ '.' ∧ c ≠ 'e' ∧ c ≠ 'E') : Delimited (c :: rest) := by
  rintro _ ⟨⟩
  exact h

theorem delimited_newLine (depth : Nat) (rest : List Char) : Delimited (newLine depth ++ rest) :=
  delimited_cons (by decide)

theorem delimited_moreItems (depth depth' : Nat) (items : List Json) (rest : List Char) :
    Delimited (moreItems depth items ++ (newLine depth' ++ rest)) := by
  cases items with
  | nil => exact delimited_newLine depth' rest
  | cons item items => exact delimited_cons (by decide)

theorem delimited_moreMembers (depth depth' : Nat) (members : List (String × Json))
    (rest : List Char) : Delimited (moreMembers depth members ++ (newLine depth' ++ rest)) := by
  cases members with
  | nil => exact delimited_newLine depth' rest
  | cons member members => exact delimited_cons (by decide)

theorem rest_skipBlanks_newLine {depth : Nat} {c : Char} {rest : List Char} {cur : Cursor}
    (hc : Cursor.isBlank c = false) (hcur : cur.rest = newLine depth ++ c :: rest) :
    cur.skipBlanks.rest = c :: rest :=
  Cursor.rest_skipBlanks_of (fun _ hb => blank_of_mem_newLine hb) hc hcur

theorem rest_skipBlanks_stringText {depth : Nat} {name : String} {rest : List Char} {cur : Cursor}
    (hcur : cur.rest = newLine depth ++ (stringText name ++ rest)) :
    cur.skipBlanks.rest = stringText name ++ rest :=
  rest_skipBlanks_newLine (c := '"') rfl hcur

/-- The value of a member stands behind a blank. -/
theorem rest_skipBlanks_value {v : Json} {depth : Nat} {rest : List Char} {cur : Cursor}
    (h : Legible v) (hcur : cur.rest = ' ' :: (prettyChars depth v ++ rest)) :
    cur.skipBlanks.rest = prettyChars depth v ++ rest := by
  refine rest_skipBlanks_prettyChars [' '] h (fun b hb => ?_) hcur
  rw [List.mem_singleton.mp hb]
  rfl

mutual

/-- A value is read as it is written. -/
theorem gives_pretty (v : Json) {depth fuel : Nat} {rest : List Char} {cur : Cursor}
    (h : Legible v) (hrest : Delimited rest)
    (hcur : cur.skipBlanks.rest = prettyChars depth v ++ rest)
    (hfuel : 3 * (prettyChars depth v).length ≤ fuel) : Gives (readValue fuel cur) v rest := by
  obtain ⟨fuel, rfl⟩ : ∃ n, fuel = n + 1 := by
    obtain ⟨c, cs, htext, -⟩ := prettyChars_head h depth
    rw [htext, List.length_cons] at hfuel
    exact ⟨fuel - 1, by omega⟩
  by_cases hscalar : v.IsScalar
  · rw [prettyChars_of_scalar hscalar] at hcur
    exact gives_scalar hscalar h hrest hcur
  cases v with
  | arr items =>
    cases items with
    | nil =>
      simp only [prettyChars, List.length_cons, List.length_nil] at hcur hfuel
      obtain ⟨fuel, rfl⟩ : ∃ n, fuel = n + 1 := ⟨fuel - 1, by omega⟩
      exact gives_list hcur
        (givesItems_nil true (Cursor.rest_skipBlanks_cons rfl (Cursor.rest_next hcur)))
    | cons item items =>
      simp only [prettyChars_arr, List.cons_append, List.append_assoc, List.length_cons,
        List.length_append] at hcur hfuel
      obtain ⟨fuel, rfl⟩ : ∃ n, fuel = n + 2 := ⟨fuel - 2, by omega⟩
      have hfirst := rest_skipBlanks_prettyChars _ h.1 (fun _ hb => blank_of_mem_newLine hb)
        (Cursor.rest_next hcur)
      refine gives_list hcur ?_
      rw [readItems_first h.1 hfirst]
      refine givesItems_cons (gives_pretty item h.1 (delimited_moreItems _ _ _ _)
        (rest_skipBlanks_prettyChars [] h.1 nofun hfirst) (by omega)) ?_
      exact fun left hleft => gives_moreItems items h.2 hleft (by omega)
  | obj members =>
    cases members with
    | nil =>
      simp only [prettyChars, List.length_cons, List.length_nil] at hcur hfuel
      obtain ⟨fuel, rfl⟩ : ∃ n, fuel = n + 1 := ⟨fuel - 1, by omega⟩
      exact gives_object hcur
        (givesMembers_nil true (Cursor.rest_skipBlanks_cons rfl (Cursor.rest_next hcur)))
    | cons member members =>
      obtain ⟨name, value⟩ := member
      simp only [prettyChars_obj, List.cons_append, List.append_assoc, List.length_cons,
        List.length_append] at hcur hfuel
      obtain ⟨fuel, rfl⟩ : ∃ n, fuel = n + 2 := ⟨fuel - 2, by omega⟩
      have hfirst := rest_skipBlanks_stringText (Cursor.rest_next hcur)
      refine gives_object hcur ?_
      rw [readMembers_first hfirst]
      refine givesMembers_cons hfirst (fun start hstart => gives_pretty value h.1
        (delimited_moreMembers _ _ _ _) (rest_skipBlanks_value h.1 hstart) (by omega)) ?_
      exact fun left hleft => gives_moreMembers members h.2 hleft (by omega)
  | _ => exact absurd trivial hscalar

/-- The items behind an item are read as they are written. -/
theorem gives_moreItems (items : List Json) {depth depth' fuel : Nat} {rest : List Char}
    {cur : Cursor} (h : LegibleItems items)
    (hcur : cur.rest = moreItems depth items ++ (newLine depth' ++ ']' :: rest))
    (hfuel : 3 * (moreItems depth items).length + 1 ≤ fuel) :
    GivesItems (readItems fuel false cur) items rest := by
  obtain ⟨fuel, rfl⟩ : ∃ n, fuel = n + 1 := ⟨fuel - 1, by omega⟩
  cases items with
  | nil => exact givesItems_nil false (rest_skipBlanks_newLine rfl hcur)
  | cons item items =>
    simp only [moreItems, List.cons_append, List.append_assoc, List.length_cons,
      List.length_append] at hcur hfuel
    obtain ⟨fuel, rfl⟩ : ∃ n, fuel = n + 1 := ⟨fuel - 1, by omega⟩
    have hcomma := Cursor.rest_skipBlanks_cons rfl hcur
    have hitem := rest_skipBlanks_prettyChars _ h.1 (fun _ hb => blank_of_mem_newLine hb)
      (Cursor.rest_next hcomma)
    rw [readItems_comma h.1 hcomma hitem]
    refine givesItems_cons (gives_pretty item h.1 (delimited_moreItems _ _ _ _)
      (rest_skipBlanks_prettyChars [] h.1 nofun hitem) (by omega)) ?_
    exact fun left hleft => gives_moreItems items h.2 hleft (by omega)

/-- The members behind a member are read as they are written. -/
theorem gives_moreMembers (members : List (String × Json)) {depth depth' fuel : Nat}
    {rest : List Char} {cur : Cursor} (h : LegibleMembers members)
    (hcur : cur.rest = moreMembers depth members ++ (newLine depth' ++ '\x7d' :: rest))
    (hfuel : 3 * (moreMembers depth members).length + 1 ≤ fuel) :
    GivesMembers (readMembers fuel false cur) members rest := by
  obtain ⟨fuel, rfl⟩ : ∃ n, fuel = n + 1 := ⟨fuel - 1, by omega⟩
  cases members with
  | nil => exact givesMembers_nil false (rest_skipBlanks_newLine rfl hcur)
  | cons member members =>
    obtain ⟨name, value⟩ := member
    simp only [moreMembers, List.cons_append, List.append_assoc, List.length_cons,
      List.length_append] at hcur hfuel
    obtain ⟨fuel, rfl⟩ : ∃ n, fuel = n + 1 := ⟨fuel - 1, by omega⟩
    have hcomma := Cursor.rest_skipBlanks_cons rfl hcur
    have hname := rest_skipBlanks_stringText (Cursor.rest_next hcomma)
    rw [readMembers_comma hcomma]
    refine givesMembers_cons hname (fun start hstart => gives_pretty value h.1
      (delimited_moreMembers _ _ _ _) (rest_skipBlanks_value h.1 hstart) (by omega)) ?_
    exact fun left hleft => gives_moreMembers members h.2 hleft (by omega)

end

/-- The text of a value is read as whatever the value is taken for. -/
theorem readAs_pretty {α : Type} {decode : Decoder α} {v : Json} {a : α} (hv : Legible v)
    (h : Reads decode v a) : readAs decode v.pretty = .ok a := by
  have htext : v.pretty.toList = prettyChars 0 v := String.toList_ofList
  have hcur : (⟨v.pretty.toList, ⟨1, 0⟩⟩ : Cursor).skipBlanks.rest = prettyChars 0 v ++ [] :=
    rest_skipBlanks_prettyChars [] hv nofun (by rw [htext]; simp)
  have hfuel : 3 * (prettyChars 0 v).length ≤ 3 * v.pretty.toList.length + 3 := by
    rw [htext]
    omega
  have hend : Delimited [] := nofun
  obtain ⟨source, left, hread, hsource, hleft⟩ := gives_pretty v hv hend hcur hfuel
  refine (readAs_eq_ok_iff hread).mpr ⟨h source hsource, ?_⟩
  rintro _ ⟨⟩
  rw [Cursor.rest_skipBlanks, hleft]
  rfl

end Provisioning.Json
