import Provisioning.Proofs.Json.Says
import Provisioning.Proofs.Number.Binary64

/-!
What is read from a JSON value, by its parts. A value says itself (`says_toSource`). What an object
is read as depends on those of its members that a field is named after (`ReadsOnly`), so that other
members may be put beside them. A number that was read is finite, if the value is one that a JSON
text can be parsed into (`Parsed`), and so are the numbers of lists and records (`Yields`).
-/

namespace Provisioning.Json

mutual

/-- A value without a text says itself. -/
theorem says_toSource : (value : Json) → Says value value.toSource
  | .null => .null
  | .bool _ => .bool
  | .int _ => .int
  | .float _ => .float rfl
  | .str _ => .str
  | .arr items => .arr (says_itemSources items)
  | .obj members => .obj (says_memberSources members)

theorem says_itemSources : (items : List Json) → SaysItems items (itemSources items)
  | [] => .nil
  | item :: items => .cons (says_toSource item) (says_itemSources items)

theorem says_memberSources :
    (members : List (String × Json)) → SaysMembers members (memberSources members)
  | [] => .nil
  | (_, value) :: members => .cons (says_toSource value) (says_memberSources members)

end

theorem memberSources_eq_map (members : List (String × Json)) :
    memberSources members = members.map fun m => (⟨m.1, none, none⟩, m.2.toSource) := by
  induction members with
  | nil => rfl
  | cons member members ih => rw [memberSources, ih, List.map_cons]

theorem itemSources_eq_map (items : List Json) :
    itemSources items = items.map fun item => (item.toSource, none) := by
  induction items with
  | nil => rfl
  | cons item items ih => rw [itemSources, ih, List.map_cons]

/-! ### Outcomes for a part of a record -/

namespace Ranked

variable {α β : Type}

theorem seq_eq_value_iff {f : Ranked (α → β)} {r : Ranked α} {b : β} :
    f <*> r = .value b ↔ ∃ g a, f = .value g ∧ r = .value a ∧ g a = b := by
  constructor
  · intro h
    cases f with
    | ok g =>
      cases r with
      | ok a => exact ⟨g, a, rfl, rfl, Except.ok.inj h⟩
      | error e => cases h
    | error e => cases r <;> cases h
  · rintro ⟨g, a, rfl, rfl, rfl⟩
    rfl

theorem map_eq_value_iff {g : α → β} {r : Ranked α} {b : β} :
    g <$> r = .value b ↔ ∃ a, r = .value a ∧ g a = b := by
  have hseq : g <$> r = Ranked.value g <*> r := rfl
  rw [hseq, seq_eq_value_iff]
  constructor
  · rintro ⟨_, a, ⟨⟩, hr, hb⟩
    exact ⟨a, hr, hb⟩
  · rintro ⟨a, hr, hb⟩
    exact ⟨g, a, rfl, hr, hb⟩

@[simp] theorem value_inj {a b : α} : Ranked.value a = .value b ↔ a = b := by
  constructor
  · rintro ⟨⟩
    rfl
  · rintro rfl
    rfl

@[simp] theorem fail_ne_value {rank : Nat} {c : Complaint} {a : α} :
    Ranked.fail rank c ≠ .value a := by
  rintro ⟨⟩

theorem of_eq_value_iff {rank : Nat} {outcome : Except Complaint α} {a : α} :
    of rank outcome = .value a ↔ outcome = .ok a := by
  cases outcome <;> simp [of]

theorem done_eq_ok_iff {r : Ranked α} {a : α} : r.done = .ok a ↔ r = .value a := by
  cases r with
  | ok b =>
    change (Except.ok b : Except Complaint α) = .ok a ↔ value b = value a
    rw [Except.ok.injEq, value_inj]
  | error e => exact ⟨nofun, nofun⟩

/-- Whether two outcomes are the same, but for the complaint. -/
def Alike (r s : Ranked α) : Prop := ∀ a, r = .value a ↔ s = .value a

theorem Alike.seq {f g : Ranked (α → β)} {r s : Ranked α} (hf : Alike f g) (hr : Alike r s) :
    Alike (f <*> r) (g <*> s) := by
  intro b
  simp only [seq_eq_value_iff, hf _, hr _]

theorem Alike.map (g : α → β) {r s : Ranked α} (h : Alike r s) : Alike (g <$> r) (g <$> s) := by
  intro b
  simp only [map_eq_value_iff, h _]

/-- Whether a part has a property, if it was read. -/
def Ensures (P : α → Prop) (r : Ranked α) : Prop := ∀ a, r = .value a → P a

theorem Ensures.map {P : β → Prop} {g : α → β} {r : Ranked α} (h : ∀ a, P (g a)) :
    Ensures P (g <$> r) := by
  intro b hb
  obtain ⟨a, -, rfl⟩ := map_eq_value_iff.mp hb
  exact h a

/-- A field that the property depends on. -/
theorem Ensures.seq {P : β → Prop} {Q : α → Prop} {f : Ranked (α → β)} {r : Ranked α}
    (hr : Ensures Q r) (hf : Ensures (fun g => ∀ a, Q a → P (g a)) f) : Ensures P (f <*> r) := by
  intro b hb
  obtain ⟨g, a, hg, ha, rfl⟩ := seq_eq_value_iff.mp hb
  exact hf g hg a (hr a ha)

/-- A field that the property does not depend on. -/
theorem Ensures.skip {P : β → Prop} {f : Ranked (α → β)} {r : Ranked α}
    (hf : Ensures (fun g => ∀ a, P (g a)) f) : Ensures P (f <*> r) :=
  .seq (Q := fun _ => True) (fun _ _ => trivial) fun g hg a _ => hf g hg a

end Ranked

/-! ### Members that no field is named after -/

/-- The members of an object that have a name. -/
def named (name : String) (members : List (String × Json)) : List (String × Json) :=
  members.filter fun m => m.1 == name

theorem filter_memberSources (name : String) (members : List (String × Json)) :
    (memberSources members).filter (fun m => m.1.name == name)
      = memberSources (named name members) := by
  rw [memberSources_eq_map, memberSources_eq_map, List.filter_map, named]
  rfl

/-- A member that is put into an object is beside those of other names. -/
theorem named_putMember {name other : String} (h : other ≠ name) (value : Json)
    (members : List (String × Json)) :
    named name (putMember other value members) = named name members := by
  have hother : (other == name) = false := beq_eq_false_iff_ne.mpr h
  induction members with
  | nil => simp [putMember, named, hother]
  | cons member members ih =>
    unfold putMember
    split
    · simp [named, hother]
    · split
      · simp only [named, List.filter_cons] at ih ⊢
        rw [ih]
      · next hle hge =>
        -- The member that is replaced has the same name.
        have hname : other = member.1 := String.le_antisymm hge hle
        simp [named, hother, ← hname]

/-- An object with members put into it, one after the other. -/
def putMembers (extra members : List (String × Json)) : List (String × Json) :=
  extra.foldl (fun sofar m => putMember m.1 m.2 sofar) members

theorem named_putMembers {name : String} {extra : List (String × Json)}
    (h : ∀ m ∈ extra, m.1 ≠ name) (members : List (String × Json)) :
    named name (putMembers extra members) = named name members := by
  induction extra generalizing members with
  | nil => rfl
  | cons m extra ih =>
    have hrest := ih (fun m' hm' => h m' (List.mem_cons_of_mem m hm')) (putMember m.1 m.2 members)
    exact hrest.trans (named_putMember (h m List.mem_cons_self) m.2 members)

/-- An object as the parts of a record. -/
def Parts.ofMembers (title : String) (names : List String) (members : List (String × Json)) :
    Parts :=
  ⟨title, names, .inl (memberSources members), .ended none⟩

/-- A field of an object is what its one member of that name is read as, or what it is where there
is none. -/
theorem Parts.field_ofMembers_eq_value_iff {α : Type} {title name : String} {names : List String}
    {members : List (String × Json)} {missing : Absent α} {read : Decoder α} {a : α} :
    (Parts.ofMembers title names members).field name missing read = .value a
      ↔ (∃ m, named name members = [m] ∧ read m.2.toSource = .ok a)
        ∨ named name members = [] ∧ (missing = .inObject a ∨ missing = .anywhere a) := by
  simp only [Parts.field, Parts.ofMembers, filter_memberSources]
  rcases named name members with _ | ⟨m, _ | ⟨m', rest⟩⟩
  · cases missing <;> simp [memberSources, Parts.absent]
  · simp [memberSources, Ranked.of_eq_value_iff]
  · -- A second member of the name is refused, wherever it stands.
    simp only [memberSources]
    cases read m.2.toSource <;> simp

/-- Whether a record is put together from no other members of an object than those that certain
fields are named after. -/
def ReadsOnly {α : Type} (fields : List String) (build : Parts → Ranked α) : Prop :=
  ∀ title names members others, (∀ name ∈ fields, named name members = named name others) →
    Ranked.Alike (build (.ofMembers title names members)) (build (.ofMembers title names others))

namespace ReadsOnly

variable {α β : Type} {fields : List String}

theorem map (g : α → β) {build : Parts → Ranked α} (h : ReadsOnly fields build) :
    ReadsOnly fields fun p => g <$> build p :=
  fun title names members others heq => .map g (h title names members others heq)

theorem seq {first : Parts → Ranked (α → β)} {build : Parts → Ranked α}
    (hfirst : ReadsOnly fields first) (h : ReadsOnly fields build) :
    ReadsOnly fields fun p => first p <*> build p :=
  fun title names members others heq =>
    (hfirst title names members others heq).seq (h title names members others heq)

theorem field {name : String} (hname : name ∈ fields) (missing : Absent α) (read : Decoder α) :
    ReadsOnly fields fun p => p.field name missing read := by
  intro title names members others heq a
  rw [Parts.field_ofMembers_eq_value_iff, Parts.field_ofMembers_eq_value_iff, heq name hname]

end ReadsOnly

/-- A record is read if its fields are and if there is nothing else to be said about it. -/
theorem Parts.done_eq_ok_iff {α : Type} {p : Parts} {build : Parts → Ranked α} {a : α} :
    ((fun (_ : Unit) a => a) <$> p.loose <*> build p).done = .ok a
      ↔ p.loose = .value () ∧ build p = .value a := by
  rw [Ranked.done_eq_ok_iff, Ranked.seq_eq_value_iff]
  simp only [Ranked.map_eq_value_iff]
  constructor
  · rintro ⟨_, a, ⟨_, hloose, rfl⟩, hbuild, rfl⟩
    exact ⟨hloose, hbuild⟩
  · rintro ⟨hloose, hbuild⟩
    exact ⟨_, a, ⟨(), hloose, rfl⟩, hbuild, rfl⟩

/-- There is nothing to be said about an object beside its fields. -/
theorem record_toSource_eq_ok_iff {α : Type} {title : String} {names : List String}
    {build : Parts → Ranked α} {members : List (String × Json)} {a : α} :
    Decode.record title names build (toSource (.obj members)) = .ok a
      ↔ build (.ofMembers title names members) = .value a := by
  have hloose : (Parts.ofMembers title names members).loose = .value () := by
    simp only [Parts.loose, Parts.endFault, Parts.ofMembers, Close.fault?,
      Fields.strangerFault_of_passed (says_memberSources members).passed]
    rfl
  exact Parts.done_eq_ok_iff.trans (and_iff_right hloose)

/-! ### Numbers that were read -/

/-- Whether a value is one that a JSON text can be parsed into: its integers fit 64 bits, with a
sign or without, and its other numbers are finite. -/
inductive Parsed : Json → Prop
  | null : Parsed .null
  | bool {b : Bool} : Parsed (.bool b)
  | int {n : Int} (h : -0x8000000000000000 ≤ n ∧ n < 0x10000000000000000) : Parsed (.int n)
  | float {x : Binary64} (h : x.isFinite = true) : Parsed (.float x)
  | str {s : String} : Parsed (.str s)
  | arr {items : List Json} (h : ∀ item ∈ items, Parsed item) : Parsed (.arr items)
  | obj {members : List (String × Json)} (h : ∀ m ∈ members, Parsed m.2) : Parsed (.obj members)

/-- Whether all that a decoder takes a parsed value for has a property. -/
def Yields {α : Type} (read : Decoder α) (P : α → Prop) : Prop :=
  ∀ value, Parsed value → ∀ a, read value.toSource = .ok a → P a

theorem yields_number : Yields Decode.number fun x => x.isFinite = true := by
  intro value hvalue x hx
  cases hvalue with
  | int h =>
    cases hx
    exact Binary64.isFinite_ofInt h
  | float h =>
    cases hx
    exact h
  | _ => cases hx

theorem yields_items {α : Type} {read : Decoder α} {P : α → Prop} (h : Yields read P)
    {items : List Json} (hitems : ∀ item ∈ items, Parsed item) {values : List α}
    (hread : Decode.items read (itemSources items) = .ok values) : ∀ a ∈ values, P a := by
  induction items generalizing values with
  | nil =>
    cases hread
    exact nofun
  | cons item items ih =>
    obtain ⟨hfirst, hrest⟩ := List.forall_mem_cons.mp hitems
    obtain ⟨a, ha, hread⟩ := bind_eq_ok_iff.mp hread
    obtain ⟨values, hvalues, ⟨⟩⟩ := bind_eq_ok_iff.mp hread
    exact List.forall_mem_cons.mpr ⟨h item hfirst a ha, ih hrest hvalues⟩

theorem yields_list {α : Type} {read : Decoder α} {P : α → Prop} (h : Yields read P) :
    Yields (Decode.list read) fun values => ∀ a ∈ values, P a := by
  intro value hvalue values hread
  cases hvalue with
  | arr hitems =>
    obtain ⟨_, hread, ⟨⟩⟩ := bind_eq_ok_iff.mp hread
    exact yields_items h hitems hread
  | _ => cases hread

/-- Whether a record is read from parsed values, be it an object or a list. -/
inductive Parts.Parsed : Parts → Prop
  | object {title : String} {names : List String} {members : List (String × Json)}
      (h : ∀ m ∈ members, Json.Parsed m.2) : Parsed (.ofMembers title names members)
  | list {title : String} {names : List String} {items : List Json}
      (h : ∀ item ∈ items, Json.Parsed item) :
      Parsed ⟨title, names, .inr (itemSources items), .ended none⟩

/-- A field that must be given has what its decoder yields. -/
theorem Parts.Parsed.required {α : Type} {p : Parts} (hp : p.Parsed) (name : String)
    {read : Decoder α} {P : α → Prop} (h : Yields read P) :
    Ranked.Ensures P (p.required name read) := by
  intro a ha
  cases hp with
  | object hmembers =>
    rcases Parts.field_ofMembers_eq_value_iff.mp ha with ⟨m, hnamed, hread⟩ | ⟨-, habsent⟩
    · have hmem := List.mem_of_mem_filter (hnamed ▸ List.mem_singleton_self m)
      exact h m.2 (hmembers m hmem) a hread
    · simp at habsent
  | @list _ names items hitems =>
    simp only [Parts.required, Parts.field, itemSources_eq_map, List.getElem?_map] at ha
    cases hitem : items[names.idxOf name]? with
    | none =>
      rw [hitem] at ha
      cases ha
    | some item =>
      rw [hitem] at ha
      exact h item (hitems item (List.mem_of_getElem? hitem)) a (Ranked.of_eq_value_iff.mp ha)

theorem yields_record {α : Type} {title : String} {names : List String}
    {build : Parts → Ranked α} {P : α → Prop}
    (h : ∀ p : Parts, p.Parsed → Ranked.Ensures P (build p)) :
    Yields (Decode.record title names build) P := by
  intro value hvalue a ha
  cases hvalue with
  | arr hitems => exact h _ (.list hitems) a (Parts.done_eq_ok_iff.mp ha).2
  | obj hmembers => exact h _ (.object hmembers) a (Parts.done_eq_ok_iff.mp ha).2
  | _ => cases ha

end Provisioning.Json
