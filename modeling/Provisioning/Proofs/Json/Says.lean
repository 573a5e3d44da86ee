import Mathlib.Data.List.Nodup
import Provisioning.Proofs.Choice
import Provisioning.Proofs.Dictionary
import Provisioning.Proofs.Traversal

/-!
Sources that say a value. A source says a JSON value if it is that value, wherever its parts stand
(`Says`); a number need only be taken for the same one. A decoder `Reads` a JSON value as some value
if it takes every source that says the one for the other. What is read for a record is put together
from what is read for its fields (`reads_record`), whichever of them are left out.
-/

namespace Provisioning.Json

mutual

/-- Whether a source says a value. -/
inductive Says : Json → Source → Prop
  | null {stop : Option Place} : Says .null (.scalar .null stop)
  | bool {b : Bool} {stop : Option Place} : Says (.bool b) (.scalar (.bool b) stop)
  | int {n : Int} {stop : Option Place} : Says (.int n) (.scalar (.int n) stop)
  /-- A number that is not an integer may be written like one. -/
  | float {x : Binary64} {value : Scalar} {stop : Option Place}
      (h : Decode.number (.scalar value stop) = .ok x) : Says (.float x) (.scalar value stop)
  | str {s : String} {stop : Option Place} : Says (.str s) (.scalar (.str s) stop)
  | arr {items : List Json} {sources : List (Source × Option Complaint)}
      {start stop : Option Place} (h : SaysItems items sources) :
      Says (.arr items) (.list start sources (.ended stop))
  | obj {members : List (String × Json)} {sources : List (Key × Source)}
      {start stop : Option Place} (h : SaysMembers members sources) :
      Says (.obj members) (.record start sources (.ended stop))

/-- Whether sources say the items of a list. -/
inductive SaysItems : List Json → List (Source × Option Complaint) → Prop
  | nil : SaysItems [] []
  | cons {item : Json} {items : List Json} {source : Source} {fault : Option Complaint}
      {sources : List (Source × Option Complaint)} (h : Says item source)
      (hrest : SaysItems items sources) : SaysItems (item :: items) ((source, fault) :: sources)

/-- Whether sources say the members of an object. -/
inductive SaysMembers : List (String × Json) → List (Key × Source) → Prop
  | nil : SaysMembers [] []
  | cons {name : String} {value : Json} {members : List (String × Json)} {after : Option Place}
      {source : Source} {sources : List (Key × Source)} (h : Says value source)
      (hrest : SaysMembers members sources) :
      SaysMembers ((name, value) :: members) ((⟨name, after, none⟩, source) :: sources)

end

/-- Whether a decoder takes whatever says a JSON value for a certain value. -/
def Reads {α : Type} (read : Decoder α) (value : Json) (a : α) : Prop :=
  ∀ source, Says value source → read source = .ok a

/-! ### Plain values -/

theorem reads_string (s : String) : Reads Decode.string (.str s) s := by
  rintro _ ⟨⟩
  rfl

theorem reads_boolean (b : Bool) : Reads Decode.boolean (.bool b) b := by
  rintro _ ⟨⟩
  rfl

theorem reads_word32 (n : UInt32) : Reads Decode.word32 (ofWord32 n) n := by
  rintro _ ⟨⟩
  have hrange : (0 : Int) ≤ n.toNat ∧ (n.toNat : Int) ≤ (4294967295 : Nat) := by
    have hlt := n.toNat_lt
    omega
  simp only [Decode.word32, Decode.natural, if_pos hrange, Int.toNat_natCast]
  exact congrArg Except.ok UInt32.ofNat_toNat

theorem reads_word16 (n : UInt16) : Reads Decode.word16 (ofWord16 n) n := by
  rintro _ ⟨⟩
  have hrange : (0 : Int) ≤ n.toNat ∧ (n.toNat : Int) ≤ (65535 : Nat) := by
    have hlt := n.toNat_lt
    omega
  simp only [Decode.word16, Decode.natural, if_pos hrange, Int.toNat_natCast]
  exact congrArg Except.ok UInt16.ofNat_toNat

theorem reads_number {x : Binary64} (hx : x.isFinite = true) :
    Reads Decode.number (ofFloat x) x := by
  unfold ofFloat
  rw [if_pos hx]
  rintro _ ⟨⟩
  assumption

theorem reads_choice {α : Type} [Choice α] [LawfulChoice α] (a : α) :
    Reads Choice.decode (Choice.toJson a) a := by
  rintro _ ⟨⟩
  simp only [Choice.decode, Decode.label, LawfulChoice.ofLabel?_label]

/-- A source that says a value does not say that there is none. -/
theorem Says.ne_null {value : Json} {source : Source} (h : Says value source)
    (hvalue : value ≠ .null) (stop : Option Place) : source ≠ .scalar .null stop := by
  rintro rfl
  cases h with
  | null => exact hvalue rfl
  | float h => cases h

theorem reads_nullable {α : Type} {read : Decoder α} {value : Json} {a : α}
    (hvalue : value ≠ .null) (h : Reads read value a) :
    Reads (Decode.nullable read) value (some a) := by
  intro source hsource
  have hread : Decode.nullable read source = some <$> read source := by
    unfold Decode.nullable
    split
    · next stop => exact absurd rfl (hsource.ne_null hvalue stop)
    · rfl
  rw [hread, h source hsource]
  rfl

/-- Null says that there is no value, and nothing else says it. -/
theorem reads_orNull_map {α β : Type} {read : Decoder β} {encode : α → Json} {f : α → β}
    {value : Option α} (hnull : ∀ a, encode a ≠ .null)
    (h : ∀ a ∈ value, Reads read (encode a) (f a)) :
    Reads (Decode.nullable read) (orNull encode value) (value.map f) := by
  cases value with
  | some a => exact reads_nullable (hnull a) (h a rfl)
  | none =>
    rintro _ ⟨⟩
    rfl

/-- A number that JSON has no notation for is lost. -/
theorem reads_orNull_number (value : Option Binary64) :
    Reads (Decode.nullable Decode.number) (orNull ofFloat value)
      (value.filter Binary64.isFinite) := by
  cases value with
  | none =>
    rintro _ ⟨⟩
    rfl
  | some x =>
    cases hx : x.isFinite with
    | true =>
      have hvalue : ofFloat x ≠ .null := by simp [ofFloat, hx]
      rw [Option.filter_some_pos hx]
      exact reads_nullable hvalue (reads_number hx)
    | false =>
      have hvalue : orNull ofFloat (some x) = .null := by simp [orNull, ofFloat, hx]
      rw [hvalue, Option.filter_some_neg (by simp [hx])]
      rintro _ ⟨⟩
      rfl

/-! ### Lists and dictionaries -/

theorem items_of_says {α β : Type} {read : Decoder β} {encode : α → Json} {f : α → β}
    {values : List α} {sources : List (Source × Option Complaint)}
    (h : ∀ a ∈ values, Reads read (encode a) (f a))
    (hsource : SaysItems (values.map encode) sources) :
    Decode.items read sources = .ok (values.map f) := by
  induction values generalizing sources with
  | nil =>
    cases hsource
    rfl
  | cons a values ih =>
    cases hsource with
    | cons hfirst hrest =>
      have hvalues := ih (fun b hb => h b (List.mem_cons_of_mem a hb)) hrest
      simp only [Decode.items, h a List.mem_cons_self _ hfirst, hvalues]
      rfl

theorem reads_list_map {α β : Type} {read : Decoder β} {encode : α → Json} {f : α → β}
    {values : List α} (h : ∀ a ∈ values, Reads read (encode a) (f a)) :
    Reads (Decode.list read) (ofList encode values) (values.map f) := by
  intro source hsource
  cases hsource with
  | arr hitems =>
    simp only [Decode.list, items_of_says h hitems]
    rfl

theorem reads_list {α : Type} {read : Decoder α} {encode : α → Json} {values : List α}
    (h : ∀ a ∈ values, Reads read (encode a) a) :
    Reads (Decode.list read) (ofList encode values) values := by
  simpa using reads_list_map (f := id) h

theorem entries_of_says {entries : List (String × String)} {sources : List (Key × Source)}
    (h : SaysMembers (entries.map fun e => (e.1, .str e.2)) sources) :
    Decode.entries sources = .ok entries := by
  induction entries generalizing sources with
  | nil =>
    cases h
    rfl
  | cons e entries ih =>
    cases h with
    | cons hfirst hrest =>
      simp only [Decode.entries, reads_string e.2 _ hfirst, ih hrest]
      rfl

theorem reads_dictionary (d : Dictionary) : Reads Decode.dictionary (ofDictionary d) d := by
  intro source hsource
  cases hsource with
  | obj hmembers =>
    simp only [Decode.dictionary, entries_of_says hmembers]
    exact congrArg Except.ok (Dictionary.ofList_entries d)

/-! ### Records -/

/-- Whether a member has a name, if it is not left out. -/
def Bears (name : String) (member : Option (String × Json)) : Prop := ∀ m ∈ member, m.1 = name

@[simp] theorem bears_always (name : String) (value : Json) : Bears name (always name value) := by
  rintro m ⟨⟩
  rfl

@[simp] theorem bears_ifSome {α : Type} (name : String) (encode : α → Json) (value : Option α) :
    Bears name (ifSome name encode value) := by
  intro m hm
  obtain ⟨a, -, rfl⟩ := Option.map_eq_some_iff.mp hm
  rfl

@[simp] theorem bears_ifAny {α : Type} (name : String) (encode : α → Json) (values : List α) :
    Bears name (ifAny name encode values) := by
  intro m hm
  unfold ifAny at hm
  split at hm
  · cases hm
  · cases hm
    rfl

@[simp] theorem bears_ifEntries (name : String) (d : Dictionary) :
    Bears name (ifEntries name d) := by
  intro m hm
  unfold ifEntries at hm
  split at hm
  · cases hm
  · cases hm
    rfl

/-- Whether the members of a record have the names of its fields, in the same order. -/
def Named (names : List String) (members : List (Option (String × Json))) : Prop :=
  List.Forall₂ Bears names members

@[simp] theorem named_nil : Named [] [] := .nil

@[simp] theorem named_cons_iff {name : String} {names : List String}
    {member : Option (String × Json)} {members : List (Option (String × Json))} :
    Named (name :: names) (member :: members) ↔ Bears name member ∧ Named names members :=
  List.forall₂_cons

theorem SaysMembers.filter {members : List (String × Json)} {sources : List (Key × Source)}
    (h : SaysMembers members sources) (name : String) :
    SaysMembers (members.filter fun m => m.1 == name)
      (sources.filter fun m => m.1.name == name) := by
  induction members generalizing sources with
  | nil =>
    cases h
    exact .nil
  | cons member members ih =>
    cases h with
    | @cons first _ _ _ _ _ hfirst hrest =>
      by_cases hname : (first == name) = true
      · simp only [List.filter_cons, hname, if_true]
        exact .cons hfirst (ih hrest)
      · simp only [List.filter_cons, hname, Bool.false_eq_true, if_false]
        exact ih hrest

theorem SaysMembers.passed {members : List (String × Json)} {sources : List (Key × Source)}
    (h : SaysMembers members sources) : ∀ m ∈ sources, m.1.passed = none := by
  induction members generalizing sources with
  | nil =>
    cases h
    exact nofun
  | cons member members ih =>
    cases h with
    | cons hfirst hrest =>
      intro m hm
      rcases List.mem_cons.mp hm with rfl | hm
      · rfl
      · exact ih hrest m hm

/-- Of members with different names, there is one of each name that is not left out. -/
theorem Named.filter {names : List String} {members : List (Option (String × Json))}
    (h : Named names members) (hnodup : names.Nodup) {name : String}
    {member : Option (String × Json)} (hmember : (name, member) ∈ names.zip members) :
    (members.filterMap id).filter (fun m => m.1 == name) = member.toList := by
  induction h with
  | nil => cases hmember
  | @cons first member' names members hfirst hrest ih =>
    obtain ⟨hfresh, hnodup⟩ := List.nodup_cons.mp hnodup
    rw [List.zip_cons_cons] at hmember
    rcases List.mem_cons.mp hmember with heq | hlater
    · -- No later member has this name.
      cases heq
      have hnone : (members.filterMap id).filter (fun m => m.1 == name) = [] := by
        refine List.filter_eq_nil_iff.mpr fun m hm heq => hfresh ?_
        obtain ⟨other, hother, rfl⟩ := List.mem_filterMap.mp hm
        obtain ⟨n, hn, hname⟩ := exists_mem_of_forall₂ hrest hother
        rwa [← eq_of_beq heq, hname m rfl]
      cases member with
      | none => simpa using hnone
      | some m =>
        have hname : (m.1 == name) = true := by simpa using hfirst m rfl
        have hmembers : (some m :: members).filterMap id = m :: members.filterMap id := rfl
        simp only [hmembers, List.filter_cons, hname, if_true, hnone, Option.toList]
    · have hother : name ≠ first := by
        rintro rfl
        exact hfresh (List.of_mem_zip hlater).1
      rw [← ih hnodup hlater]
      cases member' with
      | none => rfl
      | some m =>
        have hname : ¬ (m.1 == name) = true := by
          simpa [hfirst m rfl] using Ne.symm hother
        have hmembers : (some m :: members).filterMap id = m :: members.filterMap id := rfl
        simp only [hmembers, List.filter_cons, hname, Bool.false_eq_true, if_false]

/-- A record that stands as an object with certain members, its fields. -/
structure Fields (names : List String) (members : List (Option (String × Json))) (p : Parts) :
    Prop where
  named : Named names members
  nodup : names.Nodup
  names : p.names = names
  given : ∃ sources, p.given = .inl sources ∧ SaysMembers (members.filterMap id) sources
  close : ∃ stop, p.close = .ended stop

namespace Fields

variable {α : Type} {names : List String} {members : List (Option (String × Json))} {p : Parts}
  {name : String} {read : Decoder α} {a : α}

/-- A field that is given is read. -/
theorem field_of_some (h : Fields names members p) {label : String} {value : Json}
    (hmember : (name, some (label, value)) ∈ names.zip members) (hread : Reads read value a)
    (missing : Absent α) : p.field name missing read = .value a := by
  obtain ⟨sources, hgiven, hsource⟩ := h.given
  have hfilter := hsource.filter name
  rw [h.named.filter h.nodup hmember] at hfilter
  simp only [Parts.field, hgiven]
  generalize sources.filter (fun m => m.1.name == name) = found at hfilter
  cases hfilter with
  | cons hvalue hrest =>
    cases hrest
    simp only [hread _ hvalue]
    rfl

/-- A field that is left out is absent. -/
theorem field_of_none (h : Fields names members p) (hmember : (name, none) ∈ names.zip members)
    (missing : Absent α) : p.field name missing read = p.absent name false missing := by
  obtain ⟨sources, hgiven, hsource⟩ := h.given
  have hfilter := hsource.filter name
  rw [h.named.filter h.nodup hmember] at hfilter
  simp only [Parts.field, hgiven]
  generalize sources.filter (fun m => m.1.name == name) = found at hfilter
  cases hfilter
  rfl

theorem required (h : Fields names members p) {value : Json}
    (hmember : (name, always name value) ∈ names.zip members) (hread : Reads read value a) :
    p.required name read = .value a :=
  h.field_of_some hmember hread _

/-- A field that has a usual value may have another one. -/
theorem withDefault (h : Fields names members p) {value : Json} {usual : α}
    (hmember : (name, always name value) ∈ names.zip members) (hread : Reads read value a) :
    p.withDefault name usual read = .value a :=
  h.field_of_some hmember hread _

/-- A field without a value is left out. -/
theorem optional (h : Fields names members p) (encode : α → Json) (value : Option α)
    (hmember : (name, ifSome name encode value) ∈ names.zip members)
    (hnull : ∀ a, encode a ≠ .null) (hread : ∀ a ∈ value, Reads read (encode a) a) :
    p.optional name read = .value value := by
  cases value with
  | some a => exact h.field_of_some hmember (reads_nullable (hnull a) (hread a rfl)) _
  | none => exact h.field_of_none hmember _

theorem optional_string (h : Fields names members p) (value : Option String)
    (hmember : (name, ifSome name .str value) ∈ names.zip members) :
    p.optional name Decode.string = .value value :=
  h.optional .str value hmember (fun _ => nofun) fun a _ => reads_string a

/-- A field that is left out where it has no value. -/
theorem nullable_map {β : Type} {read : Decoder β} (h : Fields names members p)
    (encode : α → Json) (f : α → β) (value : Option α)
    (hmember : (name, ifSome name encode value) ∈ names.zip members)
    (hnull : ∀ a, encode a ≠ .null) (hread : ∀ a ∈ value, Reads read (encode a) (f a)) :
    p.nullable name read = .value (value.map f) := by
  cases value with
  | some a => exact h.field_of_some hmember (reads_nullable (hnull a) (hread a rfl)) _
  | none => exact h.field_of_none hmember _

theorem nullable (h : Fields names members p) (encode : α → Json) (value : Option α)
    (hmember : (name, ifSome name encode value) ∈ names.zip members)
    (hnull : ∀ a, encode a ≠ .null) (hread : ∀ a ∈ value, Reads read (encode a) a) :
    p.nullable name read = .value value := by
  simpa using h.nullable_map encode id value hmember hnull hread

theorem nullable_string (h : Fields names members p) (value : Option String)
    (hmember : (name, ifSome name .str value) ∈ names.zip members) :
    p.nullable name Decode.string = .value value :=
  h.nullable .str value hmember (fun _ => nofun) fun a _ => reads_string a

/-- A field that is null where it has no value. -/
theorem orNull_map {β : Type} {read : Decoder β} (h : Fields names members p)
    (encode : α → Json) (f : α → β) (value : Option α)
    (hmember : (name, always name (Json.orNull encode value)) ∈ names.zip members)
    (hnull : ∀ a, encode a ≠ .null) (hread : ∀ a ∈ value, Reads read (encode a) (f a)) :
    p.nullable name read = .value (value.map f) :=
  h.field_of_some hmember (reads_orNull_map hnull hread) _

theorem orNull (h : Fields names members p) (encode : α → Json) (value : Option α)
    (hmember : (name, always name (Json.orNull encode value)) ∈ names.zip members)
    (hnull : ∀ a, encode a ≠ .null) (hread : ∀ a ∈ value, Reads read (encode a) a) :
    p.nullable name read = .value value := by
  simpa using h.orNull_map encode id value hmember hnull hread

theorem orNull_string (h : Fields names members p) (value : Option String)
    (hmember : (name, always name (Json.orNull .str value)) ∈ names.zip members) :
    p.nullable name Decode.string = .value value :=
  h.orNull .str value hmember (fun _ => nofun) fun a _ => reads_string a

theorem orNull_number (h : Fields names members p) (value : Option Binary64)
    (hmember : (name, always name (Json.orNull ofFloat value)) ∈ names.zip members) :
    p.nullable name Decode.number = .value (value.filter Binary64.isFinite) :=
  h.field_of_some hmember (reads_orNull_number value) _

/-- A list without items is left out. -/
theorem list (h : Fields names members p) (encode : α → Json) (values : List α)
    (hmember : (name, ifAny name encode values) ∈ names.zip members)
    (hread : ∀ a ∈ values, Reads read (encode a) a) :
    p.withDefault name [] (Decode.list read) = .value values := by
  cases values with
  | nil => exact h.field_of_none hmember _
  | cons a values => exact h.field_of_some hmember (reads_list hread) _

/-- A dictionary without entries is left out. -/
theorem dictionary (h : Fields names members p) (d : Dictionary)
    (hmember : (name, ifEntries name d) ∈ names.zip members) :
    p.withDefault name .empty Decode.dictionary = .value d := by
  unfold ifEntries at hmember
  cases hempty : d.isEmpty with
  | true =>
    rw [if_pos hempty] at hmember
    have hd : d = .empty := Dictionary.eq_of_entries_eq (List.isEmpty_iff.mp hempty)
    rw [hd]
    exact h.field_of_none hmember _
  | false =>
    rw [if_neg (by simp [hempty])] at hmember
    exact h.field_of_some hmember (reads_dictionary d) _

theorem strangerFault_of_passed {members : List (Key × Source)}
    (h : ∀ m ∈ members, m.1.passed = none) (index : Nat) :
    Parts.strangerFault names index members = .value () := by
  induction members generalizing index with
  | nil => rfl
  | cons member members ih =>
    obtain ⟨key, source⟩ := member
    have hkey : key.passed = none := h (key, source) List.mem_cons_self
    have hrest := ih (fun m hm => h m (List.mem_cons_of_mem _ hm)) (index + 1)
    unfold Parts.strangerFault
    rw [hkey, hrest, ite_self]

/-- There is nothing else to be said about the record. -/
theorem loose (h : Fields names members p) : p.loose = .value () := by
  obtain ⟨sources, hgiven, hsource⟩ := h.given
  obtain ⟨stop, hclose⟩ := h.close
  simp only [Parts.loose, Parts.endFault, hgiven, hclose, Close.fault?,
    strangerFault_of_passed hsource.passed]
  rfl

end Fields

/-- A record is read as what is put together from its fields. -/
theorem reads_record {α : Type} {title : String} {names : List String}
    {members : List (Option (String × Json))} {build : Parts → Ranked α} {a : α}
    (hnamed : Named names members) (hnodup : names.Nodup)
    (h : ∀ p, Fields names members p → build p = .value a) :
    Reads (Decode.record title names build) (record members) a := by
  intro source hsource
  cases hsource with
  | @obj _ sources start stop hmembers =>
    have hp : Fields names members ⟨title, names, .inl sources, .ended stop⟩ :=
      ⟨hnamed, hnodup, rfl, ⟨sources, rfl, hmembers⟩, stop, rfl⟩
    simp only [Decode.record, hp.loose, h _ hp]
    rfl

end Provisioning.Json
