import Mathlib.Data.List.Induction
import Provisioning.Proofs.Lifecycle.Kinds

/-!
The simulated plane as a map of last writes. A plane is asked for one thing after another, and what
was asked and answered is its history. What a history says is under a key is the last object that
was put there since it was last deleted (`Standing`), and that is what the plane says, too: a `get`
finds it, in the state that the script has come to, and finds nothing where nothing stands
(`get_after_history`). A request that fails changes nothing.
-/

namespace Provisioning

namespace Script

variable {α : Type}

/-- The next line of a script, some lines later: the last one if there are not so many. -/
theorem line?_iterate_rest (n : Nat) (s : Script α) :
    (rest^[n] s).line? = s.lines[min n (s.lines.length - 1)]? := by
  induction n generalizing s with
  | zero =>
    rw [Function.iterate_zero_apply, Nat.zero_min, line?, List.head?_eq_getElem?]
  | succ n ih =>
    rw [Function.iterate_succ_apply, ih]
    rcases s with ⟨_ | ⟨_, _ | ⟨_, lines⟩⟩⟩
    · simp [rest]
    · simp [rest]
    · simp [rest, Nat.succ_min_succ]

/-- A script has no lines left exactly if it never had one. -/
theorem line?_iterate_rest_eq_none_iff (n : Nat) (s : Script α) :
    (rest^[n] s).line? = none ↔ s.line? = none := by
  rw [line?_iterate_rest, List.getElem?_eq_none_iff, line?, List.head?_eq_none_iff,
    ← List.length_eq_zero_iff]
  omega

end Script

namespace Store

variable {Obj : Type} [Managed Obj]

/-! ### Requests and answers -/

/-- What a simulated plane can be asked for. -/
inductive Request (Obj : Type) where
  | insert (key : NaturalKey) (object : Obj)
  | put (key : NaturalKey) (object : Obj)
  | get (key : NaturalKey)
  | delete (key : NaturalKey)
  | peek (key : NaturalKey)

/-- What a request is answered with. -/
inductive Reply (Obj : Type) where
  | inserted (id : String)
  | put (answer : Except ClientError Obj)
  | got (answer : Except ClientError Obj)
  | deleted (answer : Except ClientError Unit)
  | peeked (found : Option Obj)

/-- A request with the answer to it. -/
abbrev Exchange (Obj : Type) := Request Obj × Reply Obj

/-- The key that a request is about. -/
def Request.key : Request Obj → NaturalKey
  | insert key _ | put key _ | get key | delete key | peek key => key

/-- Whether an answer is an error. -/
def Reply.Fails : Reply Obj → Prop
  | .put (.error _) | .got (.error _) | .deleted (.error _) => True
  | _ => False

/-- Answers a request. -/
def serve (s : Store Obj) : Request Obj → Reply Obj × Store Obj
  | .insert key object => (.inserted (idFor Obj key), s.insert key object)
  | .put key object => ((s.put key object).map .put id)
  | .get key => ((s.get key).map .got id)
  | .delete key => ((s.delete key).map .deleted id)
  | .peek key => (.peeked (s.peek key), s)

/-- Answers one request after another. -/
def converse (s : Store Obj) : List (Request Obj) → List (Exchange Obj) × Store Obj
  | [] => ([], s)
  | request :: requests =>
    let (reply, next) := s.serve request
    let (history, after) := next.converse requests
    ((request, reply) :: history, after)

/-! ### Histories -/

/-- How an object was put under a key: by someone else, or by a write. -/
inductive Filing (Obj : Type) where
  | inserted (object : Obj)
  | written (object : Obj)

/-- What is seen of an object that was put under a key, if the script says a line. An object that
was written has its computed fields and no secrets, and without a line it is done. -/
def Filing.shown (key : NaturalKey) (line : Option State) : Filing Obj → Obj
  | .inserted object =>
    match line with
    | some state => Managed.withState state (Managed.withId (idFor Obj key) object)
    | none => Managed.withId (idFor Obj key) object
  | .written object =>
    Managed.withState (line.getD .succeeded)
      (Managed.scrub (Managed.populate key (Managed.withId (idFor Obj key) object)))

/-- The state in which what was put under a key is found, where the script has come to a line: its
own, or that of a write, if the script has none. -/
def Filing.state (line : Option State) : Filing Obj → Option State
  | .inserted object => line.or (Managed.state object)
  | .written _ => some (line.getD .succeeded)

namespace Exchange

/-- How an exchange put an object under a key, if it did. A write that was rejected did not. -/
def filing? (key : NaturalKey) : Exchange Obj → Option (Filing Obj)
  | (.insert k object, _) => if k = key then some (.inserted object) else none
  | (.put k object, .put (.ok _)) => if k = key then some (.written object) else none
  | _ => none

/-- Whether an exchange is a deletion of the object under a key. -/
def clears (key : NaturalKey) : Exchange Obj → Bool
  | (.delete k, _) => k = key
  | _ => false

/-- Whether an exchange found an object. -/
def finds : Exchange Obj → Bool
  | (.get _, .got (.ok _)) => true
  | _ => false

end Exchange

variable {s : Store Obj} {key : NaturalKey} {filing : Filing Obj} {history : List (Exchange Obj)}
  {script : Script State}

/-- The last object that a history put under a key, with no deletion since. -/
def Standing (history : List (Exchange Obj)) (key : NaturalKey) (filing : Filing Obj) : Prop :=
  ∃ earlier e later, history = earlier ++ e :: later ∧ Exchange.filing? key e = some filing
    ∧ ∀ e' ∈ later, Exchange.filing? key e' = none ∧ Exchange.clears key e' = false

/-- What stands under a key after one more exchange. -/
def file (key : NaturalKey) (before : Option (Filing Obj)) (e : Exchange Obj) :
    Option (Filing Obj) :=
  if Exchange.clears key e then none else (Exchange.filing? key e).or before

/-- What stands under a key. -/
def standing? (history : List (Exchange Obj)) (key : NaturalKey) : Option (Filing Obj) :=
  history.foldl (file key) none

omit [Managed Obj] in
theorem clears_eq_false_of_filing? {e : Exchange Obj} (h : Exchange.filing? key e = some filing) :
    Exchange.clears key e = false := by
  match e, h with
  | (.insert _ _, _), _ => rfl
  | (.put _ _, _), _ => rfl

omit [Managed Obj] in
theorem standing?_eq_some_iff : standing? history key = some filing
    ↔ Standing history key filing := by
  induction history using List.reverseRecOn generalizing filing with
  | nil =>
    refine iff_of_false nofun ?_
    rintro ⟨earlier, e, later, hsplit, -⟩
    exact List.append_ne_nil_of_right_ne_nil _ (List.cons_ne_nil _ _) hsplit.symm
  | append_singleton history e ih =>
    rw [standing?, List.foldl_append, List.foldl_cons, List.foldl_nil, ← standing?, file]
    constructor
    · intro h
      by_cases hclears : Exchange.clears key e = true
      · rw [if_pos hclears] at h
        cases h
      rw [if_neg hclears, Option.or_eq_some_iff] at h
      rcases h with hfiled | ⟨hnone, hbefore⟩
      · exact ⟨history, e, [], rfl, hfiled, nofun⟩
      · obtain ⟨earlier, e', later, rfl, hfiled, hlater⟩ := ih.mp hbefore
        refine ⟨earlier, e', later ++ [e], by simp, hfiled, ?_⟩
        intro e'' he''
        rcases List.mem_append.mp he'' with he'' | he''
        · exact hlater e'' he''
        · rw [List.mem_singleton.mp he'']
          exact ⟨hnone, Bool.eq_false_iff.mpr hclears⟩
    · rintro ⟨earlier, e', later, hsplit, hfiled, hlater⟩
      rcases List.eq_nil_or_concat' later with rfl | ⟨later, last, rfl⟩
      · obtain ⟨-, he⟩ := List.append_inj' hsplit rfl
        cases he
        rw [clears_eq_false_of_filing? hfiled, hfiled]
        rfl
      · rw [← List.cons_append, ← List.append_assoc] at hsplit
        obtain ⟨hhistory, he⟩ := List.append_inj' hsplit rfl
        cases he
        obtain ⟨hnone, hkept⟩ := hlater e (by simp)
        rw [hnone, hkept, Option.none_or]
        exact ih.mpr ⟨earlier, e', later, hhistory, hfiled,
          fun e'' he'' => hlater e'' (List.mem_append_left _ he'')⟩

/-! ### What one request does -/

/-- The ways in which a request can go: the answer to it, and the plane that it leaves. -/
inductive Served (s : Store Obj) : Request Obj → Reply Obj → Store Obj → Prop
  | inserted {key : NaturalKey} {object : Obj} :
      Served s (.insert key object) (.inserted (idFor Obj key)) (s.insert key object)
  | rejected {key : NaturalKey} {object : Obj} {reason : String}
      (hrefusal : s.refusal = some reason) :
      Served s (.put key object)
        (.put (.error (.rejected Client.writing (Managed.describe Obj key) reason))) s
  | written {key : NaturalKey} {object : Obj} (hrefusal : s.refusal = none) :
      Served s (.put key object) (.put (.ok (s.kept key object)))
        { s with objects := assign s.objects key (some (s.kept key object)) }
  | lost {key : NaturalKey} (habsent : s.objects key = none) :
      Served s (.get key) (.got (.error (missing Obj key))) { s with gets := s.gets + 1 }
  | found {key : NaturalKey} {object : Obj} (hpresent : s.objects key = some object) :
      Served s (.get key) (.got (.ok (s.report object)))
        { s with
          objects := assign s.objects key (some (s.report object))
          script := s.script.rest
          gets := s.gets + 1 }
  | notDeleted {key : NaturalKey} (habsent : s.objects key = none) :
      Served s (.delete key) (.deleted (.error (missing Obj key))) s
  | deleted {key : NaturalKey} {object : Obj} (hpresent : s.objects key = some object) :
      Served s (.delete key) (.deleted (.ok ())) { s with objects := assign s.objects key none }
  | peeked {key : NaturalKey} : Served s (.peek key) (.peeked (s.objects key)) s

theorem served (s : Store Obj) (request : Request Obj) :
    Served s request (s.serve request).1 (s.serve request).2 := by
  cases request with
  | insert key object => exact .inserted
  | put key object =>
    dsimp only [serve, put]
    split
    · next reason hrefusal => exact .rejected hrefusal
    · next hrefusal => exact .written hrefusal
  | get key =>
    cases hobject : s.objects key with
    | none =>
      simp only [serve, get_of_absent hobject]
      exact .lost hobject
    | some object =>
      simp only [serve, get_of_present hobject]
      exact .found hobject
  | delete key =>
    cases hobject : s.objects key with
    | none =>
      simp only [serve, delete_of_absent hobject]
      exact .notDeleted hobject
    | some object =>
      simp only [serve, delete_of_present hobject]
      exact .deleted hobject
  | peek key => exact .peeked

namespace Served

variable {request : Request Obj} {reply : Reply Obj} {after : Store Obj}

/-- A request leaves what is under other keys alone. -/
theorem objects_of_ne (h : Served s request reply after) (hkey : key ≠ request.key) :
    after.objects key = s.objects key := by
  cases h with
  | inserted | written _ | found _ | deleted _ => exact assign_of_ne hkey _ _
  | rejected _ | lost _ | notDeleted _ | peeked => rfl

/-- A request that fails changes no object, and the script does not go on. -/
theorem unchanged (h : Served s request reply after) (hfails : reply.Fails) :
    after.objects = s.objects ∧ after.script = s.script := by
  cases h with
  | rejected _ | lost _ | notDeleted _ => exact ⟨rfl, rfl⟩
  | inserted | written _ | found _ | deleted _ | peeked => exact hfails.elim

/-- The script goes on by a line exactly if a request finds an object. -/
theorem script_eq (h : Served s request reply after) :
    after.script = if Exchange.finds (request, reply) then s.script.rest else s.script := by
  cases h <;> rfl

end Served

/-! ### What a conversation does -/

/-- An object is what was filed under a key, up to its state. Without a script, not even that
differs. -/
def Filing.Kept (script : Script State) (key : NaturalKey) (filing : Filing Obj) (object : Obj) :
    Prop :=
  (∀ state, Managed.withState state object = filing.shown key (some state))
    ∧ (script.line? = none → object = filing.shown key none)

/-- What exchanges leave the plane with: a script of which one line was said for each object that
was found, and under each key the object that stands there. -/
structure Recorded (script : Script State) (history : List (Exchange Obj)) (s : Store Obj) :
    Prop where
  said : s.script = Script.rest^[history.countP Exchange.finds] script
  objects : ∀ key, Option.Rel (Filing.Kept script key) (standing? history key) (s.objects key)

omit [Managed Obj] in
theorem standing?_append_singleton (history : List (Exchange Obj)) (e : Exchange Obj)
    (key : NaturalKey) : standing? (history ++ [e]) key = file key (standing? history key) e := by
  simp only [standing?, List.foldl_append, List.foldl_cons, List.foldl_nil]

omit [Managed Obj] in
/-- An exchange about another key leaves what stands under this one. -/
theorem file_of_ne {e : Exchange Obj} (h : key ≠ e.1.key) (before : Option (Filing Obj)) :
    file key before e = before := by
  match e with
  | (.insert k _, _) =>
    have hk : ¬ k = key := fun hk => h hk.symm
    simp [file, Exchange.clears, Exchange.filing?, hk]
  | (.put k _, reply) =>
    have hk : ¬ k = key := fun hk => h hk.symm
    rcases reply with _ | (_ | _) | _ | _ | _ <;> simp [file, Exchange.clears, Exchange.filing?, hk]
  | (.get _, _) => simp [file, Exchange.clears, Exchange.filing?]
  | (.delete k, _) =>
    have hk : ¬ k = key := fun hk => h hk.symm
    simp [file, Exchange.clears, Exchange.filing?, hk]
  | (.peek _, _) => simp [file, Exchange.clears, Exchange.filing?]

/-- An object that was written is seen as such: without a script it is done. -/
theorem kept_eq_shown (s : Store Obj) (key : NaturalKey) (object : Obj) :
    s.kept key object = (Filing.written object).shown key
      (if s.script.line?.isNone then none else some (s.writtenState key)) := by
  unfold kept Filing.shown
  by_cases hsilent : s.script.line?.isNone = true
  · simp only [writtenState, hsilent, if_true, Option.getD_none]
  · simp only [hsilent, Bool.false_eq_true, if_false, Option.getD_some]

/-- A report shows what was filed, in the state that the script says. -/
theorem Filing.Kept.report {object : Obj} (h : filing.Kept script key object)
    (hsilent : s.script.line? = none → script.line? = none) :
    s.report object = filing.shown key s.script.line? := by
  unfold Store.report
  cases hline : s.script.line? with
  | none => exact h.2 (hsilent hline)
  | some state => exact h.1 state

theorem Recorded.line?_eq_none_iff (h : Recorded script history s) :
    s.script.line? = none ↔ script.line? = none := by
  rw [h.said, Script.line?_iterate_rest_eq_none_iff]

theorem recorded_empty (script : Script State) (refusal : Option String) :
    Recorded script [] (empty script refusal : Store Obj) :=
  ⟨rfl, fun _ => .none⟩

section Lawful

variable [LawfulManaged Obj]

/-- What is seen in one state is seen in another once it is given that. -/
theorem Filing.withState_shown (filing : Filing Obj) (key : NaturalKey) (line : Option State)
    (state : State) :
    Managed.withState state (filing.shown key line) = filing.shown key (some state) := by
  cases filing with
  | inserted object =>
    cases line with
    | none => rfl
    | some _ => exact LawfulManaged.withState_withState _ _ _
  | written object => exact LawfulManaged.withState_withState _ _ _

theorem Filing.id_shown (filing : Filing Obj) (key : NaturalKey) (line : Option State) :
    Managed.id (filing.shown key line) = some (idFor Obj key) := by
  cases filing with
  | inserted object => cases line <;> simp [shown]
  | written object => simp [shown]

theorem Filing.state_shown (filing : Filing Obj) (key : NaturalKey) (line : Option State) :
    Managed.state (filing.shown key line) = filing.state line := by
  cases filing with
  | inserted object => cases line <;> simp [shown, state]
  | written object => simp [shown, state]

theorem Filing.kept_shown {line : Option State} (h : script.line? = none → line = none)
    (filing : Filing Obj) : filing.Kept script key (filing.shown key line) :=
  ⟨filing.withState_shown key line, fun hsilent => by rw [h hsilent]⟩

/-- What stands under the key of a request is there after the request. -/
theorem Recorded.served_key {request : Request Obj} {reply : Reply Obj} {after : Store Obj}
    (h : Recorded script history s) (hserved : Served s request reply after) :
    Option.Rel (Filing.Kept script request.key)
      (file request.key (standing? history request.key) (request, reply))
      (after.objects request.key) := by
  have hsilent := h.line?_eq_none_iff
  have hbefore := h.objects request.key
  cases hserved with
  | @inserted key object =>
    simp only [Request.key, file, Exchange.clears, Exchange.filing?, insert, assign_self,
      Bool.false_eq_true, if_false, if_true, Option.some_or]
    have hkept : (Filing.inserted object).Kept script key
        ((Filing.inserted object).shown key none) := Filing.kept_shown (fun _ => rfl) _
    exact .some hkept
  | @written key object hrefusal =>
    simp only [Request.key, file, Exchange.clears, Exchange.filing?, assign_self,
      Bool.false_eq_true, if_false, if_true, Option.some_or]
    rw [kept_eq_shown]
    refine .some (Filing.kept_shown ?_ (.written object))
    intro hnone
    rw [hsilent.mpr hnone]
    rfl
  | @found key object hpresent =>
    simp only [Request.key, file, Exchange.clears, Exchange.filing?, assign_self,
      Bool.false_eq_true, if_false, Option.none_or]
    simp only [Request.key, hpresent] at hbefore
    generalize standing? history key = filed at hbefore
    cases hbefore with
    | some hkept =>
      rw [hkept.report hsilent.mp]
      exact .some (Filing.kept_shown hsilent.mpr _)
  | notDeleted habsent =>
    simp only [Request.key, file, Exchange.clears, decide_true, if_true, habsent]
    exact .none
  | deleted _ =>
    simp only [Request.key, file, Exchange.clears, decide_true, if_true, assign_self]
    exact .none
  | rejected _ | lost _ | peeked => exact hbefore

/-- One more exchange is recorded. -/
theorem Recorded.served {request : Request Obj} {reply : Reply Obj} {after : Store Obj}
    (h : Recorded script history s) (hserved : Served s request reply after) :
    Recorded script (history ++ [(request, reply)]) after where
  said := by
    rw [hserved.script_eq, h.said, List.countP_append, List.countP_singleton]
    split
    · exact (Function.iterate_succ_apply' _ _ _).symm
    · rfl
  objects k := by
    rw [standing?_append_singleton]
    by_cases hk : k = request.key
    · subst hk
      exact h.served_key hserved
    · rw [file_of_ne hk, hserved.objects_of_ne hk]
      exact h.objects k

/-- A whole conversation is recorded. -/
theorem Recorded.converse (h : Recorded script history s) (requests : List (Request Obj)) :
    Recorded script (history ++ (s.converse requests).1) (s.converse requests).2 := by
  induction requests generalizing history s with
  | nil =>
    rw [Store.converse, List.append_nil]
    exact h
  | cons request requests ih =>
    have hrest := ih (h.served (Store.served s request))
    rwa [List.append_assoc, List.singleton_append] at hrest

end Lawful

/-- After any conversation, a `get` finds nothing exactly where nothing stands. Otherwise it finds
what was put there last, under the identifier of its key and in the state that the script has come
to. And a request that fails changes nothing, and none changes what is under another key. -/
theorem get_after_history (kind : Kind) {script : Script State} {refusal : Option String}
    {requests : List (Request kind.Obj)} {history : List (Exchange kind.Obj)} {s : Store kind.Obj}
    (h : (empty script refusal).converse requests = (history, s)) (key : NaturalKey) :
    ((s.get key).1 = .error (missing kind.Obj key) ↔ ∀ filing, ¬ Standing history key filing)
    ∧ (∀ filing, Standing history key filing → ∃ found, (s.get key).1 = .ok found
      ∧ found = filing.shown key
        script.lines[min (history.countP Exchange.finds) (script.lines.length - 1)]?
      ∧ Managed.id found = some (idFor kind.Obj key)
      ∧ Managed.state found = filing.state
        script.lines[min (history.countP Exchange.finds) (script.lines.length - 1)]?)
    ∧ (∀ (t : Store kind.Obj) (request : Request kind.Obj), (t.serve request).1.Fails →
      (t.serve request).2.objects = t.objects ∧ (t.serve request).2.script = t.script)
    ∧ ∀ (t : Store kind.Obj) (request : Request kind.Obj) (k : NaturalKey), k ≠ request.key →
      (t.serve request).2.objects k = t.objects k := by
  have hrecorded : Recorded script history s := by
    have hempty : Recorded script [] (empty script refusal : Store kind.Obj) := recorded_empty ..
    simpa only [h, List.nil_append] using hempty.converse requests
  have hkey := hrecorded.objects key
  have hline : s.script.line?
      = script.lines[min (history.countP Exchange.finds) (script.lines.length - 1)]? := by
    rw [hrecorded.said, Script.line?_iterate_rest]
  refine ⟨?_, ?_, fun t request => (served t request).unchanged,
    fun t request _ => (served t request).objects_of_ne⟩
  · simp only [← standing?_eq_some_iff, ← ne_eq, ← Option.eq_none_iff_forall_ne_some]
    generalize standing? history key = filed at hkey
    cases hobject : s.objects key with
    | none =>
      rw [hobject] at hkey
      cases hkey
      simp only [get_of_absent hobject]
    | some object =>
      rw [hobject] at hkey
      cases hkey
      simp only [get_of_present hobject, reduceCtorEq]
  · intro filing hstanding
    rw [standing?_eq_some_iff.mpr hstanding] at hkey
    cases hobject : s.objects key with
    | none =>
      rw [hobject] at hkey
      cases hkey
    | some object =>
      rw [hobject] at hkey
      cases hkey with
      | some hkept =>
        have hshown := hkept.report hrecorded.line?_eq_none_iff.mp
        rw [hline] at hshown
        refine ⟨s.report object, by rw [get_of_present hobject], hshown, ?_, ?_⟩
        · rw [hshown]
          exact filing.id_shown key _
        · rw [hshown]
          exact filing.state_shown key _

/-- A service that was written, found, and written again. In between another one was put there by
someone else, and a third one was not there to be deleted. -/
def webRequests : List (Request Object.Service) := [
  .put ⟨"rg", "web"⟩ {}, .get ⟨"rg", "web"⟩, .insert ⟨"rg", "b"⟩ {}, .delete ⟨"rg", "c"⟩,
  .put ⟨"rg", "web"⟩ (Document.Service.least "web").expand, .get ⟨"rg", "b"⟩]

/-- The second service stands, and is found in the last state that the script says. -/
theorem get_after_history_web : ∃ history s,
    (empty ⟨[.creating, .succeeded]⟩ none).converse webRequests = (history, s)
    ∧ (s.get ⟨"rg", "web"⟩).1 = .ok
      ((Filing.written (Document.Service.least "web").expand).shown ⟨"rg", "web"⟩
        (some .succeeded)) := by
  obtain ⟨history, s, h⟩ : ∃ history s,
      (empty ⟨[.creating, .succeeded]⟩ none).converse webRequests = (history, s) := ⟨_, _, rfl⟩
  have hhistory : ((empty ⟨[.creating, .succeeded]⟩ none).converse webRequests).1 = history := by
    rw [h]
  have hstanding : Standing history ⟨"rg", "web"⟩
      (.written (Document.Service.least "web").expand) := by
    rw [← standing?_eq_some_iff, ← hhistory]
    rfl
  have hfinds : history.countP Exchange.finds = 2 := by
    rw [← hhistory]
    rfl
  obtain ⟨-, hpresent, -⟩ := get_after_history .service h ⟨"rg", "web"⟩
  obtain ⟨found, hget, hfound, -⟩ := hpresent _ hstanding
  rw [hfinds] at hfound
  exact ⟨history, s, h, hfound ▸ hget⟩

end Store

end Provisioning
