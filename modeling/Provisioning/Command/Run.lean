import Provisioning.Binding.Group
import Provisioning.Binding.Service
import Provisioning.Command.Action
import Provisioning.Plane.Store

/-!
A run of the program, from its arguments to what it prints and changes. Nothing is kept between
runs but the file with the record: a simulated plane holds the object that this file speaks of.
-/

namespace Provisioning.Command

/-- What a run finds: the variables of its environment, what is at each path, and a network. -/
structure Surroundings (σ : Type) where
  environment : String → Option String
  find : String → Content
  network : Remote.Network σ
  /-- The state of the network. -/
  wire : σ
  clock : Clock

/-- What a run comes to. -/
structure Outcome where
  /-- Zero for success, one for a command that fails, two for arguments that make no sense, and more
  where the program breaks off. -/
  code : Nat
  output : String
  errors : String
  /-- The change to a file, with its path. -/
  change : Option (String × Change)

/-! ### Planes -/

/-- The limits that an access sets, and the usual ones where it sets none. -/
def Access.timeouts (a : Access) (usual : Timeouts) : Timeouts :=
  let limits := match a.timeout with
    | some n => Timeouts.uniform (.ofSeconds n)
    | none => usual
  match a.pollInterval with
  | some n => { limits with poll := .ofSeconds n }
  | none => limits

/-- The settings for a plane over the web. -/
def Access.settings (a : Access) : Except Obstacle Remote.Settings :=
  match a.subscription, a.token with
  | none, _ => .error .noSubscription
  | some _, none => .error .noToken
  | some subscription, some token => .ok ⟨a.endpoint, subscription, token⟩

/-- The message that a simulated object has not the identifier that was recorded. -/
def otherId (recorded simulated : String) : Message where
  source := "reconcile::remote"
  text := "The state file records '" ++ recorded ++ "' but the simulated object is '" ++ simulated
    ++ "'"

/-- The simulated plane with the object of a record, if there is one, and what is to be said about
it. -/
def rebuilt {Doc Obj : Type} [Managed Obj] (b : Binding Doc Obj) :
    Option (Record Doc) → Except Obstacle (Store Obj × List Message)
  | none => .ok (.empty ⟨[]⟩ none, [])
  | some record => do
    let key := b.key record.configuration
    let object ← (b.expand record.configuration).mapError .notRebuilt
    let held := Managed.withState .succeeded (Managed.scrub (Managed.populate key object))
    let id := Store.idFor Obj key
    let store : Store Obj := .empty ⟨[]⟩ none
    return (store.insert key held, if id = record.id then [] else [otherId record.id id])

/-! ### Errands -/

/-- How an errand ends, and what was said before. -/
structure Ending where
  messages : List Message
  result : Except Obstacle (List Effect)

/-- The part of the program that a note comes from. -/
def noteSource : Note → String
  | .announced _ => "reconcile_model::clients::arm_client"
  | _ => "resource_agent::reconciler"

/-- The level of a note. Objects are shown to those who look for errors in the program. -/
def noteLevel : Note → Level
  | .sending _ _ => .debug
  | .announced _ => .debug
  | _ => .info

/-- A note as a message. -/
def noteMessage (kind : String) (n : Note) : Message := ⟨noteSource n, noteLevel n, n.text kind⟩

/-- The messages of a world about objects of a kind. -/
def messagesOf {σ Obj : Type} (kind : String) (w : World σ Obj) : List Message :=
  (journalNotes w.journal).map (noteMessage kind)

/-- The greatest number of polls without pauses in one wait. -/
def patience : Nat := 1000000

section Errands

variable {σ Doc Obj : Type} [Document Doc] [Managed Obj]

/-- How an errand ends on a plane. -/
def Errand.endingOn (errand : Errand) (l : Lifecycle σ Doc Obj) (plane : σ) (clock : Clock)
    (path : String) (find : String → Content) : Ending :=
  match errand.work l path find ⟨plane, clock, []⟩ with
  | .ok effects w => ⟨messagesOf l.binding.kind w, .ok effects⟩
  | .error o w => ⟨messagesOf l.binding.kind w, .error o⟩

/-- How an errand ends on the plane that an access leads to. -/
def Errand.ending (errand : Errand) (b : Binding Doc Obj) (s : Surroundings σ) (a : Access) :
    Ending :=
  let timeouts := a.timeouts b.timeouts
  if a.simulate then
    match readRecord a.state (s.find a.state) >>= rebuilt b with
    | .error o => ⟨[], .error o⟩
    | .ok (store, messages) =>
      let e := errand.endingOn ⟨b, Store.client Obj, timeouts, patience⟩ store s.clock a.state
        s.find
      { e with messages := messages ++ e.messages }
  else
    match a.settings with
    | .error o => ⟨[], .error o⟩
    | .ok settings =>
      errand.endingOn ⟨b, Remote.client Obj settings s.network, timeouts, patience⟩ s.wire s.clock
        a.state s.find

/-! ### Runs -/

/-- The outcome of a run that met an obstacle; `log` is what was said before. -/
def Outcome.failure (kind log printed : String) (o : Obstacle) : Outcome :=
  ⟨o.code, printed, log ++ o.line kind, none⟩

/-- The lines of those messages that a filter passes. -/
def Filter.lines (f : Filter) (messages : List Message) : String :=
  String.join ((messages.filter f.passes).map Message.line)

/-- The outcome of an action; `warnings` are what there was to say about the filter. -/
def Action.outcome (b : Binding Doc Obj) (s : Surroundings σ) (f : Filter) (warnings : String) :
    Action → Outcome
  | .validate file =>
    match checked b file (s.find file) with
    | .ok text => ⟨0, text, warnings, none⟩
    | .error o => .failure b.kind warnings "" o
  | .manage errand a =>
    let e := errand.ending b s a
    let log := warnings ++ f.lines e.messages
    match e.result with
    | .error o => .failure b.kind log "" o
    | .ok effects =>
      let done := perform a.state (s.find a.state) effects
      match done.obstacle with
      | some o => .failure b.kind log done.printed o
      | none => ⟨0, done.printed, log, done.change.map fun change => (a.state, change)⟩

end Errands

/-- The variable with the text of a filter. -/
def filterVariable : String := "RUST_LOG"

/-- The filter of a run and the warnings about it. The environment comes before the options. -/
def filterOf (environment : String → Option String) (level : Level) : Filter × String :=
  match environment filterVariable with
  | some text => Filter.read text
  | none => (.uniform level, "")

/-- The variables that a run looks at. -/
def variableNames : List String :=
  [filterVariable, Remote.Settings.endpointVariable, Remote.Settings.subscriptionVariable,
    Remote.Settings.tokenVariable]

/-- A run of the program with the given arguments. -/
def run {σ : Type} (s : Surroundings σ) (arguments : List String) : Outcome :=
  match Invocation.read s.environment arguments with
  | .error e => ⟨2, "", "error: " ++ e.text ++ "\n", none⟩
  | .ok i =>
    let (f, warnings) := filterOf s.environment i.level
    match i.subject with
    | .group => i.action.outcome Document.Group.binding s f warnings
    | .service => i.action.outcome Document.Service.binding s f warnings

end Provisioning.Command
