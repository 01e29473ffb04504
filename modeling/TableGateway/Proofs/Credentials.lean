import Mathlib
import TableGateway.Proofs.CatalogRuns

/-!
# Credentials

Who connects to the databases cannot be seen in what a gateway does. Without the users and passwords
every step does the same, so two runs that differ in nothing else look alike: in what the steps
return and report, in the log, in the statements that are sent, and in what the gateway holds. The
databases are the same in both runs, their engines too: connections are granted or refused alike.
-/

namespace TableGateway

open Catalog Discovery

/-! ### Without credentials -/

/-- A value without the text that it is. -/
def Value.withoutText : Value → Value
  | string _ => null
  | v => v

/-- A connection without credentials: the user is left out if it is a text, the password in any
case. -/
def Config.Connection.anonymous (c : Connection) : Connection :=
  { c with user := c.user.withoutText, password := .null }

def Config.Provider.anonymous (p : Provider) : Provider :=
  { p with connection := p.connection.anonymous }

def Config.anonymous (c : Config) : Config :=
  { c with providers := c.providers.map Provider.anonymous }

/-- Only the kind of the user is looked at, and nothing of the password. -/
lemma Config.Connection.check_anonymous (c : Connection) : c.anonymous.check = c.check := by
  have huser : checkText "username" c.user.withoutText = checkText "username" c.user := by
    cases c.user <;> rfl
  unfold check anonymous
  rw [huser]

lemma Config.Provider.check_anonymous (p : Provider) : p.anonymous.check = p.check := by
  have hconnection : p.anonymous.connection.check = p.connection.check :=
    p.connection.check_anonymous
  have hdriver : p.anonymous.checkDriver = p.checkDriver := rfl
  unfold check
  rw [hconnection, hdriver]

lemma Config.Provider.anonymous_anonymous (p : Provider) : p.anonymous.anonymous = p.anonymous := by
  have huser : p.connection.user.withoutText.withoutText = p.connection.user.withoutText := by
    cases p.connection.user <;> rfl
  unfold anonymous Connection.anonymous
  rw [huser]

namespace Gateway

/-- Entries with anonymous providers. -/
def anonymousEntries (providers : List (Value × Config.Provider)) :
    List (Value × Config.Provider) :=
  providers.map fun entry => (entry.1, entry.2.anonymous)

def anonymous (g : Gateway) : Gateway :=
  { g with config := g.config.map Config.anonymous, providers := anonymousEntries g.providers }

def Working.anonymous (w : Working) : Working :=
  { w with gateway := w.gateway.anonymous }

lemma setEntry_anonymous (id : Value) (p : Config.Provider)
    (providers : List (Value × Config.Provider)) :
    setEntry id p.anonymous (anonymousEntries providers) =
      anonymousEntries (setEntry id p providers) := by
  induction providers with
  | nil => rfl
  | cons entry rest ih =>
    by_cases h : entry.1.equals id
    · simp [anonymousEntries, setEntry, h]
    · simpa [anonymousEntries, setEntry, h] using ih

lemma valueUnder?_anonymous (id : Value) (providers : List (Value × Config.Provider)) :
    valueUnder? id (anonymousEntries providers) =
      (valueUnder? id providers).map Config.Provider.anonymous := by
  unfold valueUnder? anonymousEntries
  rw [List.find?_map, Option.map_map, Option.map_map]
  rfl

lemma provider_anonymous (g : Gateway) (id : Value) :
    g.anonymous.provider id = (g.provider id).map Config.Provider.anonymous := by
  have hfound : valueUnder? id g.anonymous.providers =
      (valueUnder? id g.providers).map Config.Provider.anonymous :=
    valueUnder?_anonymous id g.providers
  unfold provider
  rw [hfound]
  split
  · rfl
  · cases valueUnder? id g.providers <;> rfl

/-! ### Steps -/

section Steps

variable {α β γ : Type} {dbs : Databases}

/-- Without credentials other work does what this work does, and returns `forget` of what this
returns. -/
def Forgets (forget : α → β) (work : Operating α) (other : Operating β) : Prop :=
  ∀ w, other.run.run w.anonymous =
    ((work.run.run w).1.map forget, (work.run.run w).2.anonymous)

namespace Forgets

lemma pure (forget : α → β) (a : α) : Forgets forget (Pure.pure a) (Pure.pure (forget a)) :=
  fun _ => rfl

lemma throw (forget : α → β) (e : Error) :
    Forgets forget (throw e : Operating α) (throw e : Operating β) :=
  fun _ => rfl

lemma note (records : List LogRecord) : Forgets id (note records) (note records) :=
  fun _ => rfl

lemma modifyGateway (change other : Gateway → Gateway)
    (h : ∀ g : Gateway, other g.anonymous = (change g).anonymous) :
    Forgets id (modify fun w => { w with gateway := change w.gateway })
      (modify fun w => { w with gateway := other w.gateway }) := by
  intro w
  have hgateway : other w.anonymous.gateway = (change w.gateway).anonymous := h w.gateway
  change (Except.ok (), { w.anonymous with gateway := other w.anonymous.gateway }) = _
  rw [hgateway]
  rfl

lemma bind {δ : Type} {forget : α → β} {forgetRest : γ → δ} {work : Operating α}
    {other : Operating β} {rest : α → Operating γ} {otherRest : β → Operating δ}
    (h : Forgets forget work other)
    (hrest : ∀ a, Forgets forgetRest (rest a) (otherRest (forget a))) :
    Forgets forgetRest (work >>= rest) (other >>= otherRest) := by
  intro w
  have hw := h w
  rcases hwork : work.run.run w with ⟨e | a, u⟩ <;> rw [hwork] at hw
  · rw [run_bind_of_run_error hwork, run_bind_of_run_error hw]
    rfl
  · rw [run_bind_of_run_ok hwork, run_bind_of_run_ok hw, hrest a u]

lemma foldlM {forget : β → β} (anonymous : α → α) {f : β → α → Operating β}
    (h : ∀ b a, Forgets forget (f b a) (f (forget b) (anonymous a))) (items : List α) (b : β) :
    Forgets forget (items.foldlM f b) ((items.map anonymous).foldlM f (forget b)) := by
  induction items generalizing b with
  | nil => exact pure forget b
  | cons a rest ih => exact (h b a).bind ih

lemma mapM {f : α → Operating β} (h : ∀ a, Forgets id (f a) (f a)) (items : List α) :
    Forgets id (items.mapM f) (items.mapM f) := by
  induction items with
  | nil => exact pure id []
  | cons a rest ih =>
    rw [List.mapM_cons]
    exact (h a).bind fun b => ih.bind fun bs => pure id (b :: bs)

lemma openProviders (config : Config) :
    Forgets anonymousEntries (openProviders config.providers)
      (openProviders config.anonymous.providers) := by
  refine foldlM Config.Provider.anonymous (fun opened p => ?_) config.providers []
  refine (note _).bind fun _ => ?_
  rw [p.check_anonymous]
  cases p.check with
  | error e => exact throw _ _
  | ok _ =>
    refine (note _).bind fun _ => ?_
    rw [show p.anonymous.id = p.id from rfl, setEntry_anonymous]
    split
    · exact pure _ _
    · exact throw _ _

lemma connect (access : Access) (key : Value) :
    Forgets id (connect access key) (connect access key) := by
  refine (note _).bind fun _ => ?_
  cases access.check with
  | error fault => exact throw _ _
  | ok _ => exact pure _ _

lemma inspectProvider (dbs : Databases) (key : Value) (p : Config.Provider) :
    Forgets id (inspectProvider dbs key p) (inspectProvider dbs key p) := by
  have htraced (entries : List TraceEntry) :
      Forgets id (modify fun w : Working => { w with trace := w.trace ++ entries })
        (modify fun w => { w with trace := w.trace ++ entries }) := fun _ => rfl
  refine (note _).bind fun _ => (connect _ _).bind fun _ => (note _).bind fun _ =>
    (htraced _).bind fun _ => ?_
  cases (inspect (dbs key) p.rules).start.outcome with
  | error e => exact throw _ _
  | ok sources => exact (note _).bind fun _ => pure _ _

lemma inspectEach (dbs : Databases) (providers : List (Value × Config.Provider)) :
    Forgets id (providers.mapM fun entry => Gateway.inspectProvider dbs entry.1 entry.2)
      ((anonymousEntries providers).mapM fun entry =>
        Gateway.inspectProvider dbs entry.1 entry.2) := by
  -- Nothing but the id and the rules of a provider is used here.
  have hsame (entry : Value × Config.Provider) :
      Gateway.inspectProvider dbs entry.1 entry.2.anonymous =
        Gateway.inspectProvider dbs entry.1 entry.2 := rfl
  unfold anonymousEntries
  simp only [List.mapM_map, Function.comp_def, hsame]
  apply mapM
  intro entry
  exact inspectProvider dbs entry.1 entry.2

lemma discover (dbs : Databases) : Forgets id (discover dbs) (discover dbs) := by
  have hget : Forgets Working.anonymous (get : Operating Working) get := fun _ => rfl
  refine hget.bind fun w => ?_
  dsimp only
  have hconfig : w.anonymous.gateway.config.isNone = w.gateway.config.isNone := by
    simp [Working.anonymous, Gateway.anonymous]
  have hproviders : w.anonymous.gateway.providers = anonymousEntries w.gateway.providers := rfl
  have hempty : (anonymousEntries w.gateway.providers).isEmpty = w.gateway.providers.isEmpty := by
    simp [anonymousEntries]
  rw [hconfig, hproviders, hempty]
  split
  · exact throw _ _
  split
  · exact throw _ _
  refine (inspectEach dbs w.gateway.providers).bind fun found => ?_
  refine (modifyGateway (fun g => { g with sources := found.flatten })
    (fun g => { g with sources := found.flatten }) fun _ => rfl).bind fun _ => ?_
  dsimp only [id]
  split
  · exact throw _ _
  · next graph _ =>
    exact (modifyGateway (fun g => { g with graph := some graph })
      (fun g => { g with graph := some graph }) fun _ => rfl).bind fun _ => pure id found.flatten

lemma configure (dbs : Databases) (config : Config) :
    Forgets id (configure dbs config) (configure dbs config.anonymous) := by
  refine (modifyGateway (fun g => { g with config := some config })
    (fun g => { g with config := some config.anonymous }) fun _ => rfl).bind fun _ => ?_
  refine (openProviders config).bind fun providers => ?_
  exact (modifyGateway (fun g => { g with providers })
    (fun g => { g with providers := anonymousEntries providers }) fun _ => rfl).bind
      fun _ => discover dbs

end Forgets

end Steps

/-! ### Runs -/

def Answer.anonymous : Answer → Answer
  | provider found => provider (found.map Config.Provider.anonymous)
  | a => a

def Response.anonymous : Response → Response
  | answered a => answered a.anonymous
  | r => r

lemma Response.anonymous_anonymous (r : Response) : r.anonymous.anonymous = r.anonymous := by
  cases r with
  | answered a =>
    cases a with
    | provider found =>
      cases found with
      | error e => rfl
      | ok p => exact congrArg (fun p => answered (.provider (.ok p))) p.anonymous_anonymous
    | _ => rfl
  | _ => rfl

def Event.anonymous : Event → Event
  | configure config => configure config.anonymous
  | event => event

/-- What can be seen of a step, apart from the credentials of a provider that was asked for: what
came of it, what was logged and sent, and what the gateway then holds. -/
structure Observation where
  response : Response
  log : List LogRecord
  trace : List TraceEntry
  ids : List Value
  sources : List Source
  graph : Option Graph

/-- A step does the same without credentials, which are missing afterwards, too. -/
lemma run_anonymous {g : Gateway} {work other : Operating (List Source)}
    (h : Forgets id work other) :
    g.anonymous.run other = { g.run work with gateway := (g.run work).gateway.anonymous } := by
  have hrun := h { gateway := g }
  change other.run.run { gateway := g.anonymous } = _ at hrun
  unfold Gateway.run
  rw [hrun, Except.map_id]
  rfl

namespace World

def anonymous (w : World) : World :=
  { w with gateway := w.gateway.anonymous }

/-- What is logged and sent in a step. -/
def notes (w : World) : Event → List LogRecord × List TraceEntry
  | .configure config => ofStep (Gateway.configure w.dbs config)
  | .discover => ofStep (Gateway.discover w.dbs)
  | _ => ([], [])
where
  ofStep (work : Operating (List Source)) : List LogRecord × List TraceEntry :=
    ((w.gateway.run work).log, (w.gateway.run work).trace)

def observe (w : World) (event : Event) : Observation :=
  let (response, after) := w.step event
  let (log, trace) := w.notes event
  { response := response.anonymous, log, trace, ids := after.gateway.providers.map Prod.fst,
    sources := after.gateway.sources, graph := after.gateway.graph }

def observations (w : World) : List Event → List Observation
  | [] => []
  | event :: rest => w.observe event :: (w.step event).2.observations rest

lemma take_anonymous {w : World} {work other : Operating (List Source)}
    (h : Forgets id work other) :
    w.anonymous.take other = ((w.take work).1.anonymous, (w.take work).2.anonymous) := by
  unfold take
  rw [show w.anonymous.gateway = w.gateway.anonymous from rfl, run_anonymous h]
  rfl

lemma step_anonymous (w : World) (event : Event) :
    w.anonymous.step event.anonymous =
      ((w.step event).1.anonymous, (w.step event).2.anonymous) := by
  cases event with
  | configure config => exact take_anonymous (Forgets.configure w.dbs config)
  | discover => exact take_anonymous (Forgets.discover w.dbs)
  | replace id db => rfl
  | ask question =>
    cases question with
    | provider id =>
      have hfound : w.anonymous.gateway.provider id =
          (w.gateway.provider id).map Config.Provider.anonymous := w.gateway.provider_anonymous id
      exact congrArg (fun found => (Response.answered (.provider found), w.anonymous)) hfound
    | _ => rfl

lemma notes_anonymous (w : World) (event : Event) :
    w.anonymous.notes event.anonymous = w.notes event := by
  have hstep {work other : Operating (List Source)} (h : Forgets id work other) :
      notes.ofStep w.anonymous other = notes.ofStep w work := by
    unfold notes.ofStep
    rw [show w.anonymous.gateway = w.gateway.anonymous from rfl, run_anonymous h]
  cases event with
  | configure config => exact hstep (Forgets.configure w.dbs config)
  | discover => exact hstep (Forgets.discover w.dbs)
  | _ => rfl

lemma observe_anonymous (w : World) (event : Event) :
    w.anonymous.observe event.anonymous = w.observe event := by
  have hids : (w.step event).2.anonymous.gateway.providers.map Prod.fst =
      (w.step event).2.gateway.providers.map Prod.fst := by
    simp [anonymous, Gateway.anonymous, anonymousEntries, Function.comp_def]
  unfold observe
  rw [step_anonymous, notes_anonymous]
  dsimp only
  rw [Response.anonymous_anonymous, hids]
  rfl

lemma observations_anonymous (w : World) (events : List Event) :
    w.anonymous.observations (events.map Event.anonymous) = w.observations events := by
  induction events generalizing w with
  | nil => rfl
  | cons event rest ih =>
    rw [List.map_cons, observations, observations, observe_anonymous, step_anonymous, ih]

end World

/-- Two runs in which the configurations differ in credentials alone look alike at every step. -/
theorem observations_of_anonymous (dbs : Databases) (events others : List Event)
    (h : events.map Event.anonymous = others.map Event.anonymous) :
    ({ dbs } : World).observations events = ({ dbs } : World).observations others := by
  let start : World := { dbs }
  have hstart : start.anonymous = start := rfl
  calc
    start.observations events = start.anonymous.observations (events.map Event.anonymous) :=
      (start.observations_anonymous events).symm
    _ = start.anonymous.observations (others.map Event.anonymous) := by rw [h]
    _ = start.observations others := start.observations_anonymous others

/-- The shop behind an engine. -/
def shopBehind (engine : Engine) (failingKind : Option EntityKind) : Database :=
  { ({ shop with failingKind } : Recording).database with engine := some engine }

/-- A configuration that succeeds, one that fails after it, and discoveries of what is left of them,
first without the views and then without a connection, for whoever connects. -/
def shopVisits (user password : Value) : List Event :=
  let shopper : Config.Provider :=
    { shopProvider with connection := { shopProvider.connection with user, password } }
  let main : Value := .string "main"
  [.configure { providers := [shopper] }, .ask (.provider main),
    .configure { providers := [shopper, { shopper with driver := .string "mysql" }] },
    .replace main (shopBehind {} (some .view)), .discover,
    .replace main (shopBehind { access := .refused "too many clients" "no connection" } none),
    .discover]

theorem observations_of_otherVisitor :
    let start : World := { dbs := fun _ => shopBehind { access := .opened } none }
    let alice := shopVisits (.string "alice") (.string "secret")
    let bob := shopVisits (.string "bob") .null
    let failed (words : String) := (ConnectionEvent.failed words).record (.string "main")
    (start.observations alice).map (·.sources.map (·.name)) =
        List.replicate 7 [.string "orders", .string "totals"] ∧
      (start.observations alice).head?.bind (·.log[3]?) =
        some (ConnectionEvent.opened.record (.string "main")) ∧
      (start.observations alice).map (·.log.filter (·.level = .error)) =
        [[], [], [], [], [failed "cannot list views"], [], [failed "too many clients"]] ∧
      alice.map Event.anonymous = bob.map Event.anonymous ∧
      start.observations alice = start.observations bob := by
  intro start alice bob failed
  have halike : alice.map Event.anonymous = bob.map Event.anonymous := rfl
  exact ⟨rfl, rfl, rfl, halike, observations_of_anonymous _ alice bob halike⟩

end Gateway

end TableGateway
