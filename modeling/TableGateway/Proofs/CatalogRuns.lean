import Mathlib
import TableGateway.Gateway.Basic
import TableGateway.Proofs.Inspections

/-!
# The catalog over whole runs

However a gateway is used and whatever fails, its catalog is that of the last discovery that
succeeded.
-/

namespace TableGateway

open Catalog Discovery

/-! ### Texts -/

/-- The names in a catalog are texts, and so are the properties that foreign keys start from. -/
structure Catalog.Source.HasTexts (s : Source) : Prop where
  name : s.name.isText
  belongsTo : ∀ r ∈ s.belongsTo, r.relationName.isText ∧ r.localProperty.isText

/-- The names and properties in the rows of a database are texts. -/
structure Discovery.Database.HasTexts (db : Database) : Prop where
  names : ∀ kind text rows, db.entities kind text = .ok rows →
    ∀ row ∈ rows, ∀ name, row.field "table_name" = .ok name → name.isText
  belongsTo : ∀ schema name details, db.details schema name = .ok details →
    ∀ rows, details.itemsIfGiven "belongs_to" = .ok rows → ∀ row ∈ rows,
      ∀ v, row.field "name" = .ok v ∨ row.field "from" = .ok v → v.isText

/-- What a database with texts offers has texts. -/
lemma Discovery.Database.HasTexts.offers {db : Database} (h : db.HasTexts) {rules : List Rule}
    {sources : List Source} (hsources : (inspect db rules).start.outcome = .ok sources) :
    ∀ s ∈ sources, s.HasTexts := by
  obtain ⟨l, hoffers⟩ := exists_listing_of_ok hsources
  have hname {kind : EntityKind} {row name : Value} (hrow : (kind, row) ∈ inTurn l.rows)
      (hname : row.field "table_name" = .ok name) : name.isText := by
    obtain ⟨condition, _, hrows⟩ := l.answered kind
    refine h.names kind _ _ hrows row ?_ name hname
    cases kind <;> simpa [inTurn] using hrow
  intro s hs
  obtain ⟨⟨kind, row⟩, hrow, hoffered⟩ := exists_of_forall₂ hoffers hs
  cases hoffered with
  | table hschema hrowName hkeys hdetails hrule hcolumns hdocument hhas hbelongsTo =>
    refine ⟨hname hrow hrowName, ?_⟩
    obtain ⟨rows, hrows, hread⟩ := exists_of_bind_eq_ok hbelongsTo
    intro r hr
    obtain ⟨given, hgiven, hr⟩ := exists_of_forall₂ (mapM_eq_ok_iff.mp hread) hr
    obtain ⟨relationName, hrelationName, hr⟩ := exists_of_bind_eq_ok hr
    obtain ⟨localProperty, hlocalProperty, hr⟩ := exists_of_bind_eq_ok hr
    obtain ⟨foreignProperty, _, hr⟩ := exists_of_bind_eq_ok hr
    cases hr
    have htext := h.belongsTo _ _ _ hdetails rows hrows given hgiven
    exact ⟨htext relationName (.inl hrelationName), htext localProperty (.inr hlocalProperty)⟩
  | view hschema hrowName hdetails hrule hcolumns hdocument =>
    exact ⟨hname hrow hrowName, by simp⟩

lemma nodeFault?_of_isText {v : Value} (h : v.isText) : nodeFault? v = none := by
  cases v <;> first | rfl | cases h

lemma edgeFault?_of_isText {r : Relationship} (hname : r.relationName.isText)
    (hproperty : r.localProperty.isText) : edgeFault? r = none := by
  have hkey : r.localProperty.isKey := by
    cases hv : r.localProperty <;> simp_all [Value.isText, Value.isKey]
  rw [edgeFault?, nodeFault?_of_isText hname, if_pos hkey]
  rfl

lemma Catalog.Graph.build_of_texts {sources : List Source} (h : ∀ s ∈ sources, s.HasTexts) :
    (Graph.build sources).2 = none := by
  have hnodes : (sources.map (·.name)).findSome? nodeFault? = none := by
    rw [List.findSome?_eq_none_iff, List.forall_mem_map]
    exact fun s hs => nodeFault?_of_isText (h s hs).name
  have hedges : (relationships sources).dropWhile (fun r => (edgeFault? r.2).isNone) = [] := by
    rw [List.dropWhile_eq_nil_iff]
    intro r hr
    obtain ⟨s, hs, hr⟩ := List.mem_flatMap.mp hr
    obtain ⟨relationship, hrelationship, rfl⟩ := List.mem_map.mp hr
    obtain ⟨hname, hproperty⟩ := (h s hs).belongsTo relationship hrelationship
    exact Option.isNone_iff_eq_none.mpr (edgeFault?_of_isText hname hproperty)
  unfold Graph.build
  dsimp only
  rw [hnodes, hedges]
  rfl

namespace Gateway

/-! ### One step -/

section Steps

variable {α β : Type} {dbs : Databases} {w u : Working}

/-- Work that leaves the gateway as it is. -/
def Keeps (work : Operating α) : Prop :=
  ∀ w, (work.run.run w).2.gateway = w.gateway

namespace Keeps

lemma pure (a : α) : Keeps (Pure.pure a) :=
  fun _ => rfl

lemma throw (e : Error) : Keeps (throw e : Operating α) :=
  fun _ => rfl

lemma note (records : List LogRecord) : Keeps (note records) :=
  fun _ => rfl

lemma bind {work : Operating α} {rest : α → Operating β} (h : Keeps work)
    (hrest : ∀ a, Keeps (rest a)) : Keeps (work >>= rest) := by
  intro w
  have hw := h w
  rcases hwork : work.run.run w with ⟨_ | a, t⟩
  · rw [run_bind_of_run_error hwork]
    rwa [hwork] at hw
  · rw [run_bind_of_run_ok hwork, hrest a t]
    rwa [hwork] at hw

lemma foldlM {f : β → α → Operating β} (h : ∀ b a, Keeps (f b a)) (items : List α) (b : β) :
    Keeps (items.foldlM f b) := by
  induction items generalizing b with
  | nil => exact pure b
  | cons a rest ih => exact (h b a).bind ih

lemma mapM {f : α → Operating β} (h : ∀ a, Keeps (f a)) (items : List α) :
    Keeps (items.mapM f) := by
  induction items with
  | nil => exact pure []
  | cons a rest ih =>
    rw [List.mapM_cons]
    exact (h a).bind fun b => ih.bind fun bs => pure _

lemma openProviders (providers : List Config.Provider) : Keeps (openProviders providers) := by
  refine foldlM (fun opened p => (note _).bind fun _ => ?_) providers []
  cases p.check with
  | error e => exact throw _
  | ok _ =>
    refine (note _).bind fun _ => ?_
    split
    · exact pure _
    · exact throw _

lemma connect (access : Access) (id : Value) : Keeps (connect access id) := by
  refine (note _).bind fun _ => ?_
  cases access.check with
  | error fault => exact throw _
  | ok _ => exact pure _

lemma inspectProvider (dbs : Databases) (id : Value) (p : Config.Provider) :
    Keeps (inspectProvider dbs id p) := by
  have htraced (entries : List TraceEntry) :
      Keeps (modify fun w => { w with trace := w.trace ++ entries }) := fun _ => rfl
  refine (note _).bind fun _ => (connect _ _).bind fun _ => (note _).bind fun _ =>
    (htraced _).bind fun _ => ?_
  cases (inspect (dbs id) p.rules).start.outcome with
  | error e => exact throw _
  | ok sources => exact (note _).bind fun _ => pure _

lemma inspectEach (dbs : Databases) (providers : List (Value × Config.Provider)) :
    Keeps (providers.mapM fun (id, p) => Gateway.inspectProvider dbs id p) :=
  mapM (fun (id, p) => inspectProvider dbs id p) providers

end Keeps

lemma outcome_of_inspectProvider {id : Value} {p : Config.Provider} {sources : List Source}
    (h : (inspectProvider dbs id p).run.run w = (.ok sources, u)) :
    (inspect (dbs id) p.rules).start.outcome = .ok sources := by
  obtain ⟨_, _, _, h⟩ := exists_of_run_bind_eq_ok h
  obtain ⟨_, _, _, h⟩ := exists_of_run_bind_eq_ok h
  obtain ⟨_, _, _, h⟩ := exists_of_run_bind_eq_ok h
  obtain ⟨_, _, _, h⟩ := exists_of_run_bind_eq_ok h
  split at h
  · cases h
  · next found hfound =>
    obtain ⟨_, _, _, h⟩ := exists_of_run_bind_eq_ok h
    cases h
    exact hfound

def Finds (dbs : Databases) (providers : List (Value × Config.Provider))
    (found : List (List Source)) : Prop :=
  List.Forall₂ (fun p sources => (inspect (dbs p.1) p.2.rules).start.outcome = .ok sources)
    providers found

lemma finds_of_mapM {providers : List (Value × Config.Provider)} {found : List (List Source)}
    (h : (providers.mapM fun (id, p) => inspectProvider dbs id p).run.run w = (.ok found, u)) :
    Finds dbs providers found := by
  induction providers generalizing w found with
  | nil =>
    cases h
    exact .nil
  | cons p rest ih =>
    rw [List.mapM_cons] at h
    obtain ⟨sources, v, hp, h⟩ := exists_of_run_bind_eq_ok h
    obtain ⟨others, t, hrest, h⟩ := exists_of_run_bind_eq_ok h
    cases h
    exact .cons (outcome_of_inspectProvider hp) (ih hrest)

/-- What the gateway holds is what its providers offer, with the graph of it. -/
structure Offers (dbs : Databases) (g : Gateway) : Prop where
  sources : ∃ found, Finds dbs g.providers found ∧ g.sources = found.flatten
  graph : ∃ graph, Graph.build g.sources = (graph, none) ∧ g.graph = some graph

lemma Finds.hasTexts (hdbs : ∀ id, (dbs id).HasTexts) {providers : List (Value × Config.Provider)}
    {found : List (List Source)} (h : Finds dbs providers found) :
    ∀ s ∈ found.flatten, s.HasTexts := by
  induction h with
  | nil => simp
  | cons hp _ ih =>
    rw [List.flatten_cons, List.forall_mem_append]
    exact ⟨(hdbs _).offers hp, ih⟩

/-- A discovery that succeeds inspects the providers and puts what they offer, with its graph, in the
place of the catalog. -/
lemma exists_of_discover_ok {sources : List Source}
    (h : (discover dbs).run.run w = (.ok sources, u)) :
    ∃ found t graph,
      (w.gateway.providers.mapM fun (id, p) => inspectProvider dbs id p).run.run w =
        (.ok found, t) ∧
      sources = found.flatten ∧ Graph.build sources = (graph, none) ∧
      u = { t with gateway := { w.gateway with sources, graph := some graph } } := by
  obtain ⟨_, _, hget, h⟩ := exists_of_run_bind_eq_ok h
  cases hget
  dsimp only at h
  split at h
  · cases h
  split at h
  · cases h
  obtain ⟨found, t, hfound, h⟩ := exists_of_run_bind_eq_ok h
  have hkept := Keeps.inspectEach dbs w.gateway.providers w
  rw [hfound] at hkept
  obtain ⟨_, _, hset, h⟩ := exists_of_run_bind_eq_ok h
  cases hset
  split at h
  · cases h
  · next graph hgraph =>
    obtain ⟨_, _, hset, h⟩ := exists_of_run_bind_eq_ok h
    cases hset
    cases h
    exact ⟨found, t, graph, hfound, rfl, hgraph, hkept ▸ rfl⟩

lemma discover_ok {sources : List Source}
    (h : (discover dbs).run.run w = (.ok sources, u)) :
    Offers dbs u.gateway ∧ u.gateway.sources = sources := by
  obtain ⟨found, t, graph, hfound, rfl, hgraph, rfl⟩ := exists_of_discover_ok h
  exact ⟨⟨⟨found, finds_of_mapM hfound, rfl⟩, graph, hgraph, rfl⟩, rfl⟩

/-- With texts in the databases nothing can fail once the sources are known. -/
lemma discover_error (hdbs : ∀ id, (dbs id).HasTexts) {e : Error}
    (h : (discover dbs).run.run w = (.error e, u)) : u.gateway = w.gateway := by
  rcases of_run_bind_eq_error h with h | ⟨_, _, hget, h⟩
  · cases h
  cases hget
  dsimp only at h
  split at h
  · cases h
    rfl
  split at h
  · cases h
    rfl
  have hkept := Keeps.inspectEach dbs w.gateway.providers w
  rcases of_run_bind_eq_error h with h | ⟨found, t, hfound, h⟩
  · rwa [h] at hkept
  -- From here on the sources are replaced, so that a failure would leave another catalog.
  have hgraph := Graph.build_of_texts ((finds_of_mapM hfound).hasTexts hdbs)
  rcases of_run_bind_eq_error h with h | ⟨_, _, hset, h⟩
  · cases h
  cases hset
  split at h
  · next graph fault hbuilt =>
    rw [hbuilt] at hgraph
    cases hgraph
  · rcases of_run_bind_eq_error h with h | ⟨_, _, _, h⟩ <;> cases h

lemma configure_ok {config : Config} {sources : List Source}
    (h : (configure dbs config).run.run w = (.ok sources, u)) :
    Offers dbs u.gateway ∧ u.gateway.sources = sources := by
  obtain ⟨_, _, _, h⟩ := exists_of_run_bind_eq_ok h
  obtain ⟨_, _, _, h⟩ := exists_of_run_bind_eq_ok h
  obtain ⟨_, _, _, h⟩ := exists_of_run_bind_eq_ok h
  exact discover_ok h

def catalog (g : Gateway) : List Source × Option Graph :=
  (g.sources, g.graph)

lemma configure_error (hdbs : ∀ id, (dbs id).HasTexts) {config : Config} {e : Error}
    (h : (configure dbs config).run.run w = (.error e, u)) :
    u.gateway.catalog = w.gateway.catalog := by
  rcases of_run_bind_eq_error h with h | ⟨_, _, hset, h⟩
  · cases h
  cases hset
  have hkept := Keeps.openProviders config.providers
    { w with gateway := { w.gateway with config := some config } }
  rcases of_run_bind_eq_error h with h | ⟨opened, t, hopened, h⟩
  · rw [h] at hkept
    rw [hkept]
    rfl
  rw [hopened] at hkept
  rcases of_run_bind_eq_error h with h | ⟨_, _, hset, h⟩
  · cases h
  cases hset
  have hcatalog : t.gateway.catalog = w.gateway.catalog :=
    (congrArg catalog hkept).trans rfl
  exact (congrArg catalog (discover_error hdbs h)).trans hcatalog

end Steps

/-! ### Runs -/

/-- What is asked of a gateway without changing it. -/
inductive Question where
  | source (name : Value)
  | provider (id : Value)
  | joins (name path : Value)
  | order
  | dependencies

inductive Answer where
  | source (found : Option Source)
  | provider (found : Except Error Config.Provider)
  /-- Nothing is known of the graph before there is one. -/
  | joins (found : Option (Except PathError (List Query.Join)))
  | names (names : Option (List Value))
  | dependencies (names : Option (List (Value × List Value)))

def answer (g : Gateway) : Question → Answer
  | .source name => .source (g.source? name)
  | .provider id => .provider (g.provider id)
  | .joins name path => .joins (g.graph.map (·.joinsFor name path))
  | .order => .names (g.graph.map Graph.dependencyOrder)
  | .dependencies =>
    .dependencies (g.graph.map fun graph => graph.nodes.map fun n => (n, graph.dependencyNames n))

/-- What happens to a gateway and the databases of its providers. -/
inductive Event where
  | configure (config : Config)
  | discover
  /-- A database takes the place of another. -/
  | replace (id : Value) (db : Database)
  | ask (question : Question)

inductive Response where
  | discovered (outcome : Except Error (List Source))
  | replaced
  | answered (answer : Answer)

/-- A gateway and the databases of its providers. -/
structure World where
  gateway : Gateway := {}
  dbs : Databases

namespace World

def take (w : World) (work : Operating (List Source)) : Response × World :=
  let step := w.gateway.run work
  (.discovered step.outcome, { w with gateway := step.gateway })

def step (w : World) : Event → Response × World
  | .configure config => w.take (Gateway.configure w.dbs config)
  | .discover => w.take (Gateway.discover w.dbs)
  | .replace id db =>
    (.replaced, { w with dbs := fun other => if other.equals id then db else w.dbs other })
  | .ask question => (.answered (w.gateway.answer question), w)

end World

/-- An event with the world before and after it. -/
structure Moment where
  before : World
  event : Event
  response : Response
  after : World

namespace Moment

/-- A discovery returns, be it one of its own or that of a configuration. -/
def Succeeds (m : Moment) : Prop :=
  ((∃ config, m.event = .configure config) ∨ m.event = .discover) ∧
    ∃ sources, m.response = .discovered (.ok sources)

/-- The catalog becomes what the providers offer, and this is returned. -/
structure Swaps (m : Moment) : Prop where
  offers : Offers m.after.dbs m.after.gateway
  returned : m.response = .discovered (.ok m.after.gateway.sources)

def LeavesCatalog (m : Moment) : Prop :=
  m.after.gateway.catalog = m.before.gateway.catalog

end Moment

namespace World

def moment (w : World) (event : Event) : Moment :=
  ⟨w, event, (w.step event).1, (w.step event).2⟩

def moments (w : World) : List Event → List Moment
  | [] => []
  | event :: rest => w.moment event :: (w.step event).2.moments rest

def afterAll (w : World) (events : List Event) : World :=
  events.foldl (fun w event => (w.step event).2) w

def HasTexts (w : World) : Prop :=
  ∀ id, (w.dbs id).HasTexts

end World

def Event.HasTexts : Event → Prop
  | replace _ db => db.HasTexts
  | _ => True

section Runs

variable {w : World} {event : Event} {events : List Event}

lemma World.HasTexts.step (hw : w.HasTexts) (hevent : event.HasTexts) :
    (w.step event).2.HasTexts := by
  cases event with
  | replace id db =>
    intro other
    change (if other.equals id then db else w.dbs other).HasTexts
    split
    · exact hevent
    · exact hw other
  | _ => exact hw

/-- A step of the gateway swaps the catalog if it succeeds and leaves it otherwise. -/
lemma World.take_swaps {work : Operating (List Source)}
    (hevent : (∃ config, event = .configure config) ∨ event = .discover)
    (hok : ∀ sources u, work.run.run { gateway := w.gateway } = (.ok sources, u) →
      Gateway.Offers w.dbs u.gateway ∧ u.gateway.sources = sources)
    (herror : ∀ e u, work.run.run { gateway := w.gateway } = (.error e, u) →
      u.gateway.catalog = w.gateway.catalog) :
    let m : Moment := ⟨w, event, (w.take work).1, (w.take work).2⟩
    m.Succeeds ∧ m.Swaps ∨ ¬m.Succeeds ∧ m.LeavesCatalog := by
  rcases hwork : work.run.run { gateway := w.gateway } with ⟨e | sources, u⟩
  · have htake : w.take work = (.discovered (.error e), { w with gateway := u.gateway }) := by
      rw [World.take, Gateway.run, hwork]
    rw [htake]
    refine .inr ⟨?_, herror e u hwork⟩
    rintro ⟨_, _, h⟩
    cases h
  · obtain ⟨hoffers, rfl⟩ := hok sources u hwork
    have htake : w.take work =
        (.discovered (.ok u.gateway.sources), { w with gateway := u.gateway }) := by
      rw [World.take, Gateway.run, hwork]
    rw [htake]
    exact .inl ⟨⟨hevent, _, rfl⟩, hoffers, rfl⟩

lemma World.moment_swaps (hw : w.HasTexts) (event : Event) :
    (w.moment event).Succeeds ∧ (w.moment event).Swaps ∨
      ¬(w.moment event).Succeeds ∧ (w.moment event).LeavesCatalog := by
  cases event with
  | configure config =>
    exact take_swaps (.inl ⟨config, rfl⟩) (fun _ _ => configure_ok) fun _ _ => configure_error hw
  | discover =>
    exact take_swaps (.inr rfl) (fun _ _ => discover_ok)
      fun _ _ h => congrArg catalog (discover_error hw h)
  | replace id db =>
    refine .inr ⟨?_, rfl⟩
    rintro ⟨⟨_, h⟩ | h, _⟩ <;> cases h
  | ask question =>
    refine .inr ⟨?_, rfl⟩
    rintro ⟨⟨_, h⟩ | h, _⟩ <;> cases h

lemma World.moments_swap (hw : w.HasTexts) (hevents : ∀ event ∈ events, event.HasTexts) :
    ∀ m ∈ w.moments events, m.Succeeds ∧ m.Swaps ∨ ¬m.Succeeds ∧ m.LeavesCatalog := by
  induction events generalizing w with
  | nil => simp [moments]
  | cons event rest ih =>
    obtain ⟨hevent, hrest⟩ := List.forall_mem_cons.mp hevents
    rw [moments, List.forall_mem_cons]
    exact ⟨w.moment_swaps hw event, ih (hw.step hevent) hrest⟩

/-- The graph is missing exactly as long as it was missing before and no discovery succeeds. -/
lemma World.afterAll_graph (hw : w.HasTexts) (hevents : ∀ event ∈ events, event.HasTexts) :
    (w.afterAll events).gateway.graph = none ↔
      w.gateway.graph = none ∧ ∀ m ∈ w.moments events, ¬m.Succeeds := by
  induction events generalizing w with
  | nil => simp [afterAll, moments]
  | cons event rest ih =>
    obtain ⟨hevent, hrest⟩ := List.forall_mem_cons.mp hevents
    have hafter : (w.afterAll (event :: rest)) = (w.step event).2.afterAll rest := rfl
    rw [hafter, ih (hw.step hevent) hrest, moments, List.forall_mem_cons, ← and_assoc]
    refine and_congr_left fun _ => ?_
    rcases w.moment_swaps hw event with ⟨hsucceeds, hswaps⟩ | ⟨hfails, hleaves⟩
    · obtain ⟨graph, _, hgraph⟩ := hswaps.offers.graph
      change (w.step event).2.gateway.graph = some graph at hgraph
      simp [hsucceeds, hgraph]
    · have hgraph : (w.step event).2.gateway.graph = w.gateway.graph := congrArg Prod.snd hleaves
      simp [hfails, hgraph]

lemma World.afterAll_catalog (hw : w.HasTexts) (hevents : ∀ event ∈ events, event.HasTexts)
    (h : ∀ m ∈ w.moments events, ¬m.Succeeds) :
    (w.afterAll events).gateway.catalog = w.gateway.catalog := by
  induction events generalizing w with
  | nil => rfl
  | cons event rest ih =>
    obtain ⟨hevent, hrest⟩ := List.forall_mem_cons.mp hevents
    rw [moments, List.forall_mem_cons] at h
    obtain ⟨hfails, h⟩ := h
    rcases w.moment_swaps hw event with ⟨hsucceeds, _⟩ | ⟨_, hleaves⟩
    · exact absurd hsucceeds hfails
    · exact (ih (hw.step hevent) hrest h).trans hleaves

end Runs

/-- The database of a recording has texts if the rows of the recording do. -/
lemma hasTexts_of_rows {r : Recording}
    (hnames : ∀ rows, r.tables.items = .ok rows ∨ r.views.items = .ok rows →
      ∀ row ∈ rows, ∀ name, row.field "table_name" = .ok name → name.isText)
    (hbelongsTo : ∀ rows, r.details.items = .ok rows → ∀ details ∈ rows,
      ∀ given, details.itemsIfGiven "belongs_to" = .ok given → ∀ row ∈ given,
        ∀ v, row.field "name" = .ok v ∨ row.field "from" = .ok v → v.isText) :
    r.database.HasTexts where
  names kind _ rows hrows := by
    refine hnames rows ?_
    have hrows : r.entities kind = .ok rows := hrows
    unfold Recording.entities at hrows
    dsimp only at hrows
    split at hrows
    · cases hrows
    · have hrows := mapError_eq_ok.mp hrows
      cases kind with
      | table => exact .inl hrows
      | view => exact .inr hrows
  belongsTo schema name details hdetails := by
    have hdetails : r.detailsOf schema name = .ok details := hdetails
    obtain ⟨_, _, h⟩ := exists_of_bind_eq_ok hdetails
    split at h
    · cases h
    obtain ⟨rows, hrows, h⟩ := exists_of_bind_eq_ok h
    split at h
    · next row hfound =>
      cases h
      have hrow : details ∈ rows.filter (Recording.describes · schema name) := by
        rw [hfound]
        exact List.mem_singleton_self _
      exact hbelongsTo rows (mapError_eq_ok.mp hrows) details (List.mem_filter.mp hrow).1
    · cases h

/-- In every run the catalog changes only when a discovery returns. It then becomes what the
providers offer, with the graph of it. Before the first time there are no sources and no graph. -/
theorem catalog_swaps (dbs : Databases) (events : List Event) (hdbs : ∀ id, (dbs id).HasTexts)
    (hevents : ∀ event ∈ events, event.HasTexts) :
    let start : World := { dbs }
    (∀ m ∈ start.moments events, m.Succeeds ∧ m.Swaps ∨ ¬m.Succeeds ∧ m.LeavesCatalog) ∧
      ((start.afterAll events).gateway.graph = none ↔
        ∀ m ∈ start.moments events, ¬m.Succeeds) ∧
      ((start.afterAll events).gateway.graph = none →
        (start.afterAll events).gateway.sources = []) := by
  intro start
  have hstart : start.HasTexts := hdbs
  have hgraph : (start.afterAll events).gateway.graph = none ↔
      ∀ m ∈ start.moments events, ¬m.Succeeds := by
    rw [World.afterAll_graph hstart hevents]
    exact and_iff_right rfl
  refine ⟨World.moments_swap hstart hevents, hgraph, ?_⟩
  intro hnone
  exact congrArg Prod.fst (World.afterAll_catalog hstart hevents (hgraph.mp hnone))

def shopProvider : Config.Provider where
  id := .string "main"
  driver := .string "postgresql"
  connection := { host := .string "localhost" }
  rules := [everything]

/-- A discovery that succeeds, and one of a database that cannot list its views. -/
def shopEvents : List Event :=
  [.configure { providers := [shopProvider] },
    .replace (.string "main") ({ shop with failingKind := some .view } : Recording).database,
    .discover]

lemma shop_hasTexts (failingKind : Option EntityKind) :
    ({ shop with failingKind } : Recording).database.HasTexts := by
  apply hasTexts_of_rows
  · intro rows hrows row hrow name hname
    rcases hrows with hrows | hrows <;> cases hrows <;> cases List.mem_singleton.mp hrow <;>
      cases hname <;> rfl
  · intro rows hrows details hdetails given hgiven
    cases hrows
    simp only [List.mem_cons, List.not_mem_nil, or_false] at hdetails
    rcases hdetails with rfl | rfl <;> cases hgiven <;> simp

theorem catalog_kept_of_failure :
    (({ dbs := fun _ => shop.database } : World).afterAll shopEvents).gateway.sources.map (·.name)
        = [.string "orders", .string "totals"] ∧
      ∀ m ∈ ({ dbs := fun _ => shop.database } : World).moments shopEvents,
        m.Succeeds ∧ m.Swaps ∨ ¬m.Succeeds ∧ m.LeavesCatalog := by
  refine ⟨rfl, (catalog_swaps (fun _ => shop.database) shopEvents ?_ ?_).1⟩
  · exact fun _ => shop_hasTexts none
  · intro event hevent
    simp only [shopEvents, List.mem_cons, List.not_mem_nil, or_false] at hevent
    rcases hevent with rfl | rfl | rfl
    · trivial
    · exact shop_hasTexts (some .view)
    · trivial

end Gateway

end TableGateway
