import Mathlib
import TableGateway.Proofs.CatalogRuns

/-!
# What becomes of the entries of a configuration

The providers of a gateway stand under their ids and its sources are found by their names. So each
entry of a configuration is discovered if no two have one id, and each source is found if no two
entries offer sources of one name.
-/

namespace TableGateway

open Catalog Discovery

/-! ### Entries under keys -/

section Entries

variable {α : Type} {key : Value} {a : α} {entries : List (Value × α)}

def plainKeys (entries : List (Value × α)) : List Value :=
  entries.map (·.1.plain)

lemma setEntry_of_new (h : key.plain ∉ plainKeys entries) :
    setEntry key a entries = entries ++ [(key, a)] := by
  induction entries with
  | nil => rfl
  | cons e rest ih =>
    have hdiffers : ¬e.1.equals key := by
      rw [Value.equals, decide_eq_true_eq]
      exact fun heq => h (List.mem_cons.mpr (.inl heq.symm))
    rw [setEntry, if_neg hdiffers, ih fun hrest => h (List.mem_cons_of_mem _ hrest),
      List.cons_append]

lemma plainKeys_setEntry (key : Value) (a : α) (entries : List (Value × α)) :
    plainKeys (setEntry key a entries) =
      if key.plain ∈ plainKeys entries then plainKeys entries
      else plainKeys entries ++ [key.plain] := by
  by_cases hold : key.plain ∈ plainKeys entries
  · rw [if_pos hold]
    induction entries with
    | nil => cases hold
    | cons e rest ih =>
      rw [setEntry]
      split
      · rfl
      · next hdiffers =>
        rw [Value.equals, decide_eq_true_eq] at hdiffers
        have hrest : key.plain ∈ plainKeys rest :=
          (List.mem_cons.mp hold).resolve_left fun heq => hdiffers heq.symm
        exact congrArg (e.1.plain :: ·) (ih hrest)
  · rw [if_neg hold, setEntry_of_new hold, plainKeys, List.map_append]
    rfl

/-- Items under their keys, in the order in which the keys come first; of the items under one key the
last one stays. -/
def underKeys (key : α → Value) (items : List α) : List (Value × α) :=
  items.foldl (fun entries a => setEntry (key a) a entries) []

lemma foldl_setEntry_of_nodup {β : Type} {key : β → Value} {f : β → α} {items : List β}
    {entries : List (Value × α)}
    (h : (plainKeys entries ++ items.map fun b => (key b).plain).Nodup) :
    items.foldl (fun entries b => setEntry (key b) (f b) entries) entries =
      entries ++ items.map fun b => (key b, f b) := by
  induction items generalizing entries with
  | nil => simp
  | cons b rest ih =>
    have hnew : (key b).plain ∉ plainKeys entries := by
      intro hmem
      exact List.disjoint_of_nodup_append h hmem List.mem_cons_self
    rw [List.foldl_cons, setEntry_of_new hnew, ih, List.map_cons, List.append_assoc,
      List.singleton_append]
    rw [plainKeys, List.map_append, List.append_assoc]
    exact h

lemma underKeys_of_nodup {key : α → Value} {items : List α}
    (h : (items.map fun a => (key a).plain).Nodup) :
    underKeys key items = items.map fun a => (key a, a) := by
  have hnodup : (plainKeys ([] : List (Value × α)) ++ items.map fun a => (key a).plain).Nodup := h
  exact foldl_setEntry_of_nodup hnodup

lemma plainKeys_underKeys (key : α → Value) (items : List α) :
    (plainKeys (underKeys key items)).Nodup ∧
      plainKeys (underKeys key items) ⊆ items.map fun a => (key a).plain := by
  let IsDistinct (entries : List (Value × α)) : Prop :=
    (plainKeys entries).Nodup ∧ plainKeys entries ⊆ items.map fun a => (key a).plain
  unfold underKeys
  apply List.foldlRecOn (motive := IsDistinct)
  · exact ⟨List.nodup_nil, List.nil_subset _⟩
  · intro entries ⟨hnodup, hsubset⟩ a ha
    unfold IsDistinct
    rw [plainKeys_setEntry]
    split
    · exact ⟨hnodup, hsubset⟩
    · next hnew =>
      have hkey : (key a).plain ∈ items.map fun a => (key a).plain := List.mem_map_of_mem ha
      exact ⟨hnodup.append (List.nodup_singleton _) (by simpa using hnew),
        List.append_subset.mpr ⟨hsubset, by simpa using hkey⟩⟩

/-- Nothing is replaced exactly if the keys are different. -/
lemma length_underKeys_iff {key : α → Value} {items : List α} :
    (underKeys key items).length = items.length ↔ (items.map fun a => (key a).plain).Nodup := by
  constructor
  · intro hlength
    obtain ⟨hnodup, hsubset⟩ := plainKeys_underKeys key items
    have hperm : (plainKeys (underKeys key items)).Perm (items.map fun a => (key a).plain) := by
      refine (List.subperm_of_subset hnodup hsubset).perm_of_length_le ?_
      rw [plainKeys, List.length_map, List.length_map, hlength]
    exact hperm.nodup_iff.mp hnodup
  · intro h
    rw [underKeys_of_nodup h, List.length_map]

end Entries

namespace Gateway

/-! ### Steps that succeed -/

section Steps

variable {dbs : Databases} {w u : Working}

/-- What a discovery of a provider leaves in the trace. -/
def traceOf (dbs : Databases) (p : Value × Config.Provider) : List TraceEntry :=
  transactionTrace (inspect (dbs p.1) p.2.rules).start.journal.statements true

lemma openProviders_ok {entries : List Config.Provider} {providers : List (Value × Config.Provider)}
    (h : (openProviders entries).run.run w = (.ok providers, u)) :
    providers = underKeys (·.id) entries ∧ u.gateway = w.gateway ∧ u.trace = w.trace := by
  unfold openProviders at h
  unfold underKeys
  generalize ([] : List (Value × Config.Provider)) = before at h
  induction entries generalizing before w with
  | nil =>
    cases h
    exact ⟨rfl, rfl, rfl⟩
  | cons p rest ih =>
    rw [List.foldlM_cons] at h
    obtain ⟨others, v, hp, h⟩ := exists_of_run_bind_eq_ok h
    obtain ⟨hproviders, hgateway, htrace⟩ := ih _ h
    have hopened : others = setEntry p.id p before ∧ v.gateway = w.gateway ∧ v.trace = w.trace := by
      obtain ⟨_, _, hnoted, hp⟩ := exists_of_run_bind_eq_ok hp
      cases hnoted
      split at hp
      · cases hp
      · obtain ⟨_, _, hnoted, hp⟩ := exists_of_run_bind_eq_ok hp
        cases hnoted
        split at hp
        · cases hp
          exact ⟨rfl, rfl, rfl⟩
        · cases hp
    obtain ⟨rfl, hgateway', htrace'⟩ := hopened
    exact ⟨hproviders, hgateway.trans hgateway', htrace.trans htrace'⟩

lemma trace_of_connect {access : Access} {id : Value}
    (h : (connect access id).run.run w = (.ok (), u)) : u.trace = w.trace := by
  obtain ⟨_, _, hnoted, h⟩ := exists_of_run_bind_eq_ok h
  cases hnoted
  split at h <;> cases h
  rfl

lemma trace_of_inspectProvider {p : Value × Config.Provider} {sources : List Source}
    (h : (inspectProvider dbs p.1 p.2).run.run w = (.ok sources, u)) :
    u.trace = w.trace ++ traceOf dbs p := by
  have hsources := outcome_of_inspectProvider h
  obtain ⟨_, _, hnoted, h⟩ := exists_of_run_bind_eq_ok h
  cases hnoted
  obtain ⟨_, _, hconnected, h⟩ := exists_of_run_bind_eq_ok h
  have htrace := trace_of_connect hconnected
  obtain ⟨_, _, hnoted, h⟩ := exists_of_run_bind_eq_ok h
  cases hnoted
  obtain ⟨_, _, hnoted, h⟩ := exists_of_run_bind_eq_ok h
  cases hnoted
  rw [hsources] at h
  obtain ⟨_, _, hnoted, h⟩ := exists_of_run_bind_eq_ok h
  cases hnoted
  cases h
  exact congrArg (· ++ _) htrace

lemma trace_of_inspectEach {providers : List (Value × Config.Provider)}
    {found : List (List Source)}
    (h : (providers.mapM fun (id, p) => inspectProvider dbs id p).run.run w = (.ok found, u)) :
    u.trace = w.trace ++ providers.flatMap (traceOf dbs) := by
  induction providers generalizing w found with
  | nil =>
    cases h
    simp
  | cons p rest ih =>
    rw [List.mapM_cons] at h
    obtain ⟨sources, v, hp, h⟩ := exists_of_run_bind_eq_ok h
    obtain ⟨others, t, hrest, h⟩ := exists_of_run_bind_eq_ok h
    cases h
    rw [ih hrest, trace_of_inspectProvider hp, List.flatMap_cons, List.append_assoc]

lemma trace_of_discover {sources : List Source}
    (h : (discover dbs).run.run w = (.ok sources, u)) :
    u.gateway.providers = w.gateway.providers ∧
      u.trace = w.trace ++ w.gateway.providers.flatMap (traceOf dbs) := by
  obtain ⟨found, t, graph, hfound, -, -, rfl⟩ := exists_of_discover_ok h
  have htrace := trace_of_inspectEach hfound
  exact ⟨rfl, htrace⟩

/-- The providers that are held are all discovered, once and in turn. -/
lemma trace_of_configure {config : Config} {sources : List Source}
    (h : (configure dbs config).run.run w = (.ok sources, u)) :
    u.gateway.providers = underKeys (·.id) config.providers ∧
      u.trace = w.trace ++ u.gateway.providers.flatMap (traceOf dbs) := by
  obtain ⟨_, _, hset, h⟩ := exists_of_run_bind_eq_ok h
  cases hset
  obtain ⟨providers, v, hopened, h⟩ := exists_of_run_bind_eq_ok h
  obtain ⟨rfl, -, htrace⟩ := openProviders_ok hopened
  obtain ⟨_, _, hset, h⟩ := exists_of_run_bind_eq_ok h
  cases hset
  obtain ⟨hproviders, hdiscovered⟩ := trace_of_discover h
  rw [hproviders]
  exact ⟨rfl, hdiscovered.trans (congrArg (· ++ _) htrace)⟩

/-- There is one beginning for each provider in a trace. -/
lemma length_of_traces {providers others : List (Value × Config.Provider)}
    (h : providers.flatMap (traceOf dbs) = others.flatMap (traceOf dbs)) :
    providers.length = others.length := by
  let IsBeginning (entry : TraceEntry) : Bool := entry matches .begun
  have hcount (p : Value × Config.Provider) : (traceOf dbs p).countP IsBeginning = 1 := by
    simp [traceOf, transactionTrace, List.countP_map, IsBeginning,
      Function.comp_def]
  have hlength (providers : List (Value × Config.Provider)) :
      (providers.flatMap (traceOf dbs)).countP IsBeginning = providers.length := by
    rw [List.countP_flatMap]
    simp [Function.comp_def, hcount]
  rw [← hlength, h, hlength]

end Steps

/-! ### The names of the sources -/

/-- The place in the catalog of what is found under a name. -/
def place? (g : Gateway) (name : Value) : Option Nat :=
  g.sources.findIdx? (·.name.compares name)

lemma source?_eq (g : Gateway) (name : Value) :
    g.source? name = (g.place? name).bind (g.sources[·]?) :=
  List.find?_eq_bind_findIdx?_getElem?

/-- Each source is found in its own place under its own name. -/
def FindsAll (g : Gateway) : Prop :=
  ∀ i s, g.sources[i]? = some s → g.place? s.name = some i

lemma FindsAll.source? {g : Gateway} (h : g.FindsAll) :
    ∀ s ∈ g.sources, g.source? s.name = some s := by
  intro s hs
  obtain ⟨i, hi⟩ := List.getElem?_of_mem hs
  rw [source?_eq, h i s hi]
  exact hi

lemma compares_iff {v w : Value} :
    v.compares w ↔ v.plain = w.plain ∧ v.isNotANumber = false := by
  simp [Value.compares, Value.equals]

/-- A source is hidden by an earlier one of its name, and by its own name if that is no number. -/
lemma findsAll_iff {g : Gateway} :
    g.FindsAll ↔ (g.sources.map (·.name.plain)).Nodup ∧
      ∀ s ∈ g.sources, s.name.isNotANumber = false := by
  constructor
  · intro h
    have hfound (i : ℕ) (hi : i < g.sources.length) :
        g.place? g.sources[i].name = some i := h i _ (List.getElem?_eq_getElem hi)
    have hnumber : ∀ s ∈ g.sources, s.name.isNotANumber = false := by
      intro s hs
      obtain ⟨i, hi, rfl⟩ := List.getElem_of_mem hs
      obtain ⟨_, hself, -⟩ := List.findIdx?_eq_some_iff_getElem.mp (hfound i hi)
      exact (compares_iff.mp hself).2
    refine ⟨List.pairwise_iff_getElem.mpr fun i j hi hj hij hequal => ?_, hnumber⟩
    rw [List.length_map] at hi hj
    rw [List.getElem_map, List.getElem_map] at hequal
    obtain ⟨_, -, hbefore⟩ := List.findIdx?_eq_some_iff_getElem.mp (hfound j hj)
    exact hbefore i hij (compares_iff.mpr ⟨hequal, hnumber _ (List.getElem_mem hi)⟩)
  · rintro ⟨hnodup, hnumber⟩ i s hs
    obtain ⟨hi, rfl⟩ := List.getElem?_eq_some_iff.mp hs
    refine List.findIdx?_eq_some_iff_getElem.mpr ⟨hi, ?_, fun j hj hcompares => ?_⟩
    · exact compares_iff.mpr ⟨rfl, hnumber _ (List.getElem_mem hi)⟩
    · have hdiffers := List.pairwise_iff_getElem.mp hnodup j i
        (by rw [List.length_map]; omega) (by rwa [List.length_map]) hj
      rw [List.getElem_map, List.getElem_map] at hdiffers
      exact hdiffers (compares_iff.mp hcompares).1

/-- What one provider offers has different names. -/
lemma nodup_of_inspect {db : Database} {rules : List Rule} {sources : List Source}
    (h : (inspect db rules).start.outcome = .ok sources) :
    (sources.map (·.name.plain)).Nodup := by
  obtain ⟨l, -⟩ := exists_listing_of_ok h
  exact ((l.inspect_ok_iff none (l.isKey_of_ok h)).mp h).2.2

/-- Sources of different providers have different names. -/
def AreApart (found : List (List Source)) : Prop :=
  found.Pairwise fun a b => ∀ s ∈ a, ∀ t ∈ b, ¬s.name.equals t.name

lemma Finds.nodup_names_iff {dbs : Databases} {providers : List (Value × Config.Provider)}
    {found : List (List Source)} (h : Finds dbs providers found) :
    (found.flatten.map (·.name.plain)).Nodup ↔ AreApart found := by
  have heach : ∀ names ∈ found.map (List.map (·.name.plain)), names.Nodup := by
    rw [List.forall_mem_map]
    intro sources hsources
    obtain ⟨p, -, hp⟩ := exists_of_forall₂ h hsources
    exact nodup_of_inspect hp
  rw [List.map_flatten, List.nodup_flatten, and_iff_right heach, List.pairwise_map, AreApart]
  refine List.Pairwise.iff fun a b => ?_
  constructor
  · intro hdisjoint s hs t ht hequal
    have hplain : s.name.plain = t.name.plain := of_decide_eq_true hequal
    exact hdisjoint (List.mem_map_of_mem hs) (List.mem_map.mpr ⟨t, ht, hplain.symm⟩)
  · intro hapart name hleft hright
    obtain ⟨s, hs, rfl⟩ := List.mem_map.mp hleft
    obtain ⟨t, ht, hplain⟩ := List.mem_map.mp hright
    exact hapart s hs t ht (decide_eq_true hplain.symm)

/-- After a configuration that succeeds, its entries have been discovered once each, in turn, exactly
if their ids are different. Then they are the providers that are held, and what these offer is the
catalog. Each source is found under its name exactly if those of different providers have different
names. -/
theorem configure_loses_nothing_iff (g : Gateway) (dbs : Databases) (config : Config)
    (sources : List Source) (h : (g.run (configure dbs config)).outcome = .ok sources) :
    let after := g.run (configure dbs config)
    let entries := config.providers.map fun p => (p.id, p)
    ((config.providers.map (·.id.plain)).Nodup ↔
      after.trace = entries.flatMap (traceOf dbs)) ∧
    ((config.providers.map (·.id.plain)).Nodup → after.gateway.providers = entries) ∧
    ∃ found, Finds dbs after.gateway.providers found ∧ after.gateway.sources = found.flatten ∧
      (after.gateway.FindsAll ↔ AreApart found ∧
        ∀ s ∈ after.gateway.sources, s.name.isNotANumber = false) ∧
      (after.gateway.FindsAll →
        ∀ s ∈ after.gateway.sources, after.gateway.source? s.name = some s) := by
  intro after entries
  rcases hrun : (configure dbs config).run.run { gateway := g } with ⟨outcome, u⟩
  have hstep : after = ⟨outcome, u.gateway, u.log, u.trace⟩ := by
    change g.run _ = _
    rw [Gateway.run, hrun]
  change after.outcome = _ at h
  rw [hstep] at h ⊢
  subst h
  obtain ⟨hproviders, htrace⟩ := trace_of_configure hrun
  obtain ⟨⟨⟨found, hfinds, hsources⟩, -⟩, -⟩ := configure_ok hrun
  rw [List.nil_append] at htrace
  refine ⟨⟨fun hnodup => ?_, fun hall => ?_⟩, fun hnodup => ?_, found, hfinds, hsources, ?_,
    FindsAll.source?⟩
  · dsimp only
    rw [htrace, hproviders, underKeys_of_nodup hnodup]
  · rw [htrace] at hall
    have hlength := length_of_traces hall
    rw [hproviders, List.length_map] at hlength
    exact length_underKeys_iff.mp hlength
  · exact hproviders.trans (underKeys_of_nodup hnodup)
  · rw [findsAll_iff, ← hfinds.nodup_names_iff, ← hsources]

/-- A provider that offers only rows to be read. -/
def readingProvider (id : String) : Config.Provider :=
  { shopProvider with
    id := .string id, rules := [{ everything with actions := [.string "ReadMany"] }] }

/-- A database with one table. -/
def stockroom : Recording where
  tables := .array [.object [("table_schema", .string "public"), ("table_name", .string "items"),
    ("primary_keys", .array [.string "id"])]]
  details := .array [.object [("schema", .string "public"), ("name", .string "items")]]

theorem configure_loses_nothing_apart :
    let config : Config := { providers := [shopProvider, readingProvider "stock"] }
    let dbs : Databases := fun id =>
      if id.equals (.string "stock") then stockroom.database else shop.database
    let after := ({} : Gateway).run (configure dbs config)
    (∃ sources, after.outcome = .ok sources) ∧ after.gateway.FindsAll ∧
      after.gateway.sources.map (·.name) = ["orders", "totals", "items"].map .string ∧
      after.trace = (config.providers.map fun p => (p.id, p)).flatMap (traceOf dbs) := by
  intro config dbs after
  obtain ⟨sources, hsources⟩ : ∃ sources, after.outcome = .ok sources := ⟨_, rfl⟩
  obtain ⟨htrace, -, found, hfinds, hfound, hall, -⟩ :=
    configure_loses_nothing_iff {} dbs config sources hsources
  have hnames : after.gateway.sources.map (·.name) = ["orders", "totals", "items"].map .string :=
    rfl
  have hnodup : (after.gateway.sources.map (·.name.plain)).Nodup := by
    change (after.gateway.sources.map (Value.plain ∘ (·.name))).Nodup
    rw [← List.map_map, hnames]
    decide
  refine ⟨⟨sources, hsources⟩, hall.mpr ⟨?_, ?_⟩, hnames, htrace.mp (by decide)⟩
  · rwa [hfound, hfinds.nodup_names_iff] at hnodup
  · intro s hs
    have hname := List.mem_map_of_mem (f := (·.name)) hs
    rw [hnames] at hname
    obtain ⟨text, -, htext⟩ := List.mem_map.mp hname
    rw [← htext]
    rfl

/-- An entry of a configuration as it is written: it covers everything. -/
def writtenEntry (id : String) (actions : List (String × Value)) : Value :=
  .object [("id", .string id), ("driver", .string "postgresql"),
    ("options", .object [("host", .string "localhost")]),
    ("discovery", .array [.object
      ([("schemas", .bool true), ("tables", .bool true), ("views", .bool true)] ++ actions)])]

/-- A configuration as it is written: the shop comes first, and then a provider of rows to read. -/
def writtenConfig (id : String) : Value :=
  .object [("version", .string "v1"), ("providers", .array [writtenEntry "main" [],
    writtenEntry id [("actions", .array [.string "ReadMany"])]])]

/-- Of two entries with one id the second is discovered alone, and of two sources with one name only
the first is found. -/
theorem configure_loses_entry_and_source :
    let dbs : Databases := fun _ => shop.database
    let twice : Config := { providers := [shopProvider, readingProvider "main"] }
    let both : Config := { providers := [shopProvider, readingProvider "other"] }
    let afterTwice := ({} : Gateway).run (configure dbs twice)
    let afterBoth := ({} : Gateway).run (configure dbs both)
    Config.read (writtenConfig "main") = .ok twice ∧
      Config.read (writtenConfig "other") = .ok both ∧
      (∃ sources, afterTwice.outcome = .ok sources) ∧
      afterTwice.gateway.providers = [(.string "main", readingProvider "main")] ∧
      afterTwice.trace = traceOf dbs (.string "main", readingProvider "main") ∧
      afterTwice.gateway.sources.map (·.actions) = [[.string "ReadMany"], [.string "ReadMany"]] ∧
      (∃ sources, afterBoth.outcome = .ok sources) ∧
      afterBoth.gateway.sources.map (fun s => (s.name, s.actions)) =
        [(.string "orders", defaultActions), (.string "totals", defaultActions),
         (.string "orders", [.string "ReadMany"]), (.string "totals", [.string "ReadMany"])] ∧
      afterBoth.gateway.place? (.string "orders") = some 0 ∧ ¬afterBoth.gateway.FindsAll := by
  intro dbs twice both afterTwice afterBoth
  refine ⟨by cbv, by cbv, ⟨_, rfl⟩, rfl, rfl, rfl, ⟨_, rfl⟩, rfl, rfl, fun hall => ?_⟩
  have hplace : some 0 = some 2 := hall 2 _ rfl
  cases hplace

end Gateway

end TableGateway
