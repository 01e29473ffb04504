import Mathlib
import TableGateway.Proofs.CatalogRuns

/-!
# Configurations that fail

A gateway takes over a configuration in three steps, each of which can fail: its providers are
opened, they are reached and asked for their sources, and the sources are put into a graph. What a step has
replaced is not restored when a later one fails.
-/

namespace TableGateway.Gateway

open Catalog Discovery

/-! ### The steps without their notes -/

/-- The providers of a configuration, by id. -/
def opened (config : Config) : Except Error (List (Value × Config.Provider)) :=
  config.providers.foldlM (fun others p => do
    p.check.mapError .driver
    if p.id.isKey then
      return setEntry p.id p others
    else
      throw (.unusableId p.id)) []

/-- The sources that a provider offers, if there is a connection. -/
def offeredBy (db : Database) (rules : List Rule) : Except Error (List Source) := do
  db.access.check.mapError .unreachable
  (inspect db rules).start.outcome.mapError .inspection

/-- The sources that providers offer, in turn. -/
def offered (dbs : Databases) (providers : List (Value × Config.Provider)) :
    Except Error (List Source) := do
  if providers.isEmpty then
    throw .noProviders
  let found ← providers.mapM fun (id, p) => offeredBy (dbs id) p.rules
  return found.flatten

section Steps

variable {α β : Type} {dbs : Databases} {w u : Working}

/-- Work with the same outcome at every gateway. -/
def Yields (work : Operating α) (outcome : Except Error α) : Prop :=
  ∀ w, (work.run.run w).1 = outcome

namespace Yields

lemma pure (a : α) : Yields (Pure.pure a) (.ok a) :=
  fun _ => rfl

lemma throw (e : Error) : Yields (throw e : Operating α) (.error e) :=
  fun _ => rfl

lemma note (records : List LogRecord) : Yields (note records) (.ok ()) :=
  fun _ => rfl

lemma bind {work : Operating α} {outcome : Except Error α} {rest : α → Operating β}
    {others : α → Except Error β} (h : Yields work outcome)
    (hrest : ∀ a, Yields (rest a) (others a)) :
    Yields (work >>= rest) (outcome >>= others) := by
  intro w
  have hw := h w
  rcases hwork : work.run.run w with ⟨e | a, t⟩ <;> rw [hwork] at hw <;> subst hw
  · rw [run_bind_of_run_error hwork]
    rfl
  · rw [run_bind_of_run_ok hwork, hrest a t]
    rfl

/-- After work that succeeds only the outcome of the rest counts. -/
lemma after {work : Operating α} {a : α} {rest : α → Operating β} {outcome : Except Error β}
    (h : Yields work (.ok a)) (hrest : ∀ a, Yields (rest a) outcome) :
    Yields (work >>= rest) outcome :=
  h.bind hrest

lemma foldlM {f : β → α → Operating β} {g : β → α → Except Error β}
    (h : ∀ b a, Yields (f b a) (g b a)) (items : List α) (b : β) :
    Yields (items.foldlM f b) (items.foldlM g b) := by
  induction items generalizing b with
  | nil => exact pure b
  | cons a rest ih => exact (h b a).bind ih

lemma mapM {f : α → Operating β} {g : α → Except Error β} (h : ∀ a, Yields (f a) (g a))
    (items : List α) : Yields (items.mapM f) (items.mapM g) := by
  induction items with
  | nil => exact pure []
  | cons a rest ih =>
    rw [List.mapM_cons, List.mapM_cons]
    exact (h a).bind fun b => ih.bind fun bs => pure _

lemma openProviders (config : Config) :
    Yields (openProviders config.providers) (opened config) := by
  refine foldlM (fun others p => (note _).after fun _ => ?_) config.providers []
  cases p.check with
  | error e => exact throw _
  | ok _ =>
    refine (note _).after fun _ => ?_
    change Yields _ (if p.id.isKey then _ else _)
    split
    · exact pure _
    · exact throw _

lemma connect (access : Access) (id : Value) :
    Yields (connect access id) (access.check.mapError .unreachable) := by
  refine (note _).after fun _ => ?_
  cases access.check with
  | error fault => exact throw _
  | ok _ => exact pure _

lemma inspectProvider (dbs : Databases) (id : Value) (p : Config.Provider) :
    Yields (inspectProvider dbs id p) (offeredBy (dbs id) p.rules) := by
  have htraced (entries : List TraceEntry) :
      Yields (modify fun w => { w with trace := w.trace ++ entries }) (.ok ()) := fun _ => rfl
  refine (note _).after fun _ => (connect _ _).bind fun _ => (note _).after fun _ =>
    (htraced _).after fun _ => ?_
  cases (inspect (dbs id) p.rules).start.outcome with
  | error e => exact throw _
  | ok sources => exact (note _).after fun _ => pure _

lemma inspectEach (dbs : Databases) (providers : List (Value × Config.Provider)) :
    Yields (providers.mapM fun (id, p) => Gateway.inspectProvider dbs id p)
      (providers.mapM fun (id, p) => offeredBy (dbs id) p.rules) :=
  mapM (fun (id, p) => inspectProvider dbs id p) providers

end Yields

/-- A discovery that fails replaces the sources if every provider has offered its own. -/
lemma gateway_of_discover_error {e : Error} (hconfig : w.gateway.config.isSome)
    (h : (discover dbs).run.run w = (.error e, u)) :
    u.gateway = { w.gateway with
      sources := (offered dbs w.gateway.providers).toOption.getD w.gateway.sources } := by
  rcases of_run_bind_eq_error h with h | ⟨_, _, hget, h⟩
  · cases h
  cases hget
  dsimp only at h
  split at h
  · next hnone =>
    rw [Option.isNone_iff_eq_none.mp hnone] at hconfig
    cases hconfig
  unfold offered
  split at h
  · next hempty =>
    rw [if_pos hempty]
    cases h
    rfl
  next hempty =>
  rw [if_neg hempty]
  have hoffered := Yields.inspectEach dbs w.gateway.providers w
  have hkept := Keeps.inspectEach dbs w.gateway.providers w
  rcases of_run_bind_eq_error h with h | ⟨found, t, hfound, h⟩
  · rw [h] at hoffered hkept
    rw [← hoffered]
    exact hkept
  rw [hfound] at hoffered hkept
  rw [← hoffered]
  rcases of_run_bind_eq_error h with h | ⟨_, _, hset, h⟩
  · cases h
  cases hset
  -- The sources are replaced by now, and only a graph of them may be missing.
  split at h
  · cases h
    change { t.gateway with sources := found.flatten } = _
    rw [hkept]
    rfl
  · rcases of_run_bind_eq_error h with h | ⟨_, _, _, h⟩ <;> cases h

/-- Whatever a configuration that fails has got to is left behind. -/
lemma gateway_of_configure_error {config : Config} {e : Error}
    (h : (configure dbs config).run.run w = (.error e, u)) :
    u.gateway = { w.gateway with
      config := some config
      providers := (opened config).toOption.getD w.gateway.providers
      sources := (opened config >>= offered dbs).toOption.getD w.gateway.sources } := by
  rcases of_run_bind_eq_error h with h | ⟨_, _, hset, h⟩
  · cases h
  cases hset
  have hopened := Yields.openProviders config
    { w with gateway := { w.gateway with config := some config } }
  have hkept := Keeps.openProviders config.providers
    { w with gateway := { w.gateway with config := some config } }
  rcases of_run_bind_eq_error h with h | ⟨providers, t, hproviders, h⟩
  · rw [h] at hopened hkept
    rw [← hopened, hkept]
    rfl
  · rw [hproviders] at hopened hkept
    rw [← hopened]
    rcases of_run_bind_eq_error h with h | ⟨_, _, hset, h⟩
    · cases h
    cases hset
    have hconfig : t.gateway.config = some config := congrArg Gateway.config hkept
    have hdiscovered := gateway_of_discover_error
      (w := { t with gateway := { t.gateway with providers } })
      (Option.isSome_iff_exists.mpr ⟨config, hconfig⟩) h
    rw [hdiscovered, hkept]
    rfl

end Steps

/-- A configuration that fails changes nothing exactly if it was in force already, if its providers
are those of the gateway when all of them can be opened, and if the sources of these are those of
the gateway when all of them are offered. -/
theorem configure_unchanged_iff (g : Gateway) (dbs : Databases) (config : Config) (e : Error)
    (h : (g.run (configure dbs config)).outcome = .error e) :
    (g.run (configure dbs config)).gateway = g ↔
      g.config = some config ∧
      (∀ providers, opened config = .ok providers → g.providers = providers) ∧
      ∀ sources, opened config >>= offered dbs = .ok sources → g.sources = sources := by
  rcases hrun : (configure dbs config).run.run { gateway := g } with ⟨outcome, u⟩
  have hstep : g.run (configure dbs config) = ⟨outcome, u.gateway, u.log, u.trace⟩ := by
    rw [Gateway.run, hrun]
  rw [hstep] at h ⊢
  subst h
  dsimp only
  rw [gateway_of_configure_error hrun]
  have hgetD {α : Type} {x : Except Error α} {a : α} :
      x.toOption.getD a = a ↔ ∀ b, x = .ok b → a = b := by
    cases x <;> simp [Except.toOption, eq_comm]
  rw [← hgetD, ← hgetD]
  obtain ⟨_, _, _, _⟩ := g
  simp [eq_comm]

theorem configure_unchanged_again :
    let config : Config := { providers := [shopProvider] }
    let g := (({ dbs := fun _ => shop.database } : World).afterAll [.configure config]).gateway
    let dbs : Databases := fun _ => ({ shop with failingKind := some .view } : Recording).database
    ∃ e, (g.run (configure dbs config)).outcome = .error e ∧
      (g.run (configure dbs config)).gateway = g := by
  intro config g dbs
  have hfails : ∃ e, (g.run (configure dbs config)).outcome = .error e := ⟨_, rfl⟩
  obtain ⟨e, he⟩ := hfails
  refine ⟨e, he, (configure_unchanged_iff g dbs config e he).mpr ⟨rfl, ?_, ?_⟩⟩
  · intro providers hproviders
    exact Except.ok.inj hproviders
  · intro sources hsources
    cases hsources

/-- After a configuration that fails, its providers are asked instead of those before. Even if none
of them could be opened, a gateway that was new no longer reports that it is not configured. -/
theorem configure_failure_noticed :
    let broken := ({ shop with failingKind := some .view } : Recording).database
    let dbs : Databases := fun id => if id.equals (.string "other") then broken else shop.database
    let other := { shopProvider with id := .string "other" }
    let unknown := { shopProvider with driver := .string "mysql" }
    let start : World := { dbs }
    let before := start.afterAll [.configure { providers := [shopProvider] }]
    let after := (before.step (.configure { providers := [other] })).2
    let refused := (start.step (.configure { providers := [unknown] })).2
    (∃ e, (before.step (.configure { providers := [other] })).1 = .discovered (.error e)) ∧
      before.gateway.provider (.string "main") = .ok shopProvider ∧
      after.gateway.provider (.string "main") = .error (.unknownProvider (.string "main")) ∧
      (∃ sources, (before.step .discover).1 = .discovered (.ok sources)) ∧
      (∃ e, (after.step .discover).1 = .discovered (.error e)) ∧
      (∃ e, (start.step (.configure { providers := [unknown] })).1 = .discovered (.error e)) ∧
      (start.step .discover).1 = .discovered (.error .notConfigured) ∧
      (refused.step .discover).1 = .discovered (.error .noProviders) := by
  intro broken dbs other unknown start before after refused
  exact ⟨⟨_, rfl⟩, rfl, rfl, ⟨_, rfl⟩, ⟨_, rfl⟩, ⟨_, rfl⟩, rfl, rfl⟩

end TableGateway.Gateway
