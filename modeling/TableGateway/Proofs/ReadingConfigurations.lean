import Mathlib
import TableGateway.Config.Basic
import TableGateway.Proofs.Selection

/-!
# How reading a configuration ends

A configuration is read from data of any shape. Reading ends with a configuration, with a failure of
the configuration, or, where data of the wrong kind is met that no reader expects, with an
unexpected fault. For the readers of scopes, rules, providers and configurations it is said which
data ends in which way, without reading it.
-/

namespace TableGateway

/-- Whether a failure is one of the configuration. -/
def Failure.IsOfConfig : Failure → Prop
  | .foreseen report => report.area.isConfig
  | .unexpected _ => False

/-- Reading succeeds exactly if the data is readable, and ends with an unexpected fault of some kind
exactly if the data lets one escape. All other errors are failures of the configuration. -/
structure Ends {ε α : Type} (failure : ε → Failure) (x : Except ε α) (readable : Prop)
    (escapes : FaultKind → Prop) : Prop where
  ok_iff : (∃ a, x = .ok a) ↔ readable
  fault_iff : ∀ kind,
    (∃ e text, x = .error e ∧ failure e = .unexpected ⟨kind, text⟩) ↔ escapes kind
  isOfConfig : ∀ e, x = .error e → (failure e).IsOfConfig ∨ ∃ fault, failure e = .unexpected fault

/-- Reading ends with a result or with a failure of the configuration. -/
def IsForeseen {ε α : Type} (failure : ε → Failure) (x : Except ε α) : Prop :=
  (∃ a, x = .ok a) ∨ ∃ e, x = .error e ∧ (failure e).IsOfConfig

lemma not_isForeseen {ε α : Type} {failure : ε → Failure} {x : Except ε α} {e : ε} {fault : Fault}
    (h : x = .error e) (hfault : failure e = .unexpected fault) : ¬IsForeseen failure x := by
  rintro (⟨a, ha⟩ | ⟨e', he, hconfig⟩)
  · cases h.symm.trans ha
  · cases h.symm.trans he
    rw [hfault] at hconfig
    exact hconfig

namespace Ends

variable {ε φ α β : Type} {failure : ε → Failure} {x : Except ε α} {readable readable' : Prop}
  {escapes escapes' : FaultKind → Prop}

lemma result (a : α) : Ends failure (.ok a) True fun _ => False :=
  ⟨by simp, by simp, by simp⟩

lemma config {e : ε} (h : (failure e).IsOfConfig) :
    Ends failure (.error e : Except ε α) False fun _ => False := by
  refine ⟨by simp, fun kind => iff_of_false ?_ id, ?_⟩
  · rintro ⟨_, text, he, hfault⟩
    cases he
    rw [hfault] at h
    exact h
  · intro _ he
    cases he
    exact .inl h

lemma fault {e : ε} {kind : FaultKind} {text : String} (h : failure e = .unexpected ⟨kind, text⟩) :
    Ends failure (.error e : Except ε α) False (kind = ·) := by
  refine ⟨by simp, fun other => ⟨?_, ?_⟩, ?_⟩
  · rintro ⟨_, text', he, hfault⟩
    cases he
    rw [h] at hfault
    cases hfault
    rfl
  · rintro rfl
    exact ⟨e, text, rfl, h⟩
  · intro _ he
    cases he
    exact .inr ⟨_, h⟩

lemma congr (h : Ends failure x readable escapes) (hreadable : readable ↔ readable')
    (hescapes : ∀ kind, escapes kind ↔ escapes' kind) : Ends failure x readable' escapes' :=
  ⟨h.ok_iff.trans hreadable, fun kind => (h.fault_iff kind).trans (hescapes kind), h.isOfConfig⟩

/-- The second of two steps counts only if the first one succeeds. -/
lemma bind {f : α → Except ε β} (h : Ends failure x readable escapes)
    (hf : ∀ a, Ends failure (f a) readable' escapes') :
    Ends failure (x >>= f) (readable ∧ readable')
      fun kind => escapes kind ∨ readable ∧ escapes' kind := by
  cases x with
  | error e =>
    have hnot : ¬readable := fun hr => by simpa using h.ok_iff.mpr hr
    have herror : (Except.error e >>= f) = .error e := rfl
    rw [herror]
    refine ⟨by simp [hnot], fun kind => ?_, fun e' he => h.isOfConfig e' (by simpa using he)⟩
    rw [or_iff_left fun hr => hnot hr.1, ← h.fault_iff]
    simp
  | ok a =>
    have hr : readable := h.ok_iff.mp ⟨a, rfl⟩
    have hnone (kind : FaultKind) : ¬escapes kind := by
      rw [← h.fault_iff]
      simp
    rw [ok_bind]
    exact (hf a).congr (by simp [hr]) (by simp [hr, hnone])

lemma map (h : Ends failure x readable escapes) (f : α → β) :
    Ends failure (f <$> x) readable escapes := by
  cases x with
  | error e =>
    exact ⟨by simpa using h.ok_iff, by simpa using h.fault_iff, by simpa using h.isOfConfig⟩
  | ok a => exact ⟨by simpa using h.ok_iff, by simpa using h.fault_iff, by simp⟩

lemma mapError (failure : φ → Failure) (g : ε → φ) (h : Ends (failure ∘ g) x readable escapes) :
    Ends failure (x.mapError g) readable escapes := by
  cases x with
  | error e =>
    exact ⟨by simpa [Except.mapError] using h.ok_iff,
      by simpa [Except.mapError] using h.fault_iff, by simpa [Except.mapError] using h.isOfConfig⟩
  | ok a =>
    exact ⟨by simpa [Except.mapError] using h.ok_iff,
      by simpa [Except.mapError] using h.fault_iff, by simp [Except.mapError]⟩

lemma isForeseen_iff (h : Ends failure x readable escapes) :
    IsForeseen failure x ↔ ∀ kind, ¬escapes kind := by
  constructor
  · intro hforeseen kind hkind
    obtain ⟨e, text, he, hfault⟩ := (h.fault_iff kind).mpr hkind
    exact not_isForeseen he hfault hforeseen
  · intro hnone
    cases x with
    | ok a => exact .inl ⟨a, rfl⟩
    | error e =>
      refine .inr ⟨e, rfl, (h.isOfConfig e rfl).resolve_right ?_⟩
      rintro ⟨⟨kind, text⟩, hfault⟩
      exact hnone kind ((h.fault_iff kind).mp ⟨e, text, rfl, hfault⟩)

end Ends

/-- Some data in a list lets a fault escape, and all data before it is readable. -/
def EscapesAmong (readable : Value → Prop) (escapes : Value → FaultKind → Prop)
    (items : List Value) (kind : FaultKind) : Prop :=
  ∃ before item after, items = before ++ item :: after ∧ (∀ v ∈ before, readable v) ∧
    escapes item kind

lemma escapesAmong_nil {readable : Value → Prop} {escapes : Value → FaultKind → Prop}
    {kind : FaultKind} : ¬EscapesAmong readable escapes [] kind := by
  rintro ⟨before, item, after, h, -⟩
  simp at h

lemma escapesAmong_cons {readable : Value → Prop} {escapes : Value → FaultKind → Prop} {v : Value}
    {rest : List Value} {kind : FaultKind} :
    EscapesAmong readable escapes (v :: rest) kind ↔
      escapes v kind ∨ readable v ∧ EscapesAmong readable escapes rest kind := by
  constructor
  · rintro ⟨before, item, after, h, hbefore, hitem⟩
    cases before with
    | nil =>
      cases h
      exact .inl hitem
    | cons b before =>
      cases h
      obtain ⟨hb, hbefore⟩ := List.forall_mem_cons.mp hbefore
      exact .inr ⟨hb, before, item, after, rfl, hbefore, hitem⟩
  · rintro (hv | ⟨hv, before, item, after, rfl, hbefore, hitem⟩)
    · exact ⟨[], v, rest, rfl, by simp, hv⟩
    · exact ⟨v :: before, item, after, rfl, List.forall_mem_cons.mpr ⟨hv, hbefore⟩, hitem⟩

lemma Ends.mapM {ε α : Type} {failure : ε → Failure} {f : Value → Except ε α}
    {readable : Value → Prop} {escapes : Value → FaultKind → Prop}
    (h : ∀ v, Ends failure (f v) (readable v) (escapes v)) (items : List Value) :
    Ends failure (items.mapM f) (∀ v ∈ items, readable v)
      (EscapesAmong readable escapes items) := by
  induction items with
  | nil => exact (Ends.result []).congr (by simp) (by simp [escapesAmong_nil])
  | cons v rest ih =>
    rw [List.mapM_cons]
    exact ((h v).bind fun _ => ih.map _).congr List.forall_mem_cons.symm
      fun kind => escapesAmong_cons.symm

/-! ### Scopes and rules -/

namespace Discovery

/-- The forms in which a scope is written. -/
inductive Scope.IsReadable : Value → Prop
  | absent : IsReadable .null
  | truth (b : Bool) : IsReadable (.bool b)
  | names (names : List String) : IsReadable (.array (names.map .string))
  | only (names : List String) : IsReadable (.object [("only", .array (names.map .string))])
  | except (names : List String) : IsReadable (.object [("except", .array (names.map .string))])

namespace Rule

/-- The scopes of a rule are written as scopes; those of tables and views may be missing. -/
structure HasScopes (members : List (String × Value)) : Prop where
  schemas : ∃ v, members.lookup "schemas" = some v ∧ Scope.IsReadable v
  tables : Scope.IsReadable ((members.lookup "tables").getD .null)
  views : Scope.IsReadable ((members.lookup "views").getD .null)

/-- The actions of a rule are missing or can be listed. -/
def HasActions (members : List (String × Value)) : Prop :=
  ∀ actions, members.lookup "actions" = some actions → actions.elements? ≠ none

/-- The options of a rule count as missing or are an object. -/
def HasOptions (members : List (String × Value)) : Prop :=
  ∀ options, members.lookup "options" = some options → options.isTruthy → options.members? ≠ none

inductive IsReadable : Value → Prop
  | intro {members : List (String × Value)} (scopes : HasScopes members)
    (actions : HasActions members) (options : HasOptions members) : IsReadable (.object members)

/-- The faults that a rule with readable scopes lets escape. -/
inductive Escapes : Value → FaultKind → Prop
  | actions {members : List (String × Value)} (scopes : HasScopes members)
    (actions : ¬HasActions members) : Escapes (.object members) .wrongKind
  | options {members : List (String × Value)} (scopes : HasScopes members)
    (actions : HasActions members) (options : ¬HasOptions members) :
    Escapes (.object members) .noMembers

end Rule

lemma Scope.names?_eq_some {v : Value} {items : List Value} :
    names? v = some items ↔
      ∃ names : List String, items = names.map .string ∧ v = .array items := by
  cases v with
  | array values =>
    rw [names?, Option.ite_none_right_eq_some, List.all_eq_true]
    constructor
    · rintro ⟨htexts, hitems⟩
      cases hitems
      obtain ⟨names, -, hnames⟩ := textsOf_of_texts htexts
      exact ⟨names, hnames, rfl⟩
    · rintro ⟨names, rfl, h⟩
      cases h
      simp [Value.isText]
  | _ => simp [names?]

lemma Scope.exists_read_eq_ok_iff {v : Value} : (∃ scope, read v = .ok scope) ↔ IsReadable v := by
  constructor
  · rintro ⟨scope, h⟩
    unfold read at h
    split at h
    · exact .absent
    · exact .truth false
    · exact .truth true
    all_goals
      dsimp only at h
      split at h
      · next hread =>
        obtain ⟨items, hitems, -⟩ := Option.map_eq_some_iff.mp hread
        obtain ⟨names, rfl, rfl⟩ := names?_eq_some.mp hitems
        constructor
      · cases h
  · have hnames (names : List String) :
        names? (.array (names.map .string)) = some (names.map .string) :=
      names?_eq_some.mpr ⟨names, rfl, rfl⟩
    rintro (_ | b | names | names | names)
    · exact ⟨none, rfl⟩
    · cases b
      · exact ⟨none, rfl⟩
      · exact ⟨some all, rfl⟩
    all_goals simp [read, hnames]

lemma Scope.read_ends (v : Value) :
    Ends Scope.Invalid.failure (Scope.read v) (Scope.IsReadable v) fun _ => False := by
  have hok := Scope.exists_read_eq_ok_iff (v := v)
  cases h : Scope.read v with
  | ok scope => exact (Ends.result scope).congr (by simp [← hok, h]) (by simp)
  | error e =>
    have hconfig : e.failure.IsOfConfig := rfl
    exact (Ends.config hconfig).congr (by simp [← hok, h]) (by simp)

namespace Rule

lemma readScope_ends (v : Value) :
    Ends RuleError.failure (readScope v) (Scope.IsReadable v) fun _ => False :=
  .mapError RuleError.failure .invalidScope (Scope.read_ends v)

lemma readStrictNumbers_ends (members : List (String × Value)) :
    Ends RuleError.failure (readStrictNumbers ((members.lookup "options").getD .null))
      (HasOptions members) fun kind => ¬HasOptions members ∧ .noMembers = kind := by
  unfold HasOptions readStrictNumbers
  cases members.lookup "options" with
  | none => exact (Ends.result false).congr (by simp) (by simp)
  | some options =>
    rw [Option.getD_some]
    split
    · next hgiven =>
      cases hmembers : options.members? with
      | none =>
        have hfault : (RuleError.options options).failure =
          .unexpected ⟨.noMembers, options.quoted ++ " is not an object of options"⟩ := rfl
        exact (Ends.fault hfault).congr (by simp [hgiven, hmembers]) (by simp [hgiven, hmembers])
      | some others => exact (Ends.result _).congr (by simp [hmembers]) (by simp [hmembers])
    · next hmissing => exact (Ends.result false).congr (by simp [hmissing]) (by simp [hmissing])

/-- The actions of a rule, or the default ones. -/
def readActions (members : List (String × Value)) : Except RuleError (List Value) :=
  match members.lookup "actions" with
  | none => .ok defaultActions
  | some list =>
    match list.elements? with
    | some actions => .ok actions
    | none => .error (.actions list)

lemma readActions_ends (members : List (String × Value)) :
    Ends RuleError.failure (readActions members) (HasActions members)
      fun kind => ¬HasActions members ∧ .wrongKind = kind := by
  unfold HasActions readActions
  cases members.lookup "actions" with
  | none => exact (Ends.result _).congr (by simp) (by simp)
  | some list =>
    dsimp only
    cases helements : list.elements? with
    | none =>
      have hfault : (RuleError.actions list).failure =
        .unexpected ⟨.wrongKind, list.quoted ++ " is not a list of actions"⟩ := rfl
      exact (Ends.fault hfault).congr (by simp [helements]) (by simp [helements])
    | some actions => exact (Ends.result _).congr (by simp [helements]) (by simp [helements])

lemma read_object {members : List (String × Value)} {schemas : Value}
    (h : members.lookup "schemas" = some schemas) :
    read (.object members) = (do
      let schemas ← readScope schemas
      let tables ← readScope ((members.lookup "tables").getD .null)
      let views ← readScope ((members.lookup "views").getD .null)
      let actions ← readActions members
      let strictNumbers ← readStrictNumbers ((members.lookup "options").getD .null)
      return { schemas, tables, views, actions, strictNumbers := .bool strictNumbers }) := by
  unfold read readActions
  simp only [Value.members?, Value.get?, Option.isNone_some, Option.bind_some, Bool.false_eq_true,
    if_false, h]
  cases members.lookup "actions" with
  | none => rfl
  | some list =>
    dsimp only
    cases list.elements? <;> rfl

lemma hasScopes_iff {members : List (String × Value)} {schemas : Value}
    (h : members.lookup "schemas" = some schemas) :
    HasScopes members ↔ Scope.IsReadable schemas ∧
      Scope.IsReadable ((members.lookup "tables").getD .null) ∧
      Scope.IsReadable ((members.lookup "views").getD .null) := by
  constructor
  · rintro ⟨⟨v, hv, hschemas⟩, htables, hviews⟩
    rw [h] at hv
    cases hv
    exact ⟨hschemas, htables, hviews⟩
  · rintro ⟨hschemas, htables, hviews⟩
    exact ⟨⟨schemas, h, hschemas⟩, htables, hviews⟩

lemma isReadable_object {members : List (String × Value)} :
    IsReadable (.object members) ↔
      HasScopes members ∧ HasActions members ∧ HasOptions members := by
  constructor
  · rintro ⟨hscopes, hactions, hoptions⟩
    exact ⟨hscopes, hactions, hoptions⟩
  · rintro ⟨hscopes, hactions, hoptions⟩
    exact ⟨hscopes, hactions, hoptions⟩

lemma escapes_object {members : List (String × Value)} {kind : FaultKind} :
    Escapes (.object members) kind ↔ HasScopes members ∧ (¬HasActions members ∧ .wrongKind = kind ∨
      HasActions members ∧ ¬HasOptions members ∧ .noMembers = kind) := by
  constructor
  · rintro (⟨hscopes, hactions⟩ | ⟨hscopes, hactions, hoptions⟩)
    · exact ⟨hscopes, .inl ⟨hactions, rfl⟩⟩
    · exact ⟨hscopes, .inr ⟨hactions, hoptions, rfl⟩⟩
  · rintro ⟨hscopes, ⟨hactions, rfl⟩ | ⟨hactions, hoptions, rfl⟩⟩
    · exact .actions hscopes hactions
    · exact .options hscopes hactions hoptions

lemma read_ends (v : Value) : Ends RuleError.failure (read v) (IsReadable v) (Escapes v) := by
  by_cases hobject : ∃ members, v = .object members
  · obtain ⟨members, rfl⟩ := hobject
    refine Ends.congr ?_ isReadable_object.symm fun kind => escapes_object.symm
    cases hschemas : members.lookup "schemas" with
    | none =>
      have hread : read (.object members) = .error .missingSchemas := by
        unfold read
        simp only [Value.members?, Value.get?, Option.isNone_some, Option.bind_some,
          Bool.false_eq_true, if_false, hschemas]
        rfl
      have hnot : ¬HasScopes members := by
        rintro ⟨⟨v, hv, -⟩, -, -⟩
        rw [hschemas] at hv
        cases hv
      have hconfig : RuleError.missingSchemas.failure.IsOfConfig := rfl
      rw [hread]
      exact (Ends.config hconfig).congr (by simp [hnot]) (by simp [hnot])
    | some schemas =>
      rw [read_object hschemas, hasScopes_iff hschemas]
      refine ((readScope_ends schemas).bind fun _ => (readScope_ends _).bind fun _ =>
        (readScope_ends _).bind fun _ => (readActions_ends members).bind fun _ =>
          (readStrictNumbers_ends members).map _).congr ?_ ?_
      · tauto
      · intro kind
        tauto
  · have hread : read v = .error (.notAnObject v) := by
      cases v with
      | object members => exact absurd ⟨members, rfl⟩ hobject
      | _ => rfl
    have hconfig : (RuleError.notAnObject v).failure.IsOfConfig := rfl
    rw [hread]
    refine (Ends.config hconfig).congr (iff_of_false id ?_) fun kind => iff_of_false id ?_
    · rintro ⟨⟩
      exact hobject ⟨_, rfl⟩
    · rintro (⟨⟩ | ⟨⟩) <;> exact hobject ⟨_, rfl⟩

end Rule

end Discovery

/-! ### Providers -/

namespace Config

open Discovery

namespace Provider

/-- The parts of a provider are keys of an object, or are found as items of a list or parts of a
text. -/
def HasParts : Value → Prop
  | .object members => ∀ name ∈ parts, (members.lookup name).isSome
  | .array items => ∀ name ∈ parts, .string name ∈ items
  | .string s => ∀ name ∈ parts, name.toList <:+: s.toList
  | _ => False

structure HasHost (members options : List (String × Value)) : Prop where
  parts : HasParts (.object members)
  lookup_options : members.lookup "options" = some (.object options)
  host : (options.lookup "host").isSome

/-- The port is missing or counts as an integer. -/
def HasPort (options : List (String × Value)) : Prop :=
  ∀ port, options.lookup "port" = some port → ∃ n, port.toInteger = .ok n

def HasInfinitePort (options : List (String × Value)) : Prop :=
  ∃ x, options.lookup "port" = some (.double x) ∧ x.magnitude = .infinite

/-- The rules are missing or can be listed and read. -/
def HasRules (members : List (String × Value)) : Prop :=
  ∀ list, members.lookup "discovery" = some list →
    ∃ items, list.elements? = some items ∧ ∀ item ∈ items, Rule.IsReadable item

inductive IsReadable : Value → Prop
  | intro {members options : List (String × Value)} (host : HasHost members options)
    (port : HasPort options) (rules : HasRules members) : IsReadable (.object members)

/-- The faults that data in the place of a provider lets escape. -/
inductive Escapes : Value → FaultKind → Prop
  | notSearchable {v : Value} (elements : v.elements? = none) : Escapes v .wrongKind
  | notAnObject {v : Value} (parts : HasParts v) (members : v.members? = none) :
    Escapes v .wrongKind
  | port {members options : List (String × Value)} (host : HasHost members options)
    (port : HasInfinitePort options) : Escapes (.object members) .tooLarge
  | discovery {members options : List (String × Value)} (host : HasHost members options)
    (port : HasPort options) {list : Value} (list_eq : members.lookup "discovery" = some list)
    (elements : list.elements? = none) : Escapes (.object members) .wrongKind
  | rule {members options : List (String × Value)} (host : HasHost members options)
    (port : HasPort options) {list : Value} (list_eq : members.lookup "discovery" = some list)
    {items : List Value} (elements : list.elements? = some items) {kind : FaultKind}
    (rule : EscapesAmong Rule.IsReadable Rule.Escapes items kind) : Escapes (.object members) kind

lemma finds?_eq_some_true {v : Value} (h : v.elements? ≠ none) :
    (∀ name ∈ parts, finds? v name = some true) ↔ HasParts v := by
  cases v with
  | object members =>
    simp [finds?, HasParts, parts, List.lookup_isSome_iff]
  | array items => simp [finds?, HasParts]
  | string s => simp [finds?, HasParts, Text.isPartOf_iff]
  | _ => exact absurd rfl h

/-- In data that can be searched the missing parts are found. -/
lemma exists_missing {v : Value} (h : v.elements? ≠ none) :
    ∃ missing : List String, (parts.filterM fun name =>
      match finds? v name with
      | none => throw (.notAProvider v)
      | some found => pure !found) = Except.ok (ε := Error) missing ∧
        (missing = [] ↔ HasParts v) := by
  have hsome (name : String) : ∃ found, finds? v name = some found := by
    cases v with
    | object | array | string => exact ⟨_, rfl⟩
    | _ => exact absurd rfl h
  rw [← finds?_eq_some_true h]
  obtain ⟨a, ha⟩ := hsome "id"
  obtain ⟨b, hb⟩ := hsome "driver"
  obtain ⟨c, hc⟩ := hsome "options"
  refine ⟨parts.filter fun name => finds? v name = some false, ?_, ?_⟩
  · cases a <;> cases b <;> cases c <;>
      simp [parts, List.filterM, List.filterAuxM, ha, hb, hc] <;> rfl
  · simp [parts, ha, hb, hc]

lemma toInteger_eq_infinite {v : Value} :
    v.toInteger = .error .infinite ↔ ∃ x, v = .double x ∧ x.magnitude = .infinite := by
  cases v with
  | double x =>
    simp only [Value.toInteger, Double.toInteger, Double.truncate?, Value.double.injEq,
      exists_eq_left']
    cases x.magnitude <;> simp
  | string s =>
    have hnatural (text : String) (s : List Char) :
        Text.naturalOfText text s ≠ .error .infinite := by
      unfold Text.naturalOfText
      grind
    have hmap {α : Type} {x : Except IntegerError α} (f : α → Int) (hx : x ≠ .error .infinite) :
        x.map f ≠ .error .infinite := by
      cases x <;> simp_all [Except.map]
    refine iff_of_false ?_ (by simp)
    change Text.integerOfText s ≠ .error .infinite
    unfold Text.integerOfText
    split
    · apply hmap
      intro h
      rcases of_bind_eq_error h with h | ⟨n, -, h⟩
      · exact hnatural _ _ h
      · cases h
    · exact hmap _ (hnatural _ _)
    · exact hmap _ (hnatural _ _)
  | _ => simp [Value.toInteger]

lemma port_ends (id : Value) (options : List (String × Value)) :
    Ends Error.failure
      ((((options.lookup "port").getD (.int 5432)).toInteger).mapError (.invalidPort id))
      (HasPort options) fun kind => HasInfinitePort options ∧ .tooLarge = kind := by
  have hinfinite : HasInfinitePort options ↔
      ((options.lookup "port").getD (.int 5432)).toInteger = .error .infinite := by
    rw [toInteger_eq_infinite]
    unfold HasInfinitePort
    cases options.lookup "port" <;> simp
  have hport : HasPort options ↔
      ∃ n, ((options.lookup "port").getD (.int 5432)).toInteger = .ok n := by
    unfold HasPort
    cases options.lookup "port" with
    | none => simp [Value.toInteger]
    | some port => simp
  cases hinteger : ((options.lookup "port").getD (.int 5432)).toInteger with
  | ok n => exact (Ends.result n).congr (by simp [hport, hinteger]) (by simp [hinfinite, hinteger])
  | error e =>
    cases e with
    | infinite =>
      have hfault : (Error.invalidPort id .infinite).failure =
        .unexpected ⟨.tooLarge, "infinity has no integer part"⟩ := rfl
      exact (Ends.fault hfault).congr (by simp [hport, hinteger]) (by simp [hinfinite, hinteger])
    | _ =>
      refine (Ends.config ?_).congr (by simp [hport, hinteger]) (by simp [hinfinite, hinteger])
      rfl

lemma rules_ends (members : List (String × Value)) :
    Ends Error.failure (readRules ((members.lookup "discovery").getD (.array [])))
      (HasRules members) fun kind => ∃ list, members.lookup "discovery" = some list ∧
        (list.elements? = none ∧ .wrongKind = kind ∨ ∃ items, list.elements? = some items ∧
          EscapesAmong Rule.IsReadable Rule.Escapes items kind) := by
  unfold HasRules readRules
  cases members.lookup "discovery" with
  | none => exact (Ends.result []).congr (by simp) (by simp)
  | some list =>
    rw [Option.getD_some]
    cases helements : list.elements? with
    | none =>
      have hfault : (Error.notAList list).failure =
        .unexpected ⟨.wrongKind, list.quoted ++ " is not a list"⟩ := rfl
      exact (Ends.fault hfault).congr (by simp [helements]) (by simp [helements])
    | some items =>
      have hrules :=
        Ends.mapM (fun item => .mapError Error.failure .rule (Rule.read_ends item)) items
      exact hrules.congr (by simp [helements]) (by simp [helements])

lemma isReadable_object {members : List (String × Value)} :
    IsReadable (.object members) ↔
      ∃ options, HasHost members options ∧ HasPort options ∧ HasRules members := by
  constructor
  · rintro ⟨hhost, hport, hrules⟩
    exact ⟨_, hhost, hport, hrules⟩
  · rintro ⟨options, hhost, hport, hrules⟩
    exact ⟨hhost, hport, hrules⟩

lemma escapes_object {members : List (String × Value)} {kind : FaultKind} :
    Escapes (.object members) kind ↔ ∃ options, HasHost members options ∧
      (HasInfinitePort options ∧ .tooLarge = kind ∨ HasPort options ∧
        ∃ list, members.lookup "discovery" = some list ∧
          (list.elements? = none ∧ .wrongKind = kind ∨ ∃ items, list.elements? = some items ∧
            EscapesAmong Rule.IsReadable Rule.Escapes items kind)) := by
  constructor
  · rintro (h | ⟨-, h⟩ | ⟨hhost, hport⟩ | ⟨hhost, hport, hlist, helements⟩ |
      ⟨hhost, hport, hlist, helements, hrule⟩)
    · cases h
    · cases h
    · exact ⟨_, hhost, .inl ⟨hport, rfl⟩⟩
    · exact ⟨_, hhost, .inr ⟨hport, _, hlist, .inl ⟨helements, rfl⟩⟩⟩
    · exact ⟨_, hhost, .inr ⟨hport, _, hlist, .inr ⟨_, helements, hrule⟩⟩⟩
  · rintro ⟨options, hhost, ⟨hport, rfl⟩ |
      ⟨hport, list, hlist, ⟨helements, rfl⟩ | ⟨items, helements, hrule⟩⟩⟩
    · exact .port hhost hport
    · exact .discovery hhost hport hlist helements
    · exact .rule hhost hport hlist helements hrule

lemma read_of_not_hasParts {v : Value} (helements : v.elements? ≠ none) (h : ¬HasParts v) :
    ∃ missing, read v = .error (.missingParts missing) := by
  obtain ⟨missing, hmissing, hparts⟩ := exists_missing helements
  refine ⟨missing, ?_⟩
  unfold read
  refine (congrArg (· >>= _) hmissing).trans ?_
  exact if_pos (mt hparts.mp h)

/-- What cannot be searched for parts, or has them but no members, is no provider. -/
lemma read_of_members?_eq_none {v : Value} (h : v.elements? = none ∨ HasParts v)
    (hmembers : v.members? = none) : read v = .error (.notAProvider v) := by
  by_cases helements : v.elements? = none
  · cases v with
    | object | array | string => cases helements
    | _ => rfl
  · obtain ⟨missing, hmissing, hparts⟩ := exists_missing helements
    obtain rfl := hparts.mpr (h.resolve_left helements)
    unfold read
    refine (congrArg (· >>= _) hmissing).trans ?_
    dsimp only [ok_bind]
    rw [hmembers]
    rfl

/-- Behind the parts come the host, the port and the rules. -/
lemma read_of_hasParts {members : List (String × Value)} (h : HasParts (.object members))
    {options : Value} (hoptions : members.lookup "options" = some options) :
    read (.object members) =
      let name := (members.lookup "id").getD .null
      match options.get? "host" with
      | none => .error (.missingHost name)
      | some host => do
        let port ←
          (((options.get? "port").getD (.int 5432)).toInteger).mapError (.invalidPort name)
        let rules ← readRules ((members.lookup "discovery").getD (.array []))
        return ⟨name, (members.lookup "driver").getD .null,
          ⟨host, .int port, (options.get? "user").getD .null,
            (options.get? "password").getD .null, (options.get? "database").getD .null⟩,
          rules⟩ := by
  have hsearched : (Value.object members).elements? ≠ none := by simp [Value.elements?]
  obtain ⟨missing, hmissing, hparts⟩ := exists_missing hsearched
  obtain rfl := hparts.mpr h
  unfold read
  refine (congrArg (· >>= _) hmissing).trans ?_
  simp only [ok_bind, Value.get?, Value.members?, Option.bind_some, hoptions, Option.getD_some]
  cases options.members?.bind (List.lookup "host" ·) <;> rfl

lemma hasHost_iff {members options others : List (String × Value)}
    (h : HasParts (.object members)) (hoptions : members.lookup "options" = some (.object options))
    (hhost : (options.lookup "host").isSome) : HasHost members others ↔ others = options := by
  constructor
  · rintro ⟨-, hlookup, -⟩
    rw [hoptions] at hlookup
    cases hlookup
    rfl
  · rintro rfl
    exact ⟨h, hoptions, hhost⟩

lemma read_object_ends {members : List (String × Value)} (h : HasParts (.object members)) :
    Ends Error.failure (read (.object members)) (IsReadable (.object members))
      (Escapes (.object members)) := by
  refine Ends.congr ?_ isReadable_object.symm fun kind => escapes_object.symm
  obtain ⟨options, hoptions⟩ := Option.isSome_iff_exists.mp (h "options" (by simp [parts]))
  rw [read_of_hasParts h hoptions]
  dsimp only
  generalize (members.lookup "id").getD .null = name
  cases hhost : options.get? "host" with
  | none =>
    have hnot : ∀ others, ¬HasHost members others := by
      rintro others ⟨-, hlookup, hsome⟩
      rw [hoptions] at hlookup
      cases hlookup
      have hnone : others.lookup "host" = none := hhost
      rw [hnone] at hsome
      cases hsome
    have hconfig : (Error.missingHost name).failure.IsOfConfig := rfl
    exact (Ends.config hconfig).congr (by simp [hnot]) (by simp [hnot])
  | some host =>
    obtain ⟨others, rfl⟩ : ∃ others, options = .object others := by
      cases options with
      | object others => exact ⟨others, rfl⟩
      | _ => cases hhost
    have hiff (options : List (String × Value)) : HasHost members options ↔ options = others :=
      hasHost_iff h hoptions (by
        have hsome : others.lookup "host" = some host := hhost
        rw [hsome]
        rfl)
    refine ((port_ends name others).bind fun _ => (rules_ends members).map _).congr ?_ ?_
    · simp [hiff]
    · simp [hiff]

lemma not_isReadable_of_members? {v : Value} (h : v.members? = none) : ¬IsReadable v := by
  rintro ⟨⟩
  cases h

lemma escapes_of_members? {v : Value} (h : v.members? = none) {kind : FaultKind} :
    Escapes v kind ↔ (v.elements? = none ∨ HasParts v) ∧ .wrongKind = kind := by
  constructor
  · rintro (helements | ⟨hparts, -⟩ | _ | _ | _)
    · exact ⟨.inl helements, rfl⟩
    · exact ⟨.inr hparts, rfl⟩
    all_goals cases h
  · rintro ⟨helements | hparts, rfl⟩
    · exact .notSearchable helements
    · exact .notAnObject hparts h

lemma read_ends (v : Value) : Ends Error.failure (read v) (IsReadable v) (Escapes v) := by
  have hmissing (helements : v.elements? ≠ none) (hparts : ¬HasParts v) :
      Ends Error.failure (read v) False fun _ => False := by
    obtain ⟨missing, hread⟩ := read_of_not_hasParts helements hparts
    have hconfig : (Error.missingParts missing).failure.IsOfConfig := rfl
    rw [hread]
    exact .config hconfig
  cases hmembers : v.members? with
  | none =>
    have hnot := not_isReadable_of_members? hmembers
    have hescapes := @escapes_of_members? v hmembers
    by_cases hfound : v.elements? = none ∨ HasParts v
    · have hfault : (Error.notAProvider v).failure =
        .unexpected ⟨.wrongKind, v.quoted ++ " is not a provider"⟩ := rfl
      rw [read_of_members?_eq_none hfound hmembers]
      exact (Ends.fault hfault).congr (by simp [hnot]) (by simp [hescapes, hfound])
    · exact (hmissing (mt .inl hfound) (mt .inr hfound)).congr (by simp [hnot])
        (by simp [hescapes, hfound])
  | some members =>
    obtain rfl : v = .object members := by
      cases v with
      | object others =>
        cases hmembers
        rfl
      | _ => cases hmembers
    by_cases hparts : HasParts (.object members)
    · exact read_object_ends hparts
    · have hnot : ∀ options, ¬HasHost members options := fun options h => hparts h.parts
      exact (hmissing (by simp [Value.elements?]) hparts).congr (by simp [isReadable_object, hnot])
        (by simp [escapes_object, hnot])

end Provider

/-- The version is given and is the one that is supported. -/
def IsVersioned (members : List (String × Value)) : Prop :=
  ∃ version, members.lookup "version" = some version ∧ version.isTruthy ∧
    Text.lowercase version.shown = "v1"

/-- The providers of a configuration are given. -/
structure HasProviders (members : List (String × Value)) (providers : Value) : Prop where
  version : IsVersioned members
  lookup_providers : members.lookup "providers" = some providers
  given : providers.isTruthy

inductive IsReadable (members : List (String × Value)) : Prop
  | intro {providers : Value} (given : HasProviders members providers) {items : List Value}
    (elements : providers.elements? = some items) (readable : ∀ v ∈ items, Provider.IsReadable v)

/-- The faults that data in the place of a configuration lets escape. -/
inductive Escapes (members : List (String × Value)) : FaultKind → Prop
  | notAList {providers : Value} (given : HasProviders members providers)
    (elements : providers.elements? = none) : Escapes members .wrongKind
  | provider {providers : Value} (given : HasProviders members providers) {items : List Value}
    (elements : providers.elements? = some items) {kind : FaultKind}
    (provider : EscapesAmong Provider.IsReadable Provider.Escapes items kind) :
    Escapes members kind

lemma read_object (members : List (String × Value)) :
    read (.object members) =
      let version := (members.lookup "version").getD .null
      let providers := (members.lookup "providers").getD .null
      if !version.isTruthy then .error .missingVersion
      else if Text.lowercase version.shown ≠ "v1" then
        .error (.unsupportedVersion (Text.lowercase version.shown))
      else if !providers.isTruthy then .error .noProviders
      else
        match providers.elements? with
        | none => .error (.notAList providers)
        | some items => (⟨·, Text.lowercase version.shown⟩) <$> items.mapM Provider.read := by
  cases members with
  | nil => rfl
  | cons m rest =>
    unfold read
    simp only [Value.isTruthy, Value.members?, Value.get?, Option.bind_some, Option.isNone_some]
    rfl

lemma given_iff {members : List (String × Value)} {key : String} {v : Value} (h : v.isTruthy) :
    (members.lookup key).getD .null = v ↔ members.lookup key = some v := by
  cases members.lookup key with
  | none =>
    refine iff_of_false ?_ (by simp)
    rintro rfl
    cases h
  | some w => simp

lemma hasProviders_iff {members : List (String × Value)} {version providers : Value}
    (hversion : (members.lookup "version").getD .null = version)
    (hproviders : (members.lookup "providers").getD .null = providers) (given : Value) :
    HasProviders members given ↔ version.isTruthy ∧ Text.lowercase version.shown = "v1" ∧
      providers.isTruthy ∧ given = providers := by
  constructor
  · rintro ⟨⟨_, hlookup, htruthy, hlower⟩, hgiven, htrue⟩
    rw [hlookup] at hversion
    rw [hgiven] at hproviders
    cases hversion
    cases hproviders
    exact ⟨htruthy, hlower, htrue, rfl⟩
  · rintro ⟨htruthy, hlower, htrue, rfl⟩
    exact ⟨⟨version, (given_iff htruthy).mp hversion, htruthy, hlower⟩,
      (given_iff htrue).mp hproviders, htrue⟩

lemma read_object_ends (members : List (String × Value)) :
    Ends Error.failure (read (.object members)) (IsReadable members) (Escapes members) := by
  have hreadable : IsReadable members ↔ ∃ given, HasProviders members given ∧
      ∃ items, given.elements? = some items ∧ ∀ v ∈ items, Provider.IsReadable v :=
    ⟨fun ⟨hgiven, helements, h⟩ => ⟨_, hgiven, _, helements, h⟩,
      fun ⟨_, hgiven, _, helements, h⟩ => ⟨hgiven, helements, h⟩⟩
  have hescapes (kind : FaultKind) : Escapes members kind ↔ ∃ given, HasProviders members given ∧
      (given.elements? = none ∧ .wrongKind = kind ∨ ∃ items, given.elements? = some items ∧
        EscapesAmong Provider.IsReadable Provider.Escapes items kind) := by
    constructor
    · rintro (⟨hgiven, helements⟩ | ⟨hgiven, helements, h⟩)
      · exact ⟨_, hgiven, .inl ⟨helements, rfl⟩⟩
      · exact ⟨_, hgiven, .inr ⟨_, helements, h⟩⟩
    · rintro ⟨given, hgiven, ⟨helements, rfl⟩ | ⟨items, helements, h⟩⟩
      · exact .notAList hgiven helements
      · exact .provider hgiven helements h
  refine Ends.congr ?_ hreadable.symm fun kind => (hescapes kind).symm
  rw [read_object]
  generalize hversion : (members.lookup "version").getD .null = version
  generalize hproviders : (members.lookup "providers").getD .null = providers
  simp only [hasProviders_iff hversion hproviders]
  split_ifs with htruthy hlower hgiven
  · have hconfig : Error.missingVersion.failure.IsOfConfig := rfl
    simp only [Bool.not_eq_true'] at htruthy
    exact (Ends.config hconfig).congr (by simp [htruthy]) (by simp [htruthy])
  · have hconfig : (Error.unsupportedVersion (Text.lowercase version.shown)).failure.IsOfConfig :=
      rfl
    exact (Ends.config hconfig).congr (by simp [hlower]) (by simp [hlower])
  · have hconfig : Error.noProviders.failure.IsOfConfig := rfl
    simp only [Bool.not_eq_true'] at hgiven
    exact (Ends.config hconfig).congr (by simp [hgiven]) (by simp [hgiven])
  · simp only [Bool.not_eq_true', Bool.not_eq_false, not_not] at htruthy hlower hgiven
    cases helements : providers.elements? with
    | none =>
      have hfault : (Error.notAList providers).failure =
        .unexpected ⟨.wrongKind, providers.quoted ++ " is not a list"⟩ := rfl
      exact (Ends.fault hfault).congr (by simp [helements])
        (by simp [htruthy, hlower, hgiven, helements])
    | some items =>
      exact ((Ends.mapM Provider.read_ends items).map _).congr
        (by simp [htruthy, hlower, hgiven, helements])
        (by simp [htruthy, hlower, hgiven, helements])

/-- Scopes are always read with a result or a failure of the configuration. Rules, providers and
configurations are, unless they let a fault escape: actions or rules that cannot be listed, options
of a rule that are no object, an infinite port, and providers that cannot be listed, or among them
data that is no object. -/
theorem readers_areForeseen (v : Value) (members : List (String × Value)) :
    IsForeseen Scope.Invalid.failure (Scope.read v) ∧
    (IsForeseen RuleError.failure (Rule.read v) ↔ ∀ kind, ¬Rule.Escapes v kind) ∧
    (IsForeseen Error.failure (Provider.read v) ↔ ∀ kind, ¬Provider.Escapes v kind) ∧
    (IsForeseen Error.failure (read (.object members)) ↔ ∀ kind, ¬Escapes members kind) ∧
    Ends Error.failure (read (.object members)) (IsReadable members) (Escapes members) := by
  have hread := read_object_ends members
  refine ⟨?_, (Rule.read_ends v).isForeseen_iff, (Provider.read_ends v).isForeseen_iff,
    hread.isForeseen_iff, hread⟩
  exact (Scope.read_ends v).isForeseen_iff.mpr fun _ => not_false

/-- Providers that are a number, options of a rule that are a text, and an infinite port let
different faults escape. -/
theorem read_not_isForeseen :
    let infinity : Double := ⟨0x7FF0000000000000⟩
    let config (providers : Value) : Value :=
      .object [("version", .string "v1"), ("providers", providers)]
    let provider (options discovery : List (String × Value)) : Value :=
      .array [.object [("id", .string "a"), ("driver", .string "postgresql"),
        ("options", .object (("host", .string "h") :: options)),
        ("discovery", .array [.object (("schemas", .bool true) :: discovery)])]]
    ¬IsForeseen Error.failure (read (config (.int 5))) ∧
    ¬IsForeseen Error.failure (read (config (provider [] [("options", .string "x")]))) ∧
    ¬IsForeseen Error.failure
      (read (config (provider [("port", .double infinity)] []))) := by
  intro infinity config provider
  have hlist : read (config (.int 5)) = .error (.notAList (.int 5)) := by decide
  have hoptions : read (config (provider [] [("options", .string "x")])) =
      .error (.rule (.options (.string "x"))) := by decide
  have hport : read (config (provider [("port", .double infinity)] [])) =
      .error (.invalidPort (.string "a") .infinite) := by decide
  exact ⟨not_isForeseen hlist rfl, not_isForeseen hoptions rfl, not_isForeseen hport rfl⟩

end Config

end TableGateway
