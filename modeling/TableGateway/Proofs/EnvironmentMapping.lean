import Mathlib
import TableGateway.Config.Environment
import TableGateway.Proofs.ReadingConfigurations

/-!
# The configuration of an environment

The environment describes one provider. The same description can be written as data in the form of a
configuration; what is read from that data is the configuration of the environment. For this it is
said which texts are integers and which names a written list has.
-/

namespace TableGateway

namespace Text

/-! ### Integers -/

/-- An integer as it is written: groups of digits, joined by single underscores, a sign before them
and blanks around. -/
structure IntegerLiteral where
  before : List Char
  sign : List Char
  groups : List (List Char)
  after : List Char
  before_blank : ∀ c ∈ before, isNumberBlank c
  sign_eq : sign = [] ∨ sign = ['-'] ∨ sign = ['+']
  groups_ne_nil : groups ≠ []
  group_ne_nil : ∀ group ∈ groups, group ≠ []
  areDigits : ∀ group ∈ groups, ∀ c ∈ group, isDigit c
  after_blank : ∀ c ∈ after, isNumberBlank c

namespace IntegerLiteral

/-- The literal that has nothing but digits. -/
def ofDigits (digits : List Char) (hne : digits ≠ []) (h : ∀ c ∈ digits, isDigit c) :
    IntegerLiteral :=
  ⟨[], [], [digits], [], by simp, .inl rfl, by simp, by simpa using hne, by simpa using h, by simp⟩

/-- The characters behind the sign. -/
def body (l : IntegerLiteral) : List Char :=
  List.intercalate ['_'] l.groups ++ l.after

def text (l : IntegerLiteral) : String :=
  String.ofList (l.before ++ (l.sign ++ l.body))

def digits (l : IntegerLiteral) : List Char :=
  l.groups.flatten

end IntegerLiteral

lemma not_isDigit_of_isBlank {c : Char} (h : isBlank c) : isDigit c = false := by
  have hapart : ∀ r ∈ blankRanges, ∀ first ∈ digitZeros, r.2 < first ∨ first + 10 ≤ r.1 := by
    decide
  simp only [isBlank, inRanges, List.any_eq_true, Bool.and_eq_true, decide_eq_true_eq] at h
  simp only [isDigit, digit?, Option.isSome_map, List.find?_eq_none, Bool.and_eq_true,
    decide_eq_true_eq, not_and, Option.isSome_eq_false_iff, Option.isNone_iff_eq_none]
  obtain ⟨r, hr, hlow, hhigh⟩ := h
  intro first hfirst hbelow
  have := hapart r hr first hfirst
  omega

lemma isBlank_of_isNumberBlank {c : Char} (h : isNumberBlank c) : isBlank c :=
  (Bool.and_eq_true _ _ ▸ h).1

/-- No blank goes on with the digits of a number. -/
lemma not_isPart_of_isNumberBlank {c : Char} (h : isNumberBlank c) :
    (isDigit c || c == '_') = false := by
  have hc : c ≠ '_' := by
    rintro rfl
    revert h
    decide
  simp [not_isDigit_of_isBlank (isBlank_of_isNumberBlank h), hc]

lemma forall_mem_intercalate {p : Char → Prop} {sep : Char} {stretches : List (List Char)}
    (hsep : p sep) (h : ∀ s ∈ stretches, ∀ c ∈ s, p c) :
    ∀ c ∈ List.intercalate [sep] stretches, p c := by
  induction stretches with
  | nil => simp
  | cons s rest ih =>
    obtain ⟨hs, hrest⟩ := List.forall_mem_cons.mp h
    cases rest with
    | nil => simpa using hs
    | cons t rest =>
      rw [List.intercalate_cons_cons, List.append_assoc]
      exact List.forall_mem_append.mpr ⟨hs, List.forall_mem_cons.mpr ⟨hsep, ih hrest⟩⟩

section Spans

variable {p : Char → Bool} {s after : List Char}

lemma takeWhile_span (hs : ∀ c ∈ s, p c) (hafter : ∀ c ∈ after, p c = false) :
    (s ++ after).takeWhile p = s := by
  rw [List.takeWhile_append_of_pos hs]
  cases after with
  | nil => simp
  | cons c rest => simp [hafter c List.mem_cons_self]

lemma dropWhile_span (hs : ∀ c ∈ s, p c) (hafter : ∀ c ∈ after.head?, p c = false) :
    (s ++ after).dropWhile p = after := by
  rw [List.dropWhile_append_of_pos hs]
  cases after with
  | nil => rfl
  | cons c rest => simp [hafter c rfl]

end Spans

namespace IntegerLiteral

variable (l : IntegerLiteral)

lemma naturalOfText_body (text : String) :
    naturalOfText text l.body =
      if longestInteger < l.digits.length then .error (.tooLong l.digits.length)
      else .ok (decimalValue l.digits) := by
  have hpart : ∀ c ∈ List.intercalate ['_'] l.groups, (isDigit c || c == '_') :=
    forall_mem_intercalate rfl fun group hgroup c hc => by simp [l.areDigits group hgroup c hc]
  have hafter : ∀ c ∈ l.after, (isDigit c || c == '_') = false :=
    fun c hc => not_isPart_of_isNumberBlank (l.after_blank c hc)
  have hnone : ∀ group ∈ l.groups, '_' ∉ group := by
    intro group hgroup hmem
    have := l.areDigits group hgroup '_' hmem
    revert this
    decide
  have hempty : l.groups.any List.isEmpty = false := by
    simpa using l.group_ne_nil
  have hblank : l.after.all isNumberBlank := List.all_eq_true.mpr l.after_blank
  unfold naturalOfText body
  dsimp only
  rw [takeWhile_span hpart hafter,
    dropWhile_span hpart fun c hc => hafter c (List.mem_of_mem_head? hc),
    splitAt_intercalate l.groups_ne_nil hnone, hempty, hblank]
  rfl

/-- What stands behind the blanks and the sign begins with a digit. -/
lemma exists_body_eq : ∃ c rest, isDigit c ∧ l.body = c :: rest := by
  obtain ⟨first, groups, hgroups⟩ := List.exists_cons_of_ne_nil l.groups_ne_nil
  have hfirst : first ∈ l.groups := by simp [hgroups]
  obtain ⟨c, rest, rfl⟩ := List.exists_cons_of_ne_nil (l.group_ne_nil first hfirst)
  have hc := l.areDigits _ hfirst c List.mem_cons_self
  unfold body
  rw [hgroups]
  cases groups with
  | nil => exact ⟨c, rest ++ l.after, hc, by simp⟩
  | cons next groups =>
    rw [List.intercalate_cons_cons]
    exact ⟨c, _, hc, rfl⟩

lemma dropWhile_text : l.text.toList.dropWhile isNumberBlank = l.sign ++ l.body := by
  unfold text
  rw [String.toList_ofList]
  refine dropWhile_span l.before_blank ?_
  have hminus : isNumberBlank '-' = false := by decide
  have hplus : isNumberBlank '+' = false := by decide
  obtain ⟨c, rest, hc, hbody⟩ := l.exists_body_eq
  have hdigit : isNumberBlank c = false := by
    by_contra hblank
    have := not_isDigit_of_isBlank (isBlank_of_isNumberBlank (Bool.of_not_eq_false hblank))
    simp [this] at hc
  rcases l.sign_eq with hsign | hsign | hsign <;> simp [hsign, hbody, hminus, hplus, hdigit]

lemma integerOfText_eq_map :
    ∃ f : Nat → Int, integerOfText l.text = (naturalOfText l.text l.body).map f := by
  unfold integerOfText
  rw [dropWhile_text]
  rcases l.sign_eq with hsign | hsign | hsign
  · obtain ⟨c, rest, hc, hbody⟩ := l.exists_body_eq
    have hminus : c ≠ '-' := by
      rintro rfl
      exact absurd hc (by decide)
    have hplus : c ≠ '+' := by
      rintro rfl
      exact absurd hc (by decide)
    refine ⟨Int.ofNat, ?_⟩
    simp [hsign, hbody, hminus, hplus]
  · refine ⟨fun n => -n, ?_⟩
    rw [hsign]
    change Except.map _ (naturalOfText l.text l.body >>= _) = _
    cases naturalOfText l.text l.body <;> rfl
  · rw [hsign]
    exact ⟨Int.ofNat, rfl⟩

/-- A literal with too many digits is refused. -/
lemma integerOfText_of_long (h : longestInteger < l.digits.length) :
    integerOfText l.text = .error (.tooLong l.digits.length) := by
  obtain ⟨f, hf⟩ := l.integerOfText_eq_map
  rw [hf, naturalOfText_body, if_pos h]
  rfl

lemma exists_integerOfText_eq_ok (h : l.digits.length ≤ longestInteger) :
    ∃ n, integerOfText l.text = .ok n := by
  obtain ⟨f, hf⟩ := l.integerOfText_eq_map
  rw [hf, naturalOfText_body, if_neg (not_lt.mpr h)]
  exact ⟨_, rfl⟩

end IntegerLiteral

lemma mem_of_mem_splitAt {sep c : Char} {s stretch : List Char} (h : stretch ∈ splitAt sep s)
    (hc : c ∈ stretch) : c ∈ s := by
  have hjoined (stretches : List (List Char)) (h : stretch ∈ stretches) :
      c ∈ List.intercalate [sep] stretches := by
    induction stretches with
    | nil => cases h
    | cons first rest ih =>
      cases rest with
      | nil =>
        rw [List.mem_singleton.mp h] at hc
        simpa using hc
      | cons second rest =>
        rw [List.intercalate_cons_cons, List.append_assoc, List.mem_append]
        rcases List.mem_cons.mp h with rfl | h
        · exact .inl hc
        · exact .inr (List.mem_append_right _ (ih h))
  rw [← intercalate_splitAt sep s]
  exact hjoined _ h

/-- What is read as a natural number is the part of a literal behind its sign. -/
lemma exists_literal_of_naturalOfText {text : String} {before sign s : List Char} {n : Nat}
    (hbefore : ∀ c ∈ before, isNumberBlank c) (hsign : sign = [] ∨ sign = ['-'] ∨ sign = ['+'])
    (h : naturalOfText text s = .ok n) :
    ∃ l : IntegerLiteral, l.text = String.ofList (before ++ (sign ++ s)) ∧
      l.digits.length ≤ longestInteger := by
  unfold naturalOfText at h
  dsimp only at h
  split_ifs at h with hempty hlong hblank
  have hdigits : ∀ group ∈ splitAt '_' (s.takeWhile fun c => isDigit c || c == '_'),
      ∀ c ∈ group, isDigit c := by
    intro group hgroup c hc
    have hne : c ≠ '_' := by
      rintro rfl
      exact not_mem_of_mem_splitAt hgroup hc
    simpa [hne] using List.mem_takeWhile_imp (mem_of_mem_splitAt hgroup hc)
  have hbody : List.intercalate ['_'] (splitAt '_' (s.takeWhile fun c => isDigit c || c == '_')) ++
      s.dropWhile (fun c => isDigit c || c == '_') = s := by
    rw [intercalate_splitAt, List.takeWhile_append_dropWhile]
  refine ⟨⟨before, sign, _, _, hbefore, hsign, splitAt_ne_nil '_' _, ?_, hdigits,
    List.all_eq_true.mp hblank⟩, ?_, not_lt.mp hlong⟩
  · rintro group hgroup rfl
    exact hempty (List.any_eq_true.mpr ⟨[], hgroup, rfl⟩)
  · unfold IntegerLiteral.text IntegerLiteral.body
    rw [hbody]

lemma exists_of_map_eq_ok {ε α β : Type} {x : Except ε α} {f : α → β} {b : β}
    (h : x.map f = .ok b) : ∃ a, x = .ok a := by
  cases x with
  | error e => cases h
  | ok a => exact ⟨a, rfl⟩

/-- Exactly the literals of at most so many digits are read as integers. -/
lemma exists_integerOfText_eq_ok_iff {text : String} :
    (∃ n, integerOfText text = .ok n) ↔
      ∃ l : IntegerLiteral, l.text = text ∧ l.digits.length ≤ longestInteger := by
  constructor
  · rintro ⟨n, h⟩
    obtain ⟨sign, s, m, hsign, hs, hm⟩ : ∃ sign s m, (sign = [] ∨ sign = ['-'] ∨ sign = ['+']) ∧
        text.toList.dropWhile isNumberBlank = sign ++ s ∧ naturalOfText text s = .ok m := by
      unfold integerOfText at h
      split at h
      · next s hs =>
        obtain ⟨_, hm⟩ := exists_of_map_eq_ok h
        obtain ⟨m, hm, -⟩ := exists_of_bind_eq_ok hm
        exact ⟨['-'], s, m, by simp, hs, hm⟩
      · next s hs =>
        obtain ⟨m, hm⟩ := exists_of_map_eq_ok h
        exact ⟨['+'], s, m, by simp, hs, hm⟩
      · obtain ⟨m, hm⟩ := exists_of_map_eq_ok h
        exact ⟨[], _, m, by simp, rfl, hm⟩
    have hbefore : ∀ c ∈ text.toList.takeWhile isNumberBlank, isNumberBlank c :=
      fun c hc => List.mem_takeWhile_imp hc
    obtain ⟨l, hl, hshort⟩ := exists_literal_of_naturalOfText hbefore hsign hm
    rw [← hs, List.takeWhile_append_dropWhile, String.ofList_toList] at hl
    exact ⟨l, hl, hshort⟩
  · rintro ⟨l, rfl, hshort⟩
    exact l.exists_integerOfText_eq_ok hshort

/-! ### Lists of names -/

/-- A name as it can stand in a written list: it is not empty, has no comma and neither begins nor
ends with a blank. -/
structure IsListable (name : String) : Prop where
  ne_nil : name.toList ≠ []
  noComma : ',' ∉ name.toList
  first : ∀ c ∈ name.toList.head?, isBlank c = false
  last : ∀ c ∈ name.toList.getLast?, isBlank c = false

/-- Names are written as the items of a list, with blanks around them and between them items that
are empty or blank. -/
inductive AreItems : List (List Char) → List String → Prop
  | nil : AreItems [] []
  | blank {item : List Char} {items : List (List Char)} {names : List String}
    (item_blank : ∀ c ∈ item, isBlank c) (rest : AreItems items names) :
    AreItems (item :: items) names
  | name {before after : List Char} {name : String} {items : List (List Char)}
    {names : List String} (before_blank : ∀ c ∈ before, isBlank c) (listable : IsListable name)
    (after_blank : ∀ c ∈ after, isBlank c) (rest : AreItems items names) :
    AreItems ((before ++ name.toList ++ after) :: items) (name :: names)

/-- The names of a written list, in which commas separate the items. -/
def IsListOf (text : String) (names : List String) : Prop :=
  ∃ items, AreItems items names ∧ text.toList = List.intercalate [','] items

lemma trimStart_span {before s : List Char} (hbefore : ∀ c ∈ before, isBlank c)
    (hs : ∀ c ∈ s.head?, isBlank c = false) : trimStart (before ++ s) = s :=
  dropWhile_span hbefore hs

lemma trim_blank {s : List Char} (h : ∀ c ∈ s, isBlank c) : trim s = [] := by
  have hstart : trimStart s = [] := by simpa using trimStart_span (s := []) h (by simp)
  rw [trim, hstart]
  rfl

/-- The blanks around a name are removed, and nothing else. -/
lemma IsListable.trim_eq {name : String} (h : IsListable name) {before after : List Char}
    (hbefore : ∀ c ∈ before, isBlank c) (hafter : ∀ c ∈ after, isBlank c) :
    trim (before ++ name.toList ++ after) = name.toList := by
  have hstart : trimStart (before ++ (name.toList ++ after)) = name.toList ++ after := by
    refine trimStart_span hbefore ?_
    rw [List.head?_append_of_ne_nil _ h.ne_nil]
    exact h.first
  have hend : trimStart (after.reverse ++ name.toList.reverse) = name.toList.reverse := by
    refine trimStart_span (by simpa using hafter) ?_
    rw [List.head?_reverse]
    exact h.last
  rw [trim, List.append_assoc, hstart, List.reverse_append, hend, List.reverse_reverse]

lemma AreItems.noComma {items : List (List Char)} {names : List String} (h : AreItems items names) :
    ∀ item ∈ items, ',' ∉ item := by
  have hblank {s : List Char} (hs : ∀ c ∈ s, isBlank c) : ',' ∉ s := by
    intro hmem
    have := hs _ hmem
    revert this
    decide
  induction h with
  | nil => simp
  | blank hitem _ ih => exact List.forall_mem_cons.mpr ⟨hblank hitem, ih⟩
  | name hbefore hname hafter _ ih =>
    refine List.forall_mem_cons.mpr ⟨?_, ih⟩
    simp [hblank hbefore, hname.noComma, hblank hafter]

lemma AreItems.names_eq {items : List (List Char)} {names : List String}
    (h : AreItems items names) : ((items.map trim).filter (· ≠ [])).map String.ofList = names := by
  induction h with
  | nil => rfl
  | blank hitem _ ih => simpa [trim_blank hitem] using ih
  | name hbefore hname hafter _ ih =>
    have hkept := hname.ne_nil
    rw [List.map_cons, hname.trim_eq hbefore hafter, List.filter_cons_of_pos (by simpa using hkept),
      List.map_cons, ih, String.ofList_toList]

end Text

namespace Config

/-- The names of a written list are found again, in order. -/
lemma namesOfText_eq {text : String} {names : List String} (h : Text.IsListOf text names) :
    namesOfText text = names := by
  obtain ⟨items, hitems, htext⟩ := h
  unfold namesOfText
  rw [htext]
  cases items with
  | nil =>
    cases hitems
    rfl
  | cons first rest =>
    rw [Text.splitAt_intercalate (List.cons_ne_nil first rest) hitems.noComma]
    exact hitems.names_eq

/-! ### The environment as data -/

/-- The options of a provider and the variables that they are taken from. -/
def environmentVariables : List (String × String) :=
  [("host", "POSTGRES_HOST"), ("port", "POSTGRES_PORT"), ("user", "POSTGRES_USER"),
   ("password", "POSTGRES_PASSWORD"), ("database", "POSTGRES_DB")]

/-- The options whose variables are set. -/
def environmentOptions (env : Environment) : List (String × Value) :=
  environmentVariables.filterMap fun p => (env.lookup p.2).map fun text => (p.1, .string text)

/-- The schemas that are given, or else those that are listed in the environment. -/
def environmentSchemas (env : Environment) (given : Option (List String)) : List String :=
  given.getD <|
    match env.lookup "HYPERGRES_SCHEMAS" with
    | none => ["public"]
    | some text => namesOfText text

def environmentStrictNumbers (env : Environment) (given : Option Bool) : Bool :=
  given.getD (isSwitchedOn ((env.lookup "HYPERGRES_STRICT_NUMBERS").getD ""))

/-- The data that describes all tables and views of some schemas. -/
def describedRule (schemas : List String) (strictNumbers : Bool) : Value :=
  .object [
    ("schemas", .object [("only", .array (schemas.map .string))]),
    ("tables", .bool true),
    ("views", .bool true),
    ("options", .object [("strictNumbers", .bool strictNumbers)])]

/-- The data that describes the default provider with its options and one rule. -/
def describedProvider (options : List (String × Value)) (rule : Value) : Value :=
  .object [
    ("id", .string "default"),
    ("driver", .string "postgresql"),
    ("options", .object options),
    ("discovery", .array [rule])]

/-- The data in the form of a configuration that describes the environment, with schemas and the
strictness of numbers. -/
def described (env : Environment) (schemas : List String) (strictNumbers : Bool) : Value :=
  .object [
    ("version", .string "v1"),
    ("providers", .array [
      describedProvider (environmentOptions env) (describedRule schemas strictNumbers)])]

/-- The rule that discovers all tables and views of some schemas. -/
def defaultRule (schemas : List String) (strictNumbers : Bool) : Discovery.Rule :=
  { schemas := some (.only (schemas.map .string)), tables := some .all, views := some .all,
    actions := Discovery.defaultActions, strictNumbers := .bool strictNumbers }

def defaultProvider (connection : Connection) (rule : Discovery.Rule) : Provider :=
  ⟨.string "default", .string "postgresql", connection, [rule]⟩

variable {env : Environment}

lemma lookup_environmentOptions (key name : String) (h : (key, name) ∈ environmentVariables) :
    (environmentOptions env).lookup key = (env.lookup name).map .string := by
  have hnodup : (environmentVariables.map Prod.fst).Nodup := by decide
  unfold environmentOptions
  generalize environmentVariables = pairs at h hnodup
  induction pairs with
  | nil => cases h
  | cons first rest ih =>
    obtain ⟨hfirst, hnodup⟩ := List.nodup_cons.mp hnodup
    rcases List.mem_cons.mp h with rfl | h
    · cases hvalue : env.lookup name with
      | none =>
        -- no later option has the key
        refine List.lookup_eq_none_iff.mpr fun p hp => ?_
        simp only [List.filterMap_cons, hvalue, Option.map_none, List.mem_filterMap,
          Option.map_eq_some_iff] at hp
        obtain ⟨q, hq, text, -, rfl⟩ := hp
        have hne : key ≠ q.1 := by
          rintro rfl
          exact hfirst (List.mem_map.mpr ⟨q, hq, rfl⟩)
        simpa using hne
      | some text => simp [hvalue]
    · have hne : key ≠ first.1 := by
        rintro rfl
        exact hfirst (List.mem_map.mpr ⟨_, h, rfl⟩)
      rw [← ih h hnodup, List.filterMap_cons]
      cases env.lookup first.2 with
      | none => rfl
      | some text => rw [Option.map_some, List.lookup_cons, beq_false_of_ne hne]

lemma read_describedRule (schemas : List String) (strictNumbers : Bool) :
    Discovery.Rule.read (describedRule schemas strictNumbers) =
      .ok (defaultRule schemas strictNumbers) := by
  have hnames := Discovery.Scope.names?_eq_some.mpr ⟨schemas, rfl, rfl⟩
  have hscope : Discovery.Scope.read (.object [("only", .array (schemas.map .string))]) =
      .ok (some (.only (schemas.map .string))) := by
    simp [Discovery.Scope.read, hnames]
  unfold describedRule
  rw [Discovery.Rule.read_object rfl]
  simp only [Discovery.Rule.readScope, hscope]
  rfl

lemma read_of_hasProviders {members : List (String × Value)} {items : List Value}
    (h : HasProviders members (.array items)) :
    read (.object members) = (⟨·, "v1"⟩) <$> items.mapM Provider.read := by
  obtain ⟨⟨version, hversion, htruthy, hlower⟩, hproviders, hgiven⟩ := h
  rw [read_object]
  simp only [hversion, hproviders, Option.getD_some, htruthy, hlower, hgiven, Value.elements?]
  rfl

lemma read_provider {options : List (String × Value)} {host rule : Value}
    (h : options.lookup "host" = some host) {r : Discovery.Rule}
    (hrule : Discovery.Rule.read rule = .ok r) :
    Provider.read (describedProvider options rule) =
      (((options.lookup "port").getD (.int 5432)).toInteger).mapError
          (.invalidPort (.string "default")) >>= fun port =>
        .ok (defaultProvider ⟨host, .int port, (options.lookup "user").getD .null,
          (options.lookup "password").getD .null, (options.lookup "database").getD .null⟩ r) := by
  have hrules : readRules (.array [rule]) = .ok [r] := by
    simp only [readRules, Value.elements?, List.mapM_cons, List.mapM_nil, hrule]
    rfl
  have hhost : (Value.object options).get? "host" = some host := h
  have hparts : Provider.HasParts (describedProvider options rule) := by
    simp [describedProvider, Provider.HasParts, Provider.parts, List.lookup]
  refine (Provider.read_of_hasParts hparts (rfl : _ = some (Value.object options))).trans ?_
  simp only [hhost]
  change (_ >>= fun port => readRules (.array [rule]) >>= _) = _
  rw [hrules]
  rfl

/-- The port that the environment gives, or the default one. -/
def environmentPort (env : Environment) : Except IntegerError Int :=
  (((env.lookup "POSTGRES_PORT").map Value.string).getD (.int 5432)).toInteger

/-- The configuration of an environment with a host and a port. -/
def environmentConfig (env : Environment) (host : String) (rule : Discovery.Rule) (port : Int) :
    Config :=
  let given (name : String) : Value := ((env.lookup name).map Value.string).getD .null
  ⟨[defaultProvider ⟨.string host, .int port, given "POSTGRES_USER", given "POSTGRES_PASSWORD",
    given "POSTGRES_DB"⟩ rule], "v1"⟩

section Host

variable {host : String} (h : env.lookup "POSTGRES_HOST" = some host)

include h

lemma read_described (schemas : List String) (strictNumbers : Bool) :
    read (described env schemas strictNumbers) =
      environmentConfig env host (defaultRule schemas strictNumbers) <$>
        (environmentPort env).mapError (.invalidPort (.string "default")) := by
  have hlookup := @lookup_environmentOptions env
  have hhost := hlookup "host" "POSTGRES_HOST" (by decide)
  have hport := hlookup "port" "POSTGRES_PORT" (by decide)
  have huser := hlookup "user" "POSTGRES_USER" (by decide)
  have hpassword := hlookup "password" "POSTGRES_PASSWORD" (by decide)
  have hdatabase := hlookup "database" "POSTGRES_DB" (by decide)
  rw [h] at hhost
  have hlower : Text.lowercase (Value.string "v1").shown = "v1" := by decide
  unfold described environmentPort
  rw [read_of_hasProviders ⟨⟨.string "v1", rfl, rfl, hlower⟩, rfl, rfl⟩, List.mapM_cons,
    List.mapM_nil, read_provider hhost (read_describedRule schemas strictNumbers), hport, huser,
    hpassword, hdatabase]
  cases (((env.lookup "POSTGRES_PORT").map Value.string).getD (.int 5432)).toInteger <;> rfl

lemma ofEnvironment_of_host (hne : host ≠ "") (schemas : Option (List String))
    (strictNumbers : Option Bool) :
    ofEnvironment env (schemas.map fun names => .array (names.map .string))
        (strictNumbers.map .bool) =
      environmentConfig env host (defaultRule (environmentSchemas env schemas)
          (environmentStrictNumbers env strictNumbers)) <$>
        (environmentPort env).mapError .invalidPortVariable := by
  have hschemas : ((schemas.map fun names => Value.array (names.map .string)).getD
      (.array ((namesOfText ((env.lookup "HYPERGRES_SCHEMAS").getD "public")).map .string))) =
      .array ((environmentSchemas env schemas).map .string) := by
    unfold environmentSchemas
    cases schemas with
    | some names => rfl
    | none =>
      cases env.lookup "HYPERGRES_SCHEMAS" with
      | none => decide
      | some text => rfl
  have hstrict : ((strictNumbers.map Value.bool).getD
      (.bool (isSwitchedOn ((env.lookup "HYPERGRES_STRICT_NUMBERS").getD "")))) =
      .bool (environmentStrictNumbers env strictNumbers) := by
    cases strictNumbers <;> rfl
  unfold ofEnvironment environmentPort
  rw [hschemas, hstrict, h]
  simp only [Option.getD_some, if_neg hne, Value.elements?]
  cases env.lookup "POSTGRES_PORT" <;> rfl

end Host

/-- Whether the environment names a host. -/
def HasHost (env : Environment) : Prop :=
  ∃ host, env.lookup "POSTGRES_HOST" = some host ∧ host ≠ ""

/-- The port, if the environment gives one, is written as an integer of at most so many digits. -/
def HasPort (env : Environment) : Prop :=
  ∀ text, env.lookup "POSTGRES_PORT" = some text →
    ∃ l : Text.IntegerLiteral, l.text = text ∧ l.digits.length ≤ longestInteger

lemma exists_environmentPort_eq_ok_iff : (∃ n, environmentPort env = .ok n) ↔ HasPort env := by
  unfold environmentPort HasPort
  cases env.lookup "POSTGRES_PORT" with
  | none => simp [Value.toInteger]
  | some text =>
    simp only [Option.some.injEq, forall_eq', ← Text.exists_integerOfText_eq_ok_iff]
    rfl

lemma ofEnvironment_of_not_hasHost (h : ¬HasHost env) (schemas strictNumbers : Option Value) :
    ofEnvironment env schemas strictNumbers = .error .unsetHost := by
  have hhost : (env.lookup "POSTGRES_HOST").getD "" = "" := by
    by_contra hne
    cases hlookup : env.lookup "POSTGRES_HOST" with
    | none => simp [hlookup] at hne
    | some host => exact h ⟨host, hlookup, by simpa [hlookup] using hne⟩
  unfold ofEnvironment
  simp only [hhost, if_true]
  rfl

/-- The environment describes a configuration exactly if it names a host, and a port that is an
integer or none. It is the configuration that is read from the data with the same values. A written
list of schemas is read as the schemas it lists. -/
theorem ofEnvironment_eq_read (env : Environment) (schemas : Option (List String))
    (strictNumbers : Option Bool) :
    let config := ofEnvironment env (schemas.map fun names => .array (names.map .string))
      (strictNumbers.map .bool)
    ((∃ c, config = .ok c) ↔ HasHost env ∧ HasPort env) ∧
      (∀ c, config = .ok c → read (described env (environmentSchemas env schemas)
        (environmentStrictNumbers env strictNumbers)) = .ok c) ∧
      ∀ text names, env.lookup "HYPERGRES_SCHEMAS" = some text → Text.IsListOf text names →
        environmentSchemas env none = names := by
  intro config
  have hlisted (text : String) (names : List String)
      (hlookup : env.lookup "HYPERGRES_SCHEMAS" = some text) (h : Text.IsListOf text names) :
      environmentSchemas env none = names := by
    unfold environmentSchemas
    rw [hlookup]
    exact namesOfText_eq h
  by_cases hhost : HasHost env
  · obtain ⟨host, hlookup, hne⟩ := hhost
    have hconfig : config = _ := ofEnvironment_of_host hlookup hne schemas strictNumbers
    have hread := read_described hlookup (environmentSchemas env schemas)
      (environmentStrictNumbers env strictNumbers)
    rw [hconfig, hread, ← exists_environmentPort_eq_ok_iff]
    cases environmentPort env with
    | error e =>
      refine ⟨iff_of_false ?_ ?_, ?_, hlisted⟩
      · rintro ⟨c, hc⟩
        cases hc
      · rintro ⟨-, n, hn⟩
        cases hn
      · intro c hc
        cases hc
    | ok port =>
      exact ⟨iff_of_true ⟨_, rfl⟩ ⟨⟨host, hlookup, hne⟩, port, rfl⟩, fun _ hc => hc, hlisted⟩
  · have hconfig : config = .error .unsetHost := ofEnvironment_of_not_hasHost hhost _ _
    rw [hconfig]
    exact ⟨by simp [hhost], by simp, hlisted⟩

/-- An underscore between digits and a sign are allowed in a port, and a blank item among names. -/
theorem ofEnvironment_eq_read_listed :
    let env := [("POSTGRES_HOST", "h"), ("POSTGRES_PORT", " +6_543"),
      ("HYPERGRES_SCHEMAS", "\ta , ,b")]
    Text.IsListOf "\ta , ,b" ["a", "b"] ∧
      ∃ c, ofEnvironment env none none = .ok c ∧ read (described env ["a", "b"] false) = .ok c := by
  intro env
  have hlist : Text.IsListOf "\ta , ,b" ["a", "b"] := by
    have ha : Text.IsListable "a" := ⟨by decide, by decide, by simp; decide, by simp; decide⟩
    have hb : Text.IsListable "b" := ⟨by decide, by decide, by simp; decide, by simp; decide⟩
    have htab : ∀ c ∈ ['\t'], Text.isBlank c := List.forall_mem_singleton.mpr (by decide)
    have hblank : ∀ c ∈ [' '], Text.isBlank c := List.forall_mem_singleton.mpr (by decide)
    have hitems : Text.AreItems [['\t'] ++ ['a'] ++ [' '], [' '], [] ++ ['b'] ++ []] ["a", "b"] :=
      .name htab ha hblank (.blank hblank (.name (by simp) hb (by simp) .nil))
    exact ⟨_, hitems, by decide⟩
  have hport : HasPort env := by
    have hdigits : ∀ group ∈ [['6'], ['5', '4', '3']], ∀ c ∈ group, Text.isDigit c := by
      simp
      decide
    let l : Text.IntegerLiteral := ⟨[' '], ['+'], [['6'], ['5', '4', '3']], [],
      List.forall_mem_singleton.mpr (by decide), by decide, by decide, by simp, hdigits, by simp⟩
    intro text htext
    cases htext
    exact ⟨l, rfl, by simp [l, Text.IntegerLiteral.digits, longestInteger]⟩
  obtain ⟨hok, hread, hlisted⟩ := ofEnvironment_eq_read env none none
  obtain ⟨c, hc⟩ := hok.mpr ⟨⟨"h", rfl, by decide⟩, hport⟩
  have hsame := hread c hc
  rw [hlisted "\ta , ,b" ["a", "b"] rfl hlist] at hsame
  exact ⟨hlist, c, hc, hsame⟩

lemma ofEnvironment_of_longPort {l : Text.IntegerLiteral} (h : longestInteger < l.digits.length) :
    ofEnvironment [("POSTGRES_HOST", "h"), ("POSTGRES_PORT", l.text)] none none =
      .error (.invalidPortVariable (.tooLong l.digits.length)) := by
  have hport : environmentPort [("POSTGRES_HOST", "h"), ("POSTGRES_PORT", l.text)] =
      .error (.tooLong l.digits.length) := l.integerOfText_of_long h
  refine (ofEnvironment_of_host rfl (by decide) none none).trans ?_
  rw [hport]
  rfl

/-- Zeros before a port count as digits, so that a small number may be refused. -/
theorem ofEnvironment_longPort :
    ∃ l : Text.IntegerLiteral, l.text = String.ofList (List.replicate 4297 '0' ++ "5432".toList) ∧
      ofEnvironment [("POSTGRES_HOST", "h"), ("POSTGRES_PORT", l.text)] none none =
        .error (.invalidPortVariable (.tooLong 4301)) := by
  have hlast : "5432".toList.all Text.isDigit := by decide
  generalize hzeros : List.replicate 4297 '0' = zeros
  have hdigits : ∀ c ∈ zeros ++ "5432".toList, Text.isDigit c := by
    intro c hc
    rcases List.mem_append.mp hc with hc | hc
    · rw [← hzeros] at hc
      rw [List.eq_of_mem_replicate hc]
      decide
    · exact List.all_eq_true.mp hlast c hc
  let l := Text.IntegerLiteral.ofDigits (zeros ++ "5432".toList) (by simp) hdigits
  have hlength : l.digits.length = 4301 := by
    have hcount : zeros.length = 4297 := by rw [← hzeros, List.length_replicate]
    simp [l, Text.IntegerLiteral.ofDigits, Text.IntegerLiteral.digits, hcount]
  refine ⟨l, ?_, ?_⟩
  · simp [l, Text.IntegerLiteral.ofDigits, Text.IntegerLiteral.text, Text.IntegerLiteral.body]
  · rw [← hlength]
    exact ofEnvironment_of_longPort (by rw [hlength]; decide)

end Config

end TableGateway
