import Mathlib
import TableGateway.Proofs.Inspections

/-!
# Literals as a server reads them by default

By default a server takes the characters of a literal as they stand, all but the quote. Percent signs
and backslashes that were written twice are then read as two: what is listed are the entities that
the rules would cover with both signs doubled in all their names.
-/

namespace TableGateway.Discovery

open Logic

/-! ### Reading by default -/

mutual

/-- The tokens of a text in which only quotes are written twice in a literal. -/
def standardTokens : List Char → Option (List Token)
  | [] => some []
  | ' ' :: s => standardTokens s
  | '(' :: s => (standardTokens s).map (.opening :: ·)
  | ')' :: s => (standardTokens s).map (.closing :: ·)
  | ',' :: s => (standardTokens s).map (.comma :: ·)
  | '=' :: s => (standardTokens s).map (.equals :: ·)
  | '!' :: '=' :: s => (standardTokens s).map (.differs :: ·)
  | '\'' :: s => (restOfStandardLiteral s).map fun p => .literal (String.ofList p.1) :: p.2
  | c :: s =>
    if isWordChar c then (standardTokens s).map (wordBefore c (s.head?.any isWordChar)) else none

/-- The characters up to the end of a literal, and the tokens behind it. -/
def restOfStandardLiteral : List Char → Option (List Char × List Token)
  | '\'' :: '\'' :: s => (restOfStandardLiteral s).map fun p => ('\'' :: p.1, p.2)
  | '\'' :: s => (standardTokens s).map fun ts => ([], ts)
  | c :: s => (restOfStandardLiteral s).map fun p => (c :: p.1, p.2)
  | [] => none

end

/-- A text is read by default as an expression. -/
def IsReadByDefaultAs (text : String) (e : Expression Comparison) : Prop :=
  ∃ ts ws, standardTokens text.toList = some ts ∧ words ts = some ws ∧ Reads ws e

/-! ### Signs that are doubled without need -/

/-- The percent sign and the backslash are written twice, though by default they have no meaning. -/
def isDoubledSign (c : Char) : Bool :=
  c = '%' || c = '\\'

lemma isDoubledSign_iff {c : Char} : isDoubledSign c ↔ c = '%' ∨ c = '\\' := by
  simp [isDoubledSign]

def doubledSigns (s : List Char) : List Char :=
  s.flatMap fun c => if isDoubledSign c then [c, c] else [c]

/-- A text with each percent sign and each backslash twice. -/
def doubledText (s : String) : String :=
  String.ofList (doubledSigns s.toList)

lemma doubledSigns_sign {c : Char} (hc : isDoubledSign c) (s : List Char) :
    doubledSigns (c :: s) = c :: c :: doubledSigns s := by
  simp [doubledSigns, hc]

lemma doubledSigns_plain {c : Char} (hc : isDoubledSign c = false) (s : List Char) :
    doubledSigns (c :: s) = c :: doubledSigns s := by
  simp [doubledSigns, hc]

lemma doubledSigns_append (s t : List Char) :
    doubledSigns (s ++ t) = doubledSigns s ++ doubledSigns t :=
  List.flatMap_append

lemma head?_doubledSigns (s : List Char) : (doubledSigns s).head? = s.head? := by
  cases s with
  | nil => rfl
  | cons c s =>
    cases hc : isDoubledSign c with
    | true => rw [doubledSigns_sign hc, List.head?_cons, List.head?_cons]
    | false => rw [doubledSigns_plain hc, List.head?_cons, List.head?_cons]

lemma eq_cons_of_doubledSigns {c : Char} {s t : List Char} (h : doubledSigns s = c :: t) :
    ∃ rest, s = c :: rest := by
  have hhead := head?_doubledSigns s
  rw [h, List.head?_cons] at hhead
  exact List.head?_eq_some_iff.mp hhead.symm

lemma isDoubledSign_of_isWordChar {c : Char} (h : isWordChar c) : isDoubledSign c = false := by
  cases hsign : isDoubledSign c with
  | false => rfl
  | true => rcases isDoubledSign_iff.mp hsign with rfl | rfl <;> cases h

lemma restOfLiteral_doubledSigns_cons {c : Char} (hc : c ≠ '\'') (s : List Char) :
    restOfLiteral (doubledSigns (c :: s)) =
      (restOfLiteral (doubledSigns s)).map fun p => (c :: p.1, p.2) := by
  cases hsign : isDoubledSign c with
  | true => rw [doubledSigns_sign hsign, restOfLiteral_doubled (.inr (isDoubledSign_iff.mp hsign))]
  | false =>
    rw [doubledSigns_plain hsign, restOfLiteral_plain]
    rintro (hquote | hdoubled)
    · exact hc hquote
    · rw [isDoubledSign_iff.mpr hdoubled] at hsign
      cases hsign

/-- The reading in which the signs count only when they are written twice finds them as they are
found by default. -/
lemma tokens_doubledSigns (s : List Char) : tokens (doubledSigns s) = standardTokens s := by
  -- By induction along both functions of the default reading, in the order of their equations.
  apply @standardTokens.induct
    (fun s => tokens (doubledSigns s) = standardTokens s)
    (fun s => restOfLiteral (doubledSigns s) = restOfStandardLiteral s)
  case case1 => rfl
  case case2 | case3 | case4 | case5 | case6 | case8 =>
    intro s ih
    rw [doubledSigns_plain rfl, tokens, standardTokens, ih]
  case case7 =>
    intro s ih
    rw [doubledSigns_plain rfl, doubledSigns_plain rfl, tokens, standardTokens, ih]
  case case9 =>
    intro c s _ _ _ _ _ _ _ hword ih
    rw [doubledSigns_plain (isDoubledSign_of_isWordChar hword), tokens_letter hword,
      head?_doubledSigns, ih, standardTokens, if_pos hword]
    all_goals assumption
  case case10 =>
    intro c s _ _ _ _ _ hdiffers _ hword
    -- No token begins with the character, whether it is doubled or not.
    rw [standardTokens, if_neg hword]
    · cases hsign : isDoubledSign c with
      | true =>
        rw [doubledSigns_sign hsign, tokens, if_neg hword]
        all_goals try assumption
        rintro t rfl
        cases hsign
      | false =>
        rw [doubledSigns_plain hsign, tokens, if_neg hword]
        all_goals try assumption
        intro t hc ht
        obtain ⟨rest, hs⟩ := eq_cons_of_doubledSigns ht
        exact hdiffers rest hc hs
    all_goals assumption
  case case11 =>
    intro s ih
    rw [doubledSigns_plain rfl, doubledSigns_plain rfl, restOfLiteral, restOfStandardLiteral, ih]
  case case12 =>
    intro s hend ih
    rw [doubledSigns_plain rfl, restOfLiteral, restOfStandardLiteral, ih]
    · exact hend
    · intro t ht
      obtain ⟨rest, hs⟩ := eq_cons_of_doubledSigns ht
      exact hend rest hs
  case case13 =>
    intro c s hdoubled hquote ih
    rw [restOfLiteral_doubledSigns_cons hquote, ih, restOfStandardLiteral]
    · exact hdoubled
    · exact hquote
  case case14 => rfl

/-! ### Texts with doubled signs -/

lemma toList_doubledText (s : String) : (doubledText s).toList = doubledSigns s.toList :=
  String.toList_ofList

lemma doubledText_append (s t : String) : doubledText (s ++ t) = doubledText s ++ doubledText t := by
  rw [doubledText, String.toList_append, doubledSigns_append, String.ofList_append]
  rfl

lemma doubledText_intercalate (sep : String) (parts : List String) :
    doubledText (sep.intercalate parts) = (doubledText sep).intercalate (parts.map doubledText) := by
  induction parts with
  | nil => rfl
  | cons part rest ih =>
    cases rest with
    | nil => simp
    | cons next rest =>
      rw [String.intercalate_cons_cons, doubledText_append, doubledText_append, ih]
      simp only [List.map_cons, String.intercalate_cons_cons]

lemma doubledText_eq_self {s : String} (h : ∀ c ∈ s.toList, isDoubledSign c = false) :
    doubledText s = s := by
  have hplain : doubledSigns s.toList = s.toList.flatMap fun c => [c] := by
    refine List.flatMap_congr fun c hc => ?_
    rw [if_neg (Bool.not_eq_true _ ▸ h c hc)]
  rw [doubledText, hplain, List.flatMap_singleton', String.ofList_toList]

lemma doubledText_literal (name : String) :
    doubledText (literal name) = literal (doubledText name) := by
  -- Both ways the quote is doubled once and the signs twice.
  have hchars (s : List Char) : doubledSigns (s.flatMap fun c =>
      if c = '\'' ∨ c = '%' ∨ c = '\\' then [c, c] else [c]) =
      (doubledSigns s).flatMap fun c =>
        if c = '\'' ∨ c = '%' ∨ c = '\\' then [c, c] else [c] := by
    unfold doubledSigns
    rw [List.flatMap_assoc, List.flatMap_assoc]
    refine List.flatMap_congr fun c _ => ?_
    by_cases hquote : c = '\''
    · subst hquote
      rfl
    · cases hsign : isDoubledSign c with
      | true => rcases isDoubledSign_iff.mp hsign with rfl | rfl <;> rfl
      | false =>
        have hplain : ¬(c = '\'' ∨ c = '%' ∨ c = '\\') := by
          rw [← isDoubledSign_iff, hsign]
          simp [hquote]
        simp [hplain, hsign]
  have hclosing : doubledSigns ['\''] = ['\''] := rfl
  rw [doubledText, literal, String.toList_ofList, List.cons_append, doubledSigns_plain rfl,
    doubledSigns_append, hchars, hclosing, ← toList_doubledText, literal, List.cons_append]

/-! ### Tests and rules with doubled signs -/

namespace Clause

/-- The test with doubled signs in all names. -/
def doubled : Clause → Clause
  | always => always
  | never => never
  | oneOf column names => oneOf column (names.map doubledText)
  | noneOf column names => noneOf column (names.map doubledText)
  | both a b => both a.doubled b.doubled

lemma doubled_and (a b : Clause) : (a.and b).doubled = a.doubled.and b.doubled := by
  cases a <;> cases b <;> rfl

lemma columns_doubled (c : Clause) : c.doubled.columns = c.columns := by
  induction c with
  | both a b iha ihb => rw [doubled, columns, iha, ihb, columns]
  | _ => rfl

lemma doubledText_list (names : List String) :
    doubledText (list names) = list (names.map doubledText) := by
  have hcomma : doubledText ", " = ", " := by decide
  have hliterals : (names.map literal).map doubledText = (names.map doubledText).map literal := by
    rw [List.map_map, List.map_map]
    exact List.map_congr_left fun name _ => doubledText_literal name
  rw [list, doubledText_append, doubledText_append, doubledText_intercalate, hcomma, hliterals]
  rfl

end Clause

lemma IsColumn.doubled_eq {column : String} (h : IsColumn column) : doubledText column = column :=
  doubledText_eq_self fun c hc => isDoubledSign_of_isWordChar (h.letters c hc).1

lemma Clause.doubled_text {c : Clause} (h : ∀ column ∈ c.columns, IsColumn column) :
    doubledText c.text = c.doubled.text := by
  induction c with
  | always => decide
  | never => decide
  | oneOf column names =>
    have hcolumn := (h column (by simp [columns])).doubled_eq
    cases names with
    | nil =>
      rw [text, doubledText_append, hcolumn]
      rfl
    | cons name names =>
      rw [text, doubledText_append, doubledText_append, hcolumn, doubledText_list]
      · rfl
      · simp
  | noneOf column names =>
    have hcolumn := (h column (by simp [columns])).doubled_eq
    cases names with
    | nil =>
      rw [text, doubledText_append, doubledText_append, hcolumn]
      rfl
    | cons name names =>
      rw [text, doubledText_append, doubledText_append, doubledText_append, doubledText_append,
        hcolumn, doubledText_list]
      · rfl
      · simp
  | both a b iha ihb =>
    rw [text, doubledText_append, doubledText_append,
      iha fun column hc => h column (by simp [columns, hc]),
      ihb fun column hc => h column (by simp [columns, hc])]
    rfl

lemma doubledText_textOfClauses {clauses : List Clause}
    (h : ∀ c ∈ clauses, ∀ column ∈ c.columns, IsColumn column) :
    doubledText (textOfClauses clauses) = textOfClauses (clauses.map Clause.doubled) := by
  cases clauses with
  | nil => decide
  | cons c rest =>
    have hor : doubledText " OR " = " OR " := by decide
    have htexts : ((c :: rest).map Clause.text).map doubledText =
        ((c :: rest).map Clause.doubled).map Clause.text := by
      rw [List.map_map, List.map_map]
      exact List.map_congr_left fun d hd => Clause.doubled_text (h d hd)
    change doubledText (" OR ".intercalate ((c :: rest).map Clause.text)) = _
    rw [doubledText_intercalate, hor, htexts]
    rfl

/-- A name with doubled signs. -/
def doubledName : Value → Value
  | .string s => .string (doubledText s)
  | v => v

def Scope.doubled : Scope → Scope
  | all => all
  | only names => only (names.map doubledName)
  | except names => except (names.map doubledName)

/-- The rule with doubled signs in all names. -/
def Rule.doubled (rule : Rule) : Rule :=
  { rule with
    schemas := rule.schemas.map Scope.doubled
    tables := rule.tables.map Scope.doubled
    views := rule.views.map Scope.doubled }

lemma textsOf_map_string (texts : List String) : textsOf (texts.map .string) = .ok texts := by
  have htexts : ∀ name ∈ texts.map Value.string, name.isText := by
    simp [Value.isText]
  obtain ⟨others, hothers, hequal⟩ := textsOf_of_texts htexts
  have hinjective : Function.Injective Value.string := fun s t h => Value.string.inj h
  rw [hothers, List.map_injective_iff.mpr hinjective hequal]

lemma textsOf_doubledName {names : List Value} {texts : List String}
    (hvalid : ∀ name ∈ names, name.isText) (h : textsOf names = .ok texts) :
    textsOf (names.map doubledName) = .ok (texts.map doubledText) := by
  obtain ⟨others, hothers, rfl⟩ := textsOf_of_texts hvalid
  rw [textsOf_map_string] at h
  obtain rfl := Except.ok.inj h
  rw [List.map_map]
  change textsOf (List.map (Value.string ∘ doubledText) _) = _
  rw [← List.map_map, textsOf_map_string]

lemma Clause.ofScope_doubled {column : String} {scope? : Option Scope} {c : Clause}
    (hvalid : ∀ scope ∈ scope?, scope.IsValid) (h : ofScope column scope? = .ok c) :
    ofScope column (scope?.map Scope.doubled) = .ok c.doubled := by
  match scope? with
  | none | some .all =>
    cases h
    rfl
  | some (.only names) | some (.except names) =>
    obtain ⟨texts, htexts, -⟩ := textsOf_of_texts (hvalid _ rfl)
    rw [ofScope, htexts] at h
    cases h
    rw [Option.map_some, Scope.doubled, ofScope, textsOf_doubledName (hvalid _ rfl) htexts]
    rfl

section Rules

variable {rule : Rule} {rules : List Rule} {kind : EntityKind}

lemma Rule.scope_doubled : rule.doubled.scope kind = (rule.scope kind).map Scope.doubled := by
  cases kind <;> rfl

lemma Rule.clause_doubled {c : Clause} (hvalid : rule.IsValid) (h : rule.clause kind = .ok c) :
    rule.doubled.clause kind = .ok c.doubled := by
  obtain ⟨a, ha, h⟩ := exists_of_bind_eq_ok h
  obtain ⟨b, hb, h⟩ := exists_of_bind_eq_ok h
  cases h
  have hschema : Clause.ofScope "table_schema" rule.doubled.schemas = .ok a.doubled :=
    Clause.ofScope_doubled hvalid.schemas ha
  have hname := Clause.ofScope_doubled (hvalid.scope kind) hb
  rw [← Rule.scope_doubled] at hname
  rw [Rule.clause, hschema, ok_bind, hname, ok_bind, Clause.doubled_and]
  rfl

lemma Scope.isValid_doubled {scope : Scope} (h : scope.IsValid) : scope.doubled.IsValid := by
  have htexts {names : List Value} (h : ∀ name ∈ names, name.isText) :
      ∀ name ∈ names.map doubledName, name.isText := by
    rw [List.forall_mem_map]
    intro name hname
    have htext := h name hname
    cases name with
    | string s => rfl
    | _ => cases htext
  cases scope with
  | all => trivial
  | only names | except names => exact htexts h

lemma Rule.isValid_doubled (h : rule.IsValid) : rule.doubled.IsValid := by
  have hscope {scope? : Option Scope} (h : ∀ scope ∈ scope?, scope.IsValid) :
      ∀ scope ∈ scope?.map Scope.doubled, scope.IsValid := by
    intro scope hscope
    obtain ⟨other, hother, rfl⟩ := Option.map_eq_some_iff.mp hscope
    exact Scope.isValid_doubled (h other hother)
  exact ⟨hscope h.schemas, hscope h.tables, hscope h.views⟩

lemma clauses_doubled {clauses : List Clause} (hvalid : ∀ rule ∈ rules, rule.IsValid)
    (h : rules.mapM (Rule.clause kind) = .ok clauses) :
    (rules.map Rule.doubled).mapM (Rule.clause kind) =
      .ok (clauses.map Clause.doubled) := by
  induction rules generalizing clauses with
  | nil =>
    cases h
    rfl
  | cons rule rest ih =>
    obtain ⟨hrule, hrest⟩ := List.forall_mem_cons.mp hvalid
    rw [List.mapM_cons] at h
    obtain ⟨c, hc, h⟩ := exists_of_bind_eq_ok h
    obtain ⟨others, hothers, h⟩ := exists_of_bind_eq_ok h
    cases h
    rw [List.map_cons, List.mapM_cons, Rule.clause_doubled hrule hc, ok_bind, ih hrest hothers]
    rfl

end Rules

/-- By default the text that selects entities is read as the selection with doubled signs. -/
lemma isReadByDefaultAs_selection {clauses : List Clause}
    (h : ∀ c ∈ clauses, ∀ column ∈ c.columns, IsColumn column) (e : Expression Comparison) :
    IsReadByDefaultAs (textOfClauses clauses) e ↔
      e = selection (clauses.map Clause.doubled) := by
  have hcolumns : ∀ c ∈ clauses.map Clause.doubled, ∀ column ∈ c.columns,
      IsColumn column := by
    rw [List.forall_mem_map]
    intro c hc
    rw [Clause.columns_doubled]
    exact h c hc
  rw [← isReadAs_selection hcolumns, ← doubledText_textOfClauses h, IsReadByDefaultAs, IsReadAs,
    toList_doubledText, tokens_doubledSigns]

/-- By default the condition holds for the entities that the rules with doubled signs cover. -/
lemma truth_of_isReadByDefaultAs {kind : EntityKind} {rules : List Rule} {condition : String}
    {e : Expression Comparison} (hvalid : ∀ rule ∈ rules, rule.IsValid)
    (hcondition : conditionText kind rules = .ok condition) (he : IsReadByDefaultAs condition e)
    (schema name : String) (keys : List Value) :
    e.truth (Comparison.truth (entityRow schema name)) = .true ↔
      (ruleFor? (rules.map Rule.doubled) ⟨kind, .string schema, .string name, keys⟩).isSome := by
  obtain ⟨clauses, hclauses, hcolumns, -⟩ := clauses_valid kind hvalid
  have hvalid' : ∀ rule ∈ rules.map Rule.doubled, rule.IsValid :=
    List.forall_mem_map.mpr fun rule hrule => Rule.isValid_doubled (hvalid rule hrule)
  obtain ⟨others, hothers, -, hcovered⟩ := clauses_valid kind hvalid'
  obtain rfl := Except.ok.inj (hothers.symm.trans (clauses_doubled hvalid hclauses))
  rw [conditionText, hclauses] at hcondition
  obtain rfl := Except.ok.inj hcondition
  obtain rfl := (isReadByDefaultAs_selection hcolumns e).mp he
  rw [selection_holds, hcovered, ruleFor?, List.find?_isSome]

lemma exists_isReadByDefaultAs {rules : List Rule} (kind : EntityKind)
    (hvalid : ∀ rule ∈ rules, rule.IsValid) :
    ∃ condition e, conditionText kind rules = .ok condition ∧ IsReadByDefaultAs condition e := by
  obtain ⟨clauses, hclauses, hcolumns, -⟩ := clauses_valid kind hvalid
  refine ⟨textOfClauses clauses, _, ?_, (isReadByDefaultAs_selection hcolumns _).mpr rfl⟩
  rw [conditionText, hclauses]
  rfl

/-! ### Servers -/

/-- A table or view on a server, with the row that lists it. -/
structure Stored (kind : EntityKind) where
  schema : String
  name : String
  keys : List Value
  row : Value
  isRow : Entity.ofRow kind row = .ok ⟨kind, .string schema, .string name, keys⟩

def Stored.entity {kind : EntityKind} (s : Stored kind) : Entity :=
  ⟨kind, .string s.schema, .string s.name, s.keys⟩

/-- What a server has of each kind. -/
abbrev Stock := (kind : EntityKind) → List (Stored kind)

/-- A database answers for the rules with those of its entities in whose rows the condition holds, as
it is read by default. -/
def AnswersByDefault (db : Database) (stock : Stock) (rules : List Rule) : Prop :=
  ∀ kind condition e, conditionText kind rules = .ok condition → IsReadByDefaultAs condition e →
    db.entities kind (enumerationText kind condition) = .ok (((stock kind).filter fun s =>
      e.truth (Comparison.truth (entityRow s.schema s.name)) = .true).map (·.row))

/-- The entities of a kind that rules cover. -/
def Stock.covered (stock : Stock) (rules : List Rule) (kind : EntityKind) : List (Stored kind) :=
  (stock kind).filter fun s => (ruleFor? rules s.entity).isSome

/-- All entities that rules cover, first the tables. -/
def Stock.coveredBy (stock : Stock) (rules : List Rule) : List Entity :=
  (stock.covered rules .table).map Stored.entity ++ (stock.covered rules .view).map Stored.entity

section Servers

variable {db : Database} {stock : Stock} {rules : List Rule}

lemma answersByDefault_iff (hvalid : ∀ rule ∈ rules, rule.IsValid) :
    AnswersByDefault db stock rules ↔ ∀ kind condition, conditionText kind rules = .ok condition →
      db.entities kind (enumerationText kind condition) =
        .ok ((stock.covered (rules.map Rule.doubled) kind).map (·.row)) := by
  have hfilter {kind : EntityKind} {condition : String} {e : Expression Comparison}
      (hcondition : conditionText kind rules = .ok condition) (he : IsReadByDefaultAs condition e) :
      ((stock kind).filter fun s =>
        e.truth (Comparison.truth (entityRow s.schema s.name)) = .true) =
        stock.covered (rules.map Rule.doubled) kind := by
    refine List.filter_congr fun s _ => ?_
    rw [Bool.eq_iff_iff, decide_eq_true_iff]
    exact truth_of_isReadByDefaultAs hvalid hcondition he s.schema s.name s.keys
  constructor
  · intro h kind condition hcondition
    obtain ⟨_, e, hother, he⟩ := exists_isReadByDefaultAs kind hvalid
    obtain rfl := Except.ok.inj (hcondition.symm.trans hother)
    rw [h kind condition e hcondition he, hfilter hcondition he]
  · intro h kind condition e hcondition he
    rw [h kind condition hcondition, hfilter hcondition he]

/-- The listing of a server that reads literals by default. -/
lemma exists_listing_of_answersByDefault (hvalid : ∀ rule ∈ rules, rule.IsValid)
    (h : AnswersByDefault db stock rules) :
    ∃ l : Listing db rules, l.entities = stock.coveredBy (rules.map Rule.doubled) := by
  have hanswered := (answersByDefault_iff hvalid).mp h
  have hread (kind : EntityKind) : List.Forall₂ (fun r e => Entity.ofRow r.1 r.2 = .ok e)
      ((stock.covered (rules.map Rule.doubled) kind).map fun s => (kind, s.row))
      ((stock.covered (rules.map Rule.doubled) kind).map Stored.entity) := by
    rw [List.forall₂_map_left_iff, List.forall₂_map_right_iff, List.forall₂_same]
    exact fun s _ => s.isRow
  refine ⟨⟨fun kind => (stock.covered (rules.map Rule.doubled) kind).map (·.row), _, ?_, ?_⟩, rfl⟩
  · intro kind
    obtain ⟨condition, _, hcondition, -⟩ := exists_isReadByDefaultAs kind hvalid
    exact ⟨condition, hcondition, hanswered kind condition hcondition⟩
  · rw [inTurn, List.map_map, List.map_map]
    exact List.rel_append (hread .table) (hread .view)

end Servers

/-! ### Entities that no rule covers -/

lemma ruleFor?_of_offered_eq {db : Database} {rules : List Rule} {readers : Option Value}
    {es : List Entity} {text : String} (h : offered db rules readers es = .error (.uncovered text)) :
    ∃ e ∈ es, ruleFor? rules e = none ∧ e.qualifiedName = text := by
  have hreaders : checkReaders readers ≠ .error (.uncovered text) := by
    unfold checkReaders
    split
    · simp
    · split
      · simp
      · split <;> simp
  have hdetails (e : Entity) : detailsOf db e ≠ .error (.uncovered text) := by
    unfold detailsOf
    cases db.details e.schema e.name <;> simp [Except.mapError]
  have hsource {e : Entity} {row : Value} (h : sourceOf rules e row = .error (.uncovered text)) :
      ruleFor? rules e = none ∧ e.qualifiedName = text := by
    unfold sourceOf at h
    cases hrule : ruleFor? rules e with
    | none =>
      rw [hrule] at h
      cases h
      exact ⟨rfl, rfl⟩
    | some rule =>
      rw [hrule] at h
      cases hbuilt : buildSource e row rule <;> simp [hbuilt, Except.mapError] at h
  rcases of_bind_eq_error h with hfails | ⟨_, -, h⟩
  · exact absurd hfails hreaders
  · rcases of_bind_eq_error h with hfails | ⟨details, -, h⟩
    · obtain ⟨e, -, he⟩ := exists_of_mapM_eq_error hfails
      exact absurd he (hdetails e)
    · obtain ⟨⟨e, row⟩, hmem, he⟩ := exists_of_mapM_eq_error h
      exact ⟨e, (List.of_mem_zip hmem).1, hsource he⟩

lemma Listing.ruleFor?_of_uncovered {db : Database} {rules : List Rule} (l : Listing db rules)
    (readers : Option Value) (hkeys : ∀ e ∈ l.entities, e.name.isKey) {text : String}
    (h : (inspect db rules readers).start.outcome = .error (.uncovered text)) :
    ∃ e ∈ l.entities, ruleFor? rules e = none ∧ e.qualifiedName = text := by
  by_cases hnodup : (plainNames l.entities).Nodup
  · obtain ⟨asked, hends⟩ := l.inspect_of_nodup readers hkeys hnodup
    rw [hends.start.1] at h
    exact ruleFor?_of_offered_eq h
  · rw [(l.inspect_of_clashes readers hkeys hnodup).start.1] at h
    cases h

/-- No name in the scope has a sign that is doubled. -/
def Scope.IsPlain : Scope → Prop
  | all => True
  | only names | except names => ∀ s, .string s ∈ names → ∀ c ∈ s.toList, isDoubledSign c = false

structure Rule.IsPlain (rule : Rule) : Prop where
  schemas : ∀ scope ∈ rule.schemas, scope.IsPlain
  tables : ∀ scope ∈ rule.tables, scope.IsPlain
  views : ∀ scope ∈ rule.views, scope.IsPlain

lemma Scope.doubled_eq_self {scope : Scope} (h : scope.IsPlain) : scope.doubled = scope := by
  have hnames {names : List Value}
      (h : ∀ s, .string s ∈ names → ∀ c ∈ s.toList, isDoubledSign c = false) :
      names.map doubledName = names := by
    refine (List.map_congr_left fun name hname => ?_).trans names.map_id
    cases name with
    | string s => exact congrArg Value.string (doubledText_eq_self (h s hname))
    | _ => rfl
  cases scope with
  | all => rfl
  | only names => rw [doubled, hnames h]
  | except names => rw [doubled, hnames h]

lemma Rule.doubled_eq_self {rule : Rule} (h : rule.IsPlain) : rule.doubled = rule := by
  have hscope {scope? : Option Scope} (h : ∀ scope ∈ scope?, scope.IsPlain) :
      scope?.map Scope.doubled = scope? := by
    cases scope? with
    | none => rfl
    | some scope => rw [Option.map_some, Scope.doubled_eq_self (h scope rfl)]
  rw [Rule.doubled, hscope h.schemas, hscope h.tables, hscope h.views]

/-- What is enumerated on a server that reads literals by default are the entities covered by the
rules with doubled signs, and only one of these can be reported as covered by no rule. If the names
in the rules have none of the signs, they are the entities that the rules cover, and none of them is
reported. -/
theorem enumerated_by_default {db : Database} {stock : Stock} {rules : List Rule}
    (readers : Option Value) (hvalid : ∀ rule ∈ rules, rule.IsValid)
    (hserver : AnswersByDefault db stock rules) :
    Gives (listAll db rules) (.ok (stock.coveredBy (rules.map Rule.doubled))) [] ∧
    (∀ text, (inspect db rules readers).start.outcome = .error (.uncovered text) →
      ∃ e ∈ stock.coveredBy (rules.map Rule.doubled),
        ruleFor? rules e = none ∧ e.qualifiedName = text) ∧
    ((∀ rule ∈ rules, rule.IsPlain) →
      Gives (listAll db rules) (.ok (stock.coveredBy rules)) [] ∧
      ∀ text, (inspect db rules readers).start.outcome ≠ .error (.uncovered text)) := by
  obtain ⟨l, hl⟩ := exists_listing_of_answersByDefault hvalid hserver
  have hlisted := l.gives_listAll
  have hkeys : ∀ e ∈ l.entities, e.name.isKey := by
    rw [hl]
    intro e he
    rcases List.mem_append.mp he with he | he <;> obtain ⟨s, -, rfl⟩ := List.mem_map.mp he <;> rfl
  have huncovered (text : String)
      (h : (inspect db rules readers).start.outcome = .error (.uncovered text)) :=
    l.ruleFor?_of_uncovered readers hkeys h
  rw [hl] at hlisted huncovered
  refine ⟨hlisted, huncovered, fun hplain => ?_⟩
  have hdoubled : rules.map Rule.doubled = rules :=
    (List.map_congr_left fun rule hrule => Rule.doubled_eq_self (hplain rule hrule)).trans
      rules.map_id
  rw [hdoubled] at hlisted huncovered
  refine ⟨hlisted, fun text htext => ?_⟩
  obtain ⟨e, he, hnone, -⟩ := huncovered text htext
  have hsome : (ruleFor? rules e).isSome := by
    rcases List.mem_append.mp he with he | he <;> obtain ⟨s, hs, rfl⟩ := List.mem_map.mp he <;>
      exact (List.mem_filter.mp hs).2
  rw [hnone] at hsome
  cases hsome

def storedTable (name : String) : Stored .table where
  schema := "public"
  name := name
  keys := [.string "id"]
  row := .object [("table_schema", .string "public"), ("table_name", .string name),
    ("primary_keys", .array [.string "id"])]
  isRow := rfl

def stockOf (tables : List String) : Stock
  | .table => tables.map storedTable
  | .view => []

/-- The answers of a server that selects these tables. -/
def selecting (tables : List String) : Recording where
  tables := .array (tables.map fun name => (storedTable name).row)
  details := .array (tables.map fun name =>
    .object [("schema", .string "public"), ("name", .string name)])

def onlyTable (name : String) : Rule :=
  { everything with tables := some (.only [.string name]) }

lemma onlyTable_isValid (name : String) : ∀ rule ∈ [onlyTable name], rule.IsValid := by
  rintro rule hrule
  cases List.mem_singleton.mp hrule
  constructor <;> simp [onlyTable, everything, Scope.IsValid, Value.isText]

lemma selecting_answersByDefault {rules : List Rule} {tables selected : List String}
    (hvalid : ∀ rule ∈ rules, rule.IsValid)
    (hselected : (stockOf tables).covered (rules.map Rule.doubled) .table =
      selected.map storedTable) :
    AnswersByDefault (selecting selected).database (stockOf tables) rules := by
  rw [answersByDefault_iff hvalid]
  rintro (_ | _) condition -
  · rw [hselected, List.map_map]
    rfl
  · rfl

theorem enumerated_by_default_quote :
    let rules := [onlyTable "it's: a 'b"]
    let stock := stockOf ["it's: a 'b", "its", "b"]
    let db := (selecting ["it's: a 'b"]).database
    AnswersByDefault db stock rules ∧
      stock.coveredBy rules = [⟨.table, .string "public", .string "it's: a 'b", [.string "id"]⟩] ∧
      Gives (listAll db rules) (.ok (stock.coveredBy rules)) [] ∧
      ∀ text, (inspect db rules).start.outcome ≠ .error (.uncovered text) := by
  intro rules stock db
  have hvalid : ∀ rule ∈ rules, rule.IsValid := onlyTable_isValid _
  have hserver : AnswersByDefault db stock rules := selecting_answersByDefault hvalid (by cbv)
  have hplain : ∀ rule ∈ rules, rule.IsPlain := by
    intro rule hrule
    cases List.mem_singleton.mp hrule
    constructor <;> simp [onlyTable, everything, Scope.IsPlain, isDoubledSign]
  obtain ⟨-, -, hexact⟩ := enumerated_by_default none hvalid hserver
  exact ⟨hserver, by cbv, hexact hplain⟩

/-- The condition for a table with a percent sign selects another one, which no rule covers. -/
theorem enumerated_by_default_percent :
    let rules := [onlyTable "50%"]
    let stock := stockOf ["50%", "50%%"]
    let db := (selecting ["50%%"]).database
    (∀ rule ∈ rules, rule.IsValid) ∧ AnswersByDefault db stock rules ∧
      stock.coveredBy rules = [⟨.table, .string "public", .string "50%", [.string "id"]⟩] ∧
      ¬Gives (listAll db rules) (.ok (stock.coveredBy rules)) [] ∧
      (inspect db rules).start.outcome = .error (.uncovered "public.50%%") := by
  intro rules stock db
  have hvalid : ∀ rule ∈ rules, rule.IsValid := onlyTable_isValid _
  have hserver : AnswersByDefault db stock rules := selecting_answersByDefault hvalid (by cbv)
  have hcovered : stock.coveredBy rules =
      [⟨.table, .string "public", .string "50%", [.string "id"]⟩] := by cbv
  have hlisted : stock.coveredBy (rules.map Rule.doubled) =
      [⟨.table, .string "public", .string "50%%", [.string "id"]⟩] := by cbv
  obtain ⟨l, hl⟩ := exists_listing_of_answersByDefault hvalid hserver
  refine ⟨hvalid, hserver, hcovered, fun hgives => ?_, ?_⟩
  · have hsame := (l.gives_listAll {}).1.symm.trans (hgives {}).1
    rw [hl, hlisted, hcovered] at hsame
    exact absurd hsame (by decide)
  · rfl

end TableGateway.Discovery
