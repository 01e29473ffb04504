import Mathlib
import TableGateway.Discovery.Inspection
import TableGateway.Proofs.Outcomes
import TableGateway.Proofs.SqlReading

/-!
# What is selected

The text that asks for entities selects exactly those that some rule covers. Read again, it is the
disjunction of the tests of the rules, and each name in it is one literal, whatever characters it
has.
-/

namespace TableGateway.Discovery

open Logic

/-! ### The tests of rules as expressions -/

namespace Clause

/-- What a test joins by `AND`. -/
def operands : Clause → List (Expression Comparison)
  | always => [.constant true]
  | never => [.constant false]
  | oneOf column [] => [.atom (.isIn column [.null]), .atom (.differ 1 1)]
  | oneOf column names => [.atom (.isIn column (names.map .text))]
  | noneOf column [] => [.joined .or (.atom (.isNotIn column [.null])) (.atom (.equal 1 1))]
  | noneOf column names => [.atom (.isNotIn column (names.map .text))]
  | both a b => a.operands ++ b.operands

def expression (c : Clause) : Expression Comparison :=
  .several .and c.operands

/-- The words of what a test joins by `AND`. -/
def operandWords : Clause → List (List (Word Comparison))
  | always => [[.constant true]]
  | never => [[.constant false]]
  | oneOf column [] =>
    [[.atom (.isIn column [.null])], [.opening, .atom (.differ 1 1), .closing]]
  | oneOf column names => [[.atom (.isIn column (names.map .text))]]
  | noneOf column [] =>
    [[.opening, .atom (.isNotIn column [.null]), .connective .or, .opening, .atom (.equal 1 1),
      .closing, .closing]]
  | noneOf column names => [[.opening, .atom (.isNotIn column (names.map .text)), .closing]]
  | both a b => a.operandWords ++ b.operandWords

lemma operands_ne_nil (c : Clause) : c.operands ≠ [] := by
  induction c with
  | oneOf _ names => cases names <;> simp [operands]
  | noneOf _ names => cases names <;> simp [operands]
  | both a b iha _ => simp [operands, iha]
  | _ => simp [operands]

lemma derives_operands (c : Clause) :
    List.Forall₂ (Derives .operand) c.operandWords c.operands := by
  induction c with
  | always => exact .cons (.constant true) .nil
  | never => exact .cons (.constant false) .nil
  | oneOf column names =>
    cases names with
    | nil => exact .cons (.atom _) (.cons (Derives.atom _).reads.group .nil)
    | cons => exact .cons (.atom _) .nil
  | noneOf column names =>
    cases names with
    | nil =>
      have hequal : Derives .operand [Word.opening, .atom (Comparison.equal 1 1), .closing]
        (.atom (.equal 1 1)) := (Derives.atom _).reads.group
      have hor := Derives.join (Derives.atom (Comparison.isNotIn column [.null])).reads
        (hequal.tighter .or)
      exact .cons hor.group .nil
    | cons => exact .cons (Derives.atom _).reads.group .nil
  | both a b iha ihb => exact List.rel_append iha ihb

def words (c : Clause) : List (Word Comparison) :=
  List.intercalate [.connective .and] c.operandWords

lemma derives (c : Clause) : Derives (.joined .and) c.words c.expression :=
  Derives.several c.operands_ne_nil c.derives_operands

end Clause

/-- The expression that selects what meets one of several tests. -/
def selection (clauses : List Clause) : Expression Comparison :=
  .several .or (clauses.map Clause.expression)

/-! ### The tests of rules as texts -/

/-- Wherever it stands, a text is read as the given words. -/
def Writes (s : List Char) (ws : List (Word Comparison)) : Prop :=
  ∃ ts, (∀ rest, IsBoundary rest → tokens (s ++ rest) = (tokens rest).map (ts ++ ·)) ∧
    ∀ rest, words (ts ++ rest) = (words rest).map (ws ++ ·)

def connectiveText : Connective → List Char
  | .and => [' ', 'A', 'N', 'D', ' ']
  | .or => [' ', 'O', 'R', ' ']

lemma Writes.connective {s t : List Char} {ws vs : List (Word Comparison)} (c : Connective)
    (hs : Writes s ws) (ht : Writes t vs) :
    Writes (s ++ connectiveText c ++ t) (ws ++ .connective c :: vs) := by
  obtain ⟨ts, hs, hws⟩ := hs
  obtain ⟨us, ht, hvs⟩ := ht
  -- On both sides of a connective there is a blank, so no word runs into it.
  let keyword : List Char := match c with
    | .and => ['a', 'n', 'd']
    | .or => ['o', 'r']
  have hkeyword (rest : List Char) :
      tokens (connectiveText c ++ rest) = (tokens rest).map (.word keyword :: ·) := by
    cases c <;> simp [connectiveText, tokens, isWordChar, keyword] <;> cases tokens rest <;> rfl
  have hboundary (rest : List Char) : IsBoundary (connectiveText c ++ rest) := by
    rintro d hd
    cases c <;> cases hd <;> decide
  refine ⟨ts ++ .word keyword :: us, ?_, ?_⟩
  · intro rest hrest
    rw [List.append_assoc, List.append_assoc, hs _ (hboundary _), hkeyword, ht _ hrest,
      Option.map_map, Option.map_map]
    congr 1
    funext x
    simp
  · intro rest
    have hword : words (.word keyword :: us ++ rest) =
        (words (us ++ rest)).map (.connective c :: ·) := by
      cases c <;> rfl
    rw [List.append_assoc, hws, hword, hvs, Option.map_map, Option.map_map]
    congr 1
    funext x
    simp

/-- A name of a column that is read as it stands. -/
structure IsColumn (column : String) : Prop where
  ne_nil : column.toList ≠ []
  letters : ∀ c ∈ column.toList, isWordChar c ∧ c.toLower = c
  free : keywords.lookup column.toList = none

namespace IsColumn

lemma tableSchema : IsColumn "table_schema" := by
  constructor <;> simp [isWordChar, keywords]

lemma tableName : IsColumn "table_name" := by
  constructor <;> simp [isWordChar, keywords]

variable {column : String}

lemma tokens_append (h : IsColumn column) {rest : List Char} (hrest : IsBoundary rest) :
    tokens (column.toList ++ rest) = (tokens rest).map (.word column.toList :: ·) := by
  have hsmall : column.toList.map Char.toLower = column.toList :=
    (List.map_congr_left fun c hc => (h.letters c hc).2).trans (List.map_id _)
  rw [tokens_word h.ne_nil (fun c hc => (h.letters c hc).1) hrest, hsmall]

lemma words_cons (h : IsColumn column) (ts : List Token) :
    words (.word column.toList :: ts) = wordsFrom column.toList ts := by
  rw [words, h.free]

lemma writes_oneOf_nil (h : IsColumn column) :
    Writes (Clause.oneOf column []).text.toList (Clause.oneOf column []).words := by
  have htext : (Clause.oneOf column []).text.toList =
      column.toList ++ " IN (NULL) AND (1 != 1)".toList := String.toList_append
  refine ⟨[.word column.toList, .word ['i', 'n'], .opening, .word ['n', 'u', 'l', 'l'], .closing,
    .word ['a', 'n', 'd'], .opening, .word ['1'], .differs, .word ['1'], .closing], ?_, ?_⟩
  · intro rest _
    rw [htext, List.append_assoc, h.tokens_append (by simp [IsBoundary, isWordChar])]
    cases hrest : tokens rest <;> simp [tokens, isWordChar, wordBefore, hrest]
  · intro rest
    rw [List.cons_append, h.words_cons]
    cases hrest : words rest <;>
      simp [words, wordsFrom, itemsAndWords, item?, keywords, List.lookup, number?, hrest,
        Clause.words, Clause.operandWords, List.intercalate]

lemma writes_noneOf_nil (h : IsColumn column) :
    Writes (Clause.noneOf column []).text.toList (Clause.noneOf column []).words := by
  have htext : (Clause.noneOf column []).text.toList =
      '(' :: (column.toList ++ " NOT IN (NULL) OR (1 = 1))".toList) := by
    rw [Clause.text, String.toList_append, String.toList_append]
    rfl
  refine ⟨.opening :: [.word column.toList, .word ['n', 'o', 't'], .word ['i', 'n'], .opening,
    .word ['n', 'u', 'l', 'l'], .closing, .word ['o', 'r'], .opening, .word ['1'], .equals,
    .word ['1'], .closing, .closing], ?_, ?_⟩
  · intro rest _
    rw [htext, List.cons_append, tokens, List.append_assoc,
      h.tokens_append (by simp [IsBoundary, isWordChar])]
    cases hrest : tokens rest <;> simp [tokens, isWordChar, wordBefore, hrest]
  · intro rest
    rw [List.cons_append, words, List.cons_append, h.words_cons]
    cases hrest : words rest <;>
      simp [words, wordsFrom, itemsAndWords, item?, keywords, List.lookup, number?, hrest,
        Clause.words, Clause.operandWords, List.intercalate]

end IsColumn

/-- The tokens of names that are listed, with the parenthesis behind them. -/
def listTokens : List String → List Token
  | [] => [.closing]
  | [name] => [.literal name, .closing]
  | name :: rest => .literal name :: .comma :: listTokens rest

lemma tokens_list (name : String) (names : List String) (rest : List Char) :
    tokens ((Clause.list (name :: names)).toList ++ rest) =
      (tokens rest).map (.opening :: listTokens (name :: names) ++ ·) := by
  have hlisted (name : String) :
      tokens ((", ".intercalate ((name :: names).map literal)).toList ++ ')' :: rest) =
        (tokens rest).map (listTokens (name :: names) ++ ·) := by
    induction names generalizing name with
    | nil =>
      rw [List.map_singleton, String.intercalate_singleton,
        tokens_literal name (by simp), tokens, Option.map_map]
      rfl
    | cons next names ih =>
      have hcomma (s : List Char) :
          tokens (", ".toList ++ s) = (tokens s).map (.comma :: ·) := by
        change tokens (',' :: ' ' :: s) = _
        rw [tokens, tokens]
      rw [String.toList_intercalate, List.map_cons, List.map_cons, List.map_cons, List.map_cons,
        List.intercalate_cons_cons, ← List.map_cons, ← List.map_cons, ← String.toList_intercalate,
        List.append_assoc, List.append_assoc, tokens_literal name (by simp), hcomma, ih,
        Option.map_map, Option.map_map]
      rfl
  unfold Clause.list
  rw [String.toList_append, String.toList_append, List.append_assoc, List.append_assoc]
  change tokens ('(' :: _) = _
  rw [tokens]
  change Option.map _ (tokens (_ ++ ')' :: rest)) = _
  rw [hlisted, Option.map_map]
  rfl

lemma itemsAndWords_list (name : String) (names : List String) (ts : List Token) :
    itemsAndWords (listTokens (name :: names) ++ ts) =
      (words ts).map fun ws => ((name :: names).map .text, ws) := by
  induction names generalizing name with
  | nil =>
    rw [listTokens, List.cons_append, List.cons_append, List.nil_append, itemsAndWords]
    cases words ts <;> rfl
  | cons next names ih =>
    rw [listTokens, List.cons_append, List.cons_append, itemsAndWords, ih]
    · cases words ts <;> rfl
    · exact List.cons_ne_nil _ _

namespace IsColumn

variable {column : String}

lemma writes_oneOf (h : IsColumn column) (names : List String) :
    Writes (Clause.oneOf column names).text.toList (Clause.oneOf column names).words := by
  cases names with
  | nil => exact h.writes_oneOf_nil
  | cons name names =>
    have htext : (Clause.oneOf column (name :: names)).text.toList =
        column.toList ++ (" IN ".toList ++ (Clause.list (name :: names)).toList) := by
      rw [Clause.text, String.toList_append, String.toList_append, List.append_assoc]
      exact List.cons_ne_nil _ _
    refine ⟨.word column.toList :: .word ['i', 'n'] :: .opening :: listTokens (name :: names),
      ?_, ?_⟩
    · intro rest _
      rw [htext, List.append_assoc, List.append_assoc,
        h.tokens_append (by simp [IsBoundary, isWordChar])]
      have hin (s : List Char) :
          tokens (" IN ".toList ++ s) = (tokens s).map (.word ['i', 'n'] :: ·) := by
        cases hs : tokens s <;> simp [tokens, isWordChar, wordBefore, hs]
      rw [hin, tokens_list, Option.map_map, Option.map_map]
      rfl
    · intro rest
      rw [List.cons_append, h.words_cons, List.cons_append, List.cons_append, wordsFrom,
        itemsAndWords_list]
      cases words rest <;>
        simp [Clause.words, Clause.operandWords]

lemma writes_noneOf (h : IsColumn column) (names : List String) :
    Writes (Clause.noneOf column names).text.toList (Clause.noneOf column names).words := by
  cases names with
  | nil => exact h.writes_noneOf_nil
  | cons name names =>
    have htext : (Clause.noneOf column (name :: names)).text.toList =
        '(' :: (column.toList ++
          (" NOT IN ".toList ++ ((Clause.list (name :: names)).toList ++ [')']))) := by
      rw [Clause.text, String.toList_append, String.toList_append, String.toList_append,
        String.toList_append, List.append_assoc, List.append_assoc, List.append_assoc]
      · rfl
      · exact List.cons_ne_nil _ _
    refine ⟨.opening :: .word column.toList :: .word ['n', 'o', 't'] :: .word ['i', 'n'] ::
      .opening :: (listTokens (name :: names) ++ [.closing]), ?_, ?_⟩
    · intro rest _
      rw [htext, List.cons_append, tokens, List.append_assoc, List.append_assoc, List.append_assoc,
        h.tokens_append (by simp [IsBoundary, isWordChar])]
      have hnot (s : List Char) : tokens (" NOT IN ".toList ++ s) =
          (tokens s).map (.word ['n', 'o', 't'] :: .word ['i', 'n'] :: ·) := by
        cases hs : tokens s <;> simp [tokens, isWordChar, wordBefore, hs]
      rw [hnot, tokens_list, List.singleton_append, tokens]
      cases tokens rest <;> simp
    · intro rest
      rw [List.cons_append, words, List.cons_append, h.words_cons, List.cons_append,
        List.cons_append, List.cons_append, wordsFrom, List.append_assoc, itemsAndWords_list,
        List.singleton_append, words]
      cases words rest <;>
        simp [Clause.words, Clause.operandWords]

end IsColumn

namespace Clause

def columns : Clause → List String
  | always | never => []
  | oneOf column _ | noneOf column _ => [column]
  | both a b => a.columns ++ b.columns

lemma operandWords_ne_nil (c : Clause) : c.operandWords ≠ [] := by
  have hlength := c.derives_operands.length_eq
  intro h
  rw [h] at hlength
  exact c.operands_ne_nil (List.length_eq_zero_iff.mp hlength.symm)

lemma words_both (a b : Clause) :
    (both a b).words = a.words ++ .connective .and :: b.words := by
  unfold words
  rw [operandWords, intercalate_append a.operandWords_ne_nil b.operandWords_ne_nil]
  simp

lemma writes {c : Clause} (h : ∀ column ∈ c.columns, IsColumn column) :
    Writes c.text.toList c.words := by
  induction c with
  | always =>
    refine ⟨[.word ['t', 'r', 'u', 'e']], ?_, fun _ => rfl⟩
    intro rest hrest
    change tokens ("true".toList ++ rest) = _
    rw [tokens_word (by simp) (by simp [isWordChar]) hrest]
    rfl
  | never =>
    refine ⟨[.word ['f', 'a', 'l', 's', 'e']], ?_, fun _ => rfl⟩
    intro rest hrest
    change tokens ("false".toList ++ rest) = _
    rw [tokens_word (by simp) (by simp [isWordChar]) hrest]
    rfl
  | oneOf column names => exact (h column (by simp [columns])).writes_oneOf names
  | noneOf column names => exact (h column (by simp [columns])).writes_noneOf names
  | both a b iha ihb =>
    rw [text, String.toList_append, String.toList_append, words_both]
    exact Writes.connective .and (iha fun column hc => h column (by simp [columns, hc]))
      (ihb fun column hc => h column (by simp [columns, hc]))

end Clause

lemma writes_clauses {clauses : List Clause} (hne : clauses ≠ [])
    (h : ∀ c ∈ clauses, ∀ column ∈ c.columns, IsColumn column) :
    Writes (" OR ".intercalate (clauses.map Clause.text)).toList
      (List.intercalate [.connective .or] (clauses.map Clause.words)) := by
  induction clauses with
  | nil => exact absurd rfl hne
  | cons c rest ih =>
    have hc : Writes c.text.toList c.words := Clause.writes (h c List.mem_cons_self)
    cases rest with
    | nil =>
      simpa using hc
    | cons d rest =>
      have hrest := ih (List.cons_ne_nil _ _) fun e he => h e (List.mem_cons_of_mem _ he)
      have hjoined := Writes.connective .or hc hrest
      rw [String.toList_intercalate] at hjoined ⊢
      simp only [List.map_cons, List.intercalate_cons_cons] at hjoined ⊢
      simpa [connectiveText] using hjoined

/-- The text that selects entities is read as the selection, and as nothing else. -/
lemma isReadAs_selection {clauses : List Clause}
    (h : ∀ c ∈ clauses, ∀ column ∈ c.columns, IsColumn column) (e : Expression Comparison) :
    IsReadAs (textOfClauses clauses) e ↔ e = selection clauses := by
  have hselection : IsReadAs (textOfClauses clauses) (selection clauses) := by
    cases clauses with
    | nil =>
      exact ⟨[.word ['f', 'a', 'l', 's', 'e']], [.constant false], by decide, rfl,
        (Derives.constant false).reads⟩
    | cons c rest =>
      obtain ⟨ts, htokens, hwords⟩ := writes_clauses (List.cons_ne_nil c rest) h
      refine ⟨ts, List.intercalate [.connective .or] ((c :: rest).map Clause.words), ?_, ?_, ?_⟩
      · simpa [tokens, textOfClauses] using htokens [] (by simp [IsBoundary])
      · simpa [words] using hwords []
      · refine Derives.several (by simp) ?_
        exact List.forall₂_map_left_iff.mpr
          (List.forall₂_map_right_iff.mpr (List.forall₂_same.mpr fun c _ => c.derives))
  constructor
  · intro he
    exact he.unique hselection
  · rintro rfl
    exact hselection

/-! ### The rows in which tests hold -/

namespace Clause

def Holds (c : Clause) (row : Row) : Prop :=
  c.expression.truth (Comparison.truth row) = .true

lemma holds_iff {c : Clause} {row : Row} :
    c.Holds row ↔ ∀ e ∈ c.operands, e.truth (Comparison.truth row) = .true := by
  unfold Holds expression
  rw [Expression.truth_several]
  change Truth.all _ = .true ↔ _
  rw [Truth.all_eq_true, List.forall_mem_map]

lemma always_holds (row : Row) : always.Holds row := by
  simp [holds_iff, operands, Expression.truth]

lemma not_never_holds (row : Row) : ¬never.Holds row := by
  simp [holds_iff, operands, Expression.truth]

lemma both_holds {a b : Clause} {row : Row} : (both a b).Holds row ↔ a.Holds row ∧ b.Holds row := by
  rw [holds_iff, holds_iff, holds_iff, operands, List.forall_mem_append]

/-- Leaving tests out changes nothing. -/
lemma and_holds {a b : Clause} {row : Row} : (a.and b).Holds row ↔ a.Holds row ∧ b.Holds row := by
  have halways := always_holds row
  have hnever := not_never_holds row
  cases a <;> cases b <;> simp [Clause.and, both_holds, halways, hnever]

lemma columns_and {a b : Clause} {column : String} (h : column ∈ (a.and b).columns) :
    column ∈ a.columns ∨ column ∈ b.columns := by
  cases a <;> cases b <;> simp_all [Clause.and, columns, or_assoc]

variable {row : Row} {column name : String}

lemma truth_texts (name : String) (names : List String) :
    Truth.any ((names.map Item.text).map (Item.truth (some name))) =
      .ofBool (decide (name ∈ names)) := by
  induction names with
  | nil => rfl
  | cons first rest ih =>
    change Truth.or (.ofBool (name == first)) (Truth.any _) = _
    rw [ih]
    by_cases hfirst : name = first <;> by_cases hrest : name ∈ rest <;>
      simp [hfirst, hrest, Truth.ofBool, Truth.or]

lemma oneOf_holds (hrow : row column = some name) (names : List String) :
    (oneOf column names).Holds row ↔ name ∈ names := by
  rw [holds_iff]
  cases names with
  | nil => simp [operands, Expression.truth, Comparison.truth]
  | cons first rest =>
    rw [operands, List.forall_mem_singleton, Expression.truth, Comparison.truth, hrow, truth_texts,
      Truth.ofBool_eq_true, decide_eq_true_iff]
    exact List.cons_ne_nil _ _

lemma noneOf_holds (hrow : row column = some name) (names : List String) :
    (noneOf column names).Holds row ↔ name ∉ names := by
  rw [holds_iff]
  cases names with
  | nil =>
    simp [operands, Expression.truth, Connective.truth, Truth.or_eq_true, Comparison.truth]
  | cons first rest =>
    rw [operands, List.forall_mem_singleton, Expression.truth, Comparison.truth, hrow, truth_texts,
      Truth.not_eq_true, Truth.ofBool_eq_false, decide_eq_false_iff_not]
    exact List.cons_ne_nil _ _

end Clause

lemma selection_holds {clauses : List Clause} {row : Row} :
    (selection clauses).truth (Comparison.truth row) = .true ↔ ∃ c ∈ clauses, c.Holds row := by
  unfold selection
  rw [Expression.truth_several]
  change Truth.any _ = .true ↔ _
  rw [Truth.any_eq_true, List.map_map]
  simp [Clause.Holds]

/-! ### Valid rules -/

/-- The names of a scope are texts. -/
def Scope.IsValid : Scope → Prop
  | all => True
  | only names | except names => ∀ name ∈ names, name.isText

structure Rule.IsValid (rule : Rule) : Prop where
  schemas : ∀ scope ∈ rule.schemas, scope.IsValid
  tables : ∀ scope ∈ rule.tables, scope.IsValid
  views : ∀ scope ∈ rule.views, scope.IsValid

lemma Scope.isValid_of_read {v : Value} {scope? : Option Scope} (h : Scope.read v = .ok scope?) :
    ∀ scope ∈ scope?, scope.IsValid := by
  have htexts {list : Value} {names : List Value} (h : names? list = some names) :
      ∀ name ∈ names, name.isText := by
    cases list with
    | array items =>
      rw [names?, Option.ite_none_right_eq_some] at h
      obtain ⟨hall, hitems⟩ := h
      cases hitems
      exact List.all_eq_true.mp hall
    | _ => cases h
  rintro scope rfl
  unfold Scope.read at h
  split at h
  · cases h
  · cases h
  · cases h
    trivial
  all_goals
    dsimp only at h
    split at h
    · next hread =>
      obtain ⟨names, hnames, rfl⟩ := Option.map_eq_some_iff.mp hread
      cases h
      exact htexts hnames
    · cases h

/-- Every rule that is read is valid. -/
lemma Rule.isValid_of_read {v : Value} {rule : Rule} (h : Rule.read v = .ok rule) :
    rule.IsValid := by
  have hscope {v : Value} {scope? : Option Scope} (h : readScope v = .ok scope?) :
      ∀ scope ∈ scope?, scope.IsValid :=
    Scope.isValid_of_read (mapError_eq_ok.mp h)
  unfold Rule.read at h
  dsimp only at h
  split at h
  · cases h
  split at h
  · cases h
  obtain ⟨schemas, hschemas, h⟩ := exists_of_bind_eq_ok h
  obtain ⟨tables, htables, h⟩ := exists_of_bind_eq_ok h
  obtain ⟨views, hviews, h⟩ := exists_of_bind_eq_ok h
  -- Wherever the actions come from, the scopes of the rule are those that were read.
  split at h
  on_goal 2 => split at h
  all_goals
    obtain ⟨actions, _, h⟩ := exists_of_bind_eq_ok h
    obtain ⟨strictNumbers, _, h⟩ := exists_of_bind_eq_ok h
    cases h
    exact ⟨hscope hschemas, hscope htables, hscope hviews⟩

lemma Rule.IsValid.scope {rule : Rule} (h : rule.IsValid) (kind : EntityKind) :
    ∀ scope ∈ rule.scope kind, scope.IsValid := by
  cases kind with
  | table => exact h.tables
  | view => exact h.views

lemma textsOf_of_texts {names : List Value} (h : ∀ name ∈ names, name.isText) :
    ∃ texts, textsOf names = .ok texts ∧ names = texts.map .string := by
  have hread {names : List Value} (h : ∀ name ∈ names, name.isText) :
      ∃ texts, (names.mapM fun name => name.asText.mapError fun _ => NamesError.notAText name) =
        .ok texts ∧ names = texts.map .string := by
    induction names with
    | nil => exact ⟨[], rfl, rfl⟩
    | cons name names ih =>
      obtain ⟨texts, htexts, rfl⟩ := ih fun n hn => h n (List.mem_cons_of_mem _ hn)
      cases name with
      | string s =>
        refine ⟨s :: texts, ?_, rfl⟩
        rw [List.mapM_cons, htexts]
        rfl
      | _ => cases h _ List.mem_cons_self
  cases names with
  | nil => exact ⟨[], rfl, rfl⟩
  | cons name names =>
    obtain ⟨texts, htexts, rfl⟩ := hread fun n hn => h n (List.mem_cons_of_mem _ hn)
    cases name with
    | string s =>
      refine ⟨s :: texts, ?_, rfl⟩
      rw [textsOf, htexts]
      rfl
    | _ => cases h _ List.mem_cons_self

lemma Clause.ofScope_valid {scope? : Option Scope} (column : String)
    (h : ∀ scope ∈ scope?, scope.IsValid) :
    ∃ c, ofScope column scope? = .ok c ∧ (∀ other ∈ c.columns, other = column) ∧
      ∀ row name, row column = some name →
        (c.Holds row ↔ Scope.chosenBy scope? (.string name)) := by
  have hlisted (texts : List String) (name : String) :
      Scope.isListed (texts.map .string) (.string name) ↔ name ∈ texts := by
    simp [Scope.isListed]
  match scope? with
  | none => exact ⟨never, rfl, by simp [columns], by simp [not_never_holds, Scope.chosenBy]⟩
  | some .all =>
    exact ⟨always, rfl, by simp [columns], by simp [always_holds, Scope.chosenBy, Scope.chooses]⟩
  | some (.only names) =>
    obtain ⟨texts, htexts, rfl⟩ := textsOf_of_texts (h _ rfl)
    refine ⟨oneOf column texts, ?_, ?_, ?_⟩
    · rw [ofScope, htexts]
      rfl
    · simp [columns]
    · intro row name hrow
      rw [oneOf_holds hrow, Scope.chosenBy, Scope.chooses, hlisted]
  | some (.except names) =>
    obtain ⟨texts, htexts, rfl⟩ := textsOf_of_texts (h _ rfl)
    refine ⟨noneOf column texts, ?_, ?_, ?_⟩
    · rw [ofScope, htexts]
      rfl
    · simp [columns]
    · intro row name hrow
      rw [noneOf_holds hrow, Scope.chosenBy, Scope.chooses, Bool.not_eq_true', ← hlisted,
        Bool.not_eq_true]

def entityRow (schema name : String) : Row :=
  ([("table_schema", schema), ("table_name", name)].lookup ·)

lemma Rule.clause_valid {rule : Rule} (kind : EntityKind) (h : rule.IsValid) :
    ∃ c, rule.clause kind = .ok c ∧ (∀ column ∈ c.columns, IsColumn column) ∧
      ∀ schema name, c.Holds (entityRow schema name) ↔
        rule.covers kind (.string schema) (.string name) := by
  obtain ⟨a, ha, hacolumns, haholds⟩ := Clause.ofScope_valid "table_schema" h.schemas
  obtain ⟨b, hb, hbcolumns, hbholds⟩ := Clause.ofScope_valid "table_name" (h.scope kind)
  refine ⟨a.and b, ?_, ?_, ?_⟩
  · rw [Rule.clause, ha, hb]
    rfl
  · intro column hcolumn
    rcases Clause.columns_and hcolumn with hcolumn | hcolumn
    · exact hacolumns column hcolumn ▸ .tableSchema
    · exact hbcolumns column hcolumn ▸ .tableName
  · intro schema name
    rw [Clause.and_holds, haholds _ schema rfl, hbholds _ name rfl, Rule.covers, Bool.and_eq_true]

/-- What valid rules ask for is what they cover. -/
lemma clauses_valid {rules : List Rule} (kind : EntityKind) (h : ∀ rule ∈ rules, rule.IsValid) :
    ∃ clauses, rules.mapM (Rule.clause kind) = .ok clauses ∧
      (∀ c ∈ clauses, ∀ column ∈ c.columns, IsColumn column) ∧
      ∀ schema name, (∃ c ∈ clauses, c.Holds (entityRow schema name)) ↔
        ∃ rule ∈ rules, rule.covers kind (.string schema) (.string name) := by
  induction rules with
  | nil => exact ⟨[], rfl, by simp, by simp⟩
  | cons rule rest ih =>
    obtain ⟨hrule, hrest⟩ := List.forall_mem_cons.mp h
    obtain ⟨c, hc, hcolumns, hholds⟩ := Rule.clause_valid kind hrule
    obtain ⟨clauses, hclauses, hothers, hcovered⟩ := ih hrest
    refine ⟨c :: clauses, ?_, List.forall_mem_cons.mpr ⟨hcolumns, hothers⟩, ?_⟩
    · rw [List.mapM_cons, hc, ok_bind, hclauses]
      rfl
    · intro schema name
      rw [List.exists_mem_cons_iff, List.exists_mem_cons_iff, hholds, hcovered]

/-- The text that asks for the entities of a kind is read in one way only, and what it is read as
holds in the row of an entity exactly when there is a rule for the entity. -/
theorem conditionText_selects (kind : EntityKind) (rules : List Rule)
    (h : ∀ rule ∈ rules, rule.IsValid) :
    ∃ text clauses, conditionText kind rules = .ok text ∧
      rules.mapM (Rule.clause kind) = .ok clauses ∧
      (∀ e, IsReadAs text e ↔ e = selection clauses) ∧
      ∀ schema name keys,
        (selection clauses).truth (Comparison.truth (entityRow schema name)) = .true ↔
          (ruleFor? rules ⟨kind, .string schema, .string name, keys⟩).isSome := by
  obtain ⟨clauses, hclauses, hcolumns, hcovered⟩ := clauses_valid kind h
  refine ⟨textOfClauses clauses, clauses, ?_, hclauses, isReadAs_selection hcolumns, ?_⟩
  · rw [conditionText, hclauses]
    rfl
  · intro schema name keys
    rw [selection_holds, hcovered, ruleFor?, List.find?_isSome]

/-- Rules with all kinds of scopes, empty lists and names that have a meaning in SQL. -/
def awkwardRules : List Rule :=
  [{ schemas := some (.except []), tables := some (.only [.string "it's) OR true --", .string ""]),
     actions := [] },
   { schemas := some .all, tables := some .all, views := some (.only []), actions := [] },
   { schemas := some (.only [.string "50%\\"]), tables := some (.except [.string "a', 'b"]),
     actions := [] }]

theorem awkwardRules_select :
    conditionText .table awkwardRules = .ok ("(table_schema NOT IN (NULL) OR (1 = 1)) AND "
      ++ "table_name IN ('it''s) OR true --', '') OR true OR "
      ++ "table_schema IN ('50%%\\\\') AND (table_name NOT IN ('a'', ''b'))") ∧
    ∃ text clauses, conditionText .table awkwardRules = .ok text ∧
      awkwardRules.mapM (Rule.clause .table) = .ok clauses ∧
      (∀ e, IsReadAs text e ↔ e = selection clauses) ∧
      ∀ schema name keys,
        (selection clauses).truth (Comparison.truth (entityRow schema name)) = .true ↔
          (ruleFor? awkwardRules ⟨.table, .string schema, .string name, keys⟩).isSome := by
  refine ⟨by cbv, conditionText_selects .table awkwardRules ?_⟩
  intro rule hrule
  simp only [awkwardRules, List.mem_cons, List.not_mem_nil, or_false] at hrule
  rcases hrule with rfl | rfl | rfl <;> constructor <;> simp [Scope.IsValid, Value.isText]

end TableGateway.Discovery
