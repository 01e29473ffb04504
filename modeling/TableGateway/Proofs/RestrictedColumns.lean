import Mathlib
import TableGateway.Proofs.Enumerations
import TableGateway.Proofs.Expressions

/-!
# Checks that restrict a column

A check combines comparisons and membership tests. The enumeration of a column holds the values of
the last test in the text of the check, whatever the test is about and wherever it stands. So it is
right exactly if no other value of the column passes the check.
-/

namespace TableGateway.Catalog

open Logic

/-! ### Checks and what they mean -/

/-- The condition of a check. An expression is compared with another one, or it is tested whether it
is one of several values. -/
inductive Check where
  | comparison (left operator right : String)
  | membership (expression : String) (literals : List Literal)
  | not (part : Check)
  | and (parts : List Check)
  | or (parts : List Check)
deriving Inhabited

/-- What a check can depend on: the values of expressions, of which null is none, and the truth of
comparisons. -/
structure CheckedRow where
  value : String → Option String
  comparison : String → String → String → Truth

/-- The equality of a value with a literal, which is unknown for null. -/
def Literal.equals (l : Literal) : Option String → Truth
  | none => .unknown
  | some v => .ofBool (v = l.value)

/-- A text on one line without brackets. -/
def IsBare (s : List Char) : Prop :=
  ∀ c ∈ ['\n', '[', ']'], c ∉ s

instance (s : List Char) : Decidable (IsBare s) :=
  List.decidableBAll (· ∉ s) ['\n', '[', ']']

def listText (literals : List Literal) : List Char :=
  List.intercalate [',', ' '] (literals.map Literal.text)

namespace Check

mutual

def truth (row : CheckedRow) : Check → Truth
  | comparison left operator right => row.comparison left operator right
  | membership expression literals => .any (literals.map (·.equals (row.value expression)))
  | not part => (truth row part).not
  | and parts => .all (truthOfEach row parts)
  | or parts => .any (truthOfEach row parts)

def truthOfEach (row : CheckedRow) : List Check → List Truth
  | [] => []
  | e :: rest => truth row e :: truthOfEach row rest

end

mutual

/-- The check as the database prints it, every part in parentheses. -/
def text : Check → List Char
  | comparison left operator right =>
    '(' :: (left.toList ++ ' ' :: (operator.toList ++ ' ' :: (right.toList ++ [')'])))
  | membership expression literals => (membershipText expression (listText literals)).toList
  | not part => "(NOT ".toList ++ (text part ++ [')'])
  | and parts => '(' :: (List.intercalate " AND ".toList (textOfEach parts) ++ [')'])
  | or parts => '(' :: (List.intercalate " OR ".toList (textOfEach parts) ++ [')'])

def textOfEach : List Check → List (List Char)
  | [] => []
  | e :: rest => text e :: textOfEach rest

end

mutual

/-- The lists of the membership tests, from left to right. -/
def lists : Check → List (List Literal)
  | comparison _ _ _ => []
  | membership _ literals => [literals]
  | not part => lists part
  | and parts => listsOfEach parts
  | or parts => listsOfEach parts

def listsOfEach : List Check → List (List Literal)
  | [] => []
  | e :: rest => lists e ++ listsOfEach rest

end

/-- The values of the last membership test. -/
def listed (e : Check) : List String :=
  (e.lists.getLast?.getD []).map (·.value)

/-- A check on one line, in which only the membership tests have brackets. -/
inductive IsPlain : Check → Prop
  | comparison {left operator right : String} (hleft : IsBare left.toList)
      (hoperator : IsBare operator.toList) (hright : IsBare right.toList) :
      IsPlain (comparison left operator right)
  | membership {expression : String} {literals : List Literal}
      (hexpression : '\n' ∉ expression.toList) (hliterals : ∀ l ∈ literals, l.IsPlain) :
      IsPlain (membership expression literals)
  | not {part : Check} (h : part.IsPlain) : IsPlain (not part)
  | and {parts : List Check} (h : ∀ e ∈ parts, e.IsPlain) : IsPlain (and parts)
  | or {parts : List Check} (h : ∀ e ∈ parts, e.IsPlain) : IsPlain (or parts)

/-- Some row with this value of the column passes the check. A check is passed unless it is
false. -/
def Allows (e : Check) (column v : String) : Prop :=
  ∃ row : CheckedRow, row.value column = some v ∧ e.truth row ≠ .false

/-- The row of which no more is known than the value of one column. -/
def rowOf (column v : String) : CheckedRow where
  value x := if x = column then some v else none
  comparison _ _ _ := .unknown

end Check

/-! ### The last list of a text -/

lemma isBare_nil : IsBare [] := by decide

lemma isBare_blank : IsBare [' '] := by decide

lemma isBare_opening : IsBare ['('] := by decide

lemma isBare_closing : IsBare [')'] := by decide

lemma isBare_negation : IsBare "(NOT ".toList := by decide

lemma isBare_conjunction : IsBare " AND ".toList := by decide

lemma isBare_disjunction : IsBare " OR ".toList := by decide

lemma IsBare.append {s t : List Char} (hs : IsBare s) (ht : IsBare t) : IsBare (s ++ t) :=
  fun c hc hmem => (List.mem_append.mp hmem).elim (hs c hc) (ht c hc)

/-- What is said of a text that shows some lists: behind the last one there is no bracket. -/
structure Shows (s : List Char) (lists : List (List Literal)) : Prop where
  line : '\n' ∉ s
  plain : ∀ list ∈ lists, ∀ l ∈ list, l.IsPlain
  bare : lists = [] → IsBare s
  last : ∀ list ∈ lists.getLast?, ∃ before after, IsBare after ∧
    s = before ++ (listOpening ++ (listText list ++ (listClosing ++ after)))

namespace Shows

variable {s t : List Char} {lists others : List (List Literal)}

lemma of_isBare (h : IsBare s) : Shows s [] where
  line := h _ List.mem_cons_self
  plain _ hlist := absurd hlist List.not_mem_nil
  bare _ := h
  last _ hlist := absurd hlist (by simp)

lemma append (hs : Shows s lists) (ht : Shows t others) : Shows (s ++ t) (lists ++ others) where
  line hmem := (List.mem_append.mp hmem).elim hs.line ht.line
  plain list hlist := (List.mem_append.mp hlist).elim (hs.plain list) (ht.plain list)
  bare hnil := by
    obtain ⟨hlists, hothers⟩ := List.append_eq_nil_iff.mp hnil
    exact (hs.bare hlists).append (ht.bare hothers)
  last list hlist := by
    rw [List.getLast?_append, Option.mem_def, Option.or_eq_some_iff, List.getLast?_eq_none_iff]
      at hlist
    rcases hlist with hlast | ⟨hnone, hlast⟩
    · obtain ⟨before, after, hafter, rfl⟩ := ht.last list hlast
      exact ⟨s ++ before, after, hafter, by simp⟩
    · obtain ⟨before, after, hafter, rfl⟩ := hs.last list hlast
      exact ⟨before, after ++ t, hafter.append (ht.bare hnone), by simp⟩

/-- A text around another one that has no bracket of its own. -/
lemma around (hs : Shows s lists) {opening closing : List Char} (hopening : IsBare opening)
    (hclosing : IsBare closing) : Shows (opening ++ (s ++ closing)) lists := by
  have hbehind := hs.append (of_isBare hclosing)
  have haround := (of_isBare hopening).append hbehind
  rwa [List.nil_append, List.append_nil] at haround

end Shows

lemma lists_listText {literals : List Literal} (h : ∀ l ∈ literals, l.IsPlain)
    (hne : literals ≠ []) : Lists (listText literals) (literals.map (·.value)) := by
  induction literals with
  | nil => exact absurd rfl hne
  | cons l rest ih =>
    obtain ⟨hl, hrest⟩ := List.forall_mem_cons.mp h
    rcases rest with _ | ⟨next, rest⟩
    · simpa [listText] using Lists.one hl
    · have htext : listText (l :: next :: rest) =
          l.text ++ [',', ' '] ++ listText (next :: rest) := by
        simp [listText, List.intercalate_cons_cons]
      rw [htext]
      exact Lists.more hl (.inr rfl) (ih hrest (List.cons_ne_nil _ _))

/-- A list, which may also be empty, is on one line, opens no other list and is read back. -/
lemma listText_facts {literals : List Literal} (h : ∀ l ∈ literals, l.IsPlain) :
    '\n' ∉ listText literals ∧ ¬listOpening <:+: listText literals ∧
      (Catalog.literals .outside (listText literals)).map String.ofList =
        literals.map (·.value) := by
  by_cases hne : literals = []
  · subst hne
    exact ⟨List.not_mem_nil, not_listOpening_infix_nil, rfl⟩
  · have hlists := lists_listText h hne
    exact ⟨hlists.line, hlists.opening, hlists.literals_eq⟩

lemma shows_membershipText {expression : String} {literals : List Literal}
    (hexpression : '\n' ∉ expression.toList) (hliterals : ∀ l ∈ literals, l.IsPlain) :
    Shows (membershipText expression (listText literals)).toList [literals] := by
  have hlist := (listText_facts hliterals).1
  have htext := toList_membershipText expression (listText literals)
  constructor
  · have hopen : '\n' ∉ listOpening := by decide
    have hclose : '\n' ∉ listClosing := by decide
    rw [htext]
    simp [hexpression, hlist, hopen, hclose]
  · simpa using hliterals
  · intro hnil
    cases hnil
  · intro list hlast
    obtain rfl : literals = list := by simpa using hlast
    exact ⟨'(' :: expression.toList, [], isBare_nil, htext⟩

namespace Check

mutual

lemma shows : ∀ {e : Check}, e.IsPlain → Shows e.text e.lists
  | comparison left operator right, .comparison hleft hoperator hright => by
    have hcompared := isBare_blank.append (hright.append isBare_closing)
    have hbehind := isBare_blank.append (hoperator.append hcompared)
    exact Shows.of_isBare (isBare_opening.append (hleft.append hbehind))
  | membership expression literals, .membership hexpression hliterals =>
    shows_membershipText hexpression hliterals
  | not part, .not h => (shows h).around isBare_negation isBare_closing
  | and parts, .and h => (showsEach h isBare_conjunction).around isBare_opening isBare_closing
  | or parts, .or h => (showsEach h isBare_disjunction).around isBare_opening isBare_closing

lemma showsEach : ∀ {parts : List Check} {separator : List Char}, (∀ e ∈ parts, e.IsPlain) →
    IsBare separator → Shows (List.intercalate separator (textOfEach parts)) (listsOfEach parts)
  | [], _, _, _ => Shows.of_isBare isBare_nil
  | e :: rest, separator, h, hseparator => by
    obtain ⟨he, hrest⟩ := List.forall_mem_cons.mp h
    have hlater := showsEach hrest hseparator
    rw [textOfEach, listsOfEach]
    rcases rest with _ | ⟨next, rest⟩
    · simpa [textOfEach, listsOfEach] using shows he
    · rw [textOfEach] at hlater ⊢
      rw [List.intercalate_cons_cons, List.append_assoc]
      have hbetween := (Shows.of_isBare hseparator).append hlater
      exact (shows he).append hbetween

end

lemma head?_text (e : Check) : e.text.head? = some '(' := by
  cases e with
  | membership expression literals =>
    change (membershipText expression (listText literals)).toList.head? = _
    rw [toList_membershipText]
    rfl
  | _ => rfl

/-- From a check the values of its last membership test are taken. -/
lemma valuesOfCheck_text {e : Check} (he : e.IsPlain) :
    valuesOfCheck (String.ofList e.text) = e.listed := by
  have hshows := shows he
  unfold listed
  cases hlast : e.lists.getLast? with
  | none =>
    have hbare := hshows.bare (List.getLast?_eq_none_iff.mp hlast)
    apply valuesOfCheck_eq_nil
    rw [String.toList_ofList]
    intro hheld
    exact hbare '[' (by decide) (hheld.subset (by decide))
  | some list =>
    obtain ⟨before, after, hafter, htext⟩ := hshows.last list hlast
    have hplain := hshows.plain list (List.mem_of_getLast? hlast)
    obtain ⟨hlist, hopening, hvalues⟩ := listText_facts hplain
    have hline := hshows.line
    have hhead := e.head?_text
    rw [htext] at hline hhead
    rcases before with _ | ⟨c, before⟩
    · cases hhead
    · obtain rfl : c = '(' := Option.some.inj hhead
      have hbefore : '\n' ∉ before := fun h => hline (by simp [h])
      have hfound := listOfCheck?_eq hbefore hlist hopening (hafter _ (by decide))
        (hafter _ (by decide)) (hafter _ (by decide))
      rw [valuesOfCheck, String.toList_ofList, htext, List.cons_append, hfound]
      exact hvalues

end Check

/-! ### What is known of a check -/

/-- The first truth is the second one as far as it is known. -/
def Known (a b : Truth) : Prop :=
  a = .unknown ∨ a = b

namespace Known

variable {a b a' b' : Truth}

lemma refl (a : Truth) : Known a a := .inr rfl

lemma not (h : Known a b) : Known a.not b.not := by
  rcases h with rfl | rfl
  · exact .inl rfl
  · exact refl _

lemma and (h : Known a b) (h' : Known a' b') : Known (a.and a') (b.and b') := by
  rcases h with rfl | rfl <;> rcases h' with rfl | rfl
  · exact .inl rfl
  · cases a' <;> cases b <;> simp [Known, Truth.and]
  · cases a <;> cases b' <;> simp [Known, Truth.and]
  · exact refl _

lemma or (h : Known a b) (h' : Known a' b') : Known (a.or a') (b.or b') := by
  rcases h with rfl | rfl <;> rcases h' with rfl | rfl
  · exact .inl rfl
  · cases a' <;> cases b <;> simp [Known, Truth.or]
  · cases a <;> cases b' <;> simp [Known, Truth.or]
  · exact refl _

lemma all {truths truths' : List Truth} (h : List.Forall₂ Known truths truths') :
    Known (.all truths) (.all truths') := by
  induction h with
  | nil => exact refl _
  | cons h _ ih => exact h.and ih

lemma any {truths truths' : List Truth} (h : List.Forall₂ Known truths truths') :
    Known (.any truths) (.any truths') := by
  induction h with
  | nil => exact refl _
  | cons h _ ih => exact h.or ih

lemma equals (l : Literal) {value value' : Option String} (h : value = none ∨ value = value') :
    Known (l.equals value) (l.equals value') := by
  rcases h with rfl | rfl
  · exact .inl rfl
  · exact refl _

end Known

/-- The first row is the second one as far as it is known. -/
structure CheckedRow.Known (row full : CheckedRow) : Prop where
  value : ∀ x, row.value x = none ∨ row.value x = full.value x
  comparison : ∀ left operator right,
    Catalog.Known (row.comparison left operator right) (full.comparison left operator right)

namespace Check

variable {row full : CheckedRow}

mutual

/-- What is known of a row decides a check as it is decided by the whole row. -/
lemma truth_known (h : row.Known full) : ∀ e : Check, Known (e.truth row) (e.truth full)
  | comparison left operator right => h.comparison left operator right
  | membership expression literals => by
    refine Known.any ?_
    rw [List.forall₂_map_left_iff, List.forall₂_map_right_iff, List.forall₂_same]
    intro l _
    exact Known.equals l (h.value expression)
  | not part => (truth_known h part).not
  | and parts => Known.all (truthOfEach_known h parts)
  | or parts => Known.any (truthOfEach_known h parts)

lemma truthOfEach_known (h : row.Known full) :
    ∀ parts : List Check, List.Forall₂ Known (truthOfEach row parts) (truthOfEach full parts)
  | [] => .nil
  | e :: rest => .cons (truth_known h e) (truthOfEach_known h rest)

end

lemma rowOf_known {column v : String} (h : full.value column = some v) :
    (rowOf column v).Known full where
  value x := by
    by_cases hx : x = column
    · subst hx
      exact .inr (by simp [rowOf, h])
    · exact .inl (by simp [rowOf, hx])
  comparison _ _ _ := .inl rfl

/-- A value is allowed unless it alone makes the check false. -/
lemma allows_iff {e : Check} {column v : String} :
    e.Allows column v ↔ e.truth (rowOf column v) ≠ .false := by
  constructor
  · rintro ⟨row, hvalue, htruth⟩ hfalse
    rcases truth_known (rowOf_known hvalue) e with hunknown | hsame
    · rw [hfalse] at hunknown
      cases hunknown
    · exact htruth (hsame ▸ hfalse)
  · intro h
    exact ⟨rowOf column v, by simp [rowOf], h⟩

lemma any_equals (literals : List Literal) (v : String) :
    Truth.any (literals.map (·.equals (some v))) = .ofBool (v ∈ literals.map (·.value)) := by
  induction literals with
  | nil => rfl
  | cons l rest ih =>
    change (Truth.ofBool (v = l.value)).or (Truth.any (rest.map (·.equals (some v)))) = _
    rw [ih, Truth.ofBool_or]
    simp

lemma allows_membership {column v : String} {literals : List Literal} :
    (membership column literals).Allows column v ↔ v ∈ (membership column literals).listed := by
  have htruth : (membership column literals).truth (rowOf column v) =
      .ofBool (v ∈ literals.map (·.value)) := by
    rw [truth, ← any_equals]
    simp [rowOf]
  rw [allows_iff, htruth, Ne, Truth.ofBool_eq_false]
  simp [listed, lists]

end Check

/-- The enumeration of a column with one check lists the values of the last membership test in it.
Every value of the column that the check allows is listed exactly if each other value alone makes
the check false, whatever is compared and whatever the other columns hold; a check that is nothing
but a membership test of the column allows just the values that are listed. -/
theorem Column.enumeration_of_check (c : Column) (column : String) (e : Check) (he : e.IsPlain)
    (hchecks : c.constraints = [.string (String.ofList e.text)]) :
    ∃ values, c.enumeration = .ok values ∧ values = e.listed.eraseDups ∧
      ((values ≠ [] → ∀ v, e.Allows column v → v ∈ values) ↔
        (values ≠ [] → ∀ v, v ∉ values → e.truth (Check.rowOf column v) = .false)) ∧
      ∀ literals, e = .membership column literals → ∀ v, e.Allows column v ↔ v ∈ values := by
  have hne : String.ofList e.text ≠ "" := by
    intro hnil
    have hhead := e.head?_text
    rw [← String.toList_ofList (l := e.text), hnil] at hhead
    cases hhead
  refine ⟨e.listed.eraseDups, ?_, rfl, ?_, ?_⟩
  · have htruthy : (Value.string (String.ofList e.text)).isTruthy = true := by
      simpa [Value.isTruthy] using hne
    have hvalues := Check.valuesOfCheck_text he
    rw [Column.enumeration, hchecks, List.filter_cons_of_pos htruthy]
    change Except.ok ([String.ofList e.text].flatMap valuesOfCheck).eraseDups = _
    rw [List.flatMap_singleton, hvalues]
  · simp only [Check.allows_iff]
    constructor
    · intro h hlisted v hv
      by_contra hfalse
      exact hv (h hlisted v hfalse)
    · intro h hlisted v hallowed
      by_contra hv
      exact hallowed (h hlisted v hv)
  · rintro literals rfl v
    rw [List.mem_eraseDups]
    exact Check.allows_membership

theorem Column.enumeration_of_check_restricting :
    let c : Column := {
      name := .string "rating", type := .string "text", nullable := .bool true
      constraints := [.string
        "((rating = ANY (ARRAY['good'::text, 'bad'::text])) AND (note <> ''::text))"] }
    let e : Check := .and [.membership "rating" [⟨"good", some "text"⟩, ⟨"bad", some "text"⟩],
      .comparison "note" "<>" "''::text"]
    e.IsPlain ∧ c.constraints = [.string (String.ofList e.text)] ∧
      ∃ values, c.enumeration = .ok values ∧ values = e.listed.eraseDups ∧
        ((values ≠ [] → ∀ v, e.Allows "rating" v → v ∈ values) ↔
          (values ≠ [] → ∀ v, v ∉ values → e.truth (Check.rowOf "rating" v) = .false)) ∧
        ∀ literals, e = .membership "rating" literals → ∀ v, e.Allows "rating" v ↔ v ∈ values := by
  intro c e
  have hgood : (Literal.mk "good" (some "text")).IsPlain := by
    constructor <;> decide
  have hbad : (Literal.mk "bad" (some "text")).IsPlain := by
    constructor <;> decide
  have hmembership : (Check.membership "rating" [⟨"good", some "text"⟩, ⟨"bad", some "text"⟩]).IsPlain :=
    .membership (by decide) (by simp [hgood, hbad])
  have hcomparison : (Check.comparison "note" "<>" "''::text").IsPlain :=
    .comparison (by decide) (by decide) (by decide)
  have he : e.IsPlain := .and (by simp [hmembership, hcomparison])
  have hchecks : c.constraints = [.string (String.ofList e.text)] := by decide
  exact ⟨he, hchecks, c.enumeration_of_check "rating" e he hchecks⟩

/-- The enumeration may hold exactly the value that is forbidden, one of several alternatives, or
the values of another column. -/
theorem Column.enumeration_misleading :
    let column (check : String) : Column := {
      name := .string "rating", type := .string "text", nullable := .bool true
      constraints := [.string check] }
    let isBad : Check := .membership "rating" [⟨"bad", some "text"⟩]
    let isOpen : Check := .membership "status" [⟨"open", some "text"⟩]
    (String.ofList (Check.not isBad).text = "(NOT (rating = ANY (ARRAY['bad'::text])))" ∧
      (column "(NOT (rating = ANY (ARRAY['bad'::text])))").enumeration = .ok ["bad"] ∧
      (Check.not isBad).Allows "rating" "good" ∧ ¬(Check.not isBad).Allows "rating" "bad") ∧
    (String.ofList (Check.or [isBad, .comparison "note" "=" "'x'::text"]).text =
        "((rating = ANY (ARRAY['bad'::text])) OR (note = 'x'::text))" ∧
      (column "((rating = ANY (ARRAY['bad'::text])) OR (note = 'x'::text))").enumeration =
        .ok ["bad"] ∧
      (Check.or [isBad, .comparison "note" "=" "'x'::text"]).Allows "rating" "good") ∧
    (String.ofList (Check.and [.comparison "rating" "<>" "''::text", isOpen]).text =
        "((rating <> ''::text) AND (status = ANY (ARRAY['open'::text])))" ∧
      (column "((rating <> ''::text) AND (status = ANY (ARRAY['open'::text])))").enumeration =
        .ok ["open"] ∧
      (Check.and [.comparison "rating" "<>" "''::text", isOpen]).Allows "rating" "good") := by
  intro column isBad isOpen
  simp only [Check.allows_iff]
  refine ⟨⟨by decide, by cbv, by decide, by decide⟩, ⟨by decide, by cbv, by decide⟩,
    by decide, by cbv, by decide⟩

end TableGateway.Catalog
