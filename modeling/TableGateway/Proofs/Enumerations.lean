import Mathlib
import TableGateway.Catalog.Document
import TableGateway.Proofs.Clashes

/-!
# The values that checks list

The database prints a test whether a column is one of several values as `(… = ANY (ARRAY['a', …]))`.
From such texts the values are recovered exactly, whatever characters they are made of: the list is
found between its last opening and its last closing, and in it every literal ends where it should.
-/

namespace TableGateway.Catalog

/-! ### How checks are printed -/

/-- A value as the database prints it, possibly with its type. -/
structure Literal where
  value : String
  type : Option String := none
deriving Repr, DecidableEq

/-- A text in which every quote is written twice. -/
def quotesDoubled (s : List Char) : List Char :=
  s.flatMap fun c => if c = '\'' then ['\'', '\''] else [c]

namespace Literal

/-- What stands behind the quoted value. -/
def cast (l : Literal) : List Char :=
  match l.type with
  | none => []
  | some type => ':' :: ':' :: type.toList

def text (l : Literal) : List Char :=
  '\'' :: quotesDoubled l.value.toList ++ '\'' :: l.cast

/-- A literal on one line that does not itself open a list, and whose type has no quote. -/
structure IsPlain (l : Literal) : Prop where
  value_line : '\n' ∉ l.value.toList
  value_opening : ¬listOpening <:+: l.value.toList
  type_quote : ∀ type ∈ l.type, '\'' ∉ type.toList
  type_line : ∀ type ∈ l.type, '\n' ∉ type.toList
  type_opening : ∀ type ∈ l.type, ¬listOpening <:+: type.toList

end Literal

/-- A text is a list of literals with these values. A comma stands between two of them, with or
without a blank. -/
inductive Lists : List Char → List String → Prop
  | one {l : Literal} (hl : l.IsPlain) : Lists l.text [l.value]
  | more {l : Literal} {separator s : List Char} {values : List String} (hl : l.IsPlain)
      (hseparator : separator = [','] ∨ separator = [',', ' ']) (hs : Lists s values) :
      Lists (l.text ++ separator ++ s) (l.value :: values)

/-- The test whether an expression is one of the values in a list. -/
def membershipText (expression : String) (list : List Char) : String :=
  "(" ++ expression ++ " = ANY (ARRAY[" ++ String.ofList list ++ "]))"

/-- What is given as the check of a column mentions these values: none unless it tests whether an
expression is one of them. -/
inductive Mentions : Value → List String → Prop
  | absent : Mentions .null []
  | empty : Mentions (.string "") []
  | other {text : String} (h : ¬listOpening <:+: text.toList) : Mentions (.string text) []
  | membership {expression : String} {list : List Char} {values : List String}
      (hexpression : '\n' ∉ expression.toList) (hlist : Lists list values) :
      Mentions (.string (membershipText expression list)) values

/-! ### Finding the list -/

/-- What does not hold a letter stands before or behind it. -/
lemma infix_append_cons_iff {α : Type} {part xs ys : List α} {a : α} (h : a ∉ part) :
    part <:+: xs ++ a :: ys ↔ part <:+: xs ∨ part <:+: ys := by
  have hbegins : ∀ p q, part = p ++ q → q <+: a :: ys → q = [] := by
    rintro p (_ | ⟨b, q⟩) hpart hq
    · rfl
    · have hb : b = a := (List.cons_prefix_cons.mp hq).1
      exact absurd (by simp [hpart, hb]) h
  constructor
  · intro hpart
    rcases List.infix_append_iff.mp hpart with hxs | hys | ⟨p, q, hsplit, hp, hq⟩
    · exact .inl hxs
    · rcases List.infix_cons_iff.mp hys with hq | hys
      · have hnil := hbegins [] part rfl hq
        exact .inr (hnil ▸ List.nil_infix)
      · exact .inr hys
    · have hnil := hbegins p q hsplit hq
      subst hnil
      rw [List.append_nil] at hsplit
      exact .inl (hsplit ▸ hp.isInfix)
  · rintro (hxs | hys)
    · exact hxs.trans (List.prefix_append _ _).isInfix
    · exact (hys.trans (List.suffix_cons a ys).isInfix).trans (List.suffix_append _ _).isInfix

lemma beforeLast?_eq_none {closing s : List Char} (h : ¬closing <:+: s) :
    beforeLast? closing s = none := by
  induction s with
  | nil => rfl
  | cons c s ih =>
    rw [List.infix_cons_iff, not_or] at h
    have hbegins : closing.isPrefixOf (c :: s) = false := by
      simpa [← Bool.not_eq_true, List.isPrefixOf_iff_prefix] using h.1
    rw [beforeLast?, ih h.2]
    simp [hbegins]

lemma beforeLast?_append {closing s inner : List Char} (h : beforeLast? closing s = some inner)
    (before : List Char) : beforeLast? closing (before ++ s) = some (before ++ inner) := by
  induction before with
  | nil => exact h
  | cons c before ih => rw [List.cons_append, beforeLast?, ih, List.cons_append]

/-- The last closing is the one behind which there is no bracket. -/
lemma beforeLast?_listClosing (list : List Char) {after : List Char} (h : ']' ∉ after) :
    beforeLast? listClosing (list ++ (listClosing ++ after)) = some list := by
  have hlater : ¬listClosing <:+: ')' :: ')' :: after := by
    intro hheld
    have hmem : ']' ∈ ')' :: ')' :: after := hheld.subset (by decide)
    simp [h] at hmem
  have hclosing : beforeLast? listClosing (listClosing ++ after) = some [] := by
    have hnone := beforeLast?_eq_none hlater
    change beforeLast? listClosing (']' :: ')' :: ')' :: after) = some []
    rw [beforeLast?, hnone]
    simp [listClosing]
  simpa using beforeLast?_append hclosing list

lemma innermostList?_eq_none {s : List Char} (h : ¬listOpening <:+: s) :
    innermostList? s = none := by
  induction s with
  | nil => rfl
  | cons c s ih =>
    rw [List.infix_cons_iff, not_or] at h
    have hbegins : listOpening.isPrefixOf? (c :: s) = none := by
      rw [Option.eq_none_iff_forall_ne_some]
      intro rest hrest
      exact h.1 ⟨rest, List.isPrefixOf?_eq_some_iff_append_eq.mp hrest⟩
    rw [innermostList?, ih h.2]
    simp [hbegins]

lemma innermostList?_append {s list : List Char} (h : innermostList? s = some list)
    (before : List Char) : innermostList? (before ++ s) = some list := by
  induction before with
  | nil => exact h
  | cons c before ih => rw [List.cons_append, innermostList?, ih]

lemma not_listOpening_infix_nil : ¬listOpening <:+: [] := by decide

/-- No end of the opening is a beginning of it. -/
lemma eq_nil_of_suffix_listOpening :
    ∀ p ∈ listOpening.tail.tails, p.isPrefixOf listOpening → p = [] := by
  decide

lemma innermostList?_listOpening {s : List Char} (h : ¬listOpening <:+: s) :
    innermostList? (listOpening ++ s) = beforeLast? listClosing s := by
  have hlater : ¬listOpening <:+: listOpening.tail ++ s := by
    rw [List.infix_append_iff]
    rintro (htail | hs | ⟨p, q, hsplit, hp, hq⟩)
    · exact absurd htail.length_le (by decide)
    · exact h hs
    · have hbegins : p.isPrefixOf listOpening :=
        List.isPrefixOf_iff_prefix.mpr (hsplit ▸ List.prefix_append p q)
      have hnil := eq_nil_of_suffix_listOpening p ((List.mem_tails p _).mpr hp) hbegins
      rw [hnil, List.nil_append] at hsplit
      exact h (hsplit ▸ hq.isInfix)
  have hfound : listOpening.isPrefixOf? (listOpening ++ s) = some s :=
    List.isPrefixOf?_eq_some_iff_append_eq.mpr rfl
  change innermostList? (' ' :: (listOpening.tail ++ s)) = _
  rw [innermostList?, innermostList?_eq_none hlater]
  change (listOpening.isPrefixOf? (listOpening ++ s)).bind _ = _
  rw [hfound, Option.bind_some]

/-- The list of a check is the one that is opened last, up to the last bracket. -/
lemma listOfCheck?_eq {before list after : List Char} (hbefore : '\n' ∉ before)
    (hlist : '\n' ∉ list) (hopening : ¬listOpening <:+: list) (hafter : '\n' ∉ after)
    (hopened : '[' ∉ after) (hclosed : ']' ∉ after) :
    listOfCheck? ('(' :: (before ++ (listOpening ++ (list ++ (listClosing ++ after))))) =
      some list := by
  have hrest : ¬listOpening <:+: list ++ (listClosing ++ after) := by
    have hbracket : ¬listOpening <:+: ')' :: ')' :: after := by
      intro hheld
      have hmem : '[' ∈ ')' :: ')' :: after := hheld.subset (by decide)
      simp [hopened] at hmem
    change ¬listOpening <:+: list ++ ']' :: (')' :: ')' :: after)
    rw [infix_append_cons_iff (by decide), not_or]
    exact ⟨hopening, hbracket⟩
  have hfound := innermostList?_listOpening hrest
  rw [beforeLast?_listClosing list hclosed] at hfound
  have hline : (before ++ (listOpening ++ (list ++ (listClosing ++ after)))).takeWhile (· ≠ '\n') =
      before ++ (listOpening ++ (list ++ (listClosing ++ after))) := by
    rw [List.takeWhile_eq_self_iff]
    have hopen : '\n' ∉ listOpening := by decide
    have hclose : '\n' ∉ listClosing := by decide
    intro c hc
    rw [decide_eq_true_iff]
    rintro rfl
    simp [hbefore, hlist, hafter, hopen, hclose] at hc
  rw [listOfCheck?, hline]
  exact innermostList?_append hfound before

/-! ### Reading the literals -/

lemma literals_of_not_mem {s : List Char} (h : '\'' ∉ s) (rest : List Char) :
    literals .outside (s ++ rest) = literals .outside rest := by
  induction s with
  | nil => rfl
  | cons c s ih =>
    rw [List.mem_cons, not_or] at h
    simp [literals, Ne.symm h.1, ih h.2]

/-- A literal ends at a quote that is not doubled. -/
lemma literals_closed {rest : List Char} (hrest : rest.head? ≠ some '\'') (body : List Char)
    (fallback : Option (List Char)) :
    literals (.inside body fallback) ('\'' :: rest) = body :: literals .outside rest := by
  cases rest with
  | nil => rfl
  | cons c rest =>
    have hc : c ≠ '\'' := by simpa using hrest
    simp [literals, hc]

lemma literals_quotesDoubled (s : List Char) {rest : List Char} (hrest : rest.head? ≠ some '\'')
    (body : List Char) (fallback : Option (List Char)) :
    literals (.inside body fallback) (quotesDoubled s ++ '\'' :: rest) =
      (body ++ s) :: literals .outside rest := by
  induction s generalizing body fallback with
  | nil =>
    rw [List.append_nil]
    exact literals_closed hrest body fallback
  | cons c s ih =>
    have hbody : body ++ c :: s = body ++ [c] ++ s := by simp
    rw [hbody]
    by_cases hc : c = '\''
    · subst hc
      change literals _ ('\'' :: '\'' :: (quotesDoubled s ++ '\'' :: rest)) = _
      rw [literals, ih]
    · have hdoubled : quotesDoubled (c :: s) = c :: quotesDoubled s := by
        simp [quotesDoubled, hc]
      rw [hdoubled, List.cons_append]
      simp [literals, hc, ih]

namespace Literal

lemma literals_text {l : Literal} (hl : l.IsPlain) {rest : List Char}
    (hrest : rest.head? ≠ some '\'') :
    literals .outside (l.text ++ rest) = l.value.toList :: literals .outside rest := by
  have hcast : '\'' ∉ l.cast ∧ (l.cast ++ rest).head? ≠ some '\'' := by
    unfold cast
    cases htype : l.type with
    | none => exact ⟨List.not_mem_nil, hrest⟩
    | some type =>
      have hquote := hl.type_quote type htype
      exact ⟨by simp [hquote], by simp⟩
  have htext : l.text ++ rest =
      '\'' :: (quotesDoubled l.value.toList ++ '\'' :: (l.cast ++ rest)) := by
    simp [text]
  rw [htext, literals, literals_quotesDoubled _ hcast.2, literals_of_not_mem hcast.1]
  simp

lemma not_mem_cast {l : Literal} {c : Char} (hc : c ≠ ':')
    (h : ∀ type ∈ l.type, c ∉ type.toList) : c ∉ l.cast := by
  unfold cast
  cases htype : l.type with
  | none => exact List.not_mem_nil
  | some type => simp [hc, h type htype]

lemma IsPlain.line_text {l : Literal} (hl : l.IsPlain) : '\n' ∉ l.text := by
  have hvalue : '\n' ∉ quotesDoubled l.value.toList := by
    unfold quotesDoubled
    rw [List.mem_flatMap]
    rintro ⟨c, hc, hmem⟩
    split at hmem
    · simp at hmem
    · rw [List.mem_singleton] at hmem
      exact hl.value_line (hmem ▸ hc)
  have hcast := not_mem_cast (by decide) hl.type_line
  simp [text, hvalue, hcast]

end Literal

/-! ### Where lists are opened -/

/-- What has no quote stands in a text if it stands there with the quotes doubled. -/
lemma prefix_of_prefix_quotesDoubled {part s : List Char} (hquote : '\'' ∉ part)
    (h : part <+: quotesDoubled s) : part <+: s := by
  induction s generalizing part with
  | nil => exact h
  | cons c s ih =>
    rcases part with _ | ⟨d, part⟩
    · exact List.nil_prefix
    · rw [List.mem_cons, not_or] at hquote
      by_cases hc : c = '\''
      · subst hc
        exact absurd (List.cons_prefix_cons.mp h).1.symm hquote.1
      · have hdoubled : quotesDoubled (c :: s) = c :: quotesDoubled s := by
          simp [quotesDoubled, hc]
        rw [hdoubled] at h
        obtain ⟨hd, hpart⟩ := List.cons_prefix_cons.mp h
        exact List.cons_prefix_cons.mpr ⟨hd, ih hquote.2 hpart⟩

lemma infix_of_infix_quotesDoubled {part s : List Char} (hquote : '\'' ∉ part)
    (h : part <:+: quotesDoubled s) : part <:+: s := by
  induction s with
  | nil => exact h
  | cons c s ih =>
    by_cases hc : c = '\''
    · subst hc
      have hdoubled : quotesDoubled ('\'' :: s) = [] ++ '\'' :: ([] ++ '\'' :: quotesDoubled s) := rfl
      rw [hdoubled, infix_append_cons_iff hquote, infix_append_cons_iff hquote] at h
      rcases h with h | h | h
      · exact h.trans List.nil_infix
      · exact h.trans List.nil_infix
      · exact (ih h).trans (List.suffix_cons _ s).isInfix
    · have hdoubled : quotesDoubled (c :: s) = c :: quotesDoubled s := by simp [quotesDoubled, hc]
      rw [hdoubled, List.infix_cons_iff] at h
      rcases h with h | h
      · exact (prefix_of_prefix_quotesDoubled hquote (hdoubled ▸ h)).isInfix
      · exact (ih h).trans (List.suffix_cons c s).isInfix

lemma Literal.IsPlain.opening_text {l : Literal} (hl : l.IsPlain) : ¬listOpening <:+: l.text := by
  have hvalue : ¬listOpening <:+: quotesDoubled l.value.toList :=
    fun h => hl.value_opening (infix_of_infix_quotesDoubled (by decide) h)
  have hcast : ¬listOpening <:+: l.cast := by
    unfold cast
    cases htype : l.type with
    | none => exact not_listOpening_infix_nil
    | some type =>
      have htype := hl.type_opening type htype
      change ¬listOpening <:+: [] ++ ':' :: ([] ++ ':' :: type.toList)
      rw [infix_append_cons_iff (by decide), infix_append_cons_iff (by decide)]
      simp only [not_listOpening_infix_nil, htype, or_false, not_false_eq_true]
  change ¬listOpening <:+: [] ++ '\'' :: (quotesDoubled l.value.toList ++ '\'' :: l.cast)
  rw [infix_append_cons_iff (by decide), infix_append_cons_iff (by decide)]
  simp only [not_listOpening_infix_nil, hvalue, hcast, or_false, not_false_eq_true]

namespace Lists

variable {s : List Char} {values : List String}

lemma exists_cons (h : Lists s values) : ∃ rest, s = '\'' :: rest := by
  cases h with
  | one => exact ⟨_, rfl⟩
  | more => exact ⟨_, rfl⟩

lemma opening (h : Lists s values) : ¬listOpening <:+: s := by
  induction h with
  | one hl => exact hl.opening_text
  | @more l separator s values hl hseparator hs ih =>
    obtain ⟨rest, rfl⟩ := hs.exists_cons
    have hrest : ¬listOpening <:+: rest :=
      fun h => ih (h.trans (List.suffix_cons _ rest).isInfix)
    -- no letter of the opening is a comma or a quote
    obtain ⟨blanks, hblanks, htext⟩ : ∃ blanks, ¬listOpening <:+: blanks ∧
        l.text ++ separator ++ '\'' :: rest = l.text ++ ',' :: (blanks ++ '\'' :: rest) := by
      rcases hseparator with rfl | rfl
      · exact ⟨[], not_listOpening_infix_nil, by simp⟩
      · exact ⟨[' '], by decide, by simp⟩
    rw [htext, infix_append_cons_iff (by decide), infix_append_cons_iff (by decide)]
    simp only [hl.opening_text, hblanks, hrest, or_self, not_false_eq_true]

lemma line (h : Lists s values) : '\n' ∉ s := by
  induction h with
  | one hl => exact hl.line_text
  | more hl hseparator hs ih =>
    have hline := hl.line_text
    rcases hseparator with rfl | rfl <;> simp [hline, ih]

/-- The literals of a list are its values. -/
lemma literals_eq (h : Lists s values) :
    (literals .outside s).map String.ofList = values := by
  induction h with
  | @one l hl =>
    have hread := @Literal.literals_text l hl [] (by simp)
    rw [List.append_nil] at hread
    simp [hread, literals]
  | @more l separator s values hl hseparator hs ih =>
    obtain ⟨hhead, hquote⟩ : (separator ++ s).head? ≠ some '\'' ∧ '\'' ∉ separator := by
      rcases hseparator with rfl | rfl <;> simp
    rw [List.append_assoc, l.literals_text hl hhead, literals_of_not_mem hquote]
    simp [ih]

end Lists

/-! ### The values of the checks -/

lemma toList_membershipText (expression : String) (list : List Char) :
    (membershipText expression list).toList =
      '(' :: (expression.toList ++ (listOpening ++ (list ++ (listClosing ++ [])))) := by
  simp only [membershipText, String.toList_append, String.toList_ofList, List.append_assoc,
    List.append_nil]
  rfl

lemma valuesOfCheck_membership {expression : String} {list : List Char} {values : List String}
    (hexpression : '\n' ∉ expression.toList) (hlist : Lists list values) :
    valuesOfCheck (membershipText expression list) = values := by
  have hfound := listOfCheck?_eq hexpression hlist.line hlist.opening
    (@List.not_mem_nil _ '\n') List.not_mem_nil List.not_mem_nil
  rw [valuesOfCheck, toList_membershipText, hfound]
  exact hlist.literals_eq

lemma valuesOfCheck_eq_nil {text : String} (h : ¬listOpening <:+: text.toList) :
    valuesOfCheck text = [] := by
  have hnone : listOfCheck? text.toList = none := by
    rcases hchars : text.toList with _ | ⟨c, s⟩
    · rfl
    · rw [hchars] at h
      rw [listOfCheck?.eq_def]
      split
      · next hcons =>
        obtain ⟨rfl, rfl⟩ := List.cons.inj hcons
        apply innermostList?_eq_none
        intro hheld
        exact h (hheld.trans ((List.takeWhile_prefix _).isInfix.trans (List.suffix_cons _ s).isInfix))
      · rfl
  rw [valuesOfCheck, hnone]

/-- The checks that are given are texts, and together they list the values that they mention. -/
lemma exists_texts {checks : List Value} {lists : List (List String)}
    (h : List.Forall₂ Mentions checks lists) :
    ∃ texts, (checks.filter Value.isTruthy).mapM Value.asText = .ok texts ∧
      texts.flatMap valuesOfCheck = lists.flatten := by
  induction h with
  | nil => exact ⟨[], rfl, rfl⟩
  | @cons check values checks lists hcheck _ ih =>
    obtain ⟨texts, htexts, hvalues⟩ := ih
    have hempty (hfalsy : check.isTruthy = false) (hnil : values = []) :
        ∃ texts, ((check :: checks).filter Value.isTruthy).mapM Value.asText = .ok texts ∧
          texts.flatMap valuesOfCheck = (values :: lists).flatten := by
      refine ⟨texts, ?_, ?_⟩
      · rw [List.filter_cons_of_neg (by simp [hfalsy]), htexts]
      · rw [hnil, hvalues, List.flatten_cons, List.nil_append]
    have hgiven {text : String} (hne : text ≠ "") (htext : check = .string text)
        (hmentioned : valuesOfCheck text = values) :
        ∃ texts, ((check :: checks).filter Value.isTruthy).mapM Value.asText = .ok texts ∧
          texts.flatMap valuesOfCheck = (values :: lists).flatten := by
      refine ⟨text :: texts, ?_, ?_⟩
      · subst htext
        rw [List.filter_cons_of_pos (by simpa [Value.isTruthy] using hne), List.mapM_cons, htexts]
        rfl
      · rw [List.flatMap_cons, hmentioned, hvalues, List.flatten_cons]
    cases hcheck with
    | absent => exact hempty rfl rfl
    | empty => exact hempty rfl rfl
    | @other text hother =>
      by_cases hne : text = ""
      · subst hne
        exact hempty rfl rfl
      · exact hgiven hne rfl (valuesOfCheck_eq_nil hother)
    | @membership expression list _ hexpression hlist =>
      refine hgiven ?_ rfl (valuesOfCheck_membership hexpression hlist)
      intro hnil
      have hchars := congrArg String.toList hnil
      rw [toList_membershipText] at hchars
      cases hchars

/-- The enumeration of a column holds the values that its checks mention, each of them once, in the
order in which they are first met. If there are none, the property is not restricted to a list. -/
theorem Column.enumeration_of_mentions (c : Column) (lists : List (List String))
    (h : List.Forall₂ Mentions c.constraints lists) :
    ∃ values, c.enumeration = .ok values ∧ (∀ v, v ∈ values ↔ v ∈ lists.flatten) ∧
      (values.Pairwise fun a b => lists.flatten.idxOf a < lists.flatten.idxOf b) ∧
      enumerationMembers values =
        if lists.flatten = [] then [] else [("enum", .array (values.map .string))] := by
  obtain ⟨texts, htexts, hvalues⟩ := exists_texts h
  refine ⟨lists.flatten.eraseDups, ?_, fun v => List.mem_eraseDups,
    Discovery.pairwise_eraseDups _, ?_⟩
  · rw [Column.enumeration, htexts, ← hvalues]
    rfl
  · rcases hflat : lists.flatten with _ | ⟨v, rest⟩
    · rfl
    · rw [List.eraseDups_cons, if_neg (List.cons_ne_nil v rest)]
      rfl

theorem Column.enumeration_of_mentions_awkward :
    let c : Column := {
      name := .string "label", type := .string "text", nullable := .bool true
      constraints := [.null, .string "", .string "(label <> 'a = ANY (b)'::text)",
        .string "(label = ANY (ARRAY['it''s'::text,''''::text, 'a, b]))', '']))",
        .string "(lower(label) = ANY (ARRAY[''::character varying(3), 'c'::text]))"] }
    let lists := [[], [], [], ["it's", "'", "a, b]))", ""], ["", "c"]]
    List.Forall₂ Mentions c.constraints lists ∧
      ∃ values, c.enumeration = .ok values ∧ (∀ v, v ∈ values ↔ v ∈ lists.flatten) ∧
        (values.Pairwise fun a b => lists.flatten.idxOf a < lists.flatten.idxOf b) ∧
        enumerationMembers values =
          if lists.flatten = [] then [] else [("enum", .array (values.map .string))] := by
  intro c lists
  have hplain (value : String) (type : Option String)
      (hvalue : '\n' ∉ value.toList ∧ ¬listOpening <:+: value.toList)
      (htype : ∀ t ∈ type, '\'' ∉ t.toList ∧ '\n' ∉ t.toList ∧ ¬listOpening <:+: t.toList) :
      (Literal.mk value type).IsPlain :=
    ⟨hvalue.1, hvalue.2, fun t ht => (htype t ht).1, fun t ht => (htype t ht).2.1,
      fun t ht => (htype t ht).2.2⟩
  have hfirst : Lists "'it''s'::text,''''::text, 'a, b]))', ''".toList
      ["it's", "'", "a, b]))", ""] :=
    .more (hplain "it's" (some "text") (by decide) (by decide)) (.inl rfl)
      (.more (hplain "'" (some "text") (by decide) (by decide)) (.inr rfl)
        (.more (hplain "a, b]))" none (by decide) (by decide)) (.inr rfl)
          (.one (hplain "" none (by decide) (by decide)))))
  have hsecond : Lists "''::character varying(3), 'c'::text".toList ["", "c"] :=
    .more (hplain "" (some "character varying(3)") (by decide) (by decide)) (.inr rfl)
      (.one (hplain "c" (some "text") (by decide) (by decide)))
  have h : List.Forall₂ Mentions c.constraints lists := by
    refine .cons .absent (.cons .empty (.cons (.other (by decide)) (.cons ?_ (.cons ?_ .nil))))
    · exact @Mentions.membership "label" _ _ (by decide) hfirst
    · exact @Mentions.membership "lower(label)" _ _ (by decide) hsecond
  exact ⟨h, c.enumeration_of_mentions lists h⟩

end TableGateway.Catalog
