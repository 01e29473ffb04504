import Mathlib
import TableGateway.Discovery.Clause
import TableGateway.Proofs.Expressions

/-!
# How the database reads a condition

A condition is read from its text in three steps: characters make up tokens, tokens make up the
words of an expression, in which a comparison is one word, and the words are read by the grammar of
expressions. In a literal a quote, a percent sign and a backslash are written twice.
-/

namespace TableGateway.Discovery

open Logic

/-! ### Tokens -/

inductive Token where
  | opening
  | closing
  | comma
  | equals
  | differs
  /-- A keyword, a name or a number, in small letters. -/
  | word (s : List Char)
  /-- A text between quotes. -/
  | literal (s : String)
deriving Repr, DecidableEq

def isWordChar (c : Char) : Bool :=
  c.isAlphanum || c = '_'

/-- Tokens with a letter before them, which is a part of the first of them if that is a word that it
touches. -/
def wordBefore (c : Char) (touching : Bool) (ts : List Token) : List Token :=
  match touching, ts with
  | true, .word w :: rest => .word (c.toLower :: w) :: rest
  | _, ts => .word [c.toLower] :: ts

mutual

def tokens : List Char → Option (List Token)
  | [] => some []
  | ' ' :: s => tokens s
  | '(' :: s => (tokens s).map (.opening :: ·)
  | ')' :: s => (tokens s).map (.closing :: ·)
  | ',' :: s => (tokens s).map (.comma :: ·)
  | '=' :: s => (tokens s).map (.equals :: ·)
  | '!' :: '=' :: s => (tokens s).map (.differs :: ·)
  | '\'' :: s => (restOfLiteral s).map fun p => .literal (String.ofList p.1) :: p.2
  | c :: s =>
    if isWordChar c then (tokens s).map (wordBefore c (s.head?.any isWordChar)) else none

/-- The characters up to the end of a literal, and the tokens behind it. -/
def restOfLiteral : List Char → Option (List Char × List Token)
  | '\'' :: '\'' :: s => (restOfLiteral s).map fun p => ('\'' :: p.1, p.2)
  | '%' :: '%' :: s => (restOfLiteral s).map fun p => ('%' :: p.1, p.2)
  | '\\' :: '\\' :: s => (restOfLiteral s).map fun p => ('\\' :: p.1, p.2)
  | '\'' :: s => (tokens s).map fun ts => ([], ts)
  | c :: s =>
    if c = '%' ∨ c = '\\' then none else (restOfLiteral s).map fun p => (c :: p.1, p.2)
  | [] => none

end

/-! ### Comparisons -/

inductive Item where
  | null
  | text (s : String)
deriving Repr, DecidableEq

inductive Comparison where
  | equal (m n : Nat)
  | differ (m n : Nat)
  | isIn (column : String) (items : List Item)
  | isNotIn (column : String) (items : List Item)
deriving Repr, DecidableEq

/-- The words that are no names, with those of them that are words of an expression. -/
def keywords : List (List Char × Option (Word Comparison)) :=
  [(['a', 'n', 'd'], some (.connective .and)), (['o', 'r'], some (.connective .or)),
   (['t', 'r', 'u', 'e'], some (.constant true)),
   (['f', 'a', 'l', 's', 'e'], some (.constant false)),
   (['n', 'o', 't'], none), (['i', 'n'], none), (['n', 'u', 'l', 'l'], none)]

def number? (w : List Char) : Option Nat :=
  if w ≠ [] ∧ w.all Char.isDigit then
    some (w.foldl (fun n c => 10 * n + (c.toNat - '0'.toNat)) 0)
  else none

def item? : Token → Option Item
  | .literal s => some (.text s)
  | .word ['n', 'u', 'l', 'l'] => some .null
  | _ => none

mutual

def words : List Token → Option (List (Word Comparison))
  | [] => some []
  | .opening :: ts => (words ts).map (.opening :: ·)
  | .closing :: ts => (words ts).map (.closing :: ·)
  | .word w :: ts =>
    match keywords.lookup w with
    | some (some word) => (words ts).map (word :: ·)
    | some none => none
    | none => wordsFrom w ts
  | _ => none

/-- The words that begin with a comparison of the given name or number. -/
def wordsFrom (left : List Char) : List Token → Option (List (Word Comparison))
  | .equals :: .word right :: ts => do
    let comparison := Comparison.equal (← number? left) (← number? right)
    return .atom comparison :: (← words ts)
  | .differs :: .word right :: ts => do
    let comparison := Comparison.differ (← number? left) (← number? right)
    return .atom comparison :: (← words ts)
  | .word ['i', 'n'] :: .opening :: ts => do
    let (items, rest) ← itemsAndWords ts
    return .atom (.isIn (String.ofList left) items) :: rest
  | .word ['n', 'o', 't'] :: .word ['i', 'n'] :: .opening :: ts => do
    let (items, rest) ← itemsAndWords ts
    return .atom (.isNotIn (String.ofList left) items) :: rest
  | _ => none

/-- The items up to the end of a list, and the words behind it. -/
def itemsAndWords : List Token → Option (List Item × List (Word Comparison))
  | t :: .closing :: ts => do
    let item ← item? t
    return ([item], ← words ts)
  | t :: .comma :: ts => do
    let item ← item? t
    let (items, rest) ← itemsAndWords ts
    return (item :: items, rest)
  | _ => none

end

/-- A text is read as an expression. -/
def IsReadAs (text : String) (e : Expression Comparison) : Prop :=
  ∃ ts ws, tokens text.toList = some ts ∧ words ts = some ws ∧ Reads ws e

lemma IsReadAs.unique {text : String} {e f : Expression Comparison} (he : IsReadAs text e)
    (hf : IsReadAs text f) : e = f := by
  obtain ⟨ts, ws, hts, hws, hread⟩ := he
  obtain ⟨ts', ws', hts', hws', hread'⟩ := hf
  obtain rfl := Option.some.inj (hts.symm.trans hts')
  obtain rfl := Option.some.inj (hws.symm.trans hws')
  exact hread.unique hread'

/-! ### Truth -/

/-- A row by its columns; other columns are null. -/
abbrev Row := String → Option String

/-- Whether a value is an item; null is not known to be anything. -/
def Item.truth (value : Option String) : Item → Truth
  | null => .unknown
  | text s =>
    match value with
    | none => .unknown
    | some v => .ofBool (v == s)

/-- The truth of a comparison in a row. A value is in a list if it is one of the items. -/
def Comparison.truth (row : Row) : Comparison → Truth
  | equal m n => .ofBool (m == n)
  | differ m n => .ofBool (m != n)
  | isIn column items => .any (items.map (Item.truth (row column)))
  | isNotIn column items => (Truth.any (items.map (Item.truth (row column)))).not

/-! ### Words and literals in a text -/

/-- Where a word or a literal before it must end. -/
def IsBoundary (s : List Char) : Prop :=
  ∀ c ∈ s.head?, isWordChar c = false ∧ c ≠ '\''

lemma tokens_letter {c : Char} (hc : isWordChar c) (s : List Char) :
    tokens (c :: s) = (tokens s).map (wordBefore c (s.head?.any isWordChar)) := by
  rw [tokens, if_pos hc]
  all_goals
    intros
    subst_vars
    revert hc
    decide

lemma tokens_word {w : List Char} (hne : w ≠ []) (hw : ∀ c ∈ w, isWordChar c) {rest : List Char}
    (hrest : IsBoundary rest) :
    tokens (w ++ rest) = (tokens rest).map (.word (w.map Char.toLower) :: ·) := by
  induction w with
  | nil => exact absurd rfl hne
  | cons c w ih =>
    rw [List.cons_append, tokens_letter (hw c List.mem_cons_self)]
    cases w with
    | nil =>
      have hend : rest.head?.any isWordChar = false := by
        cases rest with
        | nil => rfl
        | cons d rest => exact (hrest d rfl).1
      rw [List.nil_append, hend]
      rfl
    | cons d w =>
      have hd : isWordChar d := hw d (by simp)
      rw [ih (by simp) fun e he => hw e (List.mem_cons_of_mem c he), Option.map_map]
      congr 1
      funext ts
      simp [wordBefore, hd]

lemma restOfLiteral_doubled {c : Char} (hc : c = '\'' ∨ c = '%' ∨ c = '\\') (s : List Char) :
    restOfLiteral (c :: c :: s) = (restOfLiteral s).map fun p => (c :: p.1, p.2) := by
  rcases hc with rfl | rfl | rfl <;> rw [restOfLiteral]

lemma restOfLiteral_plain {c : Char} (hc : ¬(c = '\'' ∨ c = '%' ∨ c = '\\')) (s : List Char) :
    restOfLiteral (c :: s) = (restOfLiteral s).map fun p => (c :: p.1, p.2) := by
  rw [restOfLiteral, if_neg (by tauto)]
  all_goals grind

/-- A literal ends with its own quote and holds what it was written for, whatever that is. -/
lemma tokens_literal (text : String) {rest : List Char} (hrest : rest.head? ≠ some '\'') :
    tokens ((literal text).toList ++ rest) = (tokens rest).map (.literal text :: ·) := by
  -- By induction on the text: each of its characters is read back, doubled or not, and the quote
  -- behind them is no half of a doubled one because none follows it.
  have hscan (s : List Char) : restOfLiteral (s.flatMap (fun c =>
      if c = '\'' ∨ c = '%' ∨ c = '\\' then [c, c] else [c]) ++ '\'' :: rest) =
      (tokens rest).map fun ts => (s, ts) := by
    induction s with
    | nil =>
      rw [List.flatMap_nil, List.nil_append, restOfLiteral]
      rintro s rfl
      exact hrest rfl
    | cons c s ih =>
      rw [List.flatMap_cons, List.append_assoc]
      by_cases hc : c = '\'' ∨ c = '%' ∨ c = '\\'
      · rw [if_pos hc, List.cons_append, List.cons_append, restOfLiteral_doubled hc,
          List.nil_append, ih, Option.map_map]
        rfl
      · rw [if_neg hc, List.cons_append, restOfLiteral_plain hc, List.nil_append, ih,
          Option.map_map]
        rfl
  unfold literal
  rw [String.toList_ofList, List.append_assoc, List.singleton_append, List.cons_append, tokens,
    hscan, Option.map_map]
  congr 1
  funext ts
  simp

end TableGateway.Discovery
