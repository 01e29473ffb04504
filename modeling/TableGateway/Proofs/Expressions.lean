import Mathlib

/-!
# Boolean expressions of SQL

A comparison with null is unknown, so there are three truth values. An expression is read from its
words by the grammar of SQL, in which `AND` binds tighter than `OR` and both group to the left. No
words can be read in two ways.
-/

namespace TableGateway.Logic

/-! ### Truth values -/

inductive Truth where
  | false
  | unknown
  | true
deriving Repr, DecidableEq

namespace Truth

def ofBool (b : Bool) : Truth :=
  if b then true else false

def not : Truth → Truth
  | false => true
  | unknown => unknown
  | true => false

def and : Truth → Truth → Truth
  | false, _ | _, false => false
  | true, t | t, true => t
  | unknown, unknown => unknown

def or : Truth → Truth → Truth
  | true, _ | _, true => true
  | false, t | t, false => t
  | unknown, unknown => unknown

/-- The conjunction of truth values; without any it is true. -/
def all (truths : List Truth) : Truth :=
  truths.foldr and true

/-- The disjunction of truth values; without any it is false. -/
def any (truths : List Truth) : Truth :=
  truths.foldr or false

lemma and_eq_true {a b : Truth} : a.and b = true ↔ a = true ∧ b = true := by
  cases a <;> cases b <;> decide

lemma or_eq_true {a b : Truth} : a.or b = true ↔ a = true ∨ b = true := by
  cases a <;> cases b <;> decide

@[simp] lemma not_eq_true {a : Truth} : a.not = true ↔ a = false := by
  cases a <;> decide

@[simp] lemma ofBool_eq_true {b : Bool} : ofBool b = true ↔ b = Bool.true := by
  cases b <;> decide

@[simp] lemma ofBool_eq_false {b : Bool} : ofBool b = false ↔ b = Bool.false := by
  cases b <;> decide

lemma ofBool_or (a b : Bool) : (ofBool a).or (ofBool b) = ofBool (a || b) := by
  cases a <;> cases b <;> rfl

lemma all_eq_true {truths : List Truth} : all truths = true ↔ ∀ t ∈ truths, t = true := by
  induction truths with
  | nil => simp [all]
  | cons t rest ih =>
    change t.and (all rest) = true ↔ _
    rw [and_eq_true, ih, List.forall_mem_cons]

lemma any_eq_true {truths : List Truth} : any truths = true ↔ ∃ t ∈ truths, t = true := by
  induction truths with
  | nil => simp [any]
  | cons t rest ih =>
    change t.or (any rest) = true ↔ _
    rw [or_eq_true, ih, List.exists_mem_cons_iff]

end Truth

/-! ### Expressions -/

inductive Connective where
  | and
  | or
deriving Repr, DecidableEq

namespace Connective

def truth : Connective → Truth → Truth → Truth
  | and => Truth.and
  | or => Truth.or

def truthOfEach : Connective → List Truth → Truth
  | and => Truth.all
  | or => Truth.any

/-- The constant that nothing joined stands for. -/
def unit : Connective → Bool
  | and => true
  | or => false

lemma truth_assoc (c : Connective) (x y z : Truth) :
    c.truth (c.truth x y) z = c.truth x (c.truth y z) := by
  cases c <;> cases x <;> cases y <;> cases z <;> rfl

@[simp] lemma truth_unit (c : Connective) (x : Truth) : c.truth x (.ofBool c.unit) = x := by
  cases c <;> cases x <;> rfl

lemma truthOfEach_nil (c : Connective) : c.truthOfEach [] = .ofBool c.unit := by
  cases c <;> rfl

lemma truthOfEach_cons (c : Connective) (t : Truth) (rest : List Truth) :
    c.truthOfEach (t :: rest) = c.truth t (c.truthOfEach rest) := by
  cases c <;> rfl

end Connective

inductive Expression (α : Type) where
  | constant (b : Bool)
  | atom (a : α)
  | joined (c : Connective) (left right : Expression α)
deriving Repr, DecidableEq

namespace Expression

variable {α : Type}

/-- The truth of an expression, given that of its atoms. -/
def truth (value : α → Truth) : Expression α → Truth
  | constant b => .ofBool b
  | atom a => value a
  | joined c l r => c.truth (l.truth value) (r.truth value)

def atoms : Expression α → List α
  | constant _ => []
  | atom a => [a]
  | joined _ l r => l.atoms ++ r.atoms

/-- The expression with its atoms numbered from left to right, the first one with `n`. -/
def numbered (n : Nat) : Expression α → Expression Nat
  | constant b => constant b
  | atom _ => atom n
  | joined c l r => joined c (l.numbered n) (r.numbered (n + l.atoms.length))

def numberedEach : Nat → List (Expression α) → List (Expression Nat)
  | _, [] => []
  | n, e :: rest => e.numbered n :: numberedEach (n + e.atoms.length) rest

def several (c : Connective) : List (Expression α) → Expression α
  | [] => constant c.unit
  | e :: rest => rest.foldl (joined c) e

lemma truth_several (value : α → Truth) (c : Connective) (es : List (Expression α)) :
    (several c es).truth value = c.truthOfEach (es.map (truth value)) := by
  cases es with
  | nil => exact (c.truthOfEach_nil).symm
  | cons e rest =>
    rw [several, List.map_cons, c.truthOfEach_cons]
    induction rest generalizing e with
    | nil => rw [List.map_nil, c.truthOfEach_nil, c.truth_unit, List.foldl_nil]
    | cons f rest ih =>
      rw [List.foldl_cons, ih, truth, c.truth_assoc, List.map_cons, c.truthOfEach_cons]

lemma atoms_several (c : Connective) (es : List (Expression α)) :
    (several c es).atoms = es.flatMap atoms := by
  cases es with
  | nil => rfl
  | cons e rest =>
    rw [several, List.flatMap_cons]
    induction rest generalizing e with
    | nil => simp
    | cons f rest ih => rw [List.foldl_cons, ih, atoms, List.flatMap_cons, List.append_assoc]

lemma numbered_several (n : Nat) (c : Connective) (es : List (Expression α)) :
    (several c es).numbered n = several c (numberedEach n es) := by
  cases es with
  | nil => rfl
  | cons e rest =>
    rw [several, numberedEach, several]
    induction rest generalizing e with
    | nil => rfl
    | cons f rest ih =>
      rw [List.foldl_cons, ih, atoms, List.length_append, ← Nat.add_assoc]
      rfl

end Expression

/-! ### The grammar -/

/-- A word of an expression; an atom is one word. -/
inductive Word (α : Type) where
  | opening
  | closing
  | connective (c : Connective)
  | constant (b : Bool)
  | atom (a : α)
deriving Repr, DecidableEq

/-- The parts of an expression: those without a connective, and those joined by one. -/
inductive Level where
  | operand
  | joined (c : Connective)

/-- What a connective joins: `AND` binds tighter than `OR`. -/
def Connective.below : Connective → Level
  | and => .operand
  | or => .joined and

/-- The grammar of expressions. -/
inductive Derives {α : Type} : Level → List (Word α) → Expression α → Prop
  | constant (b : Bool) : Derives .operand [.constant b] (.constant b)
  | atom (a : α) : Derives .operand [.atom a] (.atom a)
  | group {ws : List (Word α)} {e : Expression α} (h : Derives (.joined .or) ws e) :
    Derives .operand (.opening :: ws ++ [.closing]) e
  | single {c : Connective} {ws : List (Word α)} {e : Expression α} (h : Derives c.below ws e) :
    Derives (.joined c) ws e
  | join {c : Connective} {ws vs : List (Word α)} {e f : Expression α}
    (he : Derives (.joined c) ws e) (hf : Derives c.below vs f) :
    Derives (.joined c) (ws ++ .connective c :: vs) (.joined c e f)

/-- The words are those of one whole expression. -/
def Reads {α : Type} (ws : List (Word α)) (e : Expression α) : Prop :=
  Derives (.joined .or) ws e

section Grammar

variable {α : Type}

lemma map_intercalate {β γ : Type} (f : β → γ) (sep : List β) (parts : List (List β)) :
    (List.intercalate sep parts).map f = List.intercalate (sep.map f) (parts.map (List.map f)) := by
  induction parts with
  | nil => rfl
  | cons part rest ih =>
    cases rest with
    | nil => simp
    | cons next rest => simp_all [List.intercalate_cons_cons]

lemma intercalate_cons_append {β : Type} (sep xs ys : List β) (rest : List (List β)) :
    List.intercalate sep (xs :: ys :: rest) = List.intercalate sep ((xs ++ sep ++ ys) :: rest) := by
  cases rest <;> simp [List.intercalate_cons_cons]

lemma intercalate_append {β : Type} {sep : List β} {xss yss : List (List β)} (hx : xss ≠ [])
    (hy : yss ≠ []) : List.intercalate sep (xss ++ yss) =
      List.intercalate sep xss ++ (sep ++ List.intercalate sep yss) := by
  induction xss with
  | nil => exact absurd rfl hx
  | cons xs rest ih =>
    cases rest with
    | nil =>
      obtain ⟨ys, yss, rfl⟩ := List.exists_cons_of_ne_nil hy
      simp [List.intercalate_cons_cons]
    | cons next rest => simp_all [List.intercalate_cons_cons]

lemma Derives.tighter {ws : List (Word α)} {e : Expression α} (h : Derives .operand ws e)
    (c : Connective) : Derives c.below ws e := by
  cases c with
  | and => exact h
  | or => exact .single h

lemma Derives.reads_of_joined {c : Connective} {ws : List (Word α)} {e : Expression α}
    (h : Derives (.joined c) ws e) : Reads ws e := by
  cases c with
  | and => exact .single h
  | or => exact h

lemma Derives.reads {ws : List (Word α)} {e : Expression α} (h : Derives .operand ws e) :
    Reads ws e :=
  .single (h.tighter .or)

/-- What is joined by one connective is read from the left. -/
lemma Derives.several {c : Connective} {wss : List (List (Word α))} {es : List (Expression α)}
    (hne : es ≠ []) (h : List.Forall₂ (Derives c.below) wss es) :
    Derives (.joined c) (List.intercalate [.connective c] wss) (.several c es) := by
  cases h with
  | nil => exact absurd rfl hne
  | @cons ws e wss es he h =>
    have hfirst : Derives (.joined c) ws e := .single he
    clear he hne
    rw [Expression.several]
    induction h generalizing ws e with
    | nil => simpa using hfirst
    | @cons vs f wss es hf _ ih =>
      rw [List.foldl_cons, intercalate_cons_append]
      apply ih
      simpa using hfirst.join hf

/-! ### No words are read in two ways

A machine reads words from left to right. Whatever the grammar derives the machine reads, and it
reads only one expression. -/

/-- An expression behind what it is joined to, if there is anything. -/
def joinedTo (c : Connective) : Option (Expression α) → Expression α → Expression α
  | none, e => e
  | some l, e => .joined c l e

/-- What was read before an operand: the disjunction up to the last `OR` and the conjunction that
has begun since. -/
structure Pending (α : Type) where
  disjunction : Option (Expression α) := none
  conjunction : Option (Expression α) := none

mutual

/-- Reads on where an operand must follow; `outer` is what was read before the parentheses that are
still open. -/
def readOperand : Pending α → List (Pending α) → List (Word α) → Option (Expression α)
  | p, outer, .constant b :: ws =>
    readConnective p.disjunction (joinedTo .and p.conjunction (.constant b)) outer ws
  | p, outer, .atom a :: ws =>
    readConnective p.disjunction (joinedTo .and p.conjunction (.atom a)) outer ws
  | p, outer, .opening :: ws => readOperand {} (p :: outer) ws
  | _, _, _ => none

/-- Reads on behind an operand, which belongs to the conjunction that was read last. -/
def readConnective : Option (Expression α) → Expression α → List (Pending α) → List (Word α) →
    Option (Expression α)
  | d, e, [], [] => some (joinedTo .or d e)
  | d, e, outer, .connective .and :: ws => readOperand ⟨d, some e⟩ outer ws
  | d, e, outer, .connective .or :: ws => readOperand ⟨some (joinedTo .or d e), none⟩ outer ws
  | d, e, p :: outer, .closing :: ws =>
    readConnective p.disjunction (joinedTo .and p.conjunction (joinedTo .or d e)) outer ws
  | _, _, _, _ => none

end

/-- The machine reads an expression of a level from words, whatever follows them. -/
def IsRead (ws : List (Word α)) (e : Expression α) : Level → Prop
  | .operand => ∀ p outer rest, readOperand p outer (ws ++ rest) =
      readConnective p.disjunction (joinedTo .and p.conjunction e) outer rest
  | .joined .and => ∀ d outer rest, readOperand ⟨d, none⟩ outer (ws ++ rest) =
      readConnective d e outer rest
  | .joined .or => ∃ d c, joinedTo .or d c = e ∧ ∀ outer rest,
      readOperand {} outer (ws ++ rest) = readConnective d c outer rest

lemma Derives.isRead {level : Level} {ws : List (Word α)} {e : Expression α}
    (h : Derives level ws e) : IsRead ws e level := by
  induction h with
  | constant b =>
    intro p outer rest
    rfl
  | atom a =>
    intro p outer rest
    rfl
  | @group ws e _ ih =>
    obtain ⟨d, c, rfl, hread⟩ := ih
    intro p outer rest
    rw [List.append_assoc, List.cons_append, readOperand, hread]
    rfl
  | @single c ws e _ ih =>
    cases c with
    | and => exact fun d outer rest => ih ⟨d, none⟩ outer rest
    | or => exact ⟨none, e, rfl, fun outer rest => ih none outer rest⟩
  | @join c ws vs e f _ _ ihe ihf =>
    cases c with
    | and =>
      intro d outer rest
      rw [List.append_assoc, ihe, List.cons_append, readConnective]
      exact ihf ⟨d, some e⟩ outer rest
    | or =>
      obtain ⟨d, c, rfl, hread⟩ := ihe
      refine ⟨some (joinedTo .or d c), f, rfl, ?_⟩
      intro outer rest
      rw [List.append_assoc, hread, List.cons_append, readConnective]
      exact ihf _ outer rest

/-- The grammar is not ambiguous. -/
theorem Reads.unique {ws : List (Word α)} {e f : Expression α} (he : Reads ws e)
    (hf : Reads ws f) : e = f := by
  have hread {e : Expression α} (h : Reads ws e) : readOperand {} [] ws = some e := by
    obtain ⟨d, c, rfl, hread⟩ := Derives.isRead h
    simpa [readConnective] using hread [] []
  exact Option.some.inj ((hread he).symm.trans (hread hf))

end Grammar

end TableGateway.Logic
