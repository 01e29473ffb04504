import Mathlib
import TableGateway.Proofs.Expressions
import TableGateway.Proofs.Parameterization

/-!
# What filters mean

Written and read again by the grammar of SQL, the conditions of a query are still the conjunction of
the conditions, each of them combined as its tree says. A comparison or a fragment is an atom here:
whatever truth it has, the filter depends on it as the condition does.
-/

namespace TableGateway.Query

open Logic

/-! ### What conditions mean -/

namespace Condition

mutual

/-- The comparisons and fragments of a condition, from left to right. -/
def leaves : Condition → List Condition
  | all parts => leavesOfEach parts
  | any parts => leavesOfEach parts
  | c => [c]

def leavesOfEach : List Condition → List Condition
  | [] => []
  | c :: rest => leaves c ++ leavesOfEach rest

end

mutual

/-- The truth of a condition whose leaves have the given truths from the `n`-th on. -/
def truth (value : Nat → Truth) (n : Nat) : Condition → Truth
  | all parts => .all (truthOfEach value n parts)
  | any parts => .any (truthOfEach value n parts)
  | _ => value n

def truthOfEach (value : Nat → Truth) (n : Nat) : List Condition → List Truth
  | [] => []
  | c :: rest => truth value n c :: truthOfEach value (n + (leaves c).length) rest

end

end Condition

/-- How a word of an expression is written in SQL. An atom is SQL. -/
def spelling : Word Sql → Sql
  | .opening => sql "("
  | .closing => sql ")"
  | .connective .and => sql " AND "
  | .connective .or => sql " OR "
  | .constant true => sql "TRUE"
  | .constant false => sql "FALSE"
  | .atom body => body

/-! ### Filters are read as they were meant -/

def FilterToken.word : FilterToken → Word Sql
  | opening => .opening
  | closing => .closing
  | conjunction => .connective .and
  | disjunction => .connective .or
  | always => .constant true
  | never => .constant false
  | test body => .atom body

lemma FilterToken.spelling_word (t : FilterToken) : spelling t.word = t.sql := by
  cases t <;> rfl

namespace Filter

mutual

def expression : Filter → Expression Sql
  | all parts => .several .and (expressionOfEach parts)
  | any parts => .several .or (expressionOfEach parts)
  | test body => .atom body

def expressionOfEach : List Filter → List (Expression Sql)
  | [] => []
  | f :: rest => expression f :: expressionOfEach rest

end

def words (f : Filter) : List (Word Sql) :=
  f.tokens.map FilterToken.word

lemma sql_eq_spelling (f : Filter) : f.sql = f.words.flatMap spelling := by
  unfold Filter.sql words
  rw [List.flatMap_map]
  congr 1
  funext t
  exact t.spelling_word.symm

lemma expressionOfEach_eq_map (parts : List Filter) :
    expressionOfEach parts = parts.map expression := by
  induction parts with
  | nil => rfl
  | cons f rest ih => rw [expressionOfEach, List.map_cons, ih]

/-- The words of parts that are joined: nothing but a word if there are none. -/
def joinedWords (c : Connective) : List Filter → List (Word Sql)
  | [] => [.constant c.unit]
  | parts => List.intercalate [.connective c] (parts.map fun f => .opening :: f.words ++ [.closing])

lemma words_grouped {op empty : FilterToken} {c : Connective} (hop : op.word = .connective c)
    (hempty : empty.word = .constant c.unit) (parts : List Filter) :
    (grouped op empty (tokensOfEach parts)).map FilterToken.word = joinedWords c parts := by
  cases parts with
  | nil => simp [tokensOfEach, grouped, joinedWords, hempty]
  | cons f rest =>
    change (List.intercalate [op] ((tokensOfEach (f :: rest)).map _)).map _ =
      List.intercalate [Word.connective c] ((f :: rest).map _)
    rw [map_intercalate, tokensOfEach_eq_map, List.map_map, List.map_map, List.map_singleton, hop]
    congr 2
    funext g
    simp [words, FilterToken.word]

lemma words_all (parts : List Filter) : (all parts).words = joinedWords .and parts := by
  rw [words, tokens, words_grouped rfl rfl]

lemma words_any (parts : List Filter) : (any parts).words = joinedWords .or parts := by
  rw [words, tokens, words_grouped rfl rfl]

/-- Parts in parentheses are joined as they stand, whatever they are. -/
lemma reads_joinedWords (c : Connective) (parts : List Filter)
    (h : ∀ f ∈ parts, Reads f.words f.expression) :
    Reads (joinedWords c parts) (.several c (parts.map expression)) := by
  cases parts with
  | nil => exact Derives.reads (.constant c.unit)
  | cons f rest =>
    apply Derives.reads_of_joined
    apply Derives.several (List.cons_ne_nil _ _)
    change List.Forall₂ _ ((f :: rest).map _) ((f :: rest).map _)
    rw [List.forall₂_map_left_iff, List.forall₂_map_right_iff, List.forall₂_same]
    exact fun g hg => (Derives.group (h g hg)).tighter c

mutual

/-- A filter is written so that it is read as it was meant. -/
lemma reads : ∀ f : Filter, Reads f.words f.expression
  | all parts => by
    rw [words_all, expression, expressionOfEach_eq_map]
    exact reads_joinedWords .and parts (reads_of_mem parts)
  | any parts => by
    rw [words_any, expression, expressionOfEach_eq_map]
    exact reads_joinedWords .or parts (reads_of_mem parts)
  | test body => Derives.reads (.atom body)

lemma reads_of_mem : ∀ (parts : List Filter), ∀ f ∈ parts, Reads f.words f.expression
  | [], _, h => absurd h List.not_mem_nil
  | f :: rest, g, h => by
    rcases List.mem_cons.mp h with heq | h
    · rw [heq]
      exact reads f
    · exact reads_of_mem rest g h

end

end Filter

/-! ### Binding keeps what a condition means -/

namespace Condition

variable {source : String} {bound between after : Parameters}

lemma bindEach_append {cs ds : List Condition} {fs gs : List Filter}
    (hcs : (bindEach source cs).run.run bound = (.ok fs, between))
    (hds : (bindEach source ds).run.run between = (.ok gs, after)) :
    (bindEach source (cs ++ ds)).run.run bound = (.ok (fs ++ gs), after) := by
  induction cs generalizing bound fs with
  | nil =>
    cases hcs
    exact hds
  | cons c rest ih =>
    rw [bindEach] at hcs
    obtain ⟨f, first, hf, hcs⟩ := exists_of_run_bind_eq_ok hcs
    obtain ⟨fs, last, hfs, hcs⟩ := exists_of_run_bind_eq_ok hcs
    cases hcs
    rw [List.cons_append, bindEach, run_bind_of_run_ok hf, run_bind_of_run_ok (ih hfs)]
    rfl

/-- A filter depends on its tests as a condition does on its leaves, and its tests are the leaves,
bound in turn. -/
structure Becomes (source : String) (bound : Parameters) (c : Condition) (f : Filter)
    (after : Parameters) : Prop where
  leaves : (bindEach source c.leaves).run.run bound = (.ok (f.expression.atoms.map .test), after)
  length : f.expression.atoms.length = c.leaves.length
  truth : ∀ value n, (f.expression.numbered n).truth value = c.truth value n

structure BecomeEach (source : String) (bound : Parameters) (cs : List Condition)
    (fs : List Filter) (after : Parameters) : Prop where
  leaves : (bindEach source (leavesOfEach cs)).run.run bound =
    (.ok ((fs.flatMap (·.expression.atoms)).map .test), after)
  length : (fs.flatMap (·.expression.atoms)).length = (leavesOfEach cs).length
  truth : ∀ value n, (Expression.numberedEach n (fs.map Filter.expression)).map (·.truth value) =
    truthOfEach value n cs

lemma BecomeEach.cons {c : Condition} {f : Filter} {cs : List Condition} {fs : List Filter}
    (hc : Becomes source bound c f between) (hcs : BecomeEach source between cs fs after) :
    BecomeEach source bound (c :: cs) (f :: fs) after := by
  constructor
  · rw [leavesOfEach, List.flatMap_cons, List.map_append]
    exact bindEach_append hc.leaves hcs.leaves
  · rw [leavesOfEach, List.flatMap_cons, List.length_append, List.length_append, hc.length,
      hcs.length]
  · intro value n
    rw [List.map_cons, Expression.numberedEach, List.map_cons, truthOfEach, hc.truth, hc.length,
      hcs.truth]

lemma BecomeEach.joined {cs : List Condition} {fs : List Filter}
    (h : BecomeEach source bound cs fs after) (c : Connective) {whole : Condition} {f : Filter}
    (hleaves : whole.leaves = leavesOfEach cs)
    (htruth : ∀ value n, whole.truth value n = c.truthOfEach (truthOfEach value n cs))
    (hf : f.expression = .several c (fs.map Filter.expression)) :
    Becomes source bound whole f after := by
  have hatoms : f.expression.atoms = fs.flatMap (·.expression.atoms) := by
    rw [hf, Expression.atoms_several, List.flatMap_map]
  constructor
  · rw [hleaves, hatoms]
    exact h.leaves
  · rw [hleaves, hatoms, h.length]
  · intro value n
    rw [hf, Expression.numbered_several, Expression.truth_several, htruth, ← h.truth]

lemma becomes_test {c : Condition} {body : Sql} (hleaves : c.leaves = [c])
    (htruth : ∀ value n, c.truth value n = value n)
    (h : (bind source c).run.run bound = (.ok (.test body), after)) :
    Becomes source bound c (.test body) after := by
  constructor
  · rw [hleaves, bindEach, run_bind_of_run_ok h]
    rfl
  · rw [hleaves]
    rfl
  · exact fun value n => (htruth value n).symm

mutual

lemma becomes : ∀ {c : Condition} {f : Filter} {bound after : Parameters},
    (bind source c).run.run bound = (.ok f, after) → Becomes source bound c f after
  | all parts, f, bound, after, h => by
    rw [bind] at h
    obtain ⟨fs, between, hfs, h⟩ := exists_of_run_bind_eq_ok h
    cases h
    apply (becomeEach hfs).joined .and rfl
    · exact fun value n => rfl
    · rw [Filter.expression, Filter.expressionOfEach_eq_map]
  | any parts, f, bound, after, h => by
    rw [bind] at h
    obtain ⟨fs, between, hfs, h⟩ := exists_of_run_bind_eq_ok h
    cases h
    apply (becomeEach hfs).joined .or rfl
    · exact fun value n => rfl
    · rw [Filter.expression, Filter.expressionOfEach_eq_map]
  | raw r, f, bound, after, h => by
    obtain ⟨body, between, hbody, hf⟩ := exists_of_run_bind_eq_ok h
    cases hf
    exact becomes_test rfl (fun _ _ => rfl) h
  | term t, f, bound, after, h => by
    obtain ⟨body, between, hbody, hf⟩ := exists_of_run_bind_eq_ok h
    cases hf
    exact becomes_test rfl (fun _ _ => rfl) h
  | unsupported v, f, bound, after, h => by
    rw [bind] at h
    cases h

lemma becomeEach : ∀ {cs : List Condition} {fs : List Filter} {bound after : Parameters},
    (bindEach source cs).run.run bound = (.ok fs, after) → BecomeEach source bound cs fs after
  | [], fs, bound, after, h => by
    cases h
    exact ⟨rfl, rfl, fun _ _ => rfl⟩
  | c :: rest, fs, bound, after, h => by
    rw [bindEach] at h
    obtain ⟨f, between, hf, h⟩ := exists_of_run_bind_eq_ok h
    obtain ⟨fs, last, hfs, h⟩ := exists_of_run_bind_eq_ok h
    cases h
    exact .cons (becomes hf) (becomeEach hfs)

end

end Condition

/-- The clause that keeps the rows means what the conditions mean. It is written with the words of
an expression, which are read in one way only; the atoms are the comparisons and fragments of the
conditions, bound in turn; and whatever truth each of them has, the expression is the conjunction
of the conditions. -/
theorem whereClause_truth (source : String) (conditions : List Condition)
    (hne : conditions ≠ []) (bound after : Parameters) (s : Sql)
    (h : (whereClause source conditions).run.run bound = (.ok s, after)) :
    ∃ (words : List (Word Sql)) (e : Expression Sql),
      s = sql " WHERE " ++ words.flatMap spelling ∧
      s.written = " WHERE " ++ String.join (words.map fun w => (spelling w).written) ∧
      (∀ e', Reads words e' ↔ e' = e) ∧
      (Condition.bindEach source (Condition.leavesOfEach conditions)).run.run bound =
        (.ok (e.atoms.map .test), after) ∧
      ∀ value : Nat → Truth,
        (e.numbered 0).truth value = .all (Condition.truthOfEach value 0 conditions) := by
  cases conditions with
  | nil => exact absurd rfl hne
  | cons c rest =>
    obtain ⟨filters, between, hfilters, h⟩ := exists_of_run_bind_eq_ok h
    cases h
    have hread := (Filter.all filters).reads
    have hbecomes : Condition.Becomes source bound (.all (c :: rest)) (.all filters) after := by
      apply (Condition.becomeEach hfilters).joined .and rfl
      · exact fun value n => rfl
      · rw [Filter.expression, Filter.expressionOfEach_eq_map]
    refine ⟨(Filter.all filters).words, (Filter.all filters).expression, ?_, ?_, ?_, ?_, ?_⟩
    · rw [Filter.sql_eq_spelling]
    · rw [Filter.sql_eq_spelling, Sql.written_append, Sql.written_sql, Sql.written_flatMap]
    · exact fun e' => ⟨fun h => h.unique hread, fun h => h ▸ hread⟩
    · exact hbecomes.leaves
    · exact fun value => hbecomes.truth value 0

theorem whereClause_truth_nested :
    let conditions : List Condition := [
      .any [.all [.term ⟨"a", .int 1, "="⟩, .raw ⟨.string "b ? c", none⟩], .any []],
      .term ⟨"d", .array [.int 2, .int 3], "IN"⟩]
    let bound : Parameters := ⟨[.value (.int 0)]⟩
    let after : Parameters := ⟨[0, 1, 2, 3].map fun n => .value (.int n)⟩
    let s : Sql := [.text " WHERE ", .text "(", .text "(", .text "(", .text "t.a = ", .slot 2,
      .text ")", .text " AND ", .text "(", .text "b ? c", .text ")", .text ")", .text " OR ",
      .text "(", .text "FALSE", .text ")", .text ")", .text " AND ", .text "(", .text "t.d IN ",
      .text "(", .slot 3, .text ", ", .slot 4, .text ")", .text ")"]
    conditions ≠ [] ∧ (whereClause "t" conditions).run.run bound = (.ok s, after) ∧
      Sql.written s = " WHERE (((t.a = $2) AND (b ? c)) OR (FALSE)) AND (t.d IN ($3, $4))" ∧
      ∃ (words : List (Word Sql)) (e : Expression Sql),
        s = sql " WHERE " ++ words.flatMap spelling ∧
        s.written = " WHERE " ++ String.join (words.map fun w => (spelling w).written) ∧
        (∀ e', Reads words e' ↔ e' = e) ∧
        (Condition.bindEach "t" (Condition.leavesOfEach conditions)).run.run bound =
          (.ok (e.atoms.map .test), after) ∧
        ∀ value : Nat → Truth,
          (e.numbered 0).truth value = .all (Condition.truthOfEach value 0 conditions) := by
  intro conditions bound after s
  have hne : conditions ≠ [] := by simp [conditions]
  have h : (whereClause "t" conditions).run.run bound = (.ok s, after) := by cbv
  exact ⟨hne, h, rfl, whereClause_truth "t" conditions hne bound after s h⟩

end TableGateway.Query
