import Mathlib
import TableGateway.Proofs.SharedFilters

/-!
# Conditions in turn

Several conditions may be bound in turn into the same parameters, also behind one that failed and
left some of its values there. No condition loses what was bound before it, and whatever that is,
the condition fails as it does on its own or has the text that it has on its own, with its slots
moved up. So the slots of a condition always hold its own values.
-/

namespace TableGateway.Query

/-- The turn of a condition: what was bound before it, how its binding ended and what is bound after
it. -/
structure Turn where
  before : Parameters
  outcome : Except Error Filter
  after : Parameters

/-- The text that a turn gives, unless it failed. -/
def Turn.text (t : Turn) : Except Error Sql :=
  t.outcome.map Filter.sql

/-- A turn adds to what was bound and otherwise ends as one that began with nothing: behind `s`
values its text has every slot number increased by `s`, and it binds the same values. Whatever is
bound later, the slots hold the same values as well. -/
structure Turn.IsLike (t alone : Turn) : Prop where
  kept : t.before.values <+: t.after.values
  text : t.text = alone.text.map (Sql.renumbered (· + t.before.values.length))
  values : ∀ s, t.text = .ok s → t.after.values = t.before.values ++ alone.after.values
  filled : ∀ s s₀, t.text = .ok s → alone.text = .ok s₀ → ∀ later, t.after.values <+: later →
    ∃ r, s.filled later = some r ∧ s₀.filled alone.after.values = some r

namespace Condition

/-- The turn of a condition behind bound values. -/
def turn (source : String) (bound : Parameters) (c : Condition) : Turn :=
  let (outcome, after) := (c.bind source).run.run bound
  ⟨bound, outcome, after⟩

/-- The turns of several conditions, each on its source. Each begins with what the one before it
left, also if that failed. -/
def turns : Parameters → List (String × Condition) → List Turn
  | _, [] => []
  | bound, (source, c) :: rest => c.turn source bound :: turns (c.turn source bound).after rest

variable {source : String} {c : Condition}

lemma run_sql_bind (source : String) (bound : Parameters) (c : Condition) :
    (Filter.sql <$> c.bind source).run.run bound =
      ((c.turn source bound).text, (c.turn source bound).after) := by
  rw [ExceptT.run_map, StateT.run_map]
  rfl

lemma turn_of_inline_ok {r : Rendering} (h : c.inline source = .ok r) (bound : Parameters) :
    (c.turn source bound).text = .ok (numbered bound.values.length r) ∧
      (c.turn source bound).after = bound.append (data r) := by
  have hrun := (c.bind_follows source).run_eq_ok h bound
  rw [run_sql_bind] at hrun
  exact Prod.mk.inj hrun

lemma turn_of_inline_error {e : Error} (h : c.inline source = .error e) (bound : Parameters) :
    (c.turn source bound).text = .error e ∧
      ∃ left, (c.turn source bound).after = bound.append left := by
  have hrun := c.bind_follows source bound
  rw [h] at hrun
  obtain ⟨left, hleft⟩ := hrun
  rw [Parameters.append_nil, run_sql_bind] at hleft
  obtain ⟨htext, hafter⟩ := Prod.mk.inj hleft
  exact ⟨htext, left, hafter⟩

/-- One step: whatever was bound before, a condition ends as it does on its own. -/
lemma turn_isLike (source : String) (bound : Parameters) (c : Condition) :
    (c.turn source bound).IsLike (c.turn source {}) := by
  cases h : c.inline source with
  | error e =>
    obtain ⟨htext, left, hafter⟩ := turn_of_inline_error h bound
    obtain ⟨halone, -⟩ := turn_of_inline_error h {}
    have hfails : ∀ s, (c.turn source bound).text ≠ .ok s := by
      intro s hs
      rw [htext] at hs
      cases hs
    constructor
    · rw [hafter]
      exact List.prefix_append _ _
    · rw [htext, halone]
      rfl
    · exact fun s hs => absurd hs (hfails s)
    · exact fun s _ hs => absurd hs (hfails s)
  | ok r =>
    obtain ⟨htext, hafter⟩ := turn_of_inline_ok h bound
    obtain ⟨halone, hvalues⟩ := turn_of_inline_ok h {}
    constructor
    · rw [hafter]
      exact List.prefix_append _ _
    · have hmoved := numbered_add 0 bound.values.length r
      rw [Nat.zero_add] at hmoved
      rw [htext, halone, hmoved]
      rfl
    · intro s _
      rw [hafter, hvalues]
      rfl
    · intro s s₀ hs hs₀ later hlater
      obtain ⟨more, rfl⟩ := hlater
      have hfilled := filled_numbered bound.values more r
      have hfirst := filled_numbered [] [] r
      rw [htext] at hs
      rw [halone] at hs₀
      cases hs
      cases hs₀
      rw [hafter, hvalues]
      exact ⟨r, hfilled, by simpa [Parameters.append] using hfirst⟩

/-- No turn loses what was bound before the first one. -/
lemma prefix_before_of_mem_turns {bound : Parameters} {conditions : List (String × Condition)}
    {t : Turn} (h : t ∈ turns bound conditions) : bound.values <+: t.before.values := by
  induction conditions generalizing bound with
  | nil => cases h
  | cons c rest ih =>
    rcases List.mem_cons.mp h with rfl | h
    · exact List.prefix_rfl
    · exact (turn_isLike c.1 bound c.2).kept.trans (ih h)

/-- However many values are bound at the start, and whichever conditions of a sequence fail, every
turn keeps what was bound before it and ends as the condition ends on its own, moved up behind that.
What a turn has bound is still there in every later turn. -/
theorem turns_isLike (bound : Parameters) (conditions : List (String × Condition)) :
    List.Forall₂ (fun c t => bound.values <+: t.before.values ∧ t.IsLike (c.2.turn c.1 {}))
        conditions (turns bound conditions) ∧
      (turns bound conditions).Pairwise fun t u => t.after.values <+: u.before.values := by
  induction conditions generalizing bound with
  | nil => exact ⟨.nil, .nil⟩
  | cons c rest ih =>
    obtain ⟨hlike, hlater⟩ := ih (c.2.turn c.1 bound).after
    have hfirst := turn_isLike c.1 bound c.2
    refine ⟨.cons ⟨List.prefix_rfl, hfirst⟩ (hlike.imp ?_), .cons ?_ hlater⟩
    · intro d t ht
      exact ⟨hfirst.kept.trans ht.1, ht.2⟩
    · intro t ht
      exact prefix_before_of_mem_turns ht

/-- A conjunction fails when the first of its values is bound. The condition behind it leaves that
value alone. -/
theorem turns_isLike_afterFailure :
    let values (numbers : List Int) : List Datum := numbers.map fun n => .value (.int n)
    let bound : Parameters := ⟨values [7]⟩
    let conditions : List (String × Condition) := [
      ("t", .all [.term ⟨"a", .int 1, "="⟩, .raw ⟨.string "f(?, ?)", some (.int 2)⟩]),
      ("u", .any [.term ⟨"b", .int 3, "="⟩, .term ⟨"c", .array [.int 4, .int 5], "IN"⟩])]
    (turns bound conditions).map (fun t => (t.text.map Sql.written, t.after.values)) =
        [(.error (.markerMismatch "f(?, ?)" 2 1), values [7, 1]),
          (.ok "(u.b = $3) OR (u.c IN ($4, $5))", values [7, 1, 3, 4, 5])] ∧
      List.Forall₂ (fun c t => bound.values <+: t.before.values ∧ t.IsLike (c.2.turn c.1 {}))
        conditions (turns bound conditions) ∧
      (turns bound conditions).Pairwise fun t u => t.after.values <+: u.before.values := by
  intro values bound conditions
  exact ⟨by cbv, turns_isLike bound conditions⟩

end Condition

end TableGateway.Query
