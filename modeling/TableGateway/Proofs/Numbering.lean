import Mathlib
import TableGateway.Proofs.Outcomes
import TableGateway.Query.Statement

/-!
# Numbering

A rendering is SQL in which every value is written in place. To number it is to put slots in the
place of the values, from left to right, and to list the values beside it. The work of binding is
compared with a plan that knows no slots: it follows the plan when it ends with the numbered result
of the plan, however many values were bound before, or fails where the plan fails.
-/

namespace TableGateway.Query

/-- A part of a rendering: some text, or a value that is written in place. -/
inductive Part where
  | text (s : String)
  | datum (d : Datum)

/-- SQL with its values written in place. -/
abbrev Rendering := List Part

/-- What can be numbered: the values in it, and what becomes of it behind `n` bound values. -/
class Numbered (β : Type) (α : outParam Type) where
  data : β → List Datum
  numbered : Nat → β → α

export Numbered (data numbered)

/-- Things that are numbered one after the other. -/
def numberedEach {β α : Type} [Numbered β α] : Nat → List β → List α
  | _, [] => []
  | n, b :: rest => numbered n b :: numberedEach (n + (data b).length) rest

instance {β α : Type} [Numbered β α] : Numbered (List β) (List α) where
  data things := things.flatMap data
  numbered := numberedEach

instance : Numbered Part Piece where
  data
    | .text _ => []
    | .datum d => [d]
  numbered n
    | .text s => .text s
    | .datum _ => .slot (n + 1)

section Lists

variable {β α : Type} [Numbered β α]

@[simp] lemma data_nil : data ([] : List β) = [] := rfl

@[simp] lemma data_cons (b : β) (rest : List β) : data (b :: rest) = data b ++ data rest := rfl

@[simp] lemma data_append (bs cs : List β) : data (bs ++ cs) = data bs ++ data cs :=
  List.flatMap_append

@[simp] lemma numbered_nil (n : Nat) : numbered n ([] : List β) = [] := rfl

@[simp] lemma numbered_cons (n : Nat) (b : β) (rest : List β) :
    numbered n (b :: rest) = numbered n b :: numbered (n + (data b).length) rest := rfl

@[simp] lemma numbered_append (n : Nat) (bs cs : List β) :
    numbered n (bs ++ cs) = numbered n bs ++ numbered (n + (data bs).length) cs := by
  induction bs generalizing n with
  | nil => rfl
  | cons b bs ih =>
    simp only [List.cons_append, numbered_cons, data_cons, List.length_append, ih, Nat.add_assoc]

variable {δ γ : Type} [Numbered δ γ]

lemma data_map {f : β → δ} (hdata : ∀ b, data (f b) = data b) (bs : List β) :
    data (bs.map f) = data bs := by
  induction bs with
  | nil => rfl
  | cons b bs ih => rw [List.map_cons, data_cons, data_cons, hdata, ih]

/-- A change that keeps the values commutes with numbering. -/
lemma numbered_map {f : β → δ} {g : α → γ} (hf : ∀ n b, numbered n (f b) = g (numbered n b))
    (hdata : ∀ b, data (f b) = data b) (n : Nat) (bs : List β) :
    numbered n (bs.map f) = (numbered n bs).map g := by
  induction bs generalizing n with
  | nil => rfl
  | cons b bs ih => rw [List.map_cons, numbered_cons, numbered_cons, List.map_cons, hf, hdata, ih]

end Lists

@[simp] lemma data_text (s : String) : data (Part.text s) = [] := rfl

@[simp] lemma data_datum (d : Datum) : data (Part.datum d) = [d] := rfl

@[simp] lemma numbered_text (n : Nat) (s : String) : numbered n (Part.text s) = .text s := rfl

@[simp] lemma numbered_datum (n : Nat) (d : Datum) :
    numbered n (Part.datum d) = .slot (n + 1) := rfl

namespace Rendering

/-- A rendering without values. -/
def text (s : String) : Rendering := [.text s]

/-- Puts a separator between renderings. -/
def separated (separator : String) (parts : List Rendering) : Rendering :=
  List.intercalate (text separator) parts

@[simp] lemma data_text (s : String) : data (text s) = [] := rfl

@[simp] lemma numbered_text (n : Nat) (s : String) : numbered n (text s) = sql s := rfl

lemma data_separated (separator : String) (parts : List Rendering) :
    data (separated separator parts) = data parts := by
  unfold separated
  induction parts with
  | nil => rfl
  | cons part rest ih =>
    cases rest with
    | nil => simp
    | cons next rest =>
      rw [List.intercalate_cons_cons, data_append, data_append, ih]
      simp

lemma numbered_separated (n : Nat) (separator : String) (parts : List Rendering) :
    numbered n (separated separator parts) = Query.separated separator (numbered n parts) := by
  unfold separated Query.separated
  induction parts generalizing n with
  | nil => rfl
  | cons part rest ih =>
    cases rest with
    | nil => simp
    | cons next rest =>
      rw [List.intercalate_cons_cons, numbered_append, numbered_append, ih]
      simp

end Rendering

/-- The slots of a numbered rendering carry the numbers behind `n`, in order and without gaps. -/
lemma slots_numbered (n : Nat) (r : Rendering) :
    Sql.slots (numbered n r) = List.range' (n + 1) (data r).length := by
  induction r generalizing n with
  | nil => rfl
  | cons part rest ih =>
    cases part with
    | text s => simpa [Sql.slots] using ih n
    | datum d => simpa [Sql.slots, List.range'_succ] using ih (n + 1)

/-- The piece with the value in the place of its slot. -/
def Piece.filled (values : List Datum) : Piece → Option Part
  | text s => some (.text s)
  | slot 0 => none
  | slot (k + 1) => values[k]?.map .datum

/-- The SQL with the `k`-th value in the place of every slot that carries `k`. -/
def Sql.filled (values : List Datum) (s : Sql) : Option Rendering :=
  s.mapM (Piece.filled values)

/-- Filling takes numbering back. -/
lemma filled_numbered (before after : List Datum) (r : Rendering) :
    Sql.filled (before ++ data r ++ after) (numbered before.length r) = some r := by
  unfold Sql.filled
  induction r generalizing before with
  | nil => rfl
  | cons part rest ih =>
    cases part with
    | text s =>
      have hrest := ih before
      simp_all [Piece.filled]
    | datum d =>
      have hrest := ih (before ++ [d])
      simp_all [Piece.filled]

/-- The values bound so far and then some more. -/
def Parameters.append (bound : Parameters) (more : List Datum) : Parameters :=
  ⟨bound.values ++ more⟩

@[simp] lemma Parameters.append_nil (bound : Parameters) : bound.append [] = bound := by
  simp [append]

@[simp] lemma Parameters.append_append (bound : Parameters) (ds es : List Datum) :
    (bound.append ds).append es = bound.append (ds ++ es) := by
  simp [append]

@[simp] lemma Parameters.length_append (bound : Parameters) (ds : List Datum) :
    (bound.append ds).values.length = bound.values.length + ds.length := by
  simp [append]

lemma Binder.run_bind {α β : Type} (work : Binder α) (rest : α → Binder β) (bound : Parameters) :
    (work >>= rest).run bound = (rest (work.run bound).1).run (work.run bound).2 := rfl

lemma Binder.run_pure {α : Type} (a : α) (bound : Parameters) :
    (Pure.pure a : Binder α).run bound = (a, bound) := rfl

/-- Some work, begun when the data `since` have been bound on top of `bound`, ends as its plan says:
with what the plan numbers behind `bound`, and all the data of the plan on top of it. Where the
plan fails, the work fails for the same reason and keeps what it had bound. -/
def FollowsFrom {α β : Type} [Numbered β α] (bound : Parameters) (since : List Datum)
    (work : Binding α) : Except Error β → Prop
  | .ok b => work.run.run (bound.append since) =
      (.ok (numbered bound.values.length b), bound.append (data b))
  | .error e => ∃ left, work.run.run (bound.append since) = (.error e, bound.append left)

/-- Some work follows a plan, whatever was bound before. -/
def Follows {α β : Type} [Numbered β α] (work : Binding α) (plan : Except Error β) : Prop :=
  ∀ bound, FollowsFrom bound [] work plan

section Follows

variable {α β γ δ : Type} [Numbered β α] [Numbered δ γ] {bound : Parameters} {since : List Datum}

lemma Follows.run_eq_ok {work : Binding α} {plan : Except Error β} {b : β} (h : Follows work plan)
    (hplan : plan = .ok b) (bound : Parameters) :
    work.run.run bound = (.ok (numbered bound.values.length b), bound.append (data b)) := by
  have hrun := h bound
  rw [hplan] at hrun
  simpa [FollowsFrom] using hrun

/-- Work that succeeds has a plan, which says what it did. -/
lemma Follows.exists_of_run_eq_ok {work : Binding α} {plan : Except Error β} {a : α}
    {after : Parameters} (h : Follows work plan) (hrun : work.run.run bound = (.ok a, after)) :
    ∃ b, plan = .ok b ∧ a = numbered bound.values.length b ∧ after = bound.append (data b) := by
  cases hplan : plan with
  | error e =>
    have hfollows := h bound
    rw [hplan] at hfollows
    obtain ⟨left, hleft⟩ := hfollows
    rw [Parameters.append_nil, hrun] at hleft
    cases hleft
  | ok b =>
    have hok := h.run_eq_ok hplan bound
    rw [hrun] at hok
    obtain ⟨ha, hafter⟩ := Prod.mk.inj hok
    exact ⟨b, rfl, Except.ok.inj ha, hafter⟩

/-- Work that follows a rendering writes the statement that is the rendering, numbered from one. -/
lemma Follows.statement_eq {work : Binding Sql} {plan : Except Error Rendering}
    (h : Follows work plan) :
    Statement.ofBinding work = plan.map fun r => ⟨numbered 0 r, data r⟩ := by
  unfold Statement.ofBinding
  cases hplan : plan with
  | error e =>
    have hrun := h {}
    rw [hplan] at hrun
    obtain ⟨left, hleft⟩ := hrun
    rw [Parameters.append_nil] at hleft
    rw [hleft]
    rfl
  | ok r =>
    rw [h.run_eq_ok hplan]
    simp [Except.map, Parameters.append]

lemma FollowsFrom.pure {a : α} {b : β} (ha : numbered bound.values.length b = a)
    (hdata : data b = since) : FollowsFrom bound since (Pure.pure a) (Pure.pure b) := by
  subst ha hdata
  rfl

lemma FollowsFrom.throw (e : Error) :
    FollowsFrom bound since (throw e : Binding α) (throw e : Except Error β) :=
  ⟨since, rfl⟩

/-- Work goes on from what the plan of its first part numbers. -/
lemma FollowsFrom.bind_from {work : Binding α} {plan : Except Error β} {rest : α → Binding γ}
    {restPlan : β → Except Error δ} (h : FollowsFrom bound since work plan)
    (hrest : ∀ b, plan = .ok b → FollowsFrom bound (data b)
      (rest (numbered bound.values.length b)) (restPlan b)) :
    FollowsFrom bound since (work >>= rest) (plan >>= restPlan) := by
  cases plan with
  | error e =>
    obtain ⟨left, hleft⟩ := h
    refine ⟨left, ?_⟩
    rw [ExceptT.run_bind, StateT.run_bind, hleft]
    rfl
  | ok b =>
    have hwork : work.run.run (bound.append since) =
      (.ok (numbered bound.values.length b), bound.append (data b)) := h
    -- the rest of the work has only seen the numbered result, so it goes on as its own plan says
    have hnext := hrest b rfl
    change FollowsFrom bound since (work >>= rest) (restPlan b)
    unfold FollowsFrom at hnext ⊢
    rw [ExceptT.run_bind, StateT.run_bind, hwork]
    exact hnext

/-- Work that begins with work of its own goes on behind the data of that work. -/
lemma FollowsFrom.bind {work : Binding α} {plan : Except Error β} {rest : α → Binding γ}
    {restPlan : β → Except Error δ} (h : Follows work plan)
    (hrest : ∀ b, plan = .ok b → FollowsFrom bound (since ++ data b)
      (rest (numbered (bound.values.length + since.length) b)) (restPlan b)) :
    FollowsFrom bound since (work >>= rest) (plan >>= restPlan) := by
  have hwork := h (bound.append since)
  unfold FollowsFrom at hwork
  simp only [Parameters.append_nil, Parameters.append_append, Parameters.length_append] at hwork
  cases plan with
  | error e =>
    obtain ⟨left, hleft⟩ := hwork
    refine ⟨since ++ left, ?_⟩
    rw [ExceptT.run_bind, StateT.run_bind, hleft]
    rfl
  | ok b =>
    have hnext := hrest b rfl
    change FollowsFrom bound since (work >>= rest) (restPlan b)
    unfold FollowsFrom at hnext ⊢
    rw [ExceptT.run_bind, StateT.run_bind, hwork]
    exact hnext

lemma Follows.map {work : Binding α} {plan : Except Error β} {f : α → γ} {g : β → δ}
    (h : Follows work plan) (hg : ∀ n b, numbered n (g b) = f (numbered n b))
    (hdata : ∀ b, data (g b) = data b) : Follows (f <$> work) (g <$> plan) := by
  intro bound
  rw [map_eq_pure_bind, map_eq_pure_bind]
  apply FollowsFrom.bind h
  intro b _
  exact FollowsFrom.pure (hg _ b) (hdata b)

/-- A step that binds nothing succeeds or fails alike in the work and in the plan. -/
lemma FollowsFrom.bind_lift {ε : Type} {step : Except Error ε} {rest : ε → Binding γ}
    {restPlan : ε → Except Error δ}
    (hrest : ∀ x, step = .ok x → FollowsFrom bound since (rest x) (restPlan x)) :
    FollowsFrom bound since (liftM step >>= rest) (step >>= restPlan) := by
  cases step with
  | error e => exact FollowsFrom.throw e
  | ok x => exact hrest x rfl

lemma FollowsFrom.bind_ofData {ε : Type} {step : Except ShapeError ε} {rest : ε → Binding γ}
    {restPlan : ε → Except Error δ} (hrest : ∀ x, FollowsFrom bound since (rest x) (restPlan x)) :
    FollowsFrom bound since (Binding.ofData step >>= rest)
      (step.mapError Error.data >>= restPlan) := by
  cases step with
  | error e => exact FollowsFrom.throw (.data e)
  | ok x => exact hrest x

lemma Follows.mapM {α β ι : Type} [Numbered β α] {work : ι → Binding α}
    {plan : ι → Except Error β} (h : ∀ i, Follows (work i) (plan i)) (items : List ι) :
    Follows (items.mapM work) (items.mapM plan) := by
  induction items with
  | nil => exact fun _ => FollowsFrom.pure rfl rfl
  | cons i rest ih =>
    intro bound
    rw [List.mapM_cons, List.mapM_cons]
    apply FollowsFrom.bind (h i)
    intro b _
    apply FollowsFrom.bind ih
    intro bs _
    exact FollowsFrom.pure (by simp) (by simp)

/-- Work that cannot fail does what is numbered. -/
def Does (work : Binder α) (b : β) : Prop :=
  ∀ bound, work.run bound = (numbered bound.values.length b, bound.append (data b))

lemma Does.follows {work : Binder α} {b : β} (h : Does work b) :
    Follows (liftM work) (Except.ok b) := by
  intro bound
  change (StateT.run (Except.ok <$> work) _) = _
  rw [StateT.run_map, Parameters.append_nil, h bound]
  rfl

lemma FollowsFrom.bind_does {work : Binder α} {b : β} {rest : α → Binding γ}
    {plan : Except Error δ} (h : Does work b)
    (hrest : FollowsFrom bound (since ++ data b)
      (rest (numbered (bound.values.length + since.length) b)) plan) :
    FollowsFrom bound since (liftM work >>= rest) plan := by
  change FollowsFrom bound since (liftM work >>= rest) (Except.ok b >>= fun _ => plan)
  apply FollowsFrom.bind h.follows
  intro b' hb
  cases hb
  exact hrest

end Follows

end TableGateway.Query
