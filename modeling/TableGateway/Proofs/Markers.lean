import Mathlib
import TableGateway.Proofs.Delivery
import TableGateway.Proofs.Filters
import TableGateway.Proofs.Replacement

/-!
# Markers of fragments

Each marker of a fragment is replaced by the slots of one item of its values. An item that is a list
is opened once more and has a slot for each of its own items. So there is one value for every marker,
bound as it is, exactly if no item is a list.
-/

namespace TableGateway.Query

/-! ### Fragments and their places -/

/-- SQL letter by letter. -/
def Sql.segments (s : Sql) : List Segment :=
  s.flatMap Piece.segments

/-- A text in which SQL stands in the place of the markers, one after the other. -/
def replaceMarkers : List Char → List Sql → List Segment
  | [], _ => []
  | c :: s, [] => .char c :: replaceMarkers s []
  | c :: s, placeholder :: rest =>
    if c = '?' then placeholder.segments ++ replaceMarkers s rest
    else .char c :: replaceMarkers s (placeholder :: rest)

/-- The slots behind `n` bound values, each of them alone. -/
def slotsBehind (n count : Nat) : List Sql :=
  (List.range' (n + 1) count).map fun k => [.slot k]

namespace Raw

/-- What takes the place of the markers behind `n` bound values: for an item a slot, for a list of
values their slots with commas between them. -/
def placeholders : Nat → List Value → List Sql
  | _, [] => []
  | n, v :: rest =>
    separated ", " (slotsBehind n (items v).length) :: placeholders (n + (items v).length) rest

/-- Every marker is replaced by one slot, for which its item is bound as it is. -/
structure BindsEach (fragment : String) (items : List Value) (n : Nat) (body : Sql)
    (values : List Datum) : Prop where
  values : values = items.map .value
  body : body.segments = replaceMarkers fragment.toList (slotsBehind n items.length)

end Raw

/-- A part of a statement, with what stands before and behind it. -/
structure Place where
  before : Sql
  body : Sql
  behind : Sql
  earlier : List Datum
  values : List Datum
  later : List Datum

namespace Place

/-- A fragment stands at a place of a statement, bound behind the earlier values. -/
structure Holds (p : Place) (r : Raw) (s : Statement) : Prop where
  sql : s.sql = p.before ++ p.body ++ p.behind
  values : s.values = p.earlier ++ p.values ++ p.later
  bind : r.bind.run.run ⟨p.earlier⟩ = (.ok p.body, ⟨p.earlier ++ p.values⟩)

/-- One place ends before the other one begins. -/
def IsBefore (p q : Place) : Prop :=
  p.before ++ p.body <+: q.before

/-- The place of a part of a rendering, between a head and a tail. -/
def between (head part tail : Rendering) : Place where
  before := numbered 0 head
  body := numbered (data head).length part
  behind := numbered (data (head ++ part)).length tail
  earlier := data head
  values := data part
  later := data tail

end Place

def Condition.raw? : Condition → Option Raw
  | raw r => some r
  | _ => none

def Field.fragments : Field → List Raw
  | raw r => [r]
  | column _ => []

namespace Condition

/-- The fragments in a condition, from left to right. -/
def fragments (c : Condition) : List Raw :=
  c.leaves.filterMap raw?

def fragmentsOfEach (cs : List Condition) : List Raw :=
  (leavesOfEach cs).filterMap raw?

end Condition

/-- The fragments of a query, those that are columns first. -/
def fragments : TableGateway.Query → List Raw
  | .create _ => []
  | .read q => q.fields.flatMap Field.fragments ++ Condition.fragmentsOfEach q.conditions
  | .update q => Condition.fragmentsOfEach q.conditions
  | .delete q => Condition.fragmentsOfEach q.conditions
  | .count q => Condition.fragmentsOfEach q.conditions

/-! ### What is bound for the markers -/

lemma data_inlineAll (items : List Value) : data (inlineAll items) = items.map .value := by
  unfold inlineAll
  rw [Rendering.data_separated]
  induction items with
  | nil => rfl
  | cons v rest ih =>
    rw [List.map_cons, data_cons, ih]
    rfl

lemma numbered_inlineAll (n : Nat) (items : List Value) :
    numbered n (inlineAll items) = separated ", " (slotsBehind n items.length) := by
  unfold inlineAll
  rw [Rendering.numbered_separated]
  congr 1
  induction items generalizing n with
  | nil => rfl
  | cons v rest ih =>
    have hrest := ih (n + 1)
    rw [List.map_cons, numbered_cons]
    simp only [slotsBehind, List.length_cons, List.range'_succ, List.map_cons] at hrest ⊢
    rw [← hrest]
    rfl

namespace Raw

lemma inlineItems_eq (v : Value) : inlineItems v = inlineAll (items v) := by
  cases v <;> rfl

lemma data_inlineFill {stretches : List (List Char)} {values : List Value}
    (h : values.length < stretches.length) :
    data (inlineFill stretches values) = (values.flatMap items).map .value := by
  induction stretches generalizing values with
  | nil => cases h
  | cons stretch rest ih =>
    cases values with
    | nil => rfl
    | cons v values =>
      have hrest := ih (Nat.lt_of_succ_lt_succ h)
      rw [inlineFill, data_append, data_append, hrest, inlineItems_eq, data_inlineAll,
        List.flatMap_cons, List.map_append]
      rfl

lemma segments_inlineFill_cons (n : Nat) (c : Char) (stretch : List Char)
    (rest : List (List Char)) (items : List Value) :
    Sql.segments (numbered n (inlineFill ((c :: stretch) :: rest) items)) =
      .char c :: Sql.segments (numbered n (inlineFill (stretch :: rest) items)) := by
  cases items with
  | nil => simp [inlineFill, Sql.segments, Piece.segments, sql]
  | cons v items => simp [inlineFill, Sql.segments, Piece.segments, sql]

lemma segments_inlineFill {fragment : List Char} {items : List Value}
    (h : fragment.count '?' = items.length) (n : Nat) :
    Sql.segments (numbered n (inlineFill (Text.splitAt '?' fragment) items)) =
      replaceMarkers fragment (placeholders n items) := by
  -- a marker takes the next item, and any other letter belongs to the stretch before the next marker
  induction fragment generalizing items n with
  | nil =>
    obtain rfl : items = [] := List.length_eq_zero_iff.mp h.symm
    rfl
  | cons c s ih =>
    by_cases hc : c = '?'
    · subst hc
      rw [List.count_cons_self] at h
      rcases items with _ | ⟨v, items⟩
      · cases h
      · have hrest := ih (Nat.succ.inj h) (n + (Raw.items v).length)
        rw [placeholders, replaceMarkers, if_pos rfl, ← hrest, ← numbered_inlineAll]
        simp [Text.splitAt, inlineFill, inlineItems_eq, data_inlineAll, Sql.segments,
          Piece.segments, sql]
    · rw [List.count_cons_of_ne hc] at h
      have hrest := ih h n
      rcases hsplit : Text.splitAt '?' s with _ | ⟨stretch, rest⟩
      · exact absurd hsplit (Text.splitAt_ne_nil '?' s)
      · rw [hsplit] at hrest
        simp only [Text.splitAt, if_neg hc, hsplit]
        rw [segments_inlineFill_cons, hrest]
        cases items with
        | nil => rfl
        | cons v items => rw [placeholders, replaceMarkers, if_neg hc]

lemma sum_sizeOf_le (values : List Value) : (values.map sizeOf).sum ≤ sizeOf values := by
  induction values with
  | nil => exact Nat.zero_le _
  | cons v rest ih =>
    rw [List.map_cons, List.sum_cons, List.cons.sizeOf_spec]
    omega

lemma sum_sizeOf_items_lt (values : List Value) :
    ((items (.array values)).map sizeOf).sum < sizeOf (Value.array values) := by
  have hle := sum_sizeOf_le values
  rw [items, Value.array.sizeOf_spec]
  omega

lemma sum_sizeOf_items_le (v : Value) : ((items v).map sizeOf).sum ≤ sizeOf v := by
  cases v with
  | array values => exact (sum_sizeOf_items_lt values).le
  | _ => simp [items]

/-- Values stay as they are exactly if there is no list among them. -/
lemma flatMap_items_eq_iff {values : List Value} :
    values.flatMap items = values ↔ ∀ v ∈ values, ∀ vs, v ≠ .array vs := by
  constructor
  · rintro h _ hv vs rfl
    -- a list is larger than its items together, so opening it makes the values smaller
    have hlt : (values.map fun v => ((items v).map sizeOf).sum).sum < (values.map sizeOf).sum :=
      List.sum_lt_sum _ _ (fun v _ => sum_sizeOf_items_le v) ⟨_, hv, sum_sizeOf_items_lt vs⟩
    have hsum : ((values.flatMap items).map sizeOf).sum =
        (values.map fun v => ((items v).map sizeOf).sum).sum := by
      rw [List.map_flatMap, List.flatMap_def, List.sum_flatten, List.map_map]
      rfl
    rw [h] at hsum
    exact hlt.ne' hsum
  · intro h
    conv_rhs => rw [← List.flatMap_singleton' values]
    apply List.flatMap_congr
    intro v hv
    exact items_of_ne_array (h v hv)

lemma placeholders_of_ne_array {values : List Value} (h : ∀ v ∈ values, ∀ vs, v ≠ .array vs)
    (n : Nat) : placeholders n values = slotsBehind n values.length := by
  induction values generalizing n with
  | nil => rfl
  | cons v rest ih =>
    obtain ⟨hv, hrest⟩ := List.forall_mem_cons.mp h
    have hplaceholders := ih hrest (n + 1)
    rw [placeholders, items_of_ne_array hv, List.length_singleton, hplaceholders]
    simp [slotsBehind, separated, List.range'_succ]

lemma bindsEach_iff {fragment : String} {items : List Value} {n : Nat} {body : Sql}
    {values : List Datum} (hvalues : values = (items.flatMap Raw.items).map .value)
    (hbody : body.segments = replaceMarkers fragment.toList (placeholders n items)) :
    BindsEach fragment items n body values ↔ ∀ v ∈ items, ∀ vs, v ≠ .array vs := by
  constructor
  · rintro ⟨hsingle, -⟩
    rw [hvalues] at hsingle
    exact flatMap_items_eq_iff.mp (List.map_injective_iff.mpr (fun _ _ => Datum.value.inj) hsingle)
  · intro h
    constructor
    · rw [hvalues, flatMap_items_eq_iff.mpr h]
    · rw [hbody, placeholders_of_ne_array h]

lemma exists_of_inline_eq_ok {r : Raw} {v : Value} {x : Rendering} (hv : r.values = some v)
    (h : r.inline = .ok x) :
    ∃ fragment, r.fragment = .string fragment ∧ fragment.toList.count '?' = (items v).length ∧
      x = inlineFill (Text.splitAt '?' fragment.toList) (items v) := by
  unfold inline at h
  rw [hv] at h
  split at h
  · contradiction
  · next fragment hvalues hfragment =>
    obtain rfl : v = _ := Option.some.inj hvalues
    dsimp only at h
    split at h
    · next hcount =>
      rw [Text.length_splitAt, Nat.add_sub_cancel] at hcount
      cases h
      exact ⟨fragment, hfragment, hcount, rfl⟩
    · cases h
  · cases h

end Raw

/-! ### The places of the fragments -/

/-- Fragments stand in a rendering with their values in place, one behind the other. -/
inductive Rendering.Shows : List Raw → Rendering → Prop
  | nothing (x : Rendering) : Shows [] x
  | fragment (before : Rendering) {r : Raw} {x y : Rendering} {rs : List Raw}
      (hr : r.inline = .ok x) (hrs : Shows rs y) : Shows (r :: rs) (before ++ x ++ y)

namespace Rendering.Shows

variable {rs rs' : List Raw} {x y : Rendering}

lemma behind (before : Rendering) (h : Shows rs x) : Shows rs (before ++ x) := by
  cases h with
  | nothing => exact .nothing _
  | fragment gap hr hrs =>
    rw [← List.append_assoc, ← List.append_assoc]
    exact .fragment (before ++ gap) hr hrs

lemma append (h : Shows rs x) (h' : Shows rs' y) : Shows (rs ++ rs') (x ++ y) := by
  induction h with
  | nothing x => exact h'.behind x
  | fragment gap hr _ ih =>
    rw [List.append_assoc]
    exact .fragment gap hr ih

lemma before (after : Rendering) (h : Shows rs x) : Shows rs (x ++ after) := by
  simpa using h.append (.nothing after)

lemma separated (separator : String) {rss : List (List Raw)} {xs : List Rendering}
    (h : List.Forall₂ Shows rss xs) : Shows rss.flatten (Rendering.separated separator xs) := by
  unfold Rendering.separated
  induction h with
  | nil => exact .nothing _
  | @cons rs x rss xs h hrest ih =>
    cases hrest with
    | nil => simpa using h
    | cons hnext hrest =>
      rw [List.intercalate_cons_cons, List.flatten_cons]
      exact (h.before _).append ih

lemma grouped (operator empty : String) {rss : List (List Raw)} {xs : List Rendering}
    (h : List.Forall₂ Shows rss xs) :
    Shows rss.flatten (Rendering.grouped operator empty xs) := by
  cases h with
  | nil => exact .nothing _
  | @cons rs x rss xs h hrest =>
    apply separated
    rw [List.forall₂_map_right_iff]
    exact (List.Forall₂.cons h hrest).imp fun _ _ hpart => (hpart.behind _).before _

end Rendering.Shows

open Rendering (Shows)

lemma Raw.shows {r : Raw} {x : Rendering} (h : r.inline = .ok x) : Shows [r] x := by
  have hone := Shows.fragment [] h (.nothing [])
  rwa [List.nil_append, List.append_nil] at hone

namespace Condition

variable {source : String}

lemma fragmentsOfEach_eq (cs : List Condition) :
    fragmentsOfEach cs = (cs.map fragments).flatten := by
  induction cs with
  | nil => rfl
  | cons c rest ih =>
    rw [List.map_cons, List.flatten_cons, ← ih]
    exact List.filterMap_append

mutual

lemma shows : ∀ {c : Condition} {x : Rendering}, c.inline source = .ok x → Shows c.fragments x
  | all parts, x, h => by
    rw [inline] at h
    obtain ⟨xs, hxs, h⟩ := exists_of_bind_eq_ok h
    cases h
    change Shows (fragmentsOfEach parts) _
    rw [fragmentsOfEach_eq]
    exact .grouped _ _ (showsEach hxs)
  | any parts, x, h => by
    rw [inline] at h
    obtain ⟨xs, hxs, h⟩ := exists_of_bind_eq_ok h
    cases h
    change Shows (fragmentsOfEach parts) _
    rw [fragmentsOfEach_eq]
    exact .grouped _ _ (showsEach hxs)
  | raw r, x, h => Raw.shows h
  | term t, x, h => .nothing x
  | unsupported v, x, h => .nothing x

lemma showsEach : ∀ {cs : List Condition} {xs : List Rendering}, inlineEach source cs = .ok xs →
    List.Forall₂ Shows (cs.map fragments) xs
  | [], xs, h => by
    cases h
    exact .nil
  | c :: rest, xs, h => by
    rw [inlineEach] at h
    obtain ⟨x, hx, h⟩ := exists_of_bind_eq_ok h
    obtain ⟨xs, hxs, h⟩ := exists_of_bind_eq_ok h
    cases h
    exact .cons (shows hx) (showsEach hxs)

end

end Condition

lemma inlineWhere_shows {source : String} {conditions : List Condition} {x : Rendering}
    (h : inlineWhere source conditions = .ok x) :
    Shows (Condition.fragmentsOfEach conditions) x := by
  cases conditions with
  | nil => exact .nothing x
  | cons c rest =>
    obtain ⟨xs, hxs, h⟩ := exists_of_bind_eq_ok h
    cases h
    rw [Condition.fragmentsOfEach_eq]
    exact Shows.behind _ (.grouped _ _ (Condition.showsEach hxs))

lemma Field.shows {source : String} {f : Field} {x : Rendering} (h : f.inline source = .ok x) :
    Shows f.fragments x := by
  cases f with
  | column name => exact .nothing x
  | raw r => exact Raw.shows h

lemma Read.shows_columns {q : Read} {columns : List Rendering} (h : q.inlineColumns = .ok columns)
    (others : List Rendering) :
    Shows (q.fields.flatMap Field.fragments) (.separated ", " (columns ++ others)) := by
  obtain ⟨rss, hrss, hflat⟩ : ∃ rss, List.Forall₂ Shows rss columns ∧
      rss.flatten = q.fields.flatMap Field.fragments := by
    unfold inlineColumns at h
    cases hfields : q.fields with
    | nil =>
      rw [hfields] at h
      cases h
      exact ⟨[[]], .cons (.nothing _) .nil, rfl⟩
    | cons f rest =>
      rw [hfields] at h
      refine ⟨(f :: rest).map Field.fragments, ?_, rfl⟩
      rw [List.forall₂_map_left_iff]
      exact (mapM_eq_ok_iff.mp h).imp fun _ _ hx => Field.shows hx
  have hothers : List.Forall₂ Shows (others.map fun _ => []) others := by
    rw [List.forall₂_map_left_iff, List.forall₂_same]
    exact fun x _ => .nothing x
  have hall := Shows.separated ", " (List.rel_append hrss hothers)
  rw [List.flatten_append, hflat] at hall
  simpa using hall

lemma fragments_shown {q : TableGateway.Query} {x : Rendering} (h : q.inline = .ok x) :
    Shows (fragments q) x := by
  cases q with
  | create q => exact .nothing x
  | read q =>
    change q.inline = _ at h
    unfold Read.inline at h
    obtain ⟨columns, hcolumns, h⟩ := exists_of_bind_eq_ok h
    obtain ⟨joins, -, h⟩ := exists_of_bind_eq_ok h
    obtain ⟨-, -, h⟩ := exists_of_bind_eq_ok h
    obtain ⟨filter, hfilter, h⟩ := exists_of_bind_eq_ok h
    obtain ⟨order, -, h⟩ := exists_of_bind_eq_ok h
    obtain ⟨page, -, h⟩ := exists_of_bind_eq_ok h
    cases h
    have hhead := (Read.shows_columns hcolumns ((embeddings joins).map .ofSql)).behind
      (.text "SELECT ")
    have hfrom := (hhead.before (.text (" FROM " ++ q.source))).before
      (.ofSql (joinClauses q.source joins))
    exact ((hfrom.append (inlineWhere_shows hfilter)).before _).before _
  | update q =>
    change q.inline = _ at h
    unfold Update.inline at h
    obtain ⟨p, -, h⟩ := exists_of_bind_eq_ok h
    split at h
    · obtain ⟨_, hthrow, -⟩ := exists_of_bind_eq_ok h
      cases hthrow
    · obtain ⟨filter, hfilter, h⟩ := exists_of_bind_eq_ok h
      obtain ⟨returning, -, h⟩ := exists_of_bind_eq_ok h
      cases h
      exact ((inlineWhere_shows hfilter).behind _).before _
  | delete q =>
    obtain ⟨filter, hfilter, h⟩ := exists_of_bind_eq_ok h
    cases h
    exact (inlineWhere_shows hfilter).behind _
  | count q =>
    change q.inlineCount = _ at h
    unfold Read.inlineCount at h
    obtain ⟨joins, -, h⟩ := exists_of_bind_eq_ok h
    obtain ⟨filter, hfilter, h⟩ := exists_of_bind_eq_ok h
    cases h
    exact (inlineWhere_shows hfilter).behind _

namespace Place

variable (head part tail : Rendering)

lemma before_append_body_between :
    (between head part tail).before ++ (between head part tail).body =
      numbered 0 (head ++ part) := by
  rw [numbered_append, Nat.zero_add]
  rfl

lemma holds_between {r : Raw} {part : Rendering} (hr : r.inline = .ok part) :
    (between head part tail).Holds r
      ⟨numbered 0 (head ++ part ++ tail), data (head ++ part ++ tail)⟩ where
  sql := by
    rw [before_append_body_between]
    change numbered 0 (head ++ part ++ tail) = _
    rw [numbered_append, Nat.zero_add]
    rfl
  values := by
    change data (head ++ part ++ tail) = _
    rw [data_append, data_append]
    rfl
  bind := r.bind_follows.run_eq_ok hr ⟨data head⟩

end Place

/-- What is shown in a rendering has its place in the statement, behind a head that stands before. -/
lemma Rendering.Shows.exists_places {rs : List Raw} {x : Rendering} (h : Shows rs x)
    (head : Rendering) :
    ∃ places, List.Forall₂ (fun r p => Place.Holds p r ⟨numbered 0 (head ++ x), data (head ++ x)⟩)
        rs places ∧
      places.Pairwise Place.IsBefore ∧ ∀ p ∈ places, numbered 0 head <+: p.before := by
  induction h generalizing head with
  | nothing x => exact ⟨[], .nil, .nil, fun _ hp => absurd hp List.not_mem_nil⟩
  | @fragment gap r x y rs hr hrs ih =>
    obtain ⟨places, hholds, hordered, hbehind⟩ := ih (head ++ gap ++ x)
    have hwhole : head ++ (gap ++ x ++ y) = head ++ gap ++ x ++ y := by simp
    have hplace := Place.holds_between (head ++ gap) y hr
    rw [hwhole]
    refine ⟨.between (head ++ gap) x y :: places, .cons hplace hholds, ?_, ?_⟩
    · refine .cons (fun p hp => ?_) hordered
      unfold Place.IsBefore
      rw [Place.before_append_body_between]
      exact hbehind p hp
    · intro p hp
      rcases List.mem_cons.mp hp with rfl | hp
      · change numbered 0 head <+: numbered 0 (head ++ gap)
        rw [numbered_append]
        exact List.prefix_append _ _
      · have hbegins := hbehind p hp
        rw [List.append_assoc, numbered_append] at hbegins
        exact (List.prefix_append _ _).trans hbegins

lemma exists_places {q : TableGateway.Query} {s : Statement} (h : q.statement = .ok s) :
    ∃ places, List.Forall₂ (fun r p => Place.Holds p r s) (fragments q) places ∧
      places.Pairwise Place.IsBefore := by
  obtain ⟨x, hx, rfl⟩ := q.exists_inline_of_statement h
  obtain ⟨places, hholds, hordered, -⟩ := (fragments_shown hx).exists_places []
  exact ⟨places, hholds, hordered⟩

lemma exists_of_forall₂_append {α β : Type} {R : α → β → Prop} {xs ys : List α} {zs : List β}
    (h : List.Forall₂ R (xs ++ ys) zs) :
    ∃ us vs, zs = us ++ vs ∧ List.Forall₂ R xs us ∧ List.Forall₂ R ys vs := by
  have hxs := List.forall₂_take_append _ _ _ h.flip
  have hys := List.forall₂_drop_append _ _ _ h.flip
  exact ⟨_, _, (List.take_append_drop xs.length zs).symm, hxs.flip, hys.flip⟩

end TableGateway.Query

namespace TableGateway

open Query

/-- When a fragment is bound with values, every marker is replaced by the slots of one item, in turn,
and nothing else changes. There is one value for every marker, bound as it is, exactly if no item is
a list; the items of a list are bound in its place. In the statement of a query the fragment is bound
like that wherever it stands, as a column or in the conditions, and so are those around it. -/
theorem Query.fragment_bound (r : Raw) (v : Value) (hv : r.values = some v) :
    (∀ (bound after : Parameters) (body : Sql), r.bind.run.run bound = (.ok body, after) →
      ∃ fragment values, r.fragment = .string fragment ∧ after.values = bound.values ++ values ∧
        fragment.toList.count '?' = (Raw.items v).length ∧
        values = ((Raw.items v).flatMap Raw.items).map .value ∧
        body.segments = replaceMarkers fragment.toList
          (Raw.placeholders bound.values.length (Raw.items v)) ∧
        (Raw.BindsEach fragment (Raw.items v) bound.values.length body values ↔
          ∀ item ∈ Raw.items v, ∀ vs, item ≠ .array vs)) ∧
    ∀ (q : TableGateway.Query) (s : Statement) (earlier later : List Raw),
      q.statement = .ok s → q.fragments = earlier ++ r :: later →
      ∃ (before : List Place) (p : Place) (behind : List Place),
        List.Forall₂ (fun r p => Place.Holds p r s) earlier before ∧ p.Holds r s ∧
        List.Forall₂ (fun r p => Place.Holds p r s) later behind ∧
        (before ++ p :: behind).Pairwise Place.IsBefore := by
  constructor
  · intro bound after body hrun
    obtain ⟨x, hx, hbody, hafter⟩ := r.bind_follows.exists_of_run_eq_ok hrun
    obtain ⟨fragment, hfragment, hcount, rfl⟩ := Raw.exists_of_inline_eq_ok hv hx
    have hlength : (Raw.items v).length < (Text.splitAt '?' fragment.toList).length := by
      rw [Text.length_splitAt, hcount]
      exact Nat.lt_succ_self _
    have hvalues := Raw.data_inlineFill hlength
    have hsegments := Raw.segments_inlineFill hcount bound.values.length
    rw [← hbody] at hsegments
    exact ⟨fragment, _, hfragment, congrArg Parameters.values hafter, hcount, hvalues, hsegments,
      Raw.bindsEach_iff hvalues hsegments⟩
  · intro q s earlier later hs hfragments
    obtain ⟨places, hholds, hordered⟩ := exists_places hs
    rw [hfragments] at hholds
    obtain ⟨before, others, rfl, hbefore, hothers⟩ := exists_of_forall₂_append hholds
    obtain ⟨p, behind, hp, hbehind, rfl⟩ := List.forall₂_cons_left_iff.mp hothers
    exact ⟨before, p, behind, hbefore, hp, hbehind, hordered⟩

theorem Query.fragment_bound_listed :
    let shown : Raw := ⟨.string "f(?, ?)", some (.array [.int 1, .string "x"])⟩
    let items : List Value := [.array [.int 3, .int 4]]
    let listed : Raw := ⟨.string "a IN (?)", some (.array items)⟩
    let q : Query := .read {
      source := "t"
      fields := [.column "a", .raw shown]
      conditions := [.any [.term ⟨"b", .int 2, "="⟩, .raw listed]] }
    let bound : Parameters := ⟨[.int 1, .string "x", .int 2].map .value⟩
    let after : Parameters := ⟨[.int 1, .string "x", .int 2, .int 3, .int 4].map .value⟩
    let body : Sql := [.text "a IN (", .slot 4, .text ", ", .slot 5, .text ")"]
    let s : Statement := {
      sql := [.text "SELECT ", .text "t.a", .text ", ", .text "f(", .slot 1, .text ", ", .slot 2,
          .text ")", .text " FROM t", .text " WHERE ", .text "(", .text "(", .text "t.b = ",
          .slot 3, .text ")", .text " OR ", .text "("] ++ body ++ [.text ")", .text ")"]
      values := after.values }
    listed.values = some (.array items) ∧ listed.bind.run.run bound = (.ok body, after) ∧
      q.statement = .ok s ∧ q.fragments = [shown] ++ listed :: [] ∧
      (∃ fragment values, listed.fragment = .string fragment ∧
        after.values = bound.values ++ values ∧ fragment.toList.count '?' = items.length ∧
        values = (items.flatMap Raw.items).map .value ∧
        body.segments = replaceMarkers fragment.toList
          (Raw.placeholders bound.values.length items) ∧
        (Raw.BindsEach fragment items bound.values.length body values ↔
          ∀ item ∈ items, ∀ vs, item ≠ .array vs)) ∧
      ∃ (before : List Place) (p : Place) (behind : List Place),
        List.Forall₂ (fun r p => Place.Holds p r s) [shown] before ∧ p.Holds listed s ∧
        List.Forall₂ (fun r p => Place.Holds p r s) [] behind ∧
        (before ++ p :: behind).Pairwise Place.IsBefore := by
  intro shown items listed q bound after body s
  have hlisted : listed.bind.run.run bound = (.ok body, after) := by cbv
  have hs : q.statement = .ok s := by cbv
  obtain ⟨hbound, hplaced⟩ := Query.fragment_bound listed (.array items) rfl
  exact ⟨rfl, hlisted, hs, rfl, hbound bound after body hlisted, hplaced q s [shown] [] hs rfl⟩

/-- A list for a marker is not bound as one value: its items are bound, and if there are none,
nothing stands in the place of the marker. -/
theorem Query.fragment_opened :
    let listed (items : List Value) : Raw := ⟨.string "a = ANY(?)", some (.array [.array items])⟩
    let query (items : List Value) : Query := .delete {
      source := "t", conditions := [.raw (listed items)] }
    (∃ s body, (query [.int 1, .int 2]).statement = .ok s ∧
      s.text = "DELETE FROM t WHERE (a = ANY($1, $2))" ∧
      (listed [.int 1, .int 2]).bind.run.run {} = (.ok body, ⟨s.values⟩) ∧
      ¬Raw.BindsEach "a = ANY(?)" [.array [.int 1, .int 2]] 0 body s.values) ∧
    ∃ s body, (query []).statement = .ok s ∧ s.text = "DELETE FROM t WHERE (a = ANY())" ∧
      (listed []).bind.run.run {} = (.ok body, ⟨s.values⟩) ∧
      ¬Raw.BindsEach "a = ANY(?)" [.array []] 0 body s.values := by
  intro listed query
  constructor
  · let body : Sql := [.text "a = ANY(", .slot 1, .text ", ", .slot 2, .text ")"]
    let s : Statement := {
      sql := [.text "DELETE FROM t", .text " WHERE ", .text "("] ++ body ++ [.text ")"]
      values := [.value (.int 1), .value (.int 2)] }
    refine ⟨s, body, by cbv, by cbv, by cbv, fun h => ?_⟩
    have hlength := congrArg List.length h.values
    simp [s] at hlength
  · let body : Sql := [.text "a = ANY(", .text ")"]
    let s : Statement := {
      sql := [.text "DELETE FROM t", .text " WHERE ", .text "("] ++ body ++ [.text ")"]
      values := [] }
    refine ⟨s, body, by cbv, by cbv, by cbv, fun h => ?_⟩
    have hlength := congrArg List.length h.values
    simp [s] at hlength

end TableGateway
