import Mathlib
import TableGateway.Proofs.ForeignKeys

/-!
# Paths along foreign keys

A path resolves if each of its segments is the property of a foreign key of the name reached before,
and every join is such a foreign key. Otherwise the first segment that is none is reported. To
resolve a path is to resolve a beginning of it, and the rest from where that leads.
-/

namespace TableGateway.Catalog

open Query

/-- The name that joins lead to: the source of the last one, or where they start. -/
def endOf (start : Value) (joins : List Join) : Value :=
  (joins.map (·.source)).getLastD start

/-- A foreign key of this name starts from this property. -/
def LeadsOn (sources : List Source) (name key : Value) : Prop :=
  ∃ r, IsForeignKey sources name r ∧ r.localProperty = key

/-- There is a join for each segment, at the path up to there: a foreign key of the name reached
before, and its property is the segment. -/
structure Resolves (sources : List Source) (start : Value) (path : List Value)
    (joins : List Join) : Prop where
  length : joins.length = path.length
  join : ∀ i key, path[i]? = some key →
    ∃ r, IsForeignKey sources (endOf start (joins.take i)) r ∧ r.localProperty = key ∧
      joins[i]? = some ⟨r.relationName, .array (path.take (i + 1)), key, r.foreignProperty⟩

/-- A join at a path behind another. -/
def shifted (before : List Value) (j : Join) : Join :=
  match j.path with
  | .array path => { j with path := .array (before ++ path) }
  | _ => j

lemma endOf_cons (start : Value) (j : Join) (joins : List Join) :
    endOf start (j :: joins) = endOf j.source joins := by
  rw [endOf, List.map_cons, List.getLastD_cons]
  rfl

lemma Resolves.concat {sources : List Source} {start key : Value} {path : List Value}
    {joins : List Join} (h : Resolves sources start path joins) {r : Relationship}
    (hr : IsForeignKey sources (endOf start joins) r) (hkey : r.localProperty = key) :
    Resolves sources start (path ++ [key])
      (joins ++ [⟨r.relationName, .array (path ++ [key]), key, r.foreignProperty⟩]) := by
  refine ⟨by simp [h.length], fun i segment hi => ?_⟩
  have hlength := h.length
  rcases Nat.lt_trichotomy i path.length with hlt | heq | hgt
  · rw [List.getElem?_append_left hlt] at hi
    obtain ⟨other, hother, hsegment, hjoin⟩ := h.join i segment hi
    refine ⟨other, ?_, hsegment, ?_⟩
    · rwa [List.take_append_of_le_length (by omega)]
    · rwa [List.getElem?_append_left (by omega), List.take_append_of_le_length (by omega)]
  · have hsegment : segment = key := by simpa [heq] using hi.symm
    refine ⟨r, ?_, hkey.trans hsegment.symm, ?_⟩
    · rwa [heq, ← hlength, List.take_left]
    · simp [heq, ← hlength, hsegment]
  · have hnone : (path ++ [key])[i]? = none := by
      rw [List.getElem?_eq_none_iff, List.length_append, List.length_singleton]
      omega
    rw [hnone] at hi
    cases hi

namespace Graph

/-- A beginning of a path resolves, and its next segment leads on from there. -/
def Continues (g : Graph) (sources : List Source) (start : Value) (before : List Value)
    (key : Value) : Prop :=
  ∃ joins, g.joinsFor start (.array before) = .ok joins ∧ LeadsOn sources (endOf start joins) key

/-- A beginning of a path resolves, but its next segment does not lead on from there, which is
reported. -/
def StopsAt (g : Graph) (sources : List Source) (start : Value) (before : List Value) (key : Value)
    (e : PathError) : Prop :=
  ∃ joins, g.joinsFor start (.array before) = .ok joins ∧
    ¬LeadsOn sources (endOf start joins) key ∧
    e = .noRelationship (endOf start joins) key ∧
    e.failure = .foreseen
      { area := .query
        message := "'" ++ (endOf start joins).shown ++ "' has no relationship through '" ++
          key.shown ++ "'" }

/-- Paths from a name are resolved along the foreign keys, and no further. -/
structure ResolvesPaths (g : Graph) (sources : List Source) (start : Value) : Prop where
  isOk_iff : ∀ path, (∃ joins, g.joinsFor start (.array path) = .ok joins) ↔
    ∀ before key after, path = before ++ key :: after → g.Continues sources start before key
  sound : ∀ path joins, g.joinsFor start (.array path) = .ok joins →
    Resolves sources start path joins
  stops : ∀ path e, g.joinsFor start (.array path) = .error e →
    ∃ before key after, path = before ++ key :: after ∧ g.StopsAt sources start before key e
  append : ∀ path others, g.joinsFor start (.array (path ++ others)) = do
    let joins ← g.joinsFor start (.array path)
    let rest ← g.joinsFor (endOf start joins) (.array others)
    return joins ++ rest.map (shifted path)

variable {g : Graph} {sources : List Source} {start : Value}

lemma joinsFrom_behind (node name : Value) (before walked keys : List Value) :
    g.joinsFrom node name (before ++ walked) keys =
      (g.joinsFrom node name walked keys).map (List.map (shifted before)) := by
  induction keys generalizing node name walked with
  | nil => rfl
  | cons key rest ih =>
    rw [joinsFrom, joinsFrom]
    cases g.edge? node key with
    | none => rfl
    | some e =>
      dsimp only
      rw [List.append_assoc, ih]
      cases g.joinsFrom e.target e.targetName (walked ++ [key]) rest <;> rfl

namespace IsOf

/-! ### One segment -/

lemma edge?_eq_some (h : g.IsOf sources) {node key : Value} {e : Edge}
    (he : g.edge? node key = some e) :
    ∃ r, IsForeignKey sources node r ∧ r.localProperty = key ∧ e = .ofForeignKey node r := by
  obtain ⟨target, -, hbetween⟩ := List.mem_flatMap.mp (List.mem_of_find?_eq_some he)
  obtain ⟨hmem, hjoins⟩ := List.mem_filter.mp hbetween
  have hsource : e.source = node := by simp_all
  obtain ⟨r, hr, hedge⟩ := h.mem_edges hmem
  rw [hsource] at hr hedge
  have hcompares : e.key.compares key := by simpa using List.find?_some he
  rw [hedge] at hcompares
  have htext : r.localProperty.isText := (hr.areTexts h.texts).localProperty
  exact ⟨r, hr, (compares_iff_of_isText htext).mp hcompares, hedge⟩

lemma edge?_eq_none (h : g.IsOf sources) {node key : Value} (hnone : g.edge? node key = none) :
    ¬LeadsOn sources node key := by
  rintro ⟨r, hr, rfl⟩
  obtain ⟨e, he, hsource, htarget, hkey⟩ := h.exists_edge hr
  have hbetween : e ∈ g.edgesBetween node r.relationName :=
    List.mem_filter.mpr ⟨he, by simp [hsource, htarget]⟩
  have houtgoing : e ∈ g.outgoing node :=
    List.mem_flatMap.mpr ⟨r.relationName, h.mem_targets.mpr ⟨r, hr, rfl⟩, hbetween⟩
  have hcompares : e.key.compares r.localProperty := by
    rw [hkey]
    exact (compares_iff_of_isText (hr.areTexts h.texts).localProperty).mpr rfl
  exact List.find?_eq_none.mp hnone e houtgoing hcompares

/-! ### Walks -/

lemma joinsFrom_append (h : g.IsOf sources) (node : Value) (walked path others : List Value) :
    g.joinsFrom node node walked (path ++ others) = do
      let joins ← g.joinsFrom node node walked path
      let rest ← g.joinsFrom (endOf node joins) (endOf node joins) (walked ++ path) others
      return joins ++ rest := by
  induction path generalizing node walked with
  | nil =>
    rw [List.append_nil, List.nil_append]
    exact (bind_pure (g.joinsFrom node node walked others)).symm
  | cons key path ih =>
    rw [List.cons_append, joinsFrom, joinsFrom]
    cases hedge : g.edge? node key with
    | none => rfl
    | some e =>
      have htarget : e.targetName = e.target := h.edges.targetName e (mem_edges_of_edge? hedge)
      dsimp only
      rw [htarget, ih, List.append_assoc, List.singleton_append]
      cases g.joinsFrom e.target e.target (walked ++ [key]) path with
      | error fault => rfl
      | ok joins =>
        simp only [ok_bind, pure_bind, bind_assoc, endOf_cons, List.cons_append]

lemma joinsFor_eq (h : g.IsOf sources) (hstart : start ∈ g.nodes) (path : List Value) :
    g.joinsFor start (.array path) = g.joinsFrom start start [] path := by
  have hfound : g.nodes.find? (·.equals start) = some start := by
    cases hfind : g.nodes.find? (·.equals start) with
    | none => exact absurd start.equals_self (List.find?_eq_none.mp hfind start hstart)
    | some node =>
      have hequals : node.equals start := by simpa using List.find?_some hfind
      rw [(equals_iff_of_isText_right (h.isText_of_mem_nodes hstart)).mp hequals]
  -- A list has its segments in order, so all of it is walked.
  have hitems : (Value.array path).items.mapError PathError.data = .ok path := rfl
  have horder : (Value.array path).inOrder = .ok () := rfl
  unfold joinsFor
  simp only [hfound, hitems, horder, ok_bind]
  change (g.joinsFrom start start [] path >>= _) = _
  cases g.joinsFrom start start [] path with
  | error e => rfl
  | ok joins =>
    rw [ok_bind]
    split <;> rfl

lemma endOf_mem_nodes (h : g.IsOf sources) (hstart : start ∈ g.nodes) {path : List Value}
    {joins : List Join} (hjoins : g.joinsFor start (.array path) = .ok joins) :
    endOf start joins ∈ g.nodes := by
  rw [h.joinsFor_eq hstart] at hjoins
  have hmem : endOf start joins ∈ start :: joins.map (·.source) := List.getLastD_mem_cons
  rcases List.mem_cons.mp hmem with hsame | hlast
  · rwa [hsame]
  · obtain ⟨j, hj, hsource⟩ := List.mem_map.mp hlast
    obtain ⟨e, he, htarget⟩ := source_of_joinsFrom hjoins j hj
    obtain ⟨r, hr, hedge⟩ := h.mem_edges he
    rw [← hsource, htarget, hedge]
    exact (h.mem_nodes hr).2

lemma joinsFor_append (h : g.IsOf sources) (hstart : start ∈ g.nodes) (path others : List Value) :
    g.joinsFor start (.array (path ++ others)) = do
      let joins ← g.joinsFor start (.array path)
      let rest ← g.joinsFor (endOf start joins) (.array others)
      return joins ++ rest.map (shifted path) := by
  rw [h.joinsFor_eq hstart, h.joinsFrom_append, ← h.joinsFor_eq hstart]
  cases hjoins : g.joinsFor start (.array path) with
  | error e => rfl
  | ok joins =>
    have hend : endOf start joins ∈ g.nodes := h.endOf_mem_nodes hstart hjoins
    have hwalk := joinsFrom_behind (g := g) (endOf start joins) (endOf start joins) path [] others
    rw [List.append_nil] at hwalk
    rw [ok_bind, ok_bind, List.nil_append, hwalk, h.joinsFor_eq hend]
    cases g.joinsFrom (endOf start joins) (endOf start joins) [] others <;> rfl

/-- Once a path resolves, one more segment either leads on or is reported. -/
lemma joinsFor_concat (h : g.IsOf sources) (hstart : start ∈ g.nodes) {path : List Value}
    {joins : List Join} (hjoins : g.joinsFor start (.array path) = .ok joins) (key : Value) :
    (∃ r, IsForeignKey sources (endOf start joins) r ∧ r.localProperty = key ∧
      g.joinsFor start (.array (path ++ [key])) =
        .ok (joins ++ [⟨r.relationName, .array (path ++ [key]), key, r.foreignProperty⟩])) ∨
    (¬LeadsOn sources (endOf start joins) key ∧
      g.joinsFor start (.array (path ++ [key])) =
        .error (.noRelationship (endOf start joins) key)) := by
  have hend : endOf start joins ∈ g.nodes := h.endOf_mem_nodes hstart hjoins
  have hstep := h.joinsFor_append hstart path [key]
  rw [hjoins, ok_bind, h.joinsFor_eq hend, joinsFrom] at hstep
  rw [hstep]
  cases hedge : g.edge? (endOf start joins) key with
  | none => exact .inr ⟨h.edge?_eq_none hedge, rfl⟩
  | some e =>
    obtain ⟨r, hr, hkey, rfl⟩ := h.edge?_eq_some hedge
    exact .inl ⟨r, hr, hkey, by rw [← hkey]; rfl⟩

/-! ### Paths -/

lemma resolves (h : g.IsOf sources) (hstart : start ∈ g.nodes) {path : List Value}
    {joins : List Join} (hjoins : g.joinsFor start (.array path) = .ok joins) :
    Resolves sources start path joins := by
  induction path using List.reverseRecOn generalizing joins with
  | nil =>
    rw [h.joinsFor_eq hstart, joinsFrom] at hjoins
    cases hjoins
    exact ⟨rfl, by simp⟩
  | append_singleton path key ih =>
    have hsplit := h.joinsFor_append hstart path [key]
    rw [hjoins] at hsplit
    obtain ⟨before, hbefore, -⟩ := exists_of_bind_eq_ok hsplit.symm
    rcases h.joinsFor_concat hstart hbefore key with ⟨r, hr, hkey, hstep⟩ | ⟨-, hstep⟩
    · rw [hjoins] at hstep
      cases hstep
      exact (ih hbefore).concat hr hkey
    · rw [hjoins] at hstep
      cases hstep

lemma exists_stopsAt (h : g.IsOf sources) (hstart : start ∈ g.nodes) {path : List Value}
    {e : PathError} (he : g.joinsFor start (.array path) = .error e) :
    ∃ before key after, path = before ++ key :: after ∧ g.StopsAt sources start before key e := by
  induction path using List.reverseRecOn with
  | nil =>
    rw [h.joinsFor_eq hstart, joinsFrom] at he
    cases he
  | append_singleton path key ih =>
    cases hpath : g.joinsFor start (.array path) with
    | error fault =>
      have hsplit := h.joinsFor_append hstart path [key]
      rw [hpath, he] at hsplit
      cases hsplit
      obtain ⟨before, segment, after, rfl, hstops⟩ := ih hpath
      exact ⟨before, segment, after ++ [key], by simp, hstops⟩
    | ok joins =>
      rcases h.joinsFor_concat hstart hpath key with ⟨r, -, -, hstep⟩ | ⟨hnone, hstep⟩
      · rw [he] at hstep
        cases hstep
      · rw [he] at hstep
        cases hstep
        exact ⟨path, key, [], rfl, joins, hpath, hnone, rfl, rfl⟩

lemma continues (h : g.IsOf sources) (hstart : start ∈ g.nodes) {before after : List Value}
    {key : Value} {joins : List Join}
    (hjoins : g.joinsFor start (.array (before ++ key :: after)) = .ok joins) :
    g.Continues sources start before key := by
  -- What resolves with more segments behind it resolves with one of them.
  have hsplit := h.joinsFor_append hstart (before ++ [key]) after
  rw [List.append_assoc, List.singleton_append, hjoins] at hsplit
  obtain ⟨reached, hreached, -⟩ := exists_of_bind_eq_ok hsplit.symm
  have hfirst := h.joinsFor_append hstart before [key]
  rw [hreached] at hfirst
  obtain ⟨walked, hwalked, -⟩ := exists_of_bind_eq_ok hfirst.symm
  rcases h.joinsFor_concat hstart hwalked key with ⟨r, hr, hkey, -⟩ | ⟨-, hstep⟩
  · exact ⟨walked, hwalked, r, hr, hkey⟩
  · rw [hreached] at hstep
    cases hstep

lemma resolvesPaths (h : g.IsOf sources) (hstart : start ∈ g.nodes) :
    g.ResolvesPaths sources start where
  isOk_iff path := by
    constructor
    · rintro ⟨joins, hjoins⟩ before key after rfl
      exact h.continues hstart hjoins
    · intro hcontinues
      cases hpath : g.joinsFor start (.array path) with
      | ok joins => exact ⟨joins, rfl⟩
      | error e =>
        obtain ⟨before, key, after, rfl, joins, hjoins, hnone, -⟩ := h.exists_stopsAt hstart hpath
        obtain ⟨others, hothers, hleads⟩ := hcontinues before key after rfl
        rw [hjoins] at hothers
        cases hothers
        exact absurd hleads hnone
  sound _ _ := h.resolves hstart
  stops _ _ := h.exists_stopsAt hstart
  append := h.joinsFor_append hstart

end IsOf

/-- In a catalog of texts the paths from every name resolve along the foreign keys. -/
theorem resolvesPaths_of_texts (sources : List Source) (htexts : ∀ s ∈ sources, s.HasTexts) :
    ∃ g, build sources = (g, none) ∧ ∀ start ∈ names sources, g.ResolvesPaths sources start := by
  obtain ⟨g, hbuild, h⟩ := exists_isOf htexts
  refine ⟨g, hbuild, fun start hstart => h.resolvesPaths ?_⟩
  rwa [h.nodes]

/-- Messages reply to each other, and the owner of a message is a user and, under the same property,
one of teams that are no source. -/
theorem resolvesPaths_of_texts_messages :
    let messages : Value := .string "messages"
    let users : Value := .string "users"
    let reply : Value := .string "reply"
    let owner : Value := .string "owner"
    let sources : List Source := [
      { name := messages, belongsTo := [⟨messages, reply, .string "id"⟩,
          ⟨users, owner, .string "id"⟩, ⟨.string "teams", owner, .string "id"⟩] },
      { name := users }]
    ∃ g, build sources = (g, none) ∧ messages ∈ names sources ∧
      g.ResolvesPaths sources messages ∧
      g.joinsFor messages (.array [reply, reply, owner]) = .ok [
        ⟨messages, .array [reply], reply, .string "id"⟩,
        ⟨messages, .array [reply, reply], reply, .string "id"⟩,
        ⟨users, .array [reply, reply, owner], owner, .string "id"⟩] ∧
      g.joinsFor messages (.array [owner, reply, owner]) =
        .error (.noRelationship users reply) := by
  intro messages users reply owner sources
  have htexts : ∀ s ∈ sources, s.HasTexts := by
    intro s hs
    simp only [sources, List.mem_cons, List.not_mem_nil, or_false] at hs
    rcases hs with rfl | rfl <;>
      exact ⟨rfl, by simp [messages, users, reply, owner, Value.isText]⟩
  have hnamed : messages ∈ names sources := by
    have hnames : names sources = [messages, users, .string "teams"] := by cbv
    rw [hnames]
    exact List.mem_cons_self
  obtain ⟨g, hbuild, hresolves⟩ := resolvesPaths_of_texts sources htexts
  have hg : g = (build sources).1 := by rw [hbuild]
  refine ⟨g, hbuild, hnamed, hresolves messages hnamed, ?_, ?_⟩ <;> rw [hg] <;> cbv

end Graph

end TableGateway.Catalog
