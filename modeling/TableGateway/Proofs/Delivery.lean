import Mathlib
import TableGateway.Proofs.Parameterization
import TableGateway.Query.Named

/-!
# What the database receives

A statement is sent as a text with named parameters, and the driver writes the values into it. The
slots are looked for in the written text, where a dollar sign of the query followed by digits looks
like one, and where digits behind a slot look like a part of it. Nothing else can go wrong: the
database receives the SQL of the query, with every value in its place, exactly if no digit of the
query stands directly behind a dollar sign or a value.
-/

namespace TableGateway.Query

/-! ### The driver -/

/-- A character that the database receives, or a value that the driver has written. -/
inductive Mark where
  | char (c : Char)
  | parameter (p : Parameter)

/-- Where the driver stands in the text that it is given. -/
inductive Reading where
  | text
  | percent
  /-- Inside of a name, of which some characters were read. -/
  | name (begun : List Char)
  /-- Behind a name. -/
  | conversion (name : List Char)

/-- What the driver makes of a text: `%%` is a percent sign and `%(name)s` the parameter of that
name. It refuses a text in which a percent sign is followed by anything else. -/
def receive (parameters : List (String × Parameter)) : Reading → List Char → Option (List Mark)
  | .text, [] => some []
  | .text, c :: s =>
    if c = '%' then receive parameters .percent s
    else (receive parameters .text s).map (.char c :: ·)
  | .percent, c :: s =>
    if c = '%' then (receive parameters .text s).map (.char '%' :: ·)
    else if c = '(' then receive parameters (.name []) s
    else none
  | .name begun, c :: s =>
    if c = ')' then receive parameters (.conversion begun) s
    else receive parameters (.name (begun ++ [c])) s
  | .conversion name, c :: s =>
    if c = 's' then do
      let p ← parameters.lookup (String.ofList name)
      return .parameter p :: (← receive parameters .text s)
    else none
  | _, [] => none

/-- What the database receives. Without parameters the driver leaves the text alone. -/
def NamedStatement.received (s : NamedStatement) : Option (List Mark) :=
  match s.parameters with
  | none => some (s.text.toList.map .char)
  | some parameters => receive parameters .text s.text.toList

/-- A character as it is received, or the value for a slot. -/
def Segment.deliver (parameters : List (String × Parameter)) : Segment → Option Mark
  | char c => some (.char c)
  | slot digits => (parameters.lookup ("p" ++ String.ofList digits)).map .parameter

section Driver

variable {parameters : List (String × Parameter)}

lemma receive_name {name : List Char} (h : ')' ∉ name) (begun s : List Char) :
    receive parameters (.name begun) (name ++ ')' :: 's' :: s) = (do
      let p ← parameters.lookup (String.ofList (begun ++ name))
      return .parameter p :: (← receive parameters .text s)) := by
  induction name generalizing begun with
  | nil => simp [receive]
  | cons c name ih =>
    rw [List.mem_cons, not_or] at h
    obtain ⟨hc, hname⟩ := h
    have hrest := ih hname (begun ++ [c])
    rw [List.append_assoc, List.singleton_append] at hrest
    rw [List.cons_append, receive, if_neg (Ne.symm hc), hrest]

lemma receive_named {segments : List Segment}
    (h : ∀ digits, .slot digits ∈ segments → ')' ∉ digits) :
    receive parameters .text (segments.flatMap Segment.named) =
      segments.mapM (Segment.deliver parameters) := by
  induction segments with
  | nil => rfl
  | cons segment rest ih =>
    have hrest := ih fun digits hdigits => h digits (List.mem_cons_of_mem _ hdigits)
    rw [List.flatMap_cons, List.mapM_cons, ← hrest]
    cases segment with
    | char c =>
      by_cases hc : c = '%'
      · subst hc
        simp [Segment.named, Segment.deliver, receive, Option.map_eq_bind]
      · simp [Segment.named, Segment.deliver, receive, hc, Option.map_eq_bind]
    | slot digits =>
      have hname := @receive_name parameters _ (h digits List.mem_cons_self) ['p']
        (rest.flatMap Segment.named)
      simp [Segment.named, Segment.deliver, receive, hname, Option.map_eq_bind, Option.bind_assoc]

end Driver

/-! ### Finding the slots -/

/-- No digit stands directly behind a dollar sign or a value, which are the places where it would
be read as a part of a slot. Values are the symbols that are no characters. -/
def IsClear (symbols : List (Option Char)) : Prop :=
  symbols.IsChain fun a b => a = none ∨ a = some '$' → ∀ c ∈ b, ¬Text.isDigit c

namespace Segment

def char? : Segment → Option Char
  | char c => some c
  | slot _ => none

/-- A segment that reading a text can give. -/
def IsFound : Segment → Prop
  | char _ => True
  | slot digits => digits ≠ [] ∧ ∀ c ∈ digits, Text.isDigit c

lemma leadingDigits_eq_nil {segments : List Segment} :
    leadingDigits segments = [] ↔ ∀ a ∈ (segments.map char?).head?, ∀ c ∈ a, ¬Text.isDigit c := by
  rcases segments with _ | ⟨_ | _, rest⟩
  · simp [leadingDigits]
  · simp [leadingDigits, char?]
  · simp [leadingDigits, char?]

lemma leadingDigits_append {digits : List Char} (h : ∀ c ∈ digits, Text.isDigit c)
    (segments : List Segment) :
    leadingDigits (digits.map char ++ segments) = digits ++ leadingDigits segments := by
  induction digits with
  | nil => rfl
  | cons c digits ih =>
    obtain ⟨hc, hdigits⟩ := List.forall_mem_cons.mp h
    rw [List.map_cons, List.cons_append, leadingDigits, if_pos hc, ih hdigits, List.cons_append]

/-- The leading digits are all there are. -/
lemma leadingDigits_drop (segments : List Segment) :
    leadingDigits (segments.drop (leadingDigits segments).length) = [] := by
  induction segments with
  | nil => rfl
  | cons segment rest ih =>
    cases segment with
    | char c =>
      by_cases hc : Text.isDigit c
      · simpa [leadingDigits, hc] using ih
      · simp [leadingDigits, hc]
    | slot digits => simp [leadingDigits]

lemma isClear_scan (s : List Char) : IsClear ((scan s).map char?) := by
  induction s with
  | nil => exact List.IsChain.nil
  | cons c s ih =>
    rw [scan]
    split
    · have hdrop := ih.drop (leadingDigits (scan s)).length
      rw [← List.map_drop] at hdrop
      have hhead := leadingDigits_eq_nil.mp (leadingDigits_drop (scan s))
      exact hdrop.cons fun a ha _ => hhead a ha
    · next hslot =>
      refine ih.cons fun a ha hc => ?_
      have hdollar : c = '$' := by simpa [char?] using hc
      have hnone : leadingDigits (scan s) = [] := by tauto
      exact leadingDigits_eq_nil.mp hnone a ha

lemma isFound_of_mem_scan {s : List Char} {segment : Segment} (h : segment ∈ scan s) :
    segment.IsFound := by
  induction s with
  | nil => cases h
  | cons c s ih =>
    rw [scan] at h
    split at h
    · next hslot =>
      rcases List.mem_cons.mp h with rfl | h
      · exact ⟨hslot.2, fun c hc => isDigit_of_mem_leadingDigits hc⟩
      · exact ih (List.mem_of_mem_drop h)
    · rcases List.mem_cons.mp h with rfl | h
      · trivial
      · exact ih h

lemma scan_append {digits : List Char} (h : ∀ c ∈ digits, Text.isDigit c) (s : List Char) :
    scan (digits ++ s) = digits.map char ++ scan s := by
  induction digits with
  | nil => rfl
  | cons c digits ih =>
    obtain ⟨hc, hdigits⟩ := List.forall_mem_cons.mp h
    have hdollar : c ≠ '$' := by
      rintro rfl
      exact absurd hc (by decide)
    rw [List.cons_append, scan, ih hdigits, List.map_cons, List.cons_append]
    exact if_neg fun h => hdollar h.1

/-- Segments are found again in their text if nothing behind them can be taken for a part of
them. -/
lemma scan_flatMap_text {segments : List Segment} (hfound : ∀ segment ∈ segments, segment.IsFound)
    (hclear : IsClear (segments.map char?)) : scan (segments.flatMap text) = segments := by
  induction segments with
  | nil => rfl
  | cons segment rest ih =>
    obtain ⟨hsegment, hrest⟩ := List.forall_mem_cons.mp hfound
    obtain ⟨hhead, htail⟩ := List.isChain_cons.mp hclear
    have hscan := ih hrest htail
    cases segment with
    | char c =>
      have hchar : ¬(c = '$' ∧ leadingDigits rest ≠ []) := by
        rintro ⟨rfl, hdigits⟩
        exact hdigits (leadingDigits_eq_nil.mpr fun a ha => hhead a ha (.inr rfl))
      rw [List.flatMap_cons, text, List.singleton_append, scan, hscan]
      exact if_neg hchar
    | slot digits =>
      obtain ⟨hne, hdigits⟩ := hsegment
      have hnone : leadingDigits rest = [] :=
        leadingDigits_eq_nil.mpr fun a ha => hhead a ha (.inl rfl)
      have hleading : leadingDigits (digits.map char ++ rest) = digits := by
        rw [leadingDigits_append hdigits, hnone, List.append_nil]
      have hdrop : (digits.map char ++ rest).drop digits.length = rest := by simp
      rw [List.flatMap_cons, text, List.cons_append, scan, scan_append hdigits, hscan, hleading]
      rw [if_pos ⟨rfl, hne⟩, hdrop]

end Segment

/-! ### Statements -/

/-- The numbered text as it was meant. -/
def Piece.segments : Piece → List Segment
  | text s => s.toList.map .char
  | slot n => [.slot (toString n).toList]

def Mark.char? : Mark → Option Char
  | char c => some c
  | parameter _ => none

/-- A rendering as a driver delivers it. -/
def Rendering.marks (r : Rendering) : List Mark :=
  r.flatMap fun
    | .text s => s.toList.map .char
    | .datum d => [.parameter (.ofDatum d)]

/-- The characters of a rendering and the places of its values. -/
def Rendering.symbols (r : Rendering) : List (Option Char) :=
  r.flatMap fun
    | .text s => s.toList.map some
    | .datum _ => [none]

lemma map_char?_marks (r : Rendering) : r.marks.map Mark.char? = r.symbols := by
  unfold Rendering.marks Rendering.symbols
  rw [List.map_flatMap]
  congr 1
  funext part
  cases part <;> simp [Mark.char?]

lemma map_char?_deliver {parameters : List (String × Parameter)} {segments : List Segment}
    {marks : List Mark} (h : segments.mapM (Segment.deliver parameters) = some marks) :
    marks.map Mark.char? = segments.map Segment.char? := by
  induction segments generalizing marks with
  | nil => simp_all
  | cons segment rest ih =>
    simp only [List.mapM_cons, Option.bind_eq_bind, Option.bind_eq_some_iff] at h
    obtain ⟨mark, hmark, others, hothers, h⟩ := h
    cases h
    have hchar : mark.char? = segment.char? := by
      cases segment with
      | char c =>
        cases hmark
        rfl
      | slot digits =>
        obtain ⟨p, -, rfl⟩ := Option.map_eq_some_iff.mp hmark
        rfl
    rw [List.map_cons, List.map_cons, hchar, ih hothers]

lemma isDigit_of_isDigit {c : Char} (h : c.isDigit) : Text.isDigit c := by
  have hrange : 0x30 ≤ c.toNat ∧ c.toNat < 0x30 + 10 := by
    simp only [Char.isDigit, Bool.and_eq_true, decide_eq_true_eq] at h
    exact ⟨h.1, Nat.lt_succ_of_le h.2⟩
  simp [Text.isDigit, Text.digit?, Text.digitZeros, hrange]

lemma isFound_of_mem_segments {s : Sql} {segment : Segment}
    (h : segment ∈ s.flatMap Piece.segments) : segment.IsFound := by
  obtain ⟨piece, -, h⟩ := List.mem_flatMap.mp h
  cases piece with
  | text t =>
    obtain ⟨c, -, rfl⟩ := List.mem_map.mp h
    trivial
  | slot n =>
    rw [List.mem_singleton.mp h]
    have hdigits : (toString n).toList = Nat.toDigits 10 n := Nat.toList_repr
    rw [Segment.IsFound, hdigits]
    refine ⟨Nat.toDigits_ne_nil, fun c hc => ?_⟩
    exact isDigit_of_isDigit (Nat.isDigit_of_mem_toDigits (by decide) (by decide) hc)

lemma flatMap_text_segments (s : Sql) :
    (s.flatMap Piece.segments).flatMap Segment.text = s.written.toList := by
  induction s with
  | nil => rfl
  | cons piece rest ih =>
    rw [List.flatMap_cons, List.flatMap_append, ih]
    cases piece <;> simp [Piece.segments, Segment.text, Sql.written, Piece.written,
      List.flatMap_map]

lemma lookup_namedParameters (values : List Datum) (k : Nat) :
    (namedParameters values).lookup ("p" ++ toString (k + 1)) =
      values[k]?.map Parameter.ofDatum := by
  -- the parameters are numbered from wherever the list begins
  suffices h : ∀ n, ((values.zipIdx n).map fun e =>
      ("p" ++ toString (e.2 + 1), Parameter.ofDatum e.1)).lookup ("p" ++ toString (n + k + 1)) =
        values[k]?.map Parameter.ofDatum by
    have hstart := h 0
    rwa [Nat.zero_add] at hstart
  intro n
  induction values generalizing n k with
  | nil => rfl
  | cons d rest ih =>
    rw [List.zipIdx_cons, List.map_cons]
    cases k with
    | zero => simp
    | succ k =>
      have hne : ("p" ++ toString (n + (k + 1) + 1) == "p" ++ toString (n + 1)) = false := by
        apply beq_false_of_ne
        intro h
        have hnumber := Nat.repr_injective ((String.append_right_inj "p").mp h)
        omega
      have hrest := ih k (n + 1)
      rw [show n + 1 + k + 1 = n + (k + 1) + 1 by omega] at hrest
      rw [List.lookup_cons, hne]
      simpa using hrest

lemma map_char?_segments (n : Nat) (r : Rendering) :
    ((numbered n r).flatMap Piece.segments).map Segment.char? = r.symbols := by
  induction r generalizing n with
  | nil => rfl
  | cons part rest ih =>
    rw [numbered_cons, List.flatMap_cons, List.map_append, ih]
    cases part <;> simp [Piece.segments, Segment.char?, Rendering.symbols]

/-- Every slot of a numbered rendering is given its own value. -/
lemma deliver_numbered (before after : List Datum) (r : Rendering) :
    ((numbered before.length r).flatMap Piece.segments).mapM
        (Segment.deliver (namedParameters (before ++ data r ++ after))) = some r.marks := by
  induction r generalizing before with
  | nil => rfl
  | cons part rest ih =>
    cases part with
    | text s =>
      have hrest := ih before
      have htext (parameters : List (String × Parameter)) :
          (s.toList.map Segment.char).mapM (Segment.deliver parameters) =
            some (s.toList.map .char) := by
        induction s.toList <;> simp_all [Segment.deliver]
      simp_all [Piece.segments, Rendering.marks]
    | datum d =>
      have hrest := ih (before ++ [d])
      have hslot : Segment.deliver (namedParameters (before ++ d :: (data rest ++ after)))
          (.slot (toString (before.length + 1)).toList) = some (.parameter (.ofDatum d)) := by
        rw [Segment.deliver, String.ofList_toList, lookup_namedParameters]
        simp
      simp_all [Piece.segments, Rendering.marks]

/-- A text is received with the parameters in the place of whatever looks like a slot. -/
lemma received_ofText {values : List Datum} (h : values ≠ []) (text : String) :
    (NamedStatement.ofText text values).received =
      (Segment.scan text.toList).mapM (Segment.deliver (namedParameters values)) := by
  have hparenthesis : ∀ digits, .slot digits ∈ Segment.scan text.toList → ')' ∉ digits := by
    intro digits hslot hmem
    exact absurd ((Segment.isFound_of_mem_scan hslot).2 _ hmem) (by decide)
  rw [← receive_named hparenthesis]
  cases values with
  | nil => contradiction
  | cons d rest => simp [NamedStatement.ofText, NamedStatement.received]

lemma marks_of_data_eq_nil {r : Rendering} (h : data r = []) :
    r.marks = (Sql.written (numbered 0 r)).toList.map .char := by
  induction r with
  | nil => rfl
  | cons part rest ih =>
    cases part with
    | text s =>
      have hrest := ih h
      simp_all [Rendering.marks, Sql.written, Piece.written]
    | datum d => cases h

/-- A numbered rendering is received as it was meant exactly if none of its slots runs into a digit
and none of its characters is taken for a part of a slot. -/
lemma received_numbered_iff {r : Rendering} (h : data r ≠ []) :
    (Statement.mk (numbered 0 r) (data r)).named.received = some r.marks ↔ IsClear r.symbols := by
  have hreceived := received_ofText h (Sql.written (numbered 0 r))
  unfold Statement.named Statement.text
  dsimp only
  rw [hreceived]
  constructor
  · intro hmarks
    have hsymbols := map_char?_deliver hmarks
    rw [map_char?_marks] at hsymbols
    rw [hsymbols]
    exact Segment.isClear_scan _
  · intro hclear
    rw [← map_char?_segments 0 r] at hclear
    have hscan := Segment.scan_flatMap_text (fun _ => isFound_of_mem_segments) hclear
    rw [flatMap_text_segments] at hscan
    rw [hscan]
    simpa using deliver_numbered [] [] r

end TableGateway.Query

namespace TableGateway

open Query

/-- The database receives the SQL of a query, with every value in the place of its slot, exactly if
there are no values or no digit of the SQL stands directly behind a value or a dollar sign. -/
theorem Query.received_iff (q : Query) (s : Statement) (h : q.statement = .ok s) :
    ∃ r, q.inline = .ok r ∧ s.sql.filled s.values = some r ∧
      (s.named.received = some r.marks ↔ s.values = [] ∨ IsClear r.symbols) := by
  obtain ⟨r, hr, rfl⟩ := q.exists_inline_of_statement h
  have hfilled := filled_numbered [] [] r
  refine ⟨r, hr, by simpa using hfilled, ?_⟩
  by_cases hdata : data r = []
  · rw [marks_of_data_eq_nil hdata]
    simp [hdata, Statement.named, NamedStatement.ofText, NamedStatement.received, Statement.text]
  · rw [received_numbered_iff hdata]
    simp [hdata]

theorem Query.received_percent :
    let q : Query := .delete {
      source := "t"
      conditions := [.raw ⟨.string "a LIKE '5%$' || ? || '$%'", some (.int 5)⟩] }
    let s : Statement := {
      sql := [.text "DELETE FROM t", .text " WHERE ", .text "(", .text "a LIKE '5%$' || ", .slot 1,
        .text " || '$%'", .text ")"]
      values := [.value (.int 5)] }
    q.statement = .ok s ∧
      s.named.text = "DELETE FROM t WHERE (a LIKE '5%%$' || %(p1)s || '$%%')" ∧
      ∃ r, q.inline = .ok r ∧ s.sql.filled s.values = some r ∧
        (s.named.received = some r.marks ↔ s.values = [] ∨ IsClear r.symbols) := by
  intro q s
  have h : q.statement = .ok s := by cbv
  exact ⟨h, by cbv, q.received_iff s h⟩

/-- A literal that looks like a slot is given a value, and a digit behind a marker changes the name
of the parameter. -/
theorem Query.received_misread :
    let literal : Query := .delete {
      source := "t"
      conditions := [.raw ⟨.string "a = '$1'", none⟩, .term ⟨"b", .int 2, "="⟩] }
    let marker : Query := .delete {
      source := "t"
      conditions := [.raw ⟨.string "a = ?5", some (.int 2)⟩] }
    (∃ s r, literal.statement = .ok s ∧ s.values = [.value (.int 2)] ∧
      s.sql.filled s.values = some r ∧
      s.named.text = "DELETE FROM t WHERE (a = '%(p1)s') AND (t.b = %(p1)s)" ∧
      s.named.received ≠ some r.marks) ∧
    ∃ s r, marker.statement = .ok s ∧ s.values = [.value (.int 2)] ∧
      s.sql.filled s.values = some r ∧ s.named.text = "DELETE FROM t WHERE (a = %(p15)s)" ∧
      s.named.received = none := by
  intro literal marker
  constructor
  · let s : Statement := {
      sql := [.text "DELETE FROM t", .text " WHERE ", .text "(", .text "a = '$1'", .text ")",
        .text " AND ", .text "(", .text "t.b = ", .slot 1, .text ")"]
      values := [.value (.int 2)] }
    let r : Rendering := [.text "DELETE FROM t", .text " WHERE ", .text "(", .text "a = '$1'",
      .text ")", .text " AND ", .text "(", .text "t.b = ", .datum (.value (.int 2)), .text ")"]
    have hsymbols : s.named.received.map (·.map Mark.char?) ≠ some r.symbols := by decide
    refine ⟨s, r, by cbv, rfl, by cbv, by cbv, fun h => hsymbols ?_⟩
    rw [h, Option.map_some, map_char?_marks]
  · let s : Statement := {
      sql := [.text "DELETE FROM t", .text " WHERE ", .text "(", .text "a = ", .slot 1, .text "5",
        .text ")"]
      values := [.value (.int 2)] }
    let r : Rendering := [.text "DELETE FROM t", .text " WHERE ", .text "(", .text "a = ",
      .datum (.value (.int 2)), .text "5", .text ")"]
    exact ⟨s, r, by cbv, rfl, by cbv, by cbv, by cbv⟩

end TableGateway
