import Mathlib
import TableGateway.Proofs.Delivery

/-!
# What a driver finds in a text

A driver finds characters and names of parameters in the text of a statement. It accepts whatever a
numbered text has become. Where a dollar sign stands before digits it finds the name made of all
these digits, and everything else, percent signs included, it finds as it was.
-/

namespace TableGateway.Query

/-- What a driver finds in a text: a character, or the name of a parameter. -/
inductive Finding where
  | char (c : Char)
  | parameter (name : String)
deriving Repr, DecidableEq

namespace Finding

/-- What a driver finds in a text, unless it meets a percent sign that is neither doubled nor the
beginning of a name. -/
def read : Reading → List Char → Option (List Finding)
  | .text, [] => some []
  | .text, c :: s =>
    if c = '%' then read .percent s else (read .text s).map (.char c :: ·)
  | .percent, c :: s =>
    if c = '%' then (read .text s).map (.char '%' :: ·)
    else if c = '(' then read (.name []) s
    else none
  | .name begun, c :: s =>
    if c = ')' then read (.conversion begun) s else read (.name (begun ++ [c])) s
  | .conversion name, c :: s =>
    if c = 's' then (read .text s).map (.parameter (String.ofList name) :: ·) else none
  | _, [] => none

/-- A character as it is, and the parameter of a name. -/
def received (parameters : List (String × Parameter)) : Finding → Option Mark
  | char c => some (.char c)
  | parameter name => (parameters.lookup name).map .parameter

/-- How a driver wants a finding to be written, with percent signs doubled already. -/
def written : Finding → List Char
  | char c => [c]
  | parameter name => "%(".toList ++ name.toList ++ ")s".toList

/-- What is to be found of a numbered text: a name for each dollar sign together with all the digits
behind it, if there are any, and every other character. -/
def ofNumbered : List Char → List Finding
  | [] => []
  | c :: s =>
    if c = '$' ∧ s.takeWhile Text.isDigit ≠ [] then
      .parameter ("p" ++ String.ofList (s.takeWhile Text.isDigit)) ::
        ofNumbered (s.dropWhile Text.isDigit)
    else .char c :: ofNumbered s
termination_by s => s.length
decreasing_by
  · exact Nat.lt_succ_of_le (List.length_dropWhile_le _ _)
  · exact Nat.lt_succ_self _

end Finding

/-- A driver receives what it finds. -/
lemma receive_eq (parameters : List (String × Parameter)) (reading : Reading) (s : List Char) :
    receive parameters reading s =
      (Finding.read reading s).bind fun found => found.mapM (Finding.received parameters) := by
  induction s generalizing reading with
  | nil => cases reading <;> rfl
  | cons c s ih =>
    cases reading with
    | text =>
      by_cases hc : c = '%'
      · simp [receive, Finding.read, hc, ih]
      · simp [receive, Finding.read, Finding.received, hc, ih, Option.map_eq_bind,
          Option.bind_assoc]
    | percent =>
      by_cases hc : c = '%'
      · simp [receive, Finding.read, Finding.received, hc, ih, Option.map_eq_bind,
          Option.bind_assoc]
      · by_cases hname : c = '('
        · simp [receive, Finding.read, hname, ih]
        · simp [receive, Finding.read, hc, hname]
    | name begun =>
      by_cases hc : c = ')'
      · simp [receive, Finding.read, hc, ih]
      · simp [receive, Finding.read, hc, ih]
    | conversion name =>
      by_cases hc : c = 's'
      · -- the name is looked up before the rest is read, or after it
        have hrest := ih .text
        cases hp : parameters.lookup (String.ofList name) <;> cases hs : Finding.read .text s <;>
          simp [receive, Finding.read, Finding.received, hc, hp, hs, hrest, Option.map_eq_bind]
      · simp [receive, Finding.read, hc]

namespace Segment

/-- What a driver is to find of a segment. -/
def finding : Segment → Finding
  | char c => .char c
  | slot digits => .parameter ("p" ++ String.ofList digits)

lemma leadingDigits_scan (s : List Char) :
    leadingDigits (scan s) = s.takeWhile Text.isDigit := by
  induction s with
  | nil => rfl
  | cons c s ih =>
    rw [scan]
    split
    · next hslot =>
      have hdollar : Text.isDigit c = false := by
        rw [hslot.1]
        decide
      rw [List.takeWhile_cons_of_neg (by simp [hdollar])]
      rfl
    · rw [leadingDigits, List.takeWhile_cons, ih]

/-- A slot takes all the digits behind its dollar sign. -/
lemma scan_cons (c : Char) (s : List Char) :
    scan (c :: s) =
      if c = '$' ∧ s.takeWhile Text.isDigit ≠ [] then
        slot (s.takeWhile Text.isDigit) :: scan (s.dropWhile Text.isDigit)
      else char c :: scan s := by
  have hsplit : scan s =
      (s.takeWhile Text.isDigit).map char ++ scan (s.dropWhile Text.isDigit) := by
    rw [← scan_append fun c hc => List.mem_takeWhile_imp hc, List.takeWhile_append_dropWhile]
  have hdrop : (scan s).drop (s.takeWhile Text.isDigit).length =
      scan (s.dropWhile Text.isDigit) := by
    rw [hsplit]
    simp
  rw [scan, leadingDigits_scan, hdrop]

lemma map_finding_scan (s : List Char) : (scan s).map finding = Finding.ofNumbered s := by
  fun_induction Finding.ofNumbered s with
  | case1 => rfl
  | case2 c s hslot ih => rw [scan_cons, if_pos hslot, List.map_cons, ih, finding]
  | case3 c s hchar ih => rw [scan_cons, if_neg hchar, List.map_cons, ih, finding]

end Segment

lemma read_name {name : List Char} (h : ')' ∉ name) (begun s : List Char) :
    Finding.read (.name begun) (name ++ ')' :: 's' :: s) =
      (Finding.read .text s).map (.parameter (String.ofList (begun ++ name)) :: ·) := by
  induction name generalizing begun with
  | nil => simp [Finding.read]
  | cons c name ih =>
    rw [List.mem_cons, not_or] at h
    obtain ⟨hc, hname⟩ := h
    have hrest := ih hname (begun ++ [c])
    rw [List.append_assoc, List.singleton_append] at hrest
    rw [List.cons_append, Finding.read, if_neg (Ne.symm hc), hrest]

/-- A driver finds every segment again. -/
lemma read_named {segments : List Segment}
    (h : ∀ digits, .slot digits ∈ segments → ')' ∉ digits) :
    Finding.read .text (segments.flatMap Segment.named) = some (segments.map Segment.finding) := by
  induction segments with
  | nil => rfl
  | cons segment rest ih =>
    have hrest := ih fun digits hdigits => h digits (List.mem_cons_of_mem _ hdigits)
    rw [List.flatMap_cons, List.map_cons]
    cases segment with
    | char c =>
      by_cases hc : c = '%'
      · simp [Segment.named, Segment.finding, Finding.read, hc, hrest]
      · simp [Segment.named, Segment.finding, Finding.read, hc, hrest]
    | slot digits =>
      have hname := read_name (h digits List.mem_cons_self) ['p'] (rest.flatMap Segment.named)
      simp [Segment.named, Segment.finding, Finding.read, hname, hrest]

/-! ### Doubling the percent signs first -/

/-- A text with every percent sign doubled. -/
def doubledPercents : List Char → List Char
  | [] => []
  | c :: s =>
    if c = '%' then '%' :: '%' :: doubledPercents s else c :: doubledPercents s

lemma takeWhile_doubledPercents (s : List Char) :
    (doubledPercents s).takeWhile Text.isDigit = s.takeWhile Text.isDigit := by
  have hpercent : Text.isDigit '%' = false := by decide
  induction s with
  | nil => rfl
  | cons c s ih =>
    by_cases hc : c = '%'
    · simp [doubledPercents, hc, hpercent]
    · rw [doubledPercents, if_neg hc, List.takeWhile_cons, List.takeWhile_cons, ih]

lemma dropWhile_doubledPercents (s : List Char) :
    (doubledPercents s).dropWhile Text.isDigit = doubledPercents (s.dropWhile Text.isDigit) := by
  have hpercent : Text.isDigit '%' = false := by decide
  induction s with
  | nil => rfl
  | cons c s ih =>
    by_cases hc : c = '%'
    · simp [doubledPercents, hc, hpercent]
    · rw [doubledPercents, if_neg hc, List.dropWhile_cons, List.dropWhile_cons, ih]
      split
      · rfl
      · rw [doubledPercents, if_neg hc]

/-- The slots can be looked for when the percent signs are doubled already. -/
lemma flatMap_named_scan (s : List Char) :
    (Segment.scan s).flatMap Segment.named =
      (Finding.ofNumbered (doubledPercents s)).flatMap Finding.written := by
  fun_induction Finding.ofNumbered s with
  | case1 => simp [doubledPercents, Finding.ofNumbered, Segment.scan]
  | case2 c s hslot ih =>
    have hdollar : c ≠ '%' := by
      rintro rfl
      exact absurd hslot.1 (by decide)
    rw [Segment.scan_cons, if_pos hslot, doubledPercents, if_neg hdollar, Finding.ofNumbered,
      takeWhile_doubledPercents, if_pos hslot, dropWhile_doubledPercents, List.flatMap_cons,
      List.flatMap_cons, ih]
    simp [Segment.named, Finding.written]
  | case3 c s hchar ih =>
    rw [Segment.scan_cons, if_neg hchar, List.flatMap_cons, ih]
    by_cases hc : c = '%'
    · simp [doubledPercents, hc, Finding.ofNumbered, Segment.named, Finding.written]
    · rw [doubledPercents, if_neg hc, Finding.ofNumbered, takeWhile_doubledPercents,
        if_neg hchar, List.flatMap_cons]
      simp [Segment.named, Finding.written, hc]

/-! ### Texts with values -/

/-- With values, the parameters of a numbered text are `p1`, `p2` and so on. Its percent signs are
doubled, its slots are named, and a driver finds a parameter for every dollar sign with the digits
behind it and all other characters as they were; it receives what these parameters stand for, unless
one of them is not there. -/
theorem found_ofText (text : String) (values : List Datum) (h : values ≠ []) :
    ∃ parameters,
      NamedStatement.ofText text values =
        ⟨String.ofList ((Finding.ofNumbered (doubledPercents text.toList)).flatMap Finding.written),
          some parameters⟩ ∧
      parameters.map Prod.fst = (List.range values.length).map (fun k => "p" ++ toString (k + 1)) ∧
      (∀ k, parameters.lookup ("p" ++ toString (k + 1)) = values[k]?.map Parameter.ofDatum) ∧
      Finding.read .text (NamedStatement.ofText text values).text.toList =
        some (Finding.ofNumbered text.toList) ∧
      (NamedStatement.ofText text values).received =
        (Finding.ofNumbered text.toList).mapM (Finding.received parameters) := by
  have hsent : NamedStatement.ofText text values =
      ⟨String.ofList ((Segment.scan text.toList).flatMap Segment.named),
        some (namedParameters values)⟩ := by
    cases values with
    | nil => contradiction
    | cons d rest => rfl
  have hparenthesis : ∀ digits, .slot digits ∈ Segment.scan text.toList → ')' ∉ digits := by
    intro digits hslot hmem
    exact absurd ((Segment.isFound_of_mem_scan hslot).2 _ hmem) (by decide)
  have hread : Finding.read .text (NamedStatement.ofText text values).text.toList =
      some (Finding.ofNumbered text.toList) := by
    rw [hsent, String.toList_ofList, read_named hparenthesis, Segment.map_finding_scan]
  refine ⟨namedParameters values, ?_, ?_, lookup_namedParameters values, hread, ?_⟩
  · rw [hsent, flatMap_named_scan]
  · have hnumbers : values.zipIdx.map Prod.snd = List.range values.length := by
      rw [List.zipIdx_map_snd, List.range_eq_range']
    rw [namedParameters, List.map_map, ← hnumbers, List.map_map]
    rfl
  · have hreceived : (NamedStatement.ofText text values).received =
        receive (namedParameters values) .text (NamedStatement.ofText text values).text.toList := by
      rw [hsent]
      rfl
    rw [hreceived, receive_eq, hread]
    rfl

/-- A slot between percent signs, a text that looks like a name, and a slot without a value. -/
theorem found_ofText_percents :
    let values : List Datum := [.value (.int 7)]
    let s := NamedStatement.ofText "%$1%(p1)s$12" values
    values ≠ [] ∧ s.text = "%%%(p1)s%%(p1)s%(p12)s" ∧
      Finding.read .text s.text.toList =
        some [.char '%', .parameter "p1", .char '%', .char '(', .char 'p', .char '1', .char ')',
          .char 's', .parameter "p12"] ∧
      s.received = none := by
  intro values s
  have hvalues : values ≠ [] := List.cons_ne_nil _ _
  obtain ⟨parameters, -, -, -, hread, -⟩ := found_ofText "%$1%(p1)s$12" values hvalues
  refine ⟨hvalues, ?_, ?_, ?_⟩
  · cbv
  · rw [hread]
    cbv
  · cbv

end TableGateway.Query
