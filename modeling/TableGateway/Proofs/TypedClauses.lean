import Mathlib
import TableGateway.Proofs.Numbering

/-!
# Clauses of the right types

The clauses that bind no values fail only on what is not of the right type, apart from pages that
are no pages and bounds of too many digits. A message cannot be written either if it shows an integer
of too many digits.
-/

namespace TableGateway.Query

/-- An error that is reported as an invalid query. -/
def Error.IsForeseen (e : Error) : Prop :=
  ∃ message, e.failure = .foreseen { area := .query, message := message }

/-! ### Integers in messages -/

lemma lengthError?_eq_none_iff {n : Int} :
    lengthError? n = none ↔ n.natAbs < 10 ^ longestInteger := by
  have hlength : (toString n.natAbs).length = (Nat.toDigits 10 n.natAbs).length :=
    String.length_ofList
  unfold lengthError?
  dsimp only
  rw [hlength, ite_eq_right_iff, ← Nat.length_toDigits_le_iff (by decide) (by decide), ← not_lt]
  simp

lemma lengthError?_eq_some {n : Int} {e : IntegerError} (h : lengthError? n = some e) :
    ∃ digits, e = .tooLong digits := by
  unfold lengthError? at h
  dsimp only at h
  split at h
  · cases h
    exact ⟨_, rfl⟩
  · cases h

/-- An error that the program documents. Whether it is foreseen depends on its message, too. -/
def Error.IsDocumented : Error → Prop
  | pageBounds _ | emptyJoinPath | data _ => False
  | _ => True

namespace Error.IsDocumented

variable {e : Error}

lemma failure_eq (h : e.IsDocumented) :
    e.failure = match e.integers.findSome? lengthError? with
      | some cause => .unexpected cause.fault
      | none => .foreseen { area := .query, message := e.message } := by
  cases e <;> first | rfl | cases h

/-- A documented error is foreseen if the integers in its message can be written. -/
lemma isForeseen_iff (h : e.IsDocumented) :
    e.IsForeseen ↔ ∀ n ∈ e.integers, n.natAbs < 10 ^ longestInteger := by
  simp only [IsForeseen, h.failure_eq, ← lengthError?_eq_none_iff,
    ← List.findSome?_eq_none_iff]
  cases e.integers.findSome? lengthError? <;> simp

lemma failure_of_not_isForeseen (h : e.IsDocumented) (hlong : ¬e.IsForeseen) :
    ∃ digits, e.failure = .unexpected (IntegerError.tooLong digits).fault := by
  unfold IsForeseen at hlong
  rw [h.failure_eq] at hlong ⊢
  cases hfound : e.integers.findSome? lengthError? with
  | none =>
    rw [hfound] at hlong
    exact absurd ⟨_, rfl⟩ hlong
  | some cause =>
    obtain ⟨n, -, hn⟩ := List.exists_of_findSome?_eq_some hfound
    obtain ⟨digits, rfl⟩ := lengthError?_eq_some hn
    exact ⟨digits, rfl⟩

end Error.IsDocumented

/-! ### Clauses -/

/-- Whether a value is a list of names. -/
def IsNames (v : Value) : Prop :=
  ∃ names : List String, v = .array (names.map .string)

lemma mapM_asText (names : List String) :
    (names.map Value.string).mapM Value.asText = .ok names := by
  induction names with
  | nil => rfl
  | cons name rest ih =>
    rw [List.map_cons, List.mapM_cons, ih]
    rfl

lemma areTexts_map_string (names : List String) : Value.areTexts (names.map .string) = .ok () := by
  induction names with
  | nil => rfl
  | cons name rest ih => exact ih

lemma named_of_isNames {j : Join} (h : IsNames j.path) :
    j.path.inOrder = .ok () ∧ ∃ p, j.named = .ok p := by
  obtain ⟨names, hnames⟩ := h
  have hmapM := mapM_asText names
  unfold Join.named
  rw [hnames]
  refine ⟨rfl, ?_⟩
  change ∃ p, ((names.map Value.string).mapM Value.asText >>= _) = Except.ok p
  rw [hmapM]
  exact ⟨_, rfl⟩

lemma placeInRow_of_isNames {j : Join} (h : IsNames j.path) : ∃ p, j.placeInRow = .ok p := by
  obtain ⟨horder, p, hp⟩ := named_of_isNames h
  refine ⟨p, ?_⟩
  unfold Join.placeInRow
  rw [hp, horder]
  rfl

lemma place_of_isNames {j : Join} (h : IsNames j.path) : ∃ p, j.place = .ok p := by
  obtain ⟨horder, p, hp⟩ := named_of_isNames h
  refine ⟨p, ?_⟩
  unfold Join.place
  rw [hp, horder]
  change (if p.path.length > 1 then _ else _) = _
  split <;> rfl

lemma returningClause_of_isNames {columns : Value} (h : IsNames columns) :
    ∃ s, returningClause columns = .ok s := by
  obtain ⟨names, rfl⟩ := h
  have hmapM := mapM_asText names
  unfold returningClause
  split
  · change ∃ s, (Except.mapError _ ((names.map Value.string).mapM Value.asText) >>= _) = Except.ok s
    rw [hmapM]
    exact ⟨_, rfl⟩
  · exact ⟨_, rfl⟩

lemma placeJoins_of_isNames {joins : List Join} (h : ∀ j ∈ joins, IsNames j.path) :
    ∃ placed, placeJoins joins = .ok placed := by
  obtain ⟨placed, hplaced⟩ := exists_mapM_eq_ok fun j hj => place_of_isNames (h j hj)
  unfold placeJoins
  rw [hplaced]
  exact ⟨placed, rfl⟩

lemma orderClause_of_texts {order : List Order}
    (h : ∀ o ∈ order, ∃ direction, o.direction = .string direction) :
    ∃ s, orderClause order = .ok s := by
  have htext : ∀ o ∈ order, ∃ text, o.text = .ok text := by
    intro o ho
    obtain ⟨direction, hdirection⟩ := h o ho
    unfold Order.text Order.isAscending
    rw [hdirection]
    exact ⟨_, rfl⟩
  obtain ⟨texts, htexts⟩ := exists_mapM_eq_ok htext
  unfold orderClause
  split
  · exact ⟨_, rfl⟩
  · rw [htexts]
    exact ⟨_, rfl⟩

lemma integerText_error {n : Int} {e : IntegerError} (h : integerText n = .error e) :
    ∃ digits, e = .tooLong digits := by
  unfold integerText at h
  split at h
  · next hlong =>
    cases h
    exact lengthError?_eq_some hlong
  · cases h

lemma Page.read_whole (size number : Int) :
    (Page.mk (.int size) (.int number)).read =
      if number < 1 ∨ size < 0 then .error (.invalidPage (.int size) (.int number))
      else .ok (.whole size, .whole number) := by
  unfold Page.read
  change (if (Number.whole number).isBelow 1 then _ else _) = _
  by_cases hnumber : number < 1
  · rw [if_pos (by simpa [Number.isBelow] using hnumber), if_pos (.inl hnumber)]
    rfl
  · rw [if_neg (by simpa [Number.isBelow] using hnumber)]
    change (if (Number.whole size).isBelow 0 then _ else _) = _
    by_cases hsize : size < 0
    · rw [if_pos (by simpa [Number.isBelow] using hsize), if_pos (.inr hsize)]
      rfl
    · rw [if_neg (by simpa [Number.isBelow] using hsize), if_neg (by simp [hnumber, hsize])]
      rfl

lemma pageBounds_whole (size number : Int) :
    pageBounds (.whole size) (.whole number) = (do
      let limit ← integerText size
      let offset ← integerText (size * (number - 1))
      return (limit, offset)) := by
  unfold pageBounds
  simp only [Number.truncate, Number.pred, Number.mul, ok_bind]

lemma pageBounds_whole_error {size number : Int} {e : IntegerError}
    (h : pageBounds (.whole size) (.whole number) = .error e) : ∃ digits, e = .tooLong digits := by
  rw [pageBounds_whole] at h
  rcases of_bind_eq_error h with hlimit | ⟨limit, -, h⟩
  · exact integerText_error hlimit
  · rcases of_bind_eq_error h with hoffset | ⟨offset, -, h⟩
    · exact integerText_error hoffset
    · cases h

lemma pageClause_whole_error {size number : Int} {e : Error}
    (h : pageClause (some ⟨.int size, .int number⟩) = .error e) :
    e = .invalidPage (.int size) (.int number) ∨ ∃ digits, e = .pageBounds (.tooLong digits) := by
  unfold pageClause at h
  dsimp only at h
  rw [Page.read_whole] at h
  split at h
  · cases h
    exact .inl rfl
  · change ((pageBounds _ _).mapError _ >>= _) = _ at h
    cases hbounds : pageBounds (.whole size) (.whole number) with
    | error cause =>
      rw [hbounds] at h
      cases h
      obtain ⟨digits, rfl⟩ := pageBounds_whole_error hbounds
      exact .inr ⟨digits, rfl⟩
    | ok bounds =>
      rw [hbounds] at h
      cases h

end TableGateway.Query
