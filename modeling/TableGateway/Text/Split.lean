/-!
# Splitting at a character

`splitAt sep s` is the list of stretches of `s` between the occurrences of `sep`: one more stretch
than there are separators, none of which holds one. With the separators put back between them the
stretches are the text again.
-/

namespace TableGateway.Text

/-- The stretches of text before, between and after the occurrences of a separator. -/
def splitAt (sep : Char) : List Char → List (List Char)
  | [] => [[]]
  | c :: s =>
    if c = sep then
      [] :: splitAt sep s
    else
      match splitAt sep s with
      | [] => [[c]]
      | stretch :: rest => (c :: stretch) :: rest

theorem splitAt_ne_nil (sep : Char) (s : List Char) : splitAt sep s ≠ [] := by
  cases s with
  | nil => simp [splitAt]
  | cons c s =>
    rw [splitAt]
    split
    · simp
    · split <;> simp

/-- There is one stretch more than there are separators. -/
theorem length_splitAt (sep : Char) (s : List Char) :
    (splitAt sep s).length = s.count sep + 1 := by
  induction s with
  | nil => rfl
  | cons c s ih =>
    rw [splitAt]
    split
    · next h => simp [h, ih]
    · next h =>
      rw [List.count_cons_of_ne h, ← ih]
      split
      · next hs => exact absurd hs (splitAt_ne_nil sep s)
      · next hs => simp [hs]

/-- A separator ends one stretch and begins the next. -/
theorem splitAt_append_sep (sep : Char) (s t : List Char) :
    splitAt sep (s ++ sep :: t) = splitAt sep s ++ splitAt sep t := by
  induction s with
  | nil => simp [splitAt]
  | cons c s ih =>
    rw [List.cons_append, splitAt, splitAt, ih]
    split
    · rfl
    · cases hs : splitAt sep s with
      | nil => exact absurd hs (splitAt_ne_nil sep s)
      | cons => rfl

theorem splitAt_of_not_mem {sep : Char} {s : List Char} (h : sep ∉ s) : splitAt sep s = [s] := by
  induction s with
  | nil => rfl
  | cons c s ih =>
    rw [List.mem_cons, not_or] at h
    rw [splitAt, if_neg (Ne.symm h.1), ih h.2]

/-- No stretch holds the separator. -/
theorem not_mem_of_mem_splitAt {sep : Char} {s stretch : List Char}
    (h : stretch ∈ splitAt sep s) : sep ∉ stretch := by
  induction s generalizing stretch with
  | nil => simp_all [splitAt]
  | cons c s ih =>
    rw [splitAt] at h
    split at h
    · next =>
      rcases List.mem_cons.1 h with rfl | h
      · simp
      · exact ih h
    · next hc =>
      cases hs : splitAt sep s with
      | nil => exact absurd hs (splitAt_ne_nil sep s)
      | cons first rest =>
        rw [hs] at h
        rcases List.mem_cons.1 h with rfl | h
        · rw [List.mem_cons, not_or]
          exact ⟨Ne.symm hc, ih (hs ▸ List.mem_cons_self)⟩
        · exact ih (hs ▸ List.mem_cons_of_mem _ h)

/-- Nothing but the separators is lost. -/
theorem intercalate_splitAt (sep : Char) (s : List Char) :
    List.intercalate [sep] (splitAt sep s) = s := by
  induction s with
  | nil => rfl
  | cons c s ih =>
    rw [splitAt]
    cases hs : splitAt sep s with
    | nil => exact absurd hs (splitAt_ne_nil sep s)
    | cons first rest =>
      rw [hs] at ih
      split
      · next h => rw [List.intercalate_cons_cons, ih, h]; rfl
      · cases rest with
        | nil => simp_all [List.intercalate_singleton]
        | cons => simp_all [List.intercalate_cons_cons]

/-- Stretches without separators are found again in the text that they are joined to. -/
theorem splitAt_intercalate {sep : Char} {stretches : List (List Char)} (hne : stretches ≠ [])
    (h : ∀ stretch ∈ stretches, sep ∉ stretch) :
    splitAt sep (List.intercalate [sep] stretches) = stretches := by
  induction stretches with
  | nil => exact absurd rfl hne
  | cons first rest ih =>
    have hfirst : splitAt sep first = [first] := splitAt_of_not_mem (h first List.mem_cons_self)
    cases rest with
    | nil => rw [List.intercalate_singleton, hfirst]
    | cons second rest =>
      have hrest := ih (List.cons_ne_nil second rest) fun s hs =>
        h s (List.mem_cons_of_mem first hs)
      calc splitAt sep (List.intercalate [sep] (first :: second :: rest))
          = splitAt sep (first ++ sep :: List.intercalate [sep] (second :: rest)) := by
            rw [List.intercalate_cons_cons, List.append_assoc]; rfl
        _ = [first] ++ second :: rest := by rw [splitAt_append_sep, hfirst, hrest]

end TableGateway.Text
