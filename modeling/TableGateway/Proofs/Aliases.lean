import Mathlib
import TableGateway.Query.Alias
import TableGateway.Text.Split

/-!
# Paths and aliases

Where no segment contains a slash, different paths have different aliases. Segments may hold
quotes: in a quoted identifier these are doubled, and what was doubled can be told apart again.
Whatever the segments hold, the alias of a path with several of them is one quoted identifier, which
no text behind it makes longer unless that begins with a quote.
-/

namespace TableGateway.Query

/-! ### Quoted identifiers -/

/-- What stands between the quotes of an identifier, and its content: a quote is written twice and
any other character once. -/
inductive IsBetweenQuotes : List Char → List Char → Prop where
  | nil : IsBetweenQuotes [] []
  | quote {inner content} : IsBetweenQuotes inner content →
      IsBetweenQuotes ('"' :: '"' :: inner) ('"' :: content)
  | char {c inner content} : c ≠ '"' → IsBetweenQuotes inner content →
      IsBetweenQuotes (c :: inner) (c :: content)

/-- A text is a quoted identifier with the given content. -/
def IsQuotedIdentifier (text content : String) : Prop :=
  ∃ inner, text.toList = '"' :: inner ++ ['"'] ∧ IsBetweenQuotes inner content.toList

/-- The characters up to the end of a quoted identifier, and the text behind it. A quote ends it
unless another one follows. -/
def restOfIdentifier : List Char → Option (List Char × List Char)
  | '"' :: '"' :: s => (restOfIdentifier s).map fun p => ('"' :: p.1, p.2)
  | '"' :: s => some ([], s)
  | c :: s => (restOfIdentifier s).map fun p => (c :: p.1, p.2)
  | [] => none

/-- Reads the quoted identifier that a text begins with: its content, and the text behind it. -/
def readIdentifier : List Char → Option (List Char × List Char)
  | '"' :: s => restOfIdentifier s
  | _ => none

lemma IsBetweenQuotes.restOfIdentifier_eq {inner content rest : List Char}
    (h : IsBetweenQuotes inner content) (hrest : rest.head? ≠ some '"') :
    restOfIdentifier (inner ++ '"' :: rest) = some (content, rest) := by
  -- Only the last quote can end the identifier, as the others come in pairs.
  induction h with
  | nil =>
    rw [List.nil_append, restOfIdentifier]
    rintro s rfl
    exact hrest rfl
  | quote _ ih =>
    rw [List.cons_append, List.cons_append, restOfIdentifier, ih]
    rfl
  | char hc _ ih =>
    rw [List.cons_append, restOfIdentifier, ih]
    · rfl
    all_goals simp [hc]

/-- Reading ends where the identifier ends. -/
lemma IsQuotedIdentifier.readIdentifier_eq {text content : String} {rest : List Char}
    (h : IsQuotedIdentifier text content) (hrest : rest.head? ≠ some '"') :
    readIdentifier (text.toList ++ rest) = some (content.toList, rest) := by
  obtain ⟨inner, htext, hinner⟩ := h
  rw [htext, List.append_assoc, List.cons_append, readIdentifier, List.singleton_append,
    hinner.restOfIdentifier_eq hrest]

lemma IsQuotedIdentifier.content_unique {text content other : String}
    (h : IsQuotedIdentifier text content) (hother : IsQuotedIdentifier text other) :
    content = other := by
  have hend : ([] : List Char).head? ≠ some '"' := by simp
  have hread := h.readIdentifier_eq hend
  rw [hother.readIdentifier_eq hend, Option.some_inj, Prod.mk.injEq] at hread
  exact String.toList_inj.mp hread.1.symm

lemma isBetweenQuotes_doubleQuotes (s : List Char) : IsBetweenQuotes (doubleQuotes s) s := by
  unfold doubleQuotes
  induction s with
  | nil => exact .nil
  | cons c s ih =>
    rw [List.flatMap_cons]
    by_cases hc : c = '"'
    · subst hc
      exact .quote ih
    · rw [if_neg hc]
      exact .char hc ih

lemma mem_doubleQuotes {c : Char} {s : List Char} : c ∈ doubleQuotes s ↔ c ∈ s := by
  unfold doubleQuotes
  rw [List.mem_flatMap]
  constructor
  · rintro ⟨d, hd, hc⟩
    split at hc <;> simp_all
  · intro hc
    refine ⟨c, hc, ?_⟩
    split <;> simp_all

/-! ### Paths -/

/-- A path that leads somewhere, without a slash in its segments. -/
def IsPlace (path : List String) : Prop :=
  path ≠ [] ∧ ∀ segment ∈ path, '/' ∉ segment.toList

lemma splitAt_intercalate_path {path : List String} (h : IsPlace path) :
    Text.splitAt '/' ("/".intercalate path).toList = path.map String.toList := by
  rw [String.toList_intercalate]
  apply Text.splitAt_intercalate
  · simpa using h.1
  · intro stretch hstretch
    obtain ⟨segment, hsegment, rfl⟩ := List.mem_map.mp hstretch
    exact h.2 segment hsegment

lemma intercalate_path_injective {p q : List String} (hp : IsPlace p) (hq : IsPlace q)
    (h : "/".intercalate p = "/".intercalate q) : p = q := by
  apply List.map_injective_iff.mpr (fun _ _ => String.toList_inj.mp)
  rw [← splitAt_intercalate_path hp, ← splitAt_intercalate_path hq, h]

/-! ### Aliases -/

/-- Whatever its segments hold, a path with several of them has a quoted identifier for alias. -/
lemma isQuotedIdentifier_aliasOf {path : List String} (h : 1 < path.length) :
    IsQuotedIdentifier (aliasOf path) ("/".intercalate path) := by
  refine ⟨doubleQuotes ("/".intercalate path).toList, ?_, isBetweenQuotes_doubleQuotes _⟩
  rw [aliasOf, if_pos h, String.toList_ofList]

/-- Two paths with several segments share an alias only if they are the same text with slashes
between the segments. -/
lemma aliasOf_eq_iff {p q : List String} (hp : 1 < p.length) (hq : 1 < q.length) :
    aliasOf p = aliasOf q ↔ "/".intercalate p = "/".intercalate q := by
  constructor
  · intro h
    have hquoted := isQuotedIdentifier_aliasOf hp
    rw [h] at hquoted
    exact hquoted.content_unique (isQuotedIdentifier_aliasOf hq)
  · intro h
    rw [aliasOf, aliasOf, if_pos hp, if_pos hq, h]

/-- With a slash in a segment, different paths may have one alias. -/
example : aliasOf ["a/b", "c"] = aliasOf ["a", "b/c"] := by decide

/-- Only the alias of a path with several segments contains a slash. -/
lemma slash_mem_aliasOf {path : List String} (h : IsPlace path) :
    '/' ∈ (aliasOf path).toList ↔ 1 < path.length := by
  obtain ⟨hne, hsegments⟩ := h
  rcases path with _ | ⟨first, _ | ⟨second, rest⟩⟩
  · contradiction
  · simpa [aliasOf] using hsegments first
  · simp [aliasOf, mem_doubleQuotes]

theorem aliasOf_injective {p q : List String} (hp : IsPlace p) (hq : IsPlace q)
    (h : aliasOf p = aliasOf q) : p = q := by
  have hlength : 1 < p.length ↔ 1 < q.length := by
    rw [← slash_mem_aliasOf hp, ← slash_mem_aliasOf hq, h]
  apply intercalate_path_injective hp hq
  by_cases hlong : 1 < p.length
  · exact (aliasOf_eq_iff hlong (hlength.mp hlong)).mp h
  · rw [aliasOf, aliasOf] at h
    rwa [if_neg hlong, if_neg (mt hlength.mpr hlong)] at h

/-- An alias tells places apart, and where the path has several segments it is one quoted identifier
for the segments with slashes between them: a text that goes on behind it, not with a quote, is read
as the identifier and what follows. No character in a segment ends the identifier early. -/
theorem aliasOf_identifies (p q : List String) :
    (IsPlace p → IsPlace q → (aliasOf p = aliasOf q ↔ p = q)) ∧
      (1 < p.length →
        IsQuotedIdentifier (aliasOf p) ("/".intercalate p) ∧
          ∀ rest : List Char, rest.head? ≠ some '"' →
            readIdentifier ((aliasOf p).toList ++ rest) =
              some (("/".intercalate p).toList, rest)) := by
  constructor
  · intro hp hq
    exact ⟨aliasOf_injective hp hq, congrArg aliasOf⟩
  · intro hlong
    have hquoted := isQuotedIdentifier_aliasOf hlong
    exact ⟨hquoted, fun rest hrest => hquoted.readIdentifier_eq hrest⟩

/-- A quote at the end of the first segment and a quote for the last one. Behind the alias stands a
column. -/
theorem aliasOf_identifies_quotes :
    let p := ["a\"", ""]
    let q := ["a", "\""]
    aliasOf p = "\"a\"\"/\"" ∧ aliasOf q = "\"a/\"\"\"" ∧ IsPlace p ∧ IsPlace q ∧
      (aliasOf p = aliasOf q ↔ p = q) ∧ 1 < p.length ∧
      IsQuotedIdentifier (aliasOf p) ("/".intercalate p) ∧
      ".id".toList.head? ≠ some '"' ∧
      readIdentifier ((aliasOf p).toList ++ ".id".toList) =
        some (("/".intercalate p).toList, ".id".toList) := by
  intro p q
  have hp : IsPlace p := by simp [p, IsPlace]
  have hq : IsPlace q := by simp [q, IsPlace]
  have hlong : 1 < p.length := by decide
  have hrest : ".id".toList.head? ≠ some '"' := by decide
  obtain ⟨hquoted, hread⟩ := (aliasOf_identifies p q).2 hlong
  exact ⟨by decide, by decide, hp, hq, (aliasOf_identifies p q).1 hp hq, hlong, hquoted, hrest,
    hread ".id".toList hrest⟩

end TableGateway.Query
