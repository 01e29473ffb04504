/-!
# Parts of a text

Whether one text stands somewhere inside another, without gaps.
-/

namespace TableGateway.Text

/-- Whether a text is a part of another one. The empty text is a part of every text. -/
def isPartOf (part : List Char) : List Char → Bool
  | [] => part.isEmpty
  | c :: s => part.isPrefixOf (c :: s) || isPartOf part s

theorem isPartOf_iff {part s : List Char} : isPartOf part s ↔ part <:+: s := by
  induction s with
  | nil => simp [isPartOf]
  | cons c s ih =>
    rw [isPartOf, Bool.or_eq_true, List.isPrefixOf_iff_prefix, ih, List.infix_cons_iff]

end TableGateway.Text
