/-!
# Lines of a text

A line ends at any kind of line break, among them the separators of records and pages.
-/

namespace TableGateway.Text

/-- Whether a character ends a line. -/
def isLineBreak (c : Char) : Bool :=
  (0x0a ≤ c.toNat && c.toNat ≤ 0x0d) || (0x1c ≤ c.toNat && c.toNat ≤ 0x1e)
    || c = '\u0085' || c = '\u2028' || c = '\u2029'

/-- The text up to its first line break. -/
def firstLine (s : String) : String :=
  String.ofList (s.toList.takeWhile fun c => !isLineBreak c)

end TableGateway.Text
