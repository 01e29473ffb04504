/-!
# Aliases of joined tables

A joined table is known by the path at which its rows are nested. A path of one segment is its own
alias; a longer one is a quoted identifier, with `/` between the segments and quotes doubled.
-/

namespace TableGateway.Query

/-- The content of a quoted identifier, in which every quote is written twice. -/
def doubleQuotes (s : List Char) : List Char :=
  s.flatMap fun c => if c = '"' then ['"', '"'] else [c]

/-- The alias of the table joined at a path. -/
def aliasOf (path : List String) : String :=
  let name := "/".intercalate path
  if path.length > 1 then String.ofList ('"' :: doubleQuotes name.toList ++ ['"']) else name

end TableGateway.Query
