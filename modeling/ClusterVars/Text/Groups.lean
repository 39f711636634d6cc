/-! Runs of characters joined by single underscores, as numbers group their digits. -/
namespace ClusterVars.Text

/-- The characters of one or more non-empty groups, without the underscores between them. -/
def ungroup? (digit : Char → Bool) : List Char → Option (List Char)
  | [] => none
  | [c] => if digit c then some [c] else none
  | c :: '_' :: rest => if digit c then (ungroup? digit rest).map (c :: ·) else none
  | c :: rest => if digit c then (ungroup? digit rest).map (c :: ·) else none

end ClusterVars.Text
