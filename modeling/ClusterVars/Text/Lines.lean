/-! Lines of a text. A line ends at a line feed, which may be preceded by one carriage return;
a carriage return elsewhere is an ordinary character, and the last line needs no ending. -/
namespace ClusterVars.Text

def lines : List Char → List (List Char)
  | [] => []
  | '\n' :: rest => [] :: lines rest
  | '\r' :: '\n' :: rest => [] :: lines rest
  | c :: rest =>
    match lines rest with
    | [] => [[c]]
    | line :: more => (c :: line) :: more

/-- A text less one leading byte order mark. -/
def dropMark : List Char → List Char
  | [] => []
  | c :: rest => if c = '\uFEFF' then rest else c :: rest

theorem lines_nil : lines [] = [] := by simp [lines]

theorem lines_newline (rest : List Char) : lines ('\n' :: rest) = [] :: lines rest := by
  simp [lines]

end ClusterVars.Text
