import ClusterVars.Text.Hex

/-! Text for a terminal: the controls that could move its cursor, ring its bell or start an escape
sequence are spelled by their code points, and everything else stays as it is. -/
namespace ClusterVars.Text

def spellControl (c : Char) : List Char :=
  if c = '\x07' || c = '\x08' || c = '\x0c' || c = '\x1b' || c = '\x7f' then
    ['\\', 'x'] ++ hex 2 c.toNat
  else if 0x80 ≤ c.toNat && c.toNat ≤ 0x9F then ['\\', 'u', '\x7b'] ++ hex 2 c.toNat ++ ['\x7d']
  else [c]

def spellControls (s : String) : String := String.ofList (s.toList.flatMap spellControl)

end ClusterVars.Text
