import ClusterVars.LineFault

/-! Quoted texts. Writing always uses double quotes and escapes four characters; reading accepts
both quotes and returns what follows the closing one. -/
namespace ClusterVars

/-- What a backslash followed by `c` stands for. Double quotes know the backslash itself, the
quote, `n` and `t`; single quotes know the backslash and the quote and keep other pairs whole. -/
def Quote.unescape? (quote : Quote) (c : Char) : Option (List Char) :=
  if c = '\\' then some ['\\']
  else if c = quote.mark then some [c]
  else match quote with
    | .single => some ['\\', c]
    | .double => if c = 'n' then some ['\n'] else if c = 't' then some ['\t'] else none

/-- Reads to the closing quote: the text and the rest of the input. -/
def Quote.readBody (quote : Quote) : List Char → Except LineFault (List Char × List Char)
  | [] => .error (.unterminated quote)
  | c :: rest =>
    if c = quote.mark then .ok ([], rest)
    else if c = '\\' then
      match rest with
      | [] => .error (.unterminated quote)
      | escaped :: rest =>
        match quote.unescape? escaped with
        | none => .error (.unsupportedEscape escaped)
        | some cs =>
          match quote.readBody rest with
          | .error fault => .error fault
          | .ok (body, rest) => .ok (cs ++ body, rest)
    else
      match quote.readBody rest with
      | .error fault => .error fault
      | .ok (body, rest) => .ok (c :: body, rest)

def escape (c : Char) : List Char :=
  if c = '"' then ['\\', '"']
  else if c = '\\' then ['\\', '\\']
  else if c = '\n' then ['\\', 'n']
  else if c = '\t' then ['\\', 't']
  else [c]

/-- A text between double quotes. -/
def quoted (cs : List Char) : List Char := '"' :: (cs.flatMap escape ++ ['"'])

end ClusterVars
