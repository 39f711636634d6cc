/-! The reasons for which a line is not an assignment. -/
namespace ClusterVars

/-- The two ways to quote a text. -/
inductive Quote
  | single
  | double
  deriving DecidableEq, Repr

def Quote.mark : Quote → Char
  | .single => '\x27'
  | .double => '"'

inductive LineFault
  /-- The line does not start with a dollar sign. -/
  | missingName (line : String)
  | invalidName (name : String)
  | missingOperator (name : String)
  | missingValue
  | unrecognised (token : String)
  | unsupportedEscape (c : Char)
  | unterminated (quote : Quote)
  /-- Something other than a comment follows the value. -/
  | trailing (rest : String)
  deriving DecidableEq, Repr

def LineFault.message : LineFault → String
  | .missingName line => "expected `$name` at start of line, found `" ++ line ++ "`"
  | .invalidName name => "invalid variable name `$" ++ name ++ "`"
  | .missingOperator name => "expected `=` or `||=` after `$" ++ name ++ "`"
  | .missingValue => "missing value"
  | .unrecognised token => "unrecognised value `" ++ token ++ "`"
  | .unsupportedEscape c => "unsupported escape `\\" ++ c.toString ++ "`"
  | .unterminated quote => "unterminated string starting with " ++ quote.mark.toString
  | .trailing rest => "unexpected trailing input `" ++ rest ++ "`"

end ClusterVars
