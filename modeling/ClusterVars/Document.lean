import ClusterVars.Record

/-! Documents for other programs: fields with values, or named sections of fields. -/
namespace ClusterVars

abbrev Fields := List (String × Value)

inductive Document
  | flat (fields : Fields)
  | sectioned (sections : List (String × Fields))
  deriving Repr

/-- All fields, those of sections included. -/
def Document.allFields : Document → Fields
  | .flat fields => fields
  | .sectioned sections => sections.flatMap (·.2)

def Record.document (r : Record) : Document :=
  .flat (r.entries.map fun entry => (entry.1.name, entry.2))

end ClusterVars
