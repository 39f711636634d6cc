import ClusterVars.Main
import ClusterVars.Session
import ClusterVars.Proofs.Text.Blank
import ClusterVars.Proofs.Text.Edits
import ClusterVars.Proofs.Journal
import ClusterVars.Proofs.Statement
import ClusterVars.Proofs.Verdict
import ClusterVars.Proofs.FinalValue
import ClusterVars.Proofs.Layers
import ClusterVars.Proofs.Concatenation
import ClusterVars.Proofs.UnknownNames
import ClusterVars.Proofs.Text.Groups
import ClusterVars.Proofs.Numeral
import ClusterVars.Proofs.Written
import ClusterVars.Proofs.Grammar.Literals
import ClusterVars.Proofs.Grammar.Lines
import ClusterVars.Proofs.Rendering
import ClusterVars.Proofs.Validity
import ClusterVars.Proofs.Filling
import ClusterVars.Proofs.Reloading
import ClusterVars.Proofs.Misfits
import ClusterVars.Proofs.Refilling
import ClusterVars.Proofs.FileTree
import ClusterVars.Proofs.Run
import ClusterVars.Proofs.Task
import ClusterVars.Proofs.Rerendering
import ClusterVars.Proofs.Provisioning
import ClusterVars.Proofs.Session
import ClusterVars.Proofs.Effects
import ClusterVars.Proofs.BaseLayers
import ClusterVars.Proofs.Completion
import ClusterVars.Proofs.Documents
import ClusterVars.Proofs.Topology
import ClusterVars.Proofs.Acceptance
import ClusterVars.Proofs.Repetition
import ClusterVars.Proofs.Layout
import ClusterVars.Proofs.Denotation
import ClusterVars.Proofs.Conversions
import ClusterVars.Proofs.OneLine
import ClusterVars.Proofs.OutOfRange
import ClusterVars.Proofs.Spelling
