import Connexive.CommandLine.Run
import Connexive.Domain.Workbench
import Connexive.Draft.Evaluate
import Connexive.Main
import Connexive.Proofs.Formula.Canonical
import Connexive.Proofs.Formula.Spelling
import Connexive.Proofs.Formula.Truth
import Connexive.Proofs.Evaluation.Layout
import Connexive.Proofs.Formula.Derivation
import Connexive.Proofs.Domain.Lookup
import Connexive.Proofs.Session.Effect
import Connexive.Proofs.Session.Inert
import Connexive.Proofs.Report.Result
import Connexive.Proofs.Session.Question
import Connexive.Proofs.Session.History
import Connexive.Proofs.Session.ReadBack
import Connexive.Proofs.Formula.Context
import Connexive.Proofs.Domain.Universal
import Connexive.Proofs.Domain.Failing
import Connexive.Proofs.Formula.Theses
import Connexive.Proofs.Session.Expression
import Connexive.Proofs.Domain.Distinct
import Connexive.Proofs.Report.Universal
import Connexive.Proofs.Session.Universal
import Connexive.Proofs.Domain.Statements
import Connexive.Proofs.Domain.Operation
import Connexive.Proofs.Domain.History
import Connexive.Proofs.Domain.Growth
import Connexive.Proofs.Formula.Conservation
import Connexive.Proofs.Formula.Refusal
import Connexive.Proofs.Formula.Substitution
import Connexive.Proofs.Session.Conversation
import Connexive.Proofs.Formula.Renaming
import Connexive.Proofs.Evaluation.Heuristics
import Connexive.Proofs.Formula.Notes
import Connexive.Proofs.Formula.Outline
import Connexive.Proofs.Formula.Unset
import Connexive.Proofs.Formula.Polarity
import Connexive.Proofs.Formula.Entailment
import Connexive.Proofs.Draft.Foreign
import Connexive.Proofs.Draft.Alike
import Connexive.Proofs.Formula.Respelled
import Connexive.Proofs.Command.Pieces
import Connexive.Proofs.Command.Seam
import Connexive.Proofs.Session.ClosingMark
import Connexive.Proofs.Domain.Reordered
import Connexive.Proofs.Session.Commuting
import Connexive.Proofs.Domain.Capitals
import Connexive.Proofs.CommandLine.Sources
import Connexive.Proofs.Session.Overview
import Connexive.Proofs.Log.Streams
import Connexive.Proofs.Evaluation.Additions
import Connexive.Proofs.Settings.Normal
import Connexive.Proofs.Settings.Selected
import Connexive.Proofs.Formula.TextStacks
import Connexive.Proofs.Formula.OperatorStack
