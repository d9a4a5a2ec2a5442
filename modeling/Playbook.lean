import Playbook.Main
import Playbook.Proofs.Script.Reading
import Playbook.Proofs.Script.Grammar
import Playbook.Proofs.Script.RoundTrip
import Playbook.Proofs.Engine.Dispatch
import Playbook.Proofs.Engine.ActionLog
import Playbook.Proofs.Vocabulary.PriceOracle
import Playbook.Proofs.Vocabulary.Core
import Playbook.Proofs.Engine.Exchanges
import Playbook.Proofs.Decimal.ReadBack
import Playbook.Proofs.Number.Encoding
import Playbook.Proofs.Number.Shown
import Playbook.Proofs.Command.Binding
import Playbook.Proofs.Play.Asking
import Playbook.Proofs.Engine.Collaborators
import Playbook.Proofs.Engine.Views
import Playbook.Proofs.Engine.FailedRun
import Playbook.Proofs.Play.Ends
import Playbook.Proofs.Vocabulary.Bound
import Playbook.Proofs.Engine.Binding
import Playbook.Proofs.Vocabulary.Handlers
import Playbook.Proofs.Engine.ScriptErrors
import Playbook.Proofs.Engine.Checking
import Playbook.Proofs.Engine.Redirection
import Playbook.Proofs.Script.Position
import Playbook.Proofs.Engine.ErrorLine
import Playbook.Proofs.Engine.FirstFailure
import Playbook.Proofs.Engine.Acting
import Playbook.Proofs.Vocabulary.Frame
import Playbook.Proofs.Engine.Oracle
import Playbook.Proofs.Text.OneLine
import Playbook.Proofs.Text.ErrorText
import Playbook.Proofs.Script.Joining
import Playbook.Proofs.Engine.Lookup
import Playbook.Proofs.Engine.ErrorPlace
import Playbook.Proofs.Vocabulary.BoundTexts
import Playbook.Proofs.Engine.OneLine
import Playbook.Proofs.Number.Safety
import Playbook.Proofs.Vocabulary.Addresses
import Playbook.Proofs.Registry
import Playbook.Proofs.Script.EarliestFault
import Playbook.Proofs.Number.Order
import Playbook.Proofs.Vocabulary.Untyped
import Playbook.Proofs.Vocabulary.Maps
import Playbook.Proofs.Engine.History
import Playbook.Proofs.Command.Usage
import Playbook.Proofs.Engine.Help
import Playbook.Engine.Stack
import Playbook.Proofs.Engine.Stack
import Playbook.Proofs.Engine.Binder
