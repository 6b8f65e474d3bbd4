import FormRules.Proofs.Validation.Single
import FormRules.Record
import FormRules.Session.Run
import FormRules.Proofs.Validation.Batch
import FormRules.Proofs.Text.Context
import FormRules.Proofs.Text.Search
import FormRules.Proofs.Text.Settled
import FormRules.Proofs.Text.LowerLetters
import FormRules.Proofs.Text.Surroundings
import FormRules.Proofs.Text.Parts
import FormRules.Proofs.Number.Nearest
import FormRules.Proofs.Number.Parsing
import FormRules.Proofs.Number.Monotone
import FormRules.Proofs.Number.Order
import FormRules.Proofs.Number.Threshold
import FormRules.Proofs.Validation.Text
import FormRules.Proofs.Validation.Range
import FormRules.Proofs.Validation.Interval
import FormRules.Proofs.Gate.Stream
import FormRules.Proofs.Session.Asking
import FormRules.Proofs.Session.Perform
import FormRules.Proofs.Session.Copies
import FormRules.Proofs.Session.Streams
import FormRules.Proofs.Session.Lineage
import FormRules.Proofs.Gate.Independence
import FormRules.Proofs.Validation.Reordering
import FormRules.Proofs.Number.TextOrder
import FormRules.Proofs.Number.Grammar
import FormRules.Proofs.Validation.Account
import FormRules.Proofs.Validation.Gating
import FormRules.Proofs.Validation.Flag
import FormRules.Proofs.Rendering.Settings
import FormRules.Proofs.Rendering.Agreement
import FormRules.Proofs.Rendering.Wording
import FormRules.Proofs.Rendering.Lines
import FormRules.Proofs.Rendering.Inspection
import FormRules.Proofs.Validation.Revalidation
import FormRules.Proofs.Validation.Completion
