import RecordRules.Main
import RecordRules.Engine.Once
import RecordRules.Rule.Writer
import RecordRules.Rule.ByteReader
import RecordRules.Message.Expansion
import RecordRules.Proofs.Rule.Separation
import RecordRules.Proofs.Rule.RoundTrip
import RecordRules.Proofs.Rule.Splitting
import RecordRules.Proofs.Rule.Faults
import RecordRules.Proofs.Engine.Fields
import RecordRules.Proofs.Engine.Sanitizing
import RecordRules.Proofs.Engine.Elementwise
import RecordRules.Proofs.Engine.Validating
import RecordRules.Proofs.Engine.Running
import RecordRules.Proofs.Engine.Calls
import RecordRules.Proofs.Engine.History
import RecordRules.Proofs.Engine.RuleRows
import RecordRules.Proofs.Configuration.Loading
import RecordRules.Proofs.Configuration.Overlay
import RecordRules.Proofs.Configuration.Applying
import RecordRules.Proofs.Registry.Registration
import RecordRules.Proofs.Markup.Pieces
import RecordRules.Proofs.Markup.Stripping
import RecordRules.Proofs.Markup.Entities
import RecordRules.Proofs.Text.Percent
import RecordRules.Proofs.Engine.Settling
import RecordRules.Proofs.Engine.Judging
import RecordRules.Proofs.Engine.Arguments
import RecordRules.Proofs.Engine.Showing
import RecordRules.Proofs.CommandLine.Checking
import RecordRules.Proofs.Rule.Kinds
import RecordRules.Proofs.Message.Division
import RecordRules.Proofs.Text.ByteOffsets
import RecordRules.Proofs.Text.Words
import RecordRules.Proofs.Sanitizer.NoiseWords
import RecordRules.Proofs.Text.SpacedWords
import RecordRules.Proofs.Sanitizer.KeptWords
import RecordRules.Proofs.Sanitizer.PercentEncoding
import RecordRules.Proofs.Validator.AccountNumber
import RecordRules.Proofs.Validator.AccountChecksum
import RecordRules.Proofs.Validator.WholeNumber
import RecordRules.Proofs.Validator.MailAddress
import RecordRules.Proofs.Validator.ListMembership
import RecordRules.Proofs.Validator.DecimalNumber
import RecordRules.Proofs.Text.LowerParts
import RecordRules.Proofs.Validator.Affix
import RecordRules.Proofs.Validator.CardNumber
import RecordRules.Proofs.Engine.Defaults
import RecordRules.Proofs.Sanitizer.Slashes
import RecordRules.Proofs.Label
import RecordRules.Proofs.Registry.Canonical
import RecordRules.Proofs.Validator.MissingField
