import RoleCatalog.Main
import RoleCatalog.Report.Json
import RoleCatalog.Proofs.Descriptor.WellFormed
import RoleCatalog.Proofs.Header.Lines
import RoleCatalog.Proofs.Header.RoundTrip
import RoleCatalog.Proofs.Registry.Loading
import RoleCatalog.Proofs.Descriptor.Addressing
import RoleCatalog.Proofs.Registry.Shadowing
import RoleCatalog.Proofs.Frame.Sound
import RoleCatalog.Proofs.Role.UniqueIndexes
import RoleCatalog.Proofs.Registry.Identifier
import RoleCatalog.Proofs.Registry.Lookup
import RoleCatalog.Proofs.Text.CaseAgreement
import RoleCatalog.Proofs.Registry.QualifiedName
import RoleCatalog.Proofs.Table.Conformance
import RoleCatalog.Proofs.Registry.BuiltFrames
import RoleCatalog.Proofs.Header.Content
import RoleCatalog.Proofs.Json.Spelling
import RoleCatalog.Proofs.Json.Reading
import RoleCatalog.Proofs.Report.Reading
import RoleCatalog.Proofs.Header.Numbering
import RoleCatalog.Proofs.Role.MaskedView
import RoleCatalog.Proofs.Role.Grants
import RoleCatalog.Proofs.CommandLine.Ending
import RoleCatalog.Proofs.Frame.Rows
import RoleCatalog.Proofs.Role.Influence
import RoleCatalog.Proofs.Registry.Independence
import RoleCatalog.Proofs.Header.Definitions
import RoleCatalog.Proofs.Descriptor.FirstDefect
import RoleCatalog.Proofs.Frame.Refusal
import RoleCatalog.Proofs.Table.EmptyFrame
import RoleCatalog.Proofs.Role.Lengths
import RoleCatalog.Proofs.CommandLine.Grammar
import RoleCatalog.Proofs.Json.Integer
import RoleCatalog.Proofs.Json.Layout
import RoleCatalog.Proofs.Role.Listing
import RoleCatalog.Proofs.Report.Acceptance
import RoleCatalog.Proofs.Descriptor.JsonText
import RoleCatalog.Proofs.Registry.Separators
import RoleCatalog.Proofs.Settings.Sources
import RoleCatalog.Proofs.Role.Lookup
