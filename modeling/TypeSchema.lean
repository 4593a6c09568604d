import TypeSchema.Main
import TypeSchema.Proofs.Descriptor.Json
import TypeSchema.Proofs.Descriptor.RoundTrip
import TypeSchema.Proofs.Document.Inclusion
import TypeSchema.Proofs.Document.Keys
import TypeSchema.Proofs.Document.Places
import TypeSchema.Proofs.Document.References
import TypeSchema.Proofs.Document.Reordering
import TypeSchema.Proofs.Document.Strictness
import TypeSchema.Proofs.Dsl.Layout
import TypeSchema.Proofs.Graph.Orbit
import TypeSchema.Proofs.JsonSchema.Agreement
import TypeSchema.Proofs.JsonSource.Locations
import TypeSchema.Proofs.Lint
import TypeSchema.Proofs.Regex.Pattern
import TypeSchema.Proofs.TextForm.Canonical
import TypeSchema.Proofs.TextForm.Choice
import TypeSchema.Proofs.TextForm.Duration
import TypeSchema.Proofs.TextForm.Enumeration
import TypeSchema.Proofs.TextForm.Grouping
import TypeSchema.Proofs.TextForm.Integer
import TypeSchema.Proofs.TextForm.Number
import TypeSchema.Proofs.TextForm.Outcome
import TypeSchema.Proofs.TextForm.Path
import TypeSchema.Proofs.TextForm.Uri
import TypeSchema.Proofs.Typing.Inheritance
import TypeSchema.Proofs.ValueType.Culprit
import TypeSchema.Proofs.ValueType.Inhabitants
import TypeSchema.Proofs.ValueType.Narrowing
import TypeSchema.Proofs.ValueType.Normalization
import TypeSchema.Proofs.ValueType.Validity
import TypeSchema.Proofs.XmlSchema.Reading
