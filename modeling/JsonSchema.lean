import JsonSchema.Main
import JsonSchema.Registry.Keywords
import JsonSchema.Registry.Removal
import JsonSchema.Toml.Writer
import JsonSchema.Proofs.Registry.References
import JsonSchema.Proofs.Registry.Denotations
import JsonSchema.Proofs.Registry.Targets
import JsonSchema.Proofs.Registry.Interpretation
import JsonSchema.Proofs.Awaiting.Documents
import JsonSchema.Proofs.Awaiting.Keywords
import JsonSchema.Proofs.Registry.Failures
import JsonSchema.Proofs.Registry.ValueChecks
import JsonSchema.Proofs.Store.Identifiers
import JsonSchema.Proofs.Awaiting.Agreement
import JsonSchema.Proofs.Awaiting.Synchronous
import JsonSchema.Proofs.Loader.Batches
import JsonSchema.Proofs.Loader.Progress
import JsonSchema.Proofs.Order.Answers
import JsonSchema.Proofs.Registry.Bases
import JsonSchema.Proofs.Vocabulary.Protection
import JsonSchema.Proofs.Registry.ValueSchemas
import JsonSchema.Proofs.Registry.Names
import JsonSchema.Proofs.Registry.DryRuns
import JsonSchema.Proofs.Registry.Stopping
import JsonSchema.Proofs.Registry.Aliases
import JsonSchema.Proofs.Validation.Calls
import JsonSchema.Proofs.Validation.Ending
import JsonSchema.Proofs.Validation.Loops
import JsonSchema.Proofs.Siblings.Registries
import JsonSchema.Proofs.Validation.Records
import JsonSchema.Proofs.Compilation.Failing
import JsonSchema.Proofs.Json.Canonical
import JsonSchema.Proofs.Registry.Shielding
import JsonSchema.Proofs.Order.Finite
import JsonSchema.Proofs.Loader.Confinement
import JsonSchema.Proofs.Registry.Locations
import JsonSchema.Proofs.Registry.OwnReferences
import JsonSchema.Proofs.Registry.Visits
import JsonSchema.Proofs.Number.Assertions
import JsonSchema.Proofs.Json.Equality
import JsonSchema.Proofs.Registry.LastErrors
import JsonSchema.Proofs.Vocabulary.History
import JsonSchema.Proofs.Json.Segments
import JsonSchema.Proofs.Json.Walking
import JsonSchema.Proofs.Registry.Pieces
import JsonSchema.Proofs.Url.Written
import JsonSchema.Proofs.Registry.StoredForms
