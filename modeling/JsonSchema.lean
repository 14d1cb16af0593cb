import JsonSchema.Placeholder
import JsonSchema.Placeholder.InPlace
import JsonSchema.Records
import JsonSchema.Session
import JsonSchema.Proofs.Stateful
import JsonSchema.Proofs.Run
import JsonSchema.Proofs.Answer
import JsonSchema.Proofs.Trace
import JsonSchema.Proofs.Acceptance
import JsonSchema.Proofs.Inside
import JsonSchema.Proofs.Leads
import JsonSchema.Proofs.Typed
import JsonSchema.Proofs.Rank
import JsonSchema.Proofs.Termination
import JsonSchema.Proofs.Guards
import JsonSchema.Proofs.Cycle
import JsonSchema.Proofs.Reach
import JsonSchema.Proofs.Chain
import JsonSchema.Proofs.Depth
import JsonSchema.Proofs.Reading
import JsonSchema.Proofs.Pointer
import JsonSchema.Proofs.Fragment
import JsonSchema.Proofs.Reports
import JsonSchema.Proofs.Location
import JsonSchema.Proofs.InPlace
import JsonSchema.Proofs.Nesting
import JsonSchema.Proofs.Rearrangement
import JsonSchema.Proofs.Relocation
import JsonSchema.Proofs.Visits
import JsonSchema.Proofs.Applied
import JsonSchema.Proofs.Tightening
import JsonSchema.Proofs.Strictness
import JsonSchema.Proofs.Magnitude
import JsonSchema.Proofs.Rounding
import JsonSchema.Proofs.Spelling
import JsonSchema.Proofs.Quoting
import JsonSchema.Proofs.Unambiguous
import JsonSchema.Proofs.Equality
import JsonSchema.Proofs.Sameness
import JsonSchema.Proofs.Interval
import JsonSchema.Proofs.Interchange
import JsonSchema.Proofs.Divisibility
import JsonSchema.Proofs.Parallel
import JsonSchema.Proofs.Counterpart
import JsonSchema.Proofs.Lockstep
import JsonSchema.Proofs.Omission
import JsonSchema.Proofs.Expansion
import JsonSchema.Proofs.Copy
import JsonSchema.Proofs.Union
import JsonSchema.Proofs.Inlining
import JsonSchema.Proofs.Annotation
import JsonSchema.Proofs.Containment
import JsonSchema.Proofs.Sequence
import JsonSchema.Proofs.Lines
import JsonSchema.Proofs.Loading
import JsonSchema.Proofs.Creation
import JsonSchema.Proofs.Conformity
import JsonSchema.Proofs.Precedence
import JsonSchema.Proofs.Siblings
import JsonSchema.Proofs.Uncompilable
import JsonSchema.Proofs.Restatement
import JsonSchema.Proofs.Hoisting
import JsonSchema.Proofs.ItemForms
import JsonSchema.Options.Construction
import JsonSchema.Proofs.Merging
import JsonSchema.Proofs.Unsought
import JsonSchema.Proofs.Language
import JsonSchema.Proofs.Matching
import JsonSchema.Proofs.Address
import JsonSchema.Proofs.DateTime
import JsonSchema.Proofs.HostName
import JsonSchema.Proofs.Template
