import ContractRules.Block.Printer
import ContractRules.Block.Reader
import ContractRules.Document
import ContractRules.Failure
import ContractRules.Main
import ContractRules.Parameter.Goal
import ContractRules.Requirement.Check
import ContractRules.Requirement.Session
import ContractRules.Requirement.Title
import ContractRules.Proofs.Text.Split
import ContractRules.Proofs.Text.Significant
import ContractRules.Proofs.Text.Layout
import ContractRules.Proofs.Text.Numeral
import ContractRules.Proofs.Text.Plain
import ContractRules.Proofs.Text.Trim
import ContractRules.Proofs.Block.Grammar
import ContractRules.Proofs.Block.Recognition
import ContractRules.Proofs.Block.RoundTrip
import ContractRules.Proofs.Block.Composition
import ContractRules.Proofs.Block.Numbering
import ContractRules.Proofs.Block.Layout
import ContractRules.Proofs.Block.Refusal
import ContractRules.Proofs.Block.Plain
import ContractRules.Proofs.Block.Agreement
import ContractRules.Proofs.Journal.Steps
import ContractRules.Proofs.Journal.Report
import ContractRules.Proofs.Journal.Operation
import ContractRules.Proofs.Journal.Nesting
import ContractRules.Proofs.Journal.Log
import ContractRules.Proofs.Journal.Attribution
import ContractRules.Proofs.Field.Scalar
import ContractRules.Proofs.Field.Spelling
import ContractRules.Proofs.Field.Written
import ContractRules.Proofs.Field.Count
import ContractRules.Proofs.Field.Faults
import ContractRules.Proofs.Field.Span
import ContractRules.Proofs.Registry.Knowledge
import ContractRules.Proofs.Registry.Meaning
import ContractRules.Proofs.Registry.Growth
import ContractRules.Proofs.Registry.Construction
import ContractRules.Proofs.Registry.Order
import ContractRules.Proofs.Definition.Steps
import ContractRules.Proofs.Definition.Attribution
import ContractRules.Proofs.Definition.Plain
import ContractRules.Proofs.Definition.Agreement
import ContractRules.Proofs.Parameter.Steps
import ContractRules.Proofs.Parameter.Goals
import ContractRules.Proofs.Parameter.Duration
import ContractRules.Proofs.Requirement.Steps
import ContractRules.Proofs.Requirement.Description
import ContractRules.Proofs.Requirement.Faults
import ContractRules.Proofs.Requirement.Report
import ContractRules.Proofs.Requirement.Bounds
import ContractRules.Proofs.Requirement.Crossing
import ContractRules.Proofs.Requirement.Session
import ContractRules.Proofs.Requirement.Evaluation
import ContractRules.Proofs.Requirement.Quantity
import ContractRules.Proofs.Requirement.Growth
import ContractRules.Proofs.Requirement.Log
import ContractRules.Proofs.Requirement.Attribution
import ContractRules.Proofs.Requirement.Plain
import ContractRules.Proofs.Requirement.Provenance
import ContractRules.Proofs.Document.Contents
import ContractRules.Proofs.Document.Session
import ContractRules.Proofs.Document.Blocks
import ContractRules.Proofs.Document.Log
import ContractRules.Proofs.Document.Attribution
import ContractRules.Proofs.Document.Plain
import ContractRules.Proofs.Document.Rendering
import ContractRules.Proofs.Command.Steps
import ContractRules.Proofs.Command.Clauses
import ContractRules.Proofs.Command.Exit
import ContractRules.Proofs.Command.Spelling
import ContractRules.Proofs.Command.Plain
import ContractRules.Proofs.Command.Colour
