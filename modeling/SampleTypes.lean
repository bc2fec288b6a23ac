import SampleTypes.Text.Blank
import SampleTypes.Text.Printable
import SampleTypes.Text.LowerCase
import SampleTypes.Text.Lines
import SampleTypes.Text.Literal
import SampleTypes.Text.Category
import SampleTypes.Json.Reader
import SampleTypes.Json.Spelling
import SampleTypes.Inference.Walk
import SampleTypes.Inference.Recursive
import SampleTypes.Emission.Recursive
import SampleTypes.Template.Basic
import SampleTypes.Files.Tree
import SampleTypes.Settings.Source
import SampleTypes.Settings.Warnings
import SampleTypes.Template.Library
import SampleTypes.Target.Code
import SampleTypes.Schema.Warnings
import SampleTypes.Generation.Code
import SampleTypes.Registry
import SampleTypes.Source.Load
import SampleTypes.Console.Output
import SampleTypes.CommandLine.Arguments
import SampleTypes.CommandLine.Run
import SampleTypes.Main
import SampleTypes.Proofs.Lists
import SampleTypes.Proofs.Runs
import SampleTypes.Proofs.Emission.Traversal
import SampleTypes.Proofs.Emission.Precedence
import SampleTypes.Proofs.Emission.Cycles
import SampleTypes.Proofs.Emission.Recursion
import SampleTypes.Proofs.Emission.Ordered
import SampleTypes.Proofs.Inference.Site
import SampleTypes.Proofs.Inference.Sampling
import SampleTypes.Proofs.Inference.Moves
import SampleTypes.Proofs.Inference.Recursion
import SampleTypes.Proofs.Inference.Calls
import SampleTypes.Proofs.Inference.Ownership
import SampleTypes.Proofs.Inference.Faithful
import SampleTypes.Proofs.Inference.References
import SampleTypes.Proofs.Schema.Connected
import SampleTypes.Proofs.Inference.Course
import SampleTypes.Proofs.Inference.Lengthening
import SampleTypes.Proofs.Schema.Mirror
import SampleTypes.Proofs.Schema.Closing
import SampleTypes.Proofs.Schema.Lengthening
import SampleTypes.Proofs.Text.Lines
import SampleTypes.Proofs.Naming.Names
import SampleTypes.Proofs.Naming.FieldScope
import SampleTypes.Proofs.Naming.Reserved
import SampleTypes.Proofs.Target.Layout
import SampleTypes.Proofs.Target.Neat
import SampleTypes.Proofs.Target.Document
import SampleTypes.Proofs.Schema.Named
import SampleTypes.Proofs.Schema.FieldNames
import SampleTypes.Proofs.Schema.ArrayItems
import SampleTypes.Proofs.Generation.Outcome
import SampleTypes.Proofs.Target.Reading
import SampleTypes.Proofs.Generation.Recovery
import SampleTypes.Proofs.Emission.Renaming
import SampleTypes.Proofs.Schema.Renaming
import SampleTypes.Proofs.Inference.Outline
import SampleTypes.Proofs.Generation.Outline
import SampleTypes.Proofs.Text.Literal
import SampleTypes.Proofs.Generation.Keys
import SampleTypes.Proofs.Generation.FileNames
import SampleTypes.Proofs.Target.Imports
import SampleTypes.Proofs.Generation.Imports
import SampleTypes.Proofs.Values
import SampleTypes.Proofs.Steps
import SampleTypes.Proofs.Registry.Registrations
import SampleTypes.Proofs.Registry.Aliases
import SampleTypes.Proofs.Naming.Categories
import SampleTypes.Proofs.Naming.Identifiers
import SampleTypes.Proofs.Naming.PascalCase
import SampleTypes.Proofs.Naming.RootNames
import SampleTypes.Proofs.Text.Tidy
import SampleTypes.Proofs.Json.Objects
import SampleTypes.Proofs.Json.Limits
import SampleTypes.Proofs.Settings.Layers
import SampleTypes.Proofs.Settings.Loading
import SampleTypes.Proofs.Settings.PackageName
import SampleTypes.Proofs.Schema.Identifiers
import SampleTypes.Proofs.CommandLine.Arguments
import SampleTypes.Proofs.Console.Markup
import SampleTypes.Proofs.Files.Tree
import SampleTypes.Proofs.Files.Reading
import SampleTypes.Proofs.Source.Failures
import SampleTypes.Proofs.Settings.Failures
import SampleTypes.Proofs.CommandLine.Stages
import SampleTypes.Proofs.CommandLine.Output
import SampleTypes.Proofs.CommandLine.Agreement
import SampleTypes.Proofs.Shapes.Bookkeeping
import SampleTypes.Proofs.Schema.Numbers
import SampleTypes.Proofs.Generation.Exports
