import SchemaContract.Address
import SchemaContract.Closing
import SchemaContract.CommandLine
import SchemaContract.CommandLine.Argument
import SchemaContract.CommandLine.Report
import SchemaContract.CommandLine.Table
import SchemaContract.Compiled
import SchemaContract.Config
import SchemaContract.Contract
import SchemaContract.Contract.Call
import SchemaContract.Contract.Function
import SchemaContract.Dialect
import SchemaContract.FileTree
import SchemaContract.Format
import SchemaContract.Format.Calendar
import SchemaContract.Format.HostMapping
import SchemaContract.Format.Hostname
import SchemaContract.Format.International
import SchemaContract.Format.Mailbox
import SchemaContract.Format.Punycode
import SchemaContract.Format.Template
import SchemaContract.Json
import SchemaContract.Json.Pointer
import SchemaContract.Json.Printer
import SchemaContract.Json.Reader
import SchemaContract.Main
import SchemaContract.Message
import SchemaContract.Number
import SchemaContract.Number.Binary64
import SchemaContract.Number.Multiple
import SchemaContract.Number.Shortest
import SchemaContract.Parameter
import SchemaContract.Pattern
import SchemaContract.Pattern.Assembly
import SchemaContract.Pattern.Bracket
import SchemaContract.Pattern.CharSet
import SchemaContract.Pattern.Machine
import SchemaContract.Pattern.Node
import SchemaContract.Pattern.Place
import SchemaContract.Pattern.Portable
import SchemaContract.Pattern.Reader
import SchemaContract.Pattern.Regular
import SchemaContract.Pattern.SetName
import SchemaContract.Registry
import SchemaContract.Registry.Directory
import SchemaContract.Registry.Fault
import SchemaContract.Schema
import SchemaContract.Text.Base64
import SchemaContract.Text.Blank
import SchemaContract.Text.Escape
import SchemaContract.Text.Hex
import SchemaContract.Text.Lines
import SchemaContract.Text.Pieces
import SchemaContract.Text.Quoted
import SchemaContract.Text.Utf8
import SchemaContract.Text.Width
import SchemaContract.Unicode.Age
import SchemaContract.Unicode.CaseFolding
import SchemaContract.Unicode.Category
import SchemaContract.Unicode.Data.Age
import SchemaContract.Unicode.Data.CaseFold
import SchemaContract.Unicode.Data.Category
import SchemaContract.Unicode.Data.Direction
import SchemaContract.Unicode.Data.HostMapping
import SchemaContract.Unicode.Data.Normalization
import SchemaContract.Unicode.Data.Property
import SchemaContract.Unicode.Data.Script
import SchemaContract.Unicode.Data.Width
import SchemaContract.Unicode.Direction
import SchemaContract.Unicode.Normalization
import SchemaContract.Unicode.Property
import SchemaContract.Unicode.Ranges
import SchemaContract.Unicode.Script
import SchemaContract.Unicode.Table
import SchemaContract.Uri
import SchemaContract.Uri.Grammar
import SchemaContract.Uri.Reader
import SchemaContract.Uri.Resolve
import SchemaContract.Validation
import SchemaContract.Validation.Assertion
import SchemaContract.Validation.Compile
import SchemaContract.Validation.Context
import SchemaContract.Validation.Coverage
import SchemaContract.Validation.Failure
import SchemaContract.Validation.Gathering
import SchemaContract.Validation.Keyword
import SchemaContract.Validation.Library
import SchemaContract.Validation.MetaSchema
import SchemaContract.Validation.MetaSchema.Draft2019
import SchemaContract.Validation.MetaSchema.Draft2020
import SchemaContract.Validation.MetaSchema.Draft4
import SchemaContract.Validation.MetaSchema.Draft6
import SchemaContract.Validation.MetaSchema.Draft7
import SchemaContract.Validation.Part
import SchemaContract.Validation.Role
import SchemaContract.Validation.Rule
import SchemaContract.Proofs.Outcome
import SchemaContract.Proofs.Precedence
import SchemaContract.Proofs.Schedule
import SchemaContract.Proofs.Agreement
import SchemaContract.Proofs.Lists
import SchemaContract.Proofs.Construction
import SchemaContract.Proofs.Linking
import SchemaContract.Proofs.Narrowing.Rules
import SchemaContract.Proofs.Closing
import SchemaContract.Proofs.Narrowing.Coverages
import SchemaContract.Proofs.Narrowing.Forward
import SchemaContract.Proofs.Narrowing.Counterparts
import SchemaContract.Proofs.Narrowing.Parts
import SchemaContract.Proofs.Narrowing.Keywords
import SchemaContract.Proofs.Narrowing.Bodies
import SchemaContract.Proofs.Narrowing.Gathering
import SchemaContract.Proofs.Narrowing.Preparation
import SchemaContract.Proofs.Narrowing.Programs
import SchemaContract.Proofs.StrictMode
import SchemaContract.Proofs.PrimitiveTypes
import SchemaContract.Proofs.Lines
import SchemaContract.Proofs.Unbroken.Texts
import SchemaContract.Proofs.Unbroken.Uris
import SchemaContract.Proofs.Unbroken.Schemas
import SchemaContract.Proofs.Unbroken.Faults
import SchemaContract.Proofs.Unbroken.Libraries
import SchemaContract.Proofs.Unbroken.Gathering
import SchemaContract.Proofs.Unbroken.Failures
import SchemaContract.Proofs.Unbroken.Rules
import SchemaContract.Proofs.Unbroken.Plans
import SchemaContract.Proofs.ProblemLines
import SchemaContract.Proofs.Unbroken.Parts
import SchemaContract.Proofs.Unbroken.Keywords
import SchemaContract.Proofs.Unbroken.Programs
import SchemaContract.Proofs.Unbroken.Registries
import SchemaContract.Proofs.Meanings
import SchemaContract.Proofs.Inlining
import SchemaContract.Proofs.Extension
import SchemaContract.Proofs.Reports
import SchemaContract.Proofs.CheckCommand
import SchemaContract.Proofs.SchemaFiles
import SchemaContract.Proofs.DirectoryLoad
import SchemaContract.Proofs.Positions
import SchemaContract.Proofs.ClosedForms
import SchemaContract.Proofs.OpenSchemas
import SchemaContract.Proofs.Labels
import SchemaContract.Proofs.Accessors
import SchemaContract.Proofs.ToldFailures
import SchemaContract.Proofs.ParameterLists
import SchemaContract.Proofs.WrittenParameters
import SchemaContract.Proofs.NamedParameters
import SchemaContract.Proofs.Renaming
import SchemaContract.Proofs.EntryOrder
import SchemaContract.Proofs.SymbolicLinks
import SchemaContract.Proofs.WholeFiles
import SchemaContract.Proofs.SuppliedOrder
import SchemaContract.Proofs.MissingValues
import SchemaContract.Proofs.Branches.Findings
import SchemaContract.Proofs.Branches.Leading
import SchemaContract.Proofs.Branches.Meant
import SchemaContract.Proofs.ResolvedContracts
import SchemaContract.Proofs.InstancePaths
import SchemaContract.Proofs.StringLiterals
import SchemaContract.Proofs.SchemaArguments
