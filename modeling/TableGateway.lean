import TableGateway.Catalog.Column
import TableGateway.Catalog.Document
import TableGateway.Catalog.Enumeration
import TableGateway.Catalog.Graph
import TableGateway.Catalog.Source
import TableGateway.CommandLine.Arguments
import TableGateway.CommandLine.Discover
import TableGateway.Config.Basic
import TableGateway.Config.Connection
import TableGateway.Config.Driver
import TableGateway.Config.Environment
import TableGateway.Config.Error
import TableGateway.Discovery.Clause
import TableGateway.Discovery.Database
import TableGateway.Discovery.Engine
import TableGateway.Discovery.Identifier
import TableGateway.Discovery.Inspection
import TableGateway.Discovery.Question
import TableGateway.Discovery.Rule
import TableGateway.Discovery.Scope
import TableGateway.Failure
import TableGateway.Gateway.Basic
import TableGateway.Log
import TableGateway.Main
import TableGateway.Query.Alias
import TableGateway.Query.Basic
import TableGateway.Query.Binding
import TableGateway.Query.Condition
import TableGateway.Query.Datum
import TableGateway.Query.Error
import TableGateway.Query.Filter
import TableGateway.Query.Named
import TableGateway.Query.Nesting
import TableGateway.Query.Reader
import TableGateway.Query.Sql
import TableGateway.Query.Statement
import TableGateway.Session.Basic
import TableGateway.Text.Blank
import TableGateway.Text.DecimalDigit
import TableGateway.Text.Line
import TableGateway.Text.Lowercase
import TableGateway.Text.Part
import TableGateway.Text.Printable
import TableGateway.Text.Ranges
import TableGateway.Text.Split
import TableGateway.Value.Basic
import TableGateway.Value.Double
import TableGateway.Value.Equality
import TableGateway.Value.Integer
import TableGateway.Value.Number
import TableGateway.Value.Printer
import TableGateway.Value.Quoted
import TableGateway.Value.Reader
import TableGateway.Value.Shape
import TableGateway.Value.Shortest
import TableGateway.Proofs.Inline
import TableGateway.Proofs.Parameterization
import TableGateway.Proofs.Aliases
import TableGateway.Proofs.NestedRows
import TableGateway.Proofs.Writes
import TableGateway.Proofs.RestoredRows
import TableGateway.Proofs.WithClause
import TableGateway.Proofs.Likeness
import TableGateway.Proofs.Replacement
import TableGateway.Proofs.Expressions
import TableGateway.Proofs.Filters
import TableGateway.Proofs.SqlReading
import TableGateway.Proofs.Selection
import TableGateway.Proofs.Inspections
import TableGateway.Proofs.CatalogRuns
import TableGateway.Proofs.Delivery
import TableGateway.Proofs.RelationPaths
import TableGateway.Proofs.FromClause
import TableGateway.Proofs.Reconfiguration
import TableGateway.Proofs.Transactions
import TableGateway.Proofs.GraphNodes
import TableGateway.Proofs.StandardLiterals
import TableGateway.Proofs.ConfiguredProviders
import TableGateway.Proofs.Credentials
import TableGateway.Proofs.Templates
import TableGateway.Proofs.ForeignKeys
import TableGateway.Proofs.DependencyOrder
import TableGateway.Proofs.Resolution
import TableGateway.Proofs.SharedFilters
import TableGateway.Proofs.Enumerations
import TableGateway.Proofs.RestrictedColumns
import TableGateway.Proofs.Markers
import TableGateway.Proofs.BoundReferences
import TableGateway.Proofs.Descriptions
import TableGateway.Proofs.StrictNumbers
import TableGateway.Proofs.Faults
import TableGateway.Proofs.ConditionTurns
import TableGateway.Proofs.ReadingConfigurations
import TableGateway.Proofs.EnvironmentMapping
import TableGateway.Proofs.AdaptableParameters
