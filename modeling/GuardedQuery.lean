import GuardedQuery.CommandLine.FileTree
import GuardedQuery.Main
import GuardedQuery.Proofs.Catalog.Inheritance
import GuardedQuery.Proofs.Catalog.Violations
import GuardedQuery.Proofs.CommandLine.TokenFiles
import GuardedQuery.Proofs.Condition.Compilation
import GuardedQuery.Proofs.Denials
import GuardedQuery.Proofs.Query.Aliases
import GuardedQuery.Proofs.Query.Arity
import GuardedQuery.Proofs.Query.Brackets
import GuardedQuery.Proofs.Query.ListLiteral
import GuardedQuery.Proofs.Query.Placeholder
import GuardedQuery.Proofs.Query.Slots
import GuardedQuery.Proofs.Query.Values
import GuardedQuery.Proofs.Results.Columns
import GuardedQuery.Proofs.Results.InsertionOrder
import GuardedQuery.Proofs.Results.Leaves
import GuardedQuery.Proofs.Results.SharedPath
import GuardedQuery.Proofs.Results.Visibility
import GuardedQuery.Proofs.RoleLists
import GuardedQuery.Proofs.Service.Labels
import GuardedQuery.Proofs.Service.Lifecycle
import GuardedQuery.Proofs.Service.Listings
import GuardedQuery.Proofs.Service.MoreRoles
import GuardedQuery.Proofs.Service.Stale
import GuardedQuery.Proofs.Service.ValidCatalog
import GuardedQuery.Proofs.Service.Wildcard
import GuardedQuery.Proofs.Number.Digits
import GuardedQuery.Proofs.Number.Integer
import GuardedQuery.Proofs.Calendar.Pattern
import GuardedQuery.Proofs.Text.Trimming
import GuardedQuery.Proofs.Json.Text
import GuardedQuery.Proofs.Json.Decoding
import GuardedQuery.Proofs.Value.Json
import GuardedQuery.Proofs.Catalog.Document
import GuardedQuery.Proofs.Query.Json
import GuardedQuery.Proofs.Query.WrittenLiteral
