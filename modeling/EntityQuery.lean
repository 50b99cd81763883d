import EntityQuery.Expr.Same
import EntityQuery.Error.Message
import EntityQuery.Json.Codec
import EntityQuery.Query.Run
import EntityQuery.Proofs.Sql.Reading
import EntityQuery.Proofs.Sql.ChainReading
import EntityQuery.Proofs.Sql.Column
import EntityQuery.Proofs.Sql.Growth
import EntityQuery.Proofs.Sql.Predicate
import EntityQuery.Proofs.Sql.Semantics
import EntityQuery.Proofs.Sql.AliasToken
import EntityQuery.Proofs.Sql.Meaning
import EntityQuery.Proofs.Sql.Conjunction
import EntityQuery.Proofs.Reference.Derive
import EntityQuery.Proofs.Reference.KeyPredicate
import EntityQuery.Proofs.Reference.Selection
import EntityQuery.Proofs.Reference.LookupQuery
import EntityQuery.Proofs.Reference.Batch
import EntityQuery.Proofs.Database.Session
import EntityQuery.Proofs.Query.Loading
import EntityQuery.Proofs.Sql.Uses
import EntityQuery.Proofs.Sql.Placeholders
import EntityQuery.Proofs.Sql.Joins
import EntityQuery.Proofs.Sql.Literals
import EntityQuery.Proofs.Schema.Registry
import EntityQuery.Proofs.Sql.TableAliases
import EntityQuery.Proofs.Sql.StoredColumns
import EntityQuery.Proofs.Reference.Merge
import EntityQuery.Proofs.Sql.Groups
import EntityQuery.Proofs.Sql.Regrouping
import EntityQuery.Proofs.Sql.Layout
import EntityQuery.Proofs.Sql.References
import EntityQuery.Proofs.Reference.Failure
import EntityQuery.Proofs.Sql.Membership
import EntityQuery.Proofs.Sql.InternalFaults
import EntityQuery.Proofs.Query.Calls
import EntityQuery.Proofs.Text.Replace
import EntityQuery.Proofs.Sql.Places
import EntityQuery.Proofs.Sql.Inline
import EntityQuery.Proofs.Schema.JoinKeys
import EntityQuery.Proofs.Sql.JoinedKeys
import EntityQuery.Proofs.Reference.Constraints
import EntityQuery.Proofs.Sql.BoundValues
import EntityQuery.Proofs.Reference.Preparation
import EntityQuery.Proofs.Sql.Grammar
import EntityQuery.Proofs.Value.Integers
import EntityQuery.Proofs.Value.RoundTrip
import EntityQuery.Proofs.Reference.KeyTuples
import EntityQuery.Proofs.Sql.Naming
import EntityQuery.Proofs.Sql.FragmentState
import EntityQuery.Proofs.Sql.Keywords
import EntityQuery.Proofs.Sql.AssignedValues
import EntityQuery.Proofs.Sql.AliasRequests
import EntityQuery.Proofs.Query.Collecting
import EntityQuery.Proofs.Query.History
import EntityQuery.Proofs.Query.Includes
import EntityQuery.Proofs.Sql.TokenOrder
import EntityQuery.Proofs.Text.Quoted
import EntityQuery.Proofs.Json.Reading
import EntityQuery.Proofs.Json.RoundTrip
import EntityQuery.Proofs.Text.Wildcards
import EntityQuery.Proofs.Sql.Patterns
