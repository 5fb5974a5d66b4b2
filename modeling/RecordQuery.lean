import RecordQuery.CommandLine.Session
import RecordQuery.Main
import RecordQuery.Sample.Gadget
import RecordQuery.Sample.Label
import RecordQuery.Store.Canned
import RecordQuery.Store.Recorded
import RecordQuery.Proofs.Text.Percent
import RecordQuery.Proofs.Numeric.Digits
import RecordQuery.Proofs.Page.Links
import RecordQuery.Proofs.Endpoint.Listing
import RecordQuery.Proofs.Endpoint.Traversal
import RecordQuery.Proofs.Numeric.Rounding
import RecordQuery.Proofs.Numeric.Exact
import RecordQuery.Proofs.Condition.Exactness
import RecordQuery.Proofs.Json.Equality
import RecordQuery.Proofs.Store.Calls
import RecordQuery.Proofs.Store.Numbering
import RecordQuery.Proofs.Catalog.Item
import RecordQuery.Proofs.Json.Entries
import RecordQuery.Proofs.Store.Uniqueness
import RecordQuery.Proofs.Catalog.Reached
import RecordQuery.Proofs.Catalog.Requests
import RecordQuery.Proofs.Catalog.Rules
import RecordQuery.Proofs.Catalog.StockNumbers
import RecordQuery.Proofs.Endpoint.Parameters
import RecordQuery.Proofs.Condition.NumberForms
import RecordQuery.Proofs.CommandLine.DataFile
import RecordQuery.Proofs.Glob.Expression
import RecordQuery.Proofs.Condition.LiteralParts
import RecordQuery.Proofs.Condition.GlobAgreement
import RecordQuery.Proofs.Filter
import RecordQuery.Proofs.Condition.OwnText
import RecordQuery.Proofs.Sorting.Columns
import RecordQuery.Proofs.Numeric.Comparison
import RecordQuery.Proofs.Sorting.Records
import RecordQuery.Proofs.Catalog.Payloads
import RecordQuery.Proofs.Catalog.Accepted
import RecordQuery.Proofs.Store.Failures
import RecordQuery.Proofs.Catalog.Updates
import RecordQuery.Proofs.FieldRules.CleanPayloads
import RecordQuery.Proofs.FieldRules.Complaints
import RecordQuery.Proofs.Filter.Chains
import RecordQuery.Proofs.Sorting.Directives
import RecordQuery.Proofs.QueryString.Changes
import RecordQuery.Proofs.Condition.WrittenForm
import RecordQuery.Proofs.Catalog.Categories
import RecordQuery.Proofs.Glob.Source
