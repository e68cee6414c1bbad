import FacetSearch.Sql
import FacetSearch.Json.Query
import FacetSearch.Config.Storage
import FacetSearch.Http.Service
import FacetSearch.CommandLine.Outcome
import FacetSearch.Main
import FacetSearch.Proofs.AllowList.Grant
import FacetSearch.Proofs.AllowList.Mentions
import FacetSearch.Proofs.AllowList.Pruning
import FacetSearch.Proofs.Sql.Quiet
import FacetSearch.Proofs.Sort.Legible
import FacetSearch.Proofs.Sql.Quoting
import FacetSearch.Proofs.Json.Quote
import FacetSearch.Proofs.Sql.Leaf
import FacetSearch.Proofs.Sql.Tree
import FacetSearch.Proofs.Sql.Order
import FacetSearch.Proofs.Sql.Unambiguous
import FacetSearch.Proofs.Filter.Reading
import FacetSearch.Proofs.Filter.Enclosed
import FacetSearch.Proofs.Sql.Precedence
import FacetSearch.Proofs.Meaning.Facets
import FacetSearch.Proofs.Query.WellFormed
import FacetSearch.Proofs.Sql.Evaluation
import FacetSearch.Proofs.Filter.Negation
import FacetSearch.Proofs.Filter.Lexemes
import FacetSearch.Proofs.Query.Names
import FacetSearch.Proofs.Json.Lossless
import FacetSearch.Proofs.Json.Compact
import FacetSearch.Proofs.Request.Inputs
import FacetSearch.Proofs.CommandLine.Agreement
import FacetSearch.Proofs.Http.Answers
import FacetSearch.Proofs.Yaml.Meaning
import FacetSearch.Proofs.Config.Reading
import FacetSearch.Proofs.Disk.Making
import FacetSearch.Proofs.Config.Saving
import FacetSearch.Proofs.Facet.Written
import FacetSearch.Proofs.Meaning.Items
import FacetSearch.Proofs.Filter.Grouping
import FacetSearch.Proofs.Filter.Tidy
import FacetSearch.Proofs.Filter.Fragments
import FacetSearch.Proofs.Filter.Independence
import FacetSearch.Proofs.Filter.Statements
import FacetSearch.Proofs.Filter.Grammar
import FacetSearch.Proofs.Request.Columns
import FacetSearch.Proofs.Filter.Peeling
import FacetSearch.Proofs.Filter.Inside
import FacetSearch.Proofs.Filter.Spans
