import FacetedGraph.Client
import FacetedGraph.Configuration.Sources
import FacetedGraph.Result.Json
import FacetedGraph.Store.Scripted
import FacetedGraph.Proofs.Graph.Growth
import FacetedGraph.Proofs.Graph.Incidence
import FacetedGraph.Proofs.Distinct
import FacetedGraph.Proofs.Fallible
import FacetedGraph.Proofs.Fields
import FacetedGraph.Proofs.Filter.Conditions
import FacetedGraph.Proofs.Store.Healthy
import FacetedGraph.Proofs.Fetch
import FacetedGraph.Proofs.Binary64.Order
import FacetedGraph.Proofs.Expansion
import FacetedGraph.Proofs.Paths
import FacetedGraph.Proofs.Graph.Tree
import FacetedGraph.Proofs.Facet.Offer
import FacetedGraph.Proofs.Facet.Options
import FacetedGraph.Proofs.Identity
import FacetedGraph.Proofs.Options
import FacetedGraph.Proofs.Narrowing
import FacetedGraph.Proofs.Facet.Choosing
import FacetedGraph.Proofs.Selection
import FacetedGraph.Proofs.Query.Plan
import FacetedGraph.Proofs.Query.Shape
import FacetedGraph.Proofs.Store.Trip
import FacetedGraph.Proofs.Isolation
import FacetedGraph.Proofs.OneHop
import FacetedGraph.Proofs.Calls
import FacetedGraph.Proofs.Store.Alike
import FacetedGraph.Proofs.Connections
import FacetedGraph.Proofs.Loading
import FacetedGraph.Proofs.Result.Summary
import FacetedGraph.Proofs.Result.Occurrences
import FacetedGraph.Proofs.Query.References
import FacetedGraph.Proofs.Query.Templates
import FacetedGraph.Proofs.Query.Parameters
import FacetedGraph.Proofs.Graph.Surroundings
import FacetedGraph.Proofs.Neighborhood
import FacetedGraph.Proofs.Result.Elements
import FacetedGraph.Proofs.Closed
import FacetedGraph.Proofs.Pages
import FacetedGraph.Proofs.Json.Edits
import FacetedGraph.Proofs.Request
import FacetedGraph.Proofs.Refusal
import FacetedGraph.Proofs.Filter.Criteria
import FacetedGraph.Proofs.Json.Records
import FacetedGraph.Proofs.Value.Plain
import FacetedGraph.Proofs.Result.Views
import FacetedGraph.Proofs.Survival
import FacetedGraph.Proofs.Ties
import FacetedGraph.Proofs.Graph.Neighbors
import FacetedGraph.Proofs.Graph.Candidates
import FacetedGraph.Proofs.Graph.Ranking
import FacetedGraph.Proofs.Graph.Relisting
import FacetedGraph.Proofs.Recommendation
import FacetedGraph.Proofs.Value.Equivalence
import FacetedGraph.Proofs.Opportunities
import FacetedGraph.Proofs.Counting
import FacetedGraph.Proofs.Graph.Network
import FacetedGraph.Proofs.Influence
import FacetedGraph.Proofs.Detail
import FacetedGraph.Proofs.Value.Order
import FacetedGraph.Proofs.Query.Clauses
import FacetedGraph.Proofs.Value.Stability
import FacetedGraph.Proofs.Search.Turns
import FacetedGraph.Proofs.Query.Keys
