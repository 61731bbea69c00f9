import MediaGraph.Description
import MediaGraph.Filter.Script
import MediaGraph.Proofs.Session.Reach
import MediaGraph.Proofs.Negotiation.Counting
import MediaGraph.Proofs.Negotiation.Query
import MediaGraph.Proofs.Negotiation.Classes
import MediaGraph.Proofs.Negotiation.Coherence
import MediaGraph.Proofs.Negotiation.Merging
import MediaGraph.Proofs.Negotiation.Picking
import MediaGraph.Proofs.Negotiation.Outcome
import MediaGraph.Proofs.Session.Agreement
import MediaGraph.Proofs.Session.Change
import MediaGraph.Proofs.Session.Propagation
import MediaGraph.Proofs.Negotiation.Insertion
import MediaGraph.Proofs.Graph.Flow
import MediaGraph.Proofs.Session.Walk
import MediaGraph.Proofs.Session.Fixpoint
import MediaGraph.Proofs.Session.Bindings
import MediaGraph.Proofs.Negotiation.Handles
import MediaGraph.Proofs.Negotiation.Interruption
import MediaGraph.Proofs.Session.Completion
import MediaGraph.Proofs.Negotiation.Declaring
import MediaGraph.Proofs.Negotiation.Repetition
import MediaGraph.Proofs.Negotiation.Convergence
import MediaGraph.Proofs.Negotiation.Release
import MediaGraph.Proofs.Session.Abandonment
import MediaGraph.Proofs.Session.Roster
import MediaGraph.Proofs.Session.Lifecycle
import MediaGraph.Proofs.Negotiation.Usage
import MediaGraph.Proofs.Negotiation.Meaning
import MediaGraph.Proofs.Session.Edits
import MediaGraph.Proofs.Text.Numeral
import MediaGraph.Proofs.Filter.Arguments
import MediaGraph.Proofs.Negotiation.Converters
import MediaGraph.Proofs.Session.Validation
import MediaGraph.Proofs.Session.Transparency
import MediaGraph.Proofs.Negotiation.Abreast
import MediaGraph.Proofs.Session.Tracing
import MediaGraph.Proofs.Format.Set
