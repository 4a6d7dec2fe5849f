import EntityStore.Query.Execution
import EntityStore.Store.Transaction
import EntityStore.Proofs.Query.Execution
import EntityStore.Proofs.Query.FanOut
import EntityStore.Proofs.Query.Resumption
import EntityStore.Proofs.Query.Window
import EntityStore.Proofs.Query.Projection
import EntityStore.Proofs.Query.Saved
import EntityStore.Proofs.Key.Token
import EntityStore.Proofs.Store.Isolation
import EntityStore.Proofs.Store.Ids
import EntityStore.Proofs.Client.Attempts
import EntityStore.Proofs.Client.Race
import EntityStore.Proofs.Model.RoundTrip
import EntityStore.Proofs.Property.Codec
import EntityStore.Proofs.Property.Conformance
import EntityStore.Proofs.Store.Writes
import EntityStore.Proofs.Client.Batch
import EntityStore.Proofs.Store.Body
import EntityStore.Proofs.Client.Atomicity
import EntityStore.Proofs.Query.Cursor
import EntityStore.Proofs.Schema.Registration
import EntityStore.Proofs.Client.Collections
import EntityStore.Proofs.Schema.Inheritance
import EntityStore.Proofs.Store.View
import EntityStore.Proofs.Client.Identity
import EntityStore.Proofs.Order.Position
import EntityStore.Proofs.Query.Rounds
import EntityStore.Proofs.Query.Clauses
import EntityStore.Proofs.Model.Resaving
import EntityStore.Proofs.Client.Resolution
import EntityStore.Proofs.Client.Descendants
import EntityStore.Proofs.Model.Starting
import EntityStore.Proofs.Query.Positions
import EntityStore.Proofs.Query.Trace
import EntityStore.Proofs.Query.Tokens
import EntityStore.Proofs.Value.Handle
import EntityStore.Proofs.Schema.Coverage
import EntityStore.Proofs.Store.Subtrees
import EntityStore.Proofs.Query.Addressing
import EntityStore.Proofs.Schema.Pedigree
