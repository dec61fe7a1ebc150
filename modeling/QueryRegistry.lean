import QueryRegistry.Json.Reader
import QueryRegistry.Main
import QueryRegistry.Proofs.Document.Respacing
import QueryRegistry.Proofs.Document.RoundTrip
import QueryRegistry.Proofs.Document.TokenEnd
import QueryRegistry.Proofs.Fragment.Calls
import QueryRegistry.Proofs.Fragment.Descent
import QueryRegistry.Proofs.Fragment.Discovery
import QueryRegistry.Proofs.Fragment.Faults
import QueryRegistry.Proofs.Fragment.Indexing
import QueryRegistry.Proofs.Fragment.Invariant
import QueryRegistry.Proofs.Invocation.Outcome
import QueryRegistry.Proofs.Registration.Extension
import QueryRegistry.Proofs.Registration.Failures
import QueryRegistry.Proofs.Registration.Notes
import QueryRegistry.Proofs.Registration.SelfContained
import QueryRegistry.Proofs.Session.Normalizing
import QueryRegistry.Proofs.Typename.Change
import QueryRegistry.Proofs.Typename.Commutation
import QueryRegistry.Proofs.Typename.Completion
