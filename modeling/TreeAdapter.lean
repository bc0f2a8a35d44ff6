import TreeAdapter.Main
import TreeAdapter.Number.Primes
import TreeAdapter.Service.Stock
import TreeAdapter.Value.Shape
import TreeAdapter.World.Liveness
import TreeAdapter.World.Predicates
import TreeAdapter.Proofs.Registry.Registration
import TreeAdapter.Proofs.Registry.Order
import TreeAdapter.Proofs.Text
import TreeAdapter.Proofs.Path
import TreeAdapter.Proofs.Path.Join
import TreeAdapter.Proofs.Path.Bare
import TreeAdapter.Proofs.Tree.Node
import TreeAdapter.Proofs.Tree.Table
import TreeAdapter.Proofs.Tree.Simulation
import TreeAdapter.Proofs.Tree.Coherence
import TreeAdapter.Proofs.Tree.Removal
import TreeAdapter.Proofs.Tree.Insertion
import TreeAdapter.Proofs.Tree.Loading
import TreeAdapter.Proofs.Tree.Placement
import TreeAdapter.Proofs.Tree.Writing
import TreeAdapter.Proofs.World.Cache
import TreeAdapter.Proofs.World.Step
import TreeAdapter.Proofs.World.Course
import TreeAdapter.Proofs.World.Run
import TreeAdapter.Proofs.World.Answer
import TreeAdapter.Proofs.Address
import TreeAdapter.Proofs.Address.CacheKey
import TreeAdapter.Proofs.Address.DerivedKey
import TreeAdapter.Proofs.World.Addressing
import TreeAdapter.Proofs.World.CallOrder
import TreeAdapter.Proofs.World.SharedKey
import TreeAdapter.Proofs.Registry.Inheritance
import TreeAdapter.Proofs.Registry.Search
import TreeAdapter.Proofs.Value.Cast
import TreeAdapter.Proofs.World.Listing
import TreeAdapter.Proofs.World.Collection
import TreeAdapter.Proofs.World.Forwarding
import TreeAdapter.Proofs.World.Identity
import TreeAdapter.Proofs.World.Ownership
import TreeAdapter.Proofs.DeclaredType
import TreeAdapter.Proofs.Number
import TreeAdapter.Proofs.Number.Double
import TreeAdapter.Proofs.Text.Quoted
import TreeAdapter.Proofs.Service.Filter
import TreeAdapter.Proofs.Service.Lookup
import TreeAdapter.Proofs.Value.ReadBack
import TreeAdapter.Proofs.Text.ByteOrder
import TreeAdapter.Proofs.World.LenientKey
import TreeAdapter.Proofs.Time.Civil
import TreeAdapter.Proofs.Time.Rfc3339
import TreeAdapter.Proofs.Value.Dates
import TreeAdapter.Proofs.World.Setter
import TreeAdapter.Proofs.World.Naming
import TreeAdapter.Proofs.World.Absence
import TreeAdapter.Proofs.World.Description
