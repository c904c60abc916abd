import RoleGate.Key.Printer
import RoleGate.Registry
import RoleGate.Session
import RoleGate.Proofs.Key.Canonical
import RoleGate.Proofs.Key.Idempotence
import RoleGate.Proofs.Key.Layout
import RoleGate.Proofs.Engine.Access
import RoleGate.Proofs.Engine.Advisory
import RoleGate.Proofs.Engine.Explanation
import RoleGate.Proofs.Engine.Failure
import RoleGate.Proofs.Engine.Order
import RoleGate.Proofs.Engine.Stored
import RoleGate.Proofs.Ruling.Lookup
import RoleGate.Proofs.Engine.Bulk
import RoleGate.Proofs.Engine.Privilege
import RoleGate.Proofs.Ruling.Overload
import RoleGate.Proofs.Engine.Outage
import RoleGate.Proofs.Engine.Catalog
import RoleGate.Proofs.Store.Edit
import RoleGate.Proofs.Store.History
import RoleGate.Proofs.Guard.Spelling
import RoleGate.Proofs.Ruling.Concern
import RoleGate.Proofs.Engine.Headless
import RoleGate.Proofs.Engine.Locality
import RoleGate.Proofs.Engine.Reference
import RoleGate.Proofs.Key.Exactness
import RoleGate.Proofs.Key.Respacing
import RoleGate.Proofs.Roles.Layout
import RoleGate.Proofs.Invocation.Grammar
import RoleGate.Proofs.Engine.Padding
import RoleGate.Proofs.Engine.Wildcard
import RoleGate.Proofs.Resource.Grammar
import RoleGate.Proofs.Session.Recollection
import RoleGate.Proofs.Session.Recall
import RoleGate.Proofs.Session.Journal
import RoleGate.Proofs.Registry.History
