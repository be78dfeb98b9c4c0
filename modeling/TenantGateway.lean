import TenantGateway.Catalog.History
import TenantGateway.Composer.History
import TenantGateway.ControlPlane
import TenantGateway.Domain.History
import TenantGateway.Feed.Replica
import TenantGateway.Feed.Session
import TenantGateway.Gateway.Reach
import TenantGateway.Store.Plain
import TenantGateway.Sync.Live
import TenantGateway.Sync.Session
import TenantGateway.Sync.WatchHistory
import TenantGateway.Proofs.Entries
import TenantGateway.Proofs.Store.Index
import TenantGateway.Proofs.Store.Refinement
import TenantGateway.Proofs.Store.Order
import TenantGateway.Proofs.Store.Removal
import TenantGateway.Proofs.Run
import TenantGateway.Proofs.Store.Run
import TenantGateway.Proofs.Dictionary
import TenantGateway.Proofs.Feed.Delivery
import TenantGateway.Proofs.Feed.Replica
import TenantGateway.Proofs.Catalog
import TenantGateway.Proofs.Composer
import TenantGateway.Proofs.Sync.Convergence
import TenantGateway.Proofs.ControlPlane
import TenantGateway.Proofs.Sync.Deletion
import TenantGateway.Proofs.Sync.Replacement
import TenantGateway.Proofs.Composer.History
import TenantGateway.Proofs.Domain.Claiming
import TenantGateway.Proofs.ControlPlane.Bridging
import TenantGateway.Proofs.ControlPlane.Publishing
import TenantGateway.Proofs.ControlPlane.Closing
import TenantGateway.Proofs.ControlPlane.Metering
import TenantGateway.Proofs.Filing
import TenantGateway.Proofs.ControlPlane.Replaying
import TenantGateway.Proofs.Composer.Layers
import TenantGateway.Proofs.Sync.Effect
import TenantGateway.Proofs.Sync.Handling
import TenantGateway.Proofs.Sync.Revocation
import TenantGateway.Proofs.Sync.Frame
import TenantGateway.Proofs.Sync.Independence
import TenantGateway.Proofs.Seed.Sending
import TenantGateway.Proofs.Gateway.Readiness
import TenantGateway.Proofs.Gateway.Tracking
import TenantGateway.Proofs.Gateway.Seeding
import TenantGateway.Proofs.Gateway.Settling
import TenantGateway.Proofs.Sync.Mapping
import TenantGateway.Proofs.Composer.Whole
import TenantGateway.Proofs.Composer.Locality
import TenantGateway.Proofs.Composer.Losing
import TenantGateway.Proofs.Sync.Session
import TenantGateway.Proofs.Sync.Closing
import TenantGateway.Proofs.Sync.Watching
import TenantGateway.Proofs.Router.Choice
import TenantGateway.Proofs.Catalog.Order
import TenantGateway.Proofs.Host.Spelling
import TenantGateway.Proofs.Configuration
import TenantGateway.Proofs.Admin
