import AssetGraph.Inventory.Client
import AssetGraph.Main
import AssetGraph.Proofs.Delivery.Gate
import AssetGraph.Proofs.Delivery.Moment
import AssetGraph.Proofs.Delivery.Outcome
import AssetGraph.Proofs.Delivery.Redelivery
import AssetGraph.Proofs.Delivery.Restart
import AssetGraph.Proofs.Delivery.Signal
import AssetGraph.Proofs.Delivery.Smooth
import AssetGraph.Proofs.Delivery.Tally
import AssetGraph.Proofs.Delivery.Tombstone
import AssetGraph.Proofs.Delivery.Wait
import AssetGraph.Proofs.Entity.RoundTrip
import AssetGraph.Proofs.Event.Compatible
import AssetGraph.Proofs.Event.Metadata
import AssetGraph.Proofs.Event.Version
import AssetGraph.Proofs.Graph.Identifiers
import AssetGraph.Proofs.Graph.Integrity
import AssetGraph.Proofs.Graph.Pages
import AssetGraph.Proofs.Instant.Calendar
import AssetGraph.Proofs.Inventory.Address
import AssetGraph.Proofs.Inventory.Exchange
import AssetGraph.Proofs.Inventory.Query
import AssetGraph.Proofs.Inventory.ValidAt
import AssetGraph.Proofs.Reconcile.Account
import AssetGraph.Proofs.Reconcile.Again
import AssetGraph.Proofs.Reconcile.Cascade
import AssetGraph.Proofs.Reconcile.Commute
import AssetGraph.Proofs.Reconcile.Expiry
import AssetGraph.Proofs.Reconcile.Live
import AssetGraph.Proofs.Reconcile.OwnParent
import AssetGraph.Proofs.Reconcile.Reach
import AssetGraph.Proofs.Reconcile.Redated
import AssetGraph.Proofs.Reconcile.Retirement
import AssetGraph.Proofs.Reconcile.Setback
import AssetGraph.Proofs.Reconcile.Upsert
import AssetGraph.Proofs.Settings
import AssetGraph.Proofs.Url.Form
import AssetGraph.Scenario.World
