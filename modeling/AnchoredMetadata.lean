import AnchoredMetadata.Main
import AnchoredMetadata.Repository.Calls
import AnchoredMetadata.Repository.Supply
import AnchoredMetadata.SigningTrust
import AnchoredMetadata.Time.Timestamp
import AnchoredMetadata.Proofs.KeyMap
import AnchoredMetadata.Proofs.Time.Earliest
import AnchoredMetadata.Proofs.Repository.Making
import AnchoredMetadata.Proofs.Repository.Refresh
import AnchoredMetadata.Proofs.Repository.Ledger
import AnchoredMetadata.Proofs.Repository.Lock
import AnchoredMetadata.Proofs.Repository.Ownership
import AnchoredMetadata.Proofs.Repository.Whole
import AnchoredMetadata.Proofs.Repository.Outcome
import AnchoredMetadata.Proofs.Repository.Rebuild
import AnchoredMetadata.Proofs.Metadata.Filter
import AnchoredMetadata.Proofs.Metadata.Restrict
import AnchoredMetadata.Proofs.Metadata.Survivors
import AnchoredMetadata.Proofs.Metadata.RoleFilters
import AnchoredMetadata.Proofs.Metadata.Unreadable
import AnchoredMetadata.Proofs.Metadata.SigningKeys
import AnchoredMetadata.Proofs.Resolver.Polling
import AnchoredMetadata.Proofs.TrustStore
import AnchoredMetadata.Proofs.Certificate.Chain
import AnchoredMetadata.Proofs.Certificate.Expiry
import AnchoredMetadata.Proofs.Repository.Derivation
import AnchoredMetadata.Proofs.Resolver.Destruction
import AnchoredMetadata.Proofs.Trace
import AnchoredMetadata.Proofs.Repository.Order
import AnchoredMetadata.Proofs.Location
import AnchoredMetadata.Proofs.Anchor.Source
import AnchoredMetadata.Proofs.Repository.Outage
import AnchoredMetadata.Proofs.Validation
import AnchoredMetadata.Proofs.Text.Utf8
import AnchoredMetadata.Proofs.Json.Records
import AnchoredMetadata.Proofs.Json.Accepted
import AnchoredMetadata.Proofs.Metadata.Document
import AnchoredMetadata.Proofs.Base64
import AnchoredMetadata.Proofs.Anchor.KeySet
import AnchoredMetadata.Proofs.Location.Base
import AnchoredMetadata.Proofs.Metadata.Flattening
import AnchoredMetadata.Proofs.Metadata.FirstEntity
import AnchoredMetadata.Proofs.Resolver.Publishing
import AnchoredMetadata.Proofs.Certificate.ObjectIdentifier
import AnchoredMetadata.Proofs.Certificate.Name
import AnchoredMetadata.Proofs.Certificate.Issuing
import AnchoredMetadata.Proofs.Scheduler
import AnchoredMetadata.Proofs.Resolver.Expiry
import AnchoredMetadata.Proofs.Base64.Canonical
import AnchoredMetadata.Proofs.Metadata.Losses
import AnchoredMetadata.Proofs.Certificate.Bundle
import AnchoredMetadata.Proofs.Certificate.Trailing
import AnchoredMetadata.Proofs.TrustStore.Insertions
import AnchoredMetadata.Proofs.Disk
import AnchoredMetadata.Proofs.Service.Document
import AnchoredMetadata.Proofs.Service.File
