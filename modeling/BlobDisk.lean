import BlobDisk.Main
import BlobDisk.Testbed.Machine
import BlobDisk.Proofs.Mount.Exclusion
import BlobDisk.Proofs.Mount.Cleanup
import BlobDisk.Proofs.Mount.Acceptance
import BlobDisk.Proofs.Mount.Fit
import BlobDisk.Proofs.Mount.Vetting
import BlobDisk.Proofs.Mount.Failure
import BlobDisk.Proofs.Mount.Given
import BlobDisk.Proofs.Mount.Addressing
import BlobDisk.Proofs.Service.Metadata
import BlobDisk.Proofs.Service.Targets
import BlobDisk.Proofs.Device.Ledger
import BlobDisk.Proofs.Device.Leases
import BlobDisk.Proofs.Device.Reattach
import BlobDisk.Proofs.Channel.Discipline
import BlobDisk.Proofs.Channel.Capacity
import BlobDisk.Proofs.Channel.Staleness
import BlobDisk.Proofs.Record.Encoding
import BlobDisk.Proofs.Store.Survival
import BlobDisk.Proofs.Store.Creation
import BlobDisk.Proofs.Store.Bytes
import BlobDisk.Proofs.Store.Reachable
import BlobDisk.Proofs.Store.Acquisition
import BlobDisk.Proofs.Store.Probe
import BlobDisk.Proofs.Store.Refusal
import BlobDisk.Proofs.Store.Deletion
import BlobDisk.Proofs.Store.WellFormed
import BlobDisk.Proofs.Device.Removal
import BlobDisk.Proofs.Device.Traversal
import BlobDisk.Proofs.Mount.Composition
import BlobDisk.Proofs.Vhd.Geometry
import BlobDisk.Proofs.Vhd.Integrity
import BlobDisk.Proofs.Service.Canonical
import BlobDisk.Proofs.Record.Grammar
import BlobDisk.Proofs.Record.Verdict
import BlobDisk.Proofs.Record.Sizes
import BlobDisk.Proofs.Text.Base64
import BlobDisk.Proofs.Settings.References
import BlobDisk.Proofs.Labels
import BlobDisk.Proofs.Columns
