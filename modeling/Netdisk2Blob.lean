import Netdisk2Blob.Metadata.RetentionReaders
import Netdisk2Blob.Gateway.ReplicationSafety
import Netdisk2Blob.Gateway.JobOutcomes
import Netdisk2Blob.Gateway.QueueRollback
import Netdisk2Blob.Gateway.MultipartCompletion
import Netdisk2Blob.ObjectCrypto.Integrity
import Netdisk2Blob.ControlPlane.References
import Netdisk2Blob.Backup.ArchiveIntegrity
import Netdisk2Blob.Backup.KeyReadability
import Netdisk2Blob.Backup.CheckpointSafety
import Netdisk2Blob.Providers.PathFidelity
import Netdisk2Blob.Gateway.ReconcileCandidates
import Netdisk2Blob.Gateway.LogRecordKeys
import Netdisk2Blob.ObjectCrypto.DeclaredSize
import Netdisk2Blob.Gateway.JobIdRuns
import Netdisk2Blob.Gateway.BatchTruthRuns
import Netdisk2Blob.Gateway.RangeReads
import Netdisk2Blob.Gateway.RequestDates
import Netdisk2Blob.Gateway.ReadAvailability
import Netdisk2Blob.Gateway.CompletePartsXml
import Netdisk2Blob.Gateway.BatchPreview
import Netdisk2Blob.Gateway.ReconcilePlacement
import Netdisk2Blob.Gateway.AddressingStyles
import Netdisk2Blob.ControlPlane.PermissionScopes
import Netdisk2Blob.Backup.ScheduledRuns
import Netdisk2Blob.Replication.QueueRuns
import Netdisk2Blob.Metadata.StateViews
import Netdisk2Blob.Gateway.ProjectionPages
import Netdisk2Blob.Providers.TelecomUploadRuns
import Netdisk2Blob.Providers.ListingPages
import Netdisk2Blob.Providers.FailedActions
import Netdisk2Blob.Flows.DryRuns
import Netdisk2Blob.Flows.TransientInputs
import Netdisk2Blob.Flows.Prerequisites
import Netdisk2Blob.Mcp.ControlPlaneClient
