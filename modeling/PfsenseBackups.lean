import PfsenseBackups.AnchorHistory
import PfsenseBackups.AnchorTimeline
import PfsenseBackups.AuthGate
import PfsenseBackups.BackupAll
import PfsenseBackups.BackupMarks
import PfsenseBackups.BackupOutcome
import PfsenseBackups.BackupReaders
import PfsenseBackups.BackupRun
import PfsenseBackups.Bases
import PfsenseBackups.BlamePruning
import PfsenseBackups.BlameSurfaces
import PfsenseBackups.ChangeAlerts
import PfsenseBackups.ChangedAnchors
import PfsenseBackups.CountCap
import PfsenseBackups.CronDialects
import PfsenseBackups.CryptoLayers
import PfsenseBackups.CumulativeChanges
import PfsenseBackups.DiffCache
import PfsenseBackups.DiffPatches
import PfsenseBackups.DiffRequests
import PfsenseBackups.DiffReversal
import PfsenseBackups.Dispatch
import PfsenseBackups.EffectTraces
import PfsenseBackups.ElementTree
import PfsenseBackups.EncryptionSettings
import PfsenseBackups.Entries
import PfsenseBackups.EnumeratedAnchors
import PfsenseBackups.EventLog
import PfsenseBackups.EventReplay
import PfsenseBackups.FieldEvents
import PfsenseBackups.ForeignKeys
import PfsenseBackups.FrontendIds
import PfsenseBackups.GuardedLoops
import PfsenseBackups.HistoryCache
import PfsenseBackups.HostCaps
import PfsenseBackups.InspectionPackages
import PfsenseBackups.InstanceDeletion
import PfsenseBackups.InstanceForms
import PfsenseBackups.InstanceLocks
import PfsenseBackups.Interleavings
import PfsenseBackups.IpcCommands
import PfsenseBackups.JobRuns
import PfsenseBackups.Jobs
import PfsenseBackups.JsonReader
import PfsenseBackups.JsonText
import PfsenseBackups.KeyRotation
import PfsenseBackups.KeyedPermits
import PfsenseBackups.Like
import PfsenseBackups.LiveLog
import PfsenseBackups.LockOrder
import PfsenseBackups.LoginSessions
import PfsenseBackups.LruCaches
import PfsenseBackups.NatKeys
import PfsenseBackups.NetworkSections
import PfsenseBackups.Newest
import PfsenseBackups.NotificationForms
import PfsenseBackups.NotificationScopes
import PfsenseBackups.Notifications
import PfsenseBackups.Numbering
import PfsenseBackups.OffsiteOnly
import PfsenseBackups.PackageEvents
import PfsenseBackups.Pages
import PfsenseBackups.PatternSearch
import PfsenseBackups.Payloads
import PfsenseBackups.PfsenseCrypto
import PfsenseBackups.PfsenseParser
import PfsenseBackups.PfsenseSessions
import PfsenseBackups.PlaintextUploads
import PfsenseBackups.Positions
import PfsenseBackups.PythonText
import PfsenseBackups.Redaction
import PfsenseBackups.Reencryption
import PfsenseBackups.RelativeOrder
import PfsenseBackups.RemoteTrees
import PfsenseBackups.ReorderEvents
import PfsenseBackups.ReplicaHealing
import PfsenseBackups.ReplicaKeys
import PfsenseBackups.Replication
import PfsenseBackups.ReplicationAlerts
import PfsenseBackups.ReplicationForms
import PfsenseBackups.ReplicationTests
import PfsenseBackups.Retention
import PfsenseBackups.RetentionSpec
import PfsenseBackups.RowFrames
import PfsenseBackups.RunOverrides
import PfsenseBackups.SavedForms
import PfsenseBackups.ScheduleForms
import PfsenseBackups.ScheduleMirror
import PfsenseBackups.SchedulePaths
import PfsenseBackups.Search
import PfsenseBackups.SearchPages
import PfsenseBackups.SearchTexts
import PfsenseBackups.Secrecy
import PfsenseBackups.SectionDecoding
import PfsenseBackups.ServicePackages
import PfsenseBackups.ServiceSections
import PfsenseBackups.SftpUploads
import PfsenseBackups.Shelf
import PfsenseBackups.SignedSessions
import PfsenseBackups.Splits
import PfsenseBackups.StaleAlerts
import PfsenseBackups.StaleCadence
import PfsenseBackups.Startup
import PfsenseBackups.StoredBackups
import PfsenseBackups.StoredValues
import PfsenseBackups.StrFormat
import PfsenseBackups.SystemSections
import PfsenseBackups.Tables
import PfsenseBackups.TokenAuth
import PfsenseBackups.Urls
import PfsenseBackups.VpnSections
import PfsenseBackups.WallClock
import PfsenseBackups.WebSocketOrigins
import PfsenseBackups.Wrappers
import PfsenseBackups.ZipNames
