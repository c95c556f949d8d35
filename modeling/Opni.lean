import Opni.Patch.Sync
import Opni.Patch.CachePatches
import Opni.Alerting.Delivery
import Opni.Alerting.AlarmRuns
import Opni.Alerting.IncidentHistory
import Opni.Auth.Cluster
import Opni.Bootstrap.AllOrNothing
import Opni.Management.ResolveClusters
import Opni.Storage.WatchEvents
import Opni.Task.LifeCycle
import Opni.Task.Relaunch
import Opni.Alerting.Timeline
import Opni.Alerting.SyncHash
import Opni.Patch.ManifestDigest
import Opni.Storage.TokenLife
import Opni.AgentHealth.Deadlock
import Opni.Storage.TokenStores
import Opni.Alerting.Enforcement
import Opni.Alerting.RemoteSyncDelivery
import Opni.Opensearch.RolesMapping
import Opni.Plugins.Hooks
import Opni.Storage.KeyValueMaps
import Opni.Capabilities.UninstallRuns
import Opni.Metrics.ImportComplete
import Opni.Objectives.FailedChanges
import Opni.Objectives.OwnRequest
import Opni.Gateway.Broadcast
import Opni.Gateway.SyncRequests
import Opni.Logging.NodePools
import Opni.Logging.Removal
import Opni.Metrics.KeptSecrets
import Opni.Objectives.CloneTargets
import Opni.Alerting.ClusterChecks
import Opni.Alerting.SyncerServer
import Opni.Rbac.ListBindings
import Opni.Storage.WatchCluster
import Opni.Capabilities.Mutators
import Opni.Management.EditCluster
import Opni.Management.DeleteCluster
import Opni.AgentHealth.ConditionTracker
import Opni.AgentHealth.Aggregator
import Opni.AgentHealth.PublishedOrder
import Opni.Auth.UserInfoCache
import Opni.Gateway.NodeSync
import Opni.Util.WaitContext
import Opni.Aiops.Aggregation
