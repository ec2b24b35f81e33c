import VibeConnect.Python.Coroutine
import VibeConnect.Python.JsonCodec
import VibeConnect.Python.JsonArray
import VibeConnect.Python.JsonDumps
import VibeConnect.Python.Stream
import VibeConnect.Python.Queues
import VibeConnect.Python.Tasks
import VibeConnect.Python.Statements
import VibeConnect.Models
import VibeConnect.TunnelProtocol
import VibeConnect.FrameReaders
import VibeConnect.TunnelState
import VibeConnect.StreamAdapter
import VibeConnect.ChannelBuffers
import VibeConnect.TunnelReadmission
import VibeConnect.ChannelLaw
import VibeConnect.AgentChannels
import VibeConnect.TunnelAuthenticator
import VibeConnect.TunnelBroker
import VibeConnect.TunnelAdmission
import VibeConnect.BrokerInvariant
import VibeConnect.BrokerCalls
import VibeConnect.BrokerRuns
import VibeConnect.WireDiscipline
import VibeConnect.AgentTunnel
import VibeConnect.AgentIsolation
import VibeConnect.AgentRelease
import VibeConnect.TunnelLink
import VibeConnect.Revocation
import VibeConnect.RevocationRuns
import VibeConnect.LinkInvariant
import VibeConnect.LinkRuns
import VibeConnect.LinkDelivery
import VibeConnect.AgentEndings
import VibeConnect.JumpCoordinator
import VibeConnect.JumpChecks
import VibeConnect.JumpRecovery
import VibeConnect.Replay
import VibeConnect.JumpBridge
import VibeConnect.BridgeRecovery
import VibeConnect.JumpRuns
import VibeConnect.ReplayKept
import VibeConnect.ReplayFile
import VibeConnect.ReplayPruning
import VibeConnect.ReplayEndings
import VibeConnect.SessionRows
import VibeConnect.ShellSession
import VibeConnect.ShellRules
import VibeConnect.SessionRuns
import VibeConnect.MandatoryCapture
import VibeConnect.ReplayTimes
import VibeConnect.InputOrder
import VibeConnect.OutputRelay
import VibeConnect.AuditWriter
import VibeConnect.Migrations
import VibeConnect.MigrationRuns
import VibeConnect.Enrollment
import VibeConnect.LimiterCount
import VibeConnect.EnrollmentLedger
import VibeConnect.EnrollmentTokens
import VibeConnect.EnrollmentRollback
import VibeConnect.EnrollmentFailures
import VibeConnect.EnrollmentRaces
import VibeConnect.RaceRuns
import VibeConnect.Python.RelatedRuns
import VibeConnect.EnrollmentStores
import VibeConnect.AdminService
import VibeConnect.AdminAudit
import VibeConnect.Python.Calls
import VibeConnect.CaRotation
import VibeConnect.CertificateRenewal
import VibeConnect.AgentKey
import VibeConnect.Reenrollment
import VibeConnect.SecretRotation
import VibeConnect.AgentReconnect
import VibeConnect.JumpRules
import VibeConnect.SessionPaths
import VibeConnect.SessionTrail
import VibeConnect.TrailRights
import VibeConnect.TrailEndings
import VibeConnect.TrailRuns
import VibeConnect.TokenReissue
import VibeConnect.TunnelFaults
import VibeConnect.RotationFrame
import VibeConnect.TunnelRejection
import VibeConnect.AgentSurvival
import VibeConnect.TokenAttribution
import VibeConnect.FrameBounds
import VibeConnect.NodeOpener
import VibeConnect.Python.ConfigParser
import VibeConnect.AgentConf
import VibeConnect.BrokerTransport
import VibeConnect.TransportCallbacks
import VibeConnect.TransportWrites
import VibeConnect.StreamReaders
import VibeConnect.AgentEnrollment
import VibeConnect.Python.Dict
import VibeConnect.Python.YamlValue
import VibeConnect.Python.Links
import VibeConnect.Python.Address
import VibeConnect.Python.Url
import VibeConnect.Python.Interpolation
import VibeConnect.Python.ConfigText
import VibeConnect.ConfigChecks
import VibeConnect.ProxyTarget
import VibeConnect.EnrollmentPackage
import VibeConnect.PackageText
import VibeConnect.PackageReading
import VibeConnect.Authorization
import VibeConnect.AgentMain
import VibeConnect.AgentLife
import VibeConnect.AuthorizedKeys
import VibeConnect.SshServer
import VibeConnect.ServerStartup
import VibeConnect.RuntimeSettings
import VibeConnect.ServerRuntime
import VibeConnect.NodeAccess
import VibeConnect.AdminListings
import VibeConnect.AzureGroups
import VibeConnect.LdapFilter
import VibeConnect.ConnectCommand
