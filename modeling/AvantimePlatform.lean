import AvantimePlatform.Queue.RedisServer
import AvantimePlatform.Queue.Interchange
import AvantimePlatform.Pipeline.Stranded
import AvantimePlatform.Pipeline.Derivatives
import AvantimePlatform.Pipeline.Fencing
import AvantimePlatform.Pipeline.Attempts
import AvantimePlatform.Documents.LocalMetadata
import AvantimePlatform.Documents.PostgreSQLMetadata
import AvantimePlatform.Documents.MetadataWrites
import AvantimePlatform.Ai.MemoryBudget
import AvantimePlatform.Jira.StatusEvents
import AvantimePlatform.Jira.CommentEvents
import AvantimePlatform.Jira.Webhooks
import AvantimePlatform.Jira.CommentPosts
import AvantimePlatform.Governance.PlatformOwners
import AvantimePlatform.Governance.PublicArticles
import AvantimePlatform.Team.LastOwner
import AvantimePlatform.Team.Invitations
import AvantimePlatform.Team.Ranks
import AvantimePlatform.Identity.GuessLimit
import AvantimePlatform.Identity.OneAuthenticator
import AvantimePlatform.Identity.ExternalLogin
import AvantimePlatform.Identity.RequiredSso
import AvantimePlatform.Identity.PasswordChange
import AvantimePlatform.Jira.OperatorActions
import AvantimePlatform.Jira.StatusOrders
import AvantimePlatform.Identity.ExpectedVersions
import AvantimePlatform.Identity.ProviderSessions
import AvantimePlatform.LeaseProtocols
import AvantimePlatform.RateWindows
import AvantimePlatform.Ai.RateInterchange
import AvantimePlatform.Queue.EmbeddingInterchange
import AvantimePlatform.Ai.LedgerBudget
import AvantimePlatform.Ai.CostInterchange
import AvantimePlatform.Identity.SessionValidity
import AvantimePlatform.Rag.AnswerMarkers
import AvantimePlatform.Rag.PageChunks
import AvantimePlatform.Rag.HybridRanking
import AvantimePlatform.Embedding.Reindex
import AvantimePlatform.Documents.History
import AvantimePlatform.Rag.Citations
import AvantimePlatform.Rag.ProviderContext
import AvantimePlatform.Documents.Intelligence
import AvantimePlatform.Documents.OcrPages
import AvantimePlatform.Documents.MetadataCreate
import AvantimePlatform.Documents.Migration
import AvantimePlatform.Documents.MigrationCopies
import AvantimePlatform.Documents.MigrationRehearsal
import AvantimePlatform.Documents.MigratedMetadata
import AvantimePlatform.Lib.Solid
import AvantimePlatform.Governance.OwnerBootstrap
import AvantimePlatform.Identity.GracePeriod
import AvantimePlatform.Identity.SecretVersions
import AvantimePlatform.Governance.Fingerprints
import AvantimePlatform.Governance.EvidenceFiles
import AvantimePlatform.Jira.SafeText
import AvantimePlatform.Jira.StatusNames
import AvantimePlatform.Identity.Base32
import AvantimePlatform.Documents.TextQuality
import AvantimePlatform.Rag.VectorRecords
import AvantimePlatform.Identity.OidcHttp
import AvantimePlatform.Identity.ReturnTo
import AvantimePlatform.Embedding.VectorTables
import AvantimePlatform.Ai.Gateway
import AvantimePlatform.Identity.EmailVerification
