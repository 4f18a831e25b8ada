import GoCleanArch.GoRuntime
import GoCleanArch.Strconv
import GoCleanArch.Glob
import GoCleanArch.FilepathMatch
import GoCleanArch.SetCodec
import GoCleanArch.CacheClient
import GoCleanArch.MemoryCache
import GoCleanArch.RedisGlob
import GoCleanArch.RedisServer
import GoCleanArch.RedisCache
import GoCleanArch.CounterWindow
import GoCleanArch.RateLimit
import GoCleanArch.ClientOp
import GoCleanArch.ExpirySweep
import GoCleanArch.DistributedLock
import GoCleanArch.AuthDomain
import GoCleanArch.AuthUsecase
import GoCleanArch.SessionSafety
import GoCleanArch.Authenticator
import GoCleanArch.SetRefinement
import GoCleanArch.HashRefinement
import GoCleanArch.KeyListing
import GoCleanArch.BackendAgreement
import GoCleanArch.Counters
import GoCleanArch.SetExpiry
import GoCleanArch.CacheKey
import GoCleanArch.Pagination
import GoCleanArch.BatchSend
import GoCleanArch.TimeSeries
import GoCleanArch.UserRoutes
import GoCleanArch.FileLinks
import GoCleanArch.RedisSetRefinement
import GoCleanArch.EmailTemplates
import GoCleanArch.TemplateRegistry
import GoCleanArch.EmailLogs
import GoCleanArch.EmailDelivery
import GoCleanArch.TemplateSeeder
import GoCleanArch.TemplateFields
import GoCleanArch.Cors
import GoCleanArch.PasswordChange
import GoCleanArch.UserSearch
import GoCleanArch.EmailLogFilter
