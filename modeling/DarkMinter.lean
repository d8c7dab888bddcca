import DarkMinter.Lib.Runs
import DarkMinter.Lib.Transaction
import DarkMinter.Noid
import DarkMinter.Publication
import DarkMinter.Authority
import DarkMinter.ArkApi
import DarkMinter.Requests
import DarkMinter.Retry
import DarkMinter.ChainCycle
import DarkMinter.Deployment
import DarkMinter.Attempts
import DarkMinter.ResultApplication
import DarkMinter.Submission
import DarkMinter.PipelineInvariant
import DarkMinter.InFlight
import DarkMinter.RetryBudget
import DarkMinter.Counters
import DarkMinter.CounterHistory
import DarkMinter.Ownership
import DarkMinter.Encoding
import DarkMinter.Lib.Dict
import DarkMinter.SignedAuth
import DarkMinter.AuthSteps
import DarkMinter.Nonces
import DarkMinter.KeyRotation
import DarkMinter.Lib.Savepoint
import DarkMinter.BatchReserve
import DarkMinter.BatchReports
import DarkMinter.Workload
import DarkMinter.Tombstones
import DarkMinter.Atomicity
import DarkMinter.ErrorFields
import DarkMinter.Selection
import DarkMinter.Retention
import DarkMinter.ChainPacing
import DarkMinter.Singleton
import DarkMinter.ImportCsv
import DarkMinter.ImportRuns
import DarkMinter.Identifiers
import DarkMinter.Idempotency
import DarkMinter.PageGrowth
import DarkMinter.PromotionBudget
import DarkMinter.RuntimeStatus
import DarkMinter.WakePlan
import DarkMinter.RepeatedDelete
import DarkMinter.StorageAnswers
import DarkMinter.Rescheduling
import DarkMinter.Uncertainty
import DarkMinter.Repairs
import DarkMinter.RuntimeRows
import DarkMinter.Lib.Checksum
import DarkMinter.Lib.Numerals
import DarkMinter.Minting
import DarkMinter.Checkdigit
import DarkMinter.Statistics
import DarkMinter.CycleAccounting
import DarkMinter.Purging
import DarkMinter.Lib.Percentile
import DarkMinter.Lib.Recency
import DarkMinter.BacklogAge
import DarkMinter.AuthCache
import DarkMinter.IdleBackoff
import DarkMinter.FailureCounts
import DarkMinter.Lib.SessionLocks
import DarkMinter.Lib.Turns
import DarkMinter.ArkLocks
import DarkMinter.ArkExclusion
import DarkMinter.Lib.Remembrance
import DarkMinter.ReplicationCycle
import DarkMinter.Lib.Succession
import DarkMinter.Custody
import DarkMinter.Completion
import DarkMinter.Lib.ThreadPool
import DarkMinter.MetadataCycle
import DarkMinter.Lib.Tables
import DarkMinter.Monitoring
import DarkMinter.StatusReads
import DarkMinter.WorkerReports
import DarkMinter.RetryRequests
import DarkMinter.NaanCheck
