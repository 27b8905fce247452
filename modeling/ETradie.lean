import ETradie.Execution.BurstQueue
import ETradie.Gateway.Handoff
import ETradie.Execution.Claiming
import ETradie.Execution.PnlTracking
import ETradie.Execution.Exposure
import ETradie.Gateway.TradePlan
import ETradie.Execution.Reconciling
import ETradie.Execution.InstantWatcher
import ETradie.Execution.Instruments
import ETradie.Execution.HaltCache
import ETradie.Execution.Deadlines
import ETradie.Execution.WatcherManager
import ETradie.Management.PnlLedger
import ETradie.Management.VolumeSync
import ETradie.Management.TargetKept
import ETradie.Management.TargetLadder
import ETradie.Management.StopRules
import ETradie.Billing.Preflight
import ETradie.Billing.CapSafety
import ETradie.Billing.SoftCap
import ETradie.Billing.PolicyCache
import ETradie.Execution.AntiReplay
import ETradie.Gateway.Guards
import ETradie.Management.Restart
import ETradie.Management.TicketRace
import ETradie.Billing.Entitlement
import ETradie.Billing.Renewals
import ETradie.Billing.SweepRace
import ETradie.Billing.Checkout
import ETradie.Billing.ChangeReports
import ETradie.Billing.Breaker
import ETradie.Billing.RateLimiter
import ETradie.Billing.ClientKey
import ETradie.Auth.Rotation
import ETradie.Auth.Revocation
import ETradie.Auth.ReuseAlarm
import ETradie.Auth.PasswordHistory
import ETradie.Auth.Lockout
import ETradie.Auth.RequestWindow
import ETradie.Auth.ResetRace
import ETradie.EdgeIngress.PerIp
import ETradie.EdgeIngress.Health
import ETradie.Processor.FailOpen
import ETradie.Envoy.RetryAfter
import ETradie.Envoy.AdmissionBound
import ETradie.Envoy.Quota
import ETradie.Envoy.Recovery
import ETradie.Envoy.ClientIdentity
import ETradie.Envoy.Traversal
import ETradie.Ta.LivePoi
import ETradie.Ta.Evidence
import ETradie.Ta.SwingSweeps
import ETradie.Ta.Mirror
import ETradie.Management.Performance
import ETradie.Management.PositionStream
import ETradie.Management.HistorySync
import ETradie.Gateway.Runners
import ETradie.Envoy.Base64
import ETradie.Ta.Legs
import ETradie.Ta.ZoneDedup
import ETradie.Ta.Identity
