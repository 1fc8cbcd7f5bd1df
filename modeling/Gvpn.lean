import Gvpn.Proofs.Accounting
import Gvpn.Proofs.Backpressure
import Gvpn.Proofs.BatchCaps
import Gvpn.Proofs.CacheFetch
import Gvpn.Proofs.CacheLifetime
import Gvpn.Proofs.Chunked
import Gvpn.Proofs.Cidr
import Gvpn.Proofs.OwnAnswers
import Gvpn.Proofs.Cooldown
import Gvpn.Proofs.Cors
import Gvpn.Proofs.Daily
import Gvpn.Proofs.Decoders
import Gvpn.Proofs.DnsWalk
import Gvpn.Proofs.Elevation
import Gvpn.Proofs.Forward
import Gvpn.Proofs.GraphqlUrl
import Gvpn.Proofs.H2
import Gvpn.Proofs.Hosts
import Gvpn.Proofs.LateOutcome
import Gvpn.Proofs.Lifecycle
import Gvpn.Proofs.Migration
import Gvpn.Proofs.Pacific
import Gvpn.Proofs.Passthrough
import Gvpn.Proofs.Persistence
import Gvpn.Proofs.Policy
import Gvpn.Proofs.PooledResponse
import Gvpn.Proofs.QuotaGuard
import Gvpn.Proofs.RelayBatch
import Gvpn.Proofs.ReplyTimeout
import Gvpn.Proofs.ResponseCache
import Gvpn.Proofs.ResponseSize
import Gvpn.Proofs.RttTracker
import Gvpn.Proofs.SheetCache
import Gvpn.Proofs.TunnelLoop
import Gvpn.Proofs.UdpClosing
import Gvpn.Proofs.UdpFilter
import Gvpn.Proofs.UdpQueue
import Gvpn.Proofs.UdpgwStream
import Gvpn.Proofs.UdpgwTeardown
import Gvpn.Proofs.Unreachable
import Gvpn.Proofs.Updates
import Gvpn.Proofs.UploadCapture
import Gvpn.Proofs.UserHtml
import Gvpn.Proofs.Waiting
import Gvpn.Proofs.Worker
import Gvpn.Proofs.WriteOrder
import Gvpn.Update.Version
