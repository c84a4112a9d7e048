import LocalProxy.Polling
import LocalProxy.Fragment
import LocalProxy.FragmentRun
import LocalProxy.FragmentInvariant
import LocalProxy.FragmentPolls
import LocalProxy.FragmentDelivery
import LocalProxy.FragmentClientHello
import LocalProxy.StdNet
import LocalProxy.Addr
import LocalProxy.Programs
import LocalProxy.Select
import LocalProxy.Http
import LocalProxy.SendRequest
import LocalProxy.Network
import LocalProxy.Outbound
import LocalProxy.Service
import LocalProxy.AddrText
import LocalProxy.HostHeader
import LocalProxy.Calls
import LocalProxy.Handshake
import LocalProxy.Route
import LocalProxy.MainStack
import LocalProxy.HappyEyeballs
import LocalProxy.Resolution
import LocalProxy.DohQuery
import LocalProxy.DnsService
import LocalProxy.DnsReplies
import LocalProxy.FragmentFrames
import LocalProxy.FragmentDecision
import LocalProxy.FragmentRetry
import LocalProxy.FragmentEncoder
import LocalProxy.FragmentReturns
import LocalProxy.Peers
import LocalProxy.SocksReply
import LocalProxy.SocksRequest
import LocalProxy.Socks4Request
import LocalProxy.Upgrades
import LocalProxy.FakeHost
import LocalProxy.FragmentPanics
import LocalProxy.LabelWire
import LocalProxy.Natlook
import LocalProxy.ResolvedNames
import LocalProxy.Forwarding
import LocalProxy.Credentials
import LocalProxy.UriText
import LocalProxy.Monitors
import LocalProxy.Handles
import LocalProxy.Isolation
import LocalProxy.Journey
import LocalProxy.Conversation
import LocalProxy.Streams
import LocalProxy.Fragmentation
import LocalProxy.Listening
import LocalProxy.RedirTypes
import LocalProxy.Embeddings
import LocalProxy.Redirection
import LocalProxy.Expiry
import LocalProxy.CacheAge
import LocalProxy.Exchanges
import LocalProxy.Chaining
import LocalProxy.Crashes
import LocalProxy.Dialogues
import LocalProxy.Startup
import LocalProxy.Confinement
import LocalProxy.Openings
import LocalProxy.Process
import LocalProxy.Translation
