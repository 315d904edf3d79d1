import ShiepPipeline.Routing.Index
import ShiepPipeline.Concurrency.Monitor
import ShiepPipeline.Routing.Matcher
import ShiepPipeline.Routing.Cascade
import ShiepPipeline.Routing.Soundness
import ShiepPipeline.Routing.Literal
import ShiepPipeline.Routing.Extras
import ShiepPipeline.Routing.Monotone
import ShiepPipeline.Routing.Router
import ShiepPipeline.Collections.Sweep
import ShiepPipeline.Concurrency.Channel
import ShiepPipeline.Netstack.Smoltcp
import ShiepPipeline.Netstack.State
import ShiepPipeline.Netstack.Drive
import ShiepPipeline.Netstack.Loop
import ShiepPipeline.Netstack.Ownership
import ShiepPipeline.Netstack.Connection
import ShiepPipeline.Netstack.Upload
import ShiepPipeline.Netstack.Download
import ShiepPipeline.Netstack.Accounts
import ShiepPipeline.Netstack.Ports
import ShiepPipeline.Collections.Aligned
import ShiepPipeline.Routing.Table
import ShiepPipeline.Config
import ShiepPipeline.Concurrency.Thread
import ShiepPipeline.Concurrency.Fallible
import ShiepPipeline.Numeric.OnesComplement
import ShiepPipeline.Tunnel.Control
import ShiepPipeline.Tunnel.Messages
import ShiepPipeline.Tunnel.HeartbeatPacket
import ShiepPipeline.Tunnel.Reading
import ShiepPipeline.Tunnel.StreamOpen
import ShiepPipeline.Tunnel.RxWorker
import ShiepPipeline.Tunnel.TxWorker
import ShiepPipeline.Socks.Wire
import ShiepPipeline.Socks.UdpRelay
import ShiepPipeline.Socks.Session
import ShiepPipeline.Socks.Reply
import ShiepPipeline.Socks.TunnelRelay
import ShiepPipeline.Tunnel.CommandHeartbeat
import ShiepPipeline.Socks.UdpPacket
import ShiepPipeline.Socks.UdpPeer
import ShiepPipeline.Socks.Proxy
import ShiepPipeline.Socks.HttpProxy
import ShiepPipeline.Netstack.UdpSend
import ShiepPipeline.Text.Ipv6Text
import ShiepPipeline.Socks.Socks5Proxy
import ShiepPipeline.Collections.Filing
import ShiepPipeline.Routing.DnsIndexes
import ShiepPipeline.Routing.ExtraForms
import ShiepPipeline.Routing.DnsItems
import ShiepPipeline.Tunnel.HeartbeatLoop
import ShiepPipeline.Endpoint
import ShiepPipeline.Collections.OneApart
import ShiepPipeline.Routing.RangeText
import ShiepPipeline.Routing.RangeOrder
import ShiepPipeline.Routing.Fetch
import ShiepPipeline.Text.SocketText
import ShiepPipeline.Text.Url
import ShiepPipeline.Login
import ShiepPipeline.Concurrency.Condvar
import ShiepPipeline.Tunnel.Fatal
import ShiepPipeline.Tunnel.Token
import ShiepPipeline.Tunnel.CommandStream
import ShiepPipeline.Numeric.Mixing
import ShiepPipeline.Tunnel.HeartbeatTail
import ShiepPipeline.Netstack.Inbound
import ShiepPipeline.Netstack.Draining
import ShiepPipeline.Text.Find
import ShiepPipeline.Text.Form
import ShiepPipeline.Concurrency.Alike
import ShiepPipeline.Auth
import ShiepPipeline.Concurrency.Timed
import ShiepPipeline.Routing.DnsQuery
import ShiepPipeline.Concurrency.Shared
import ShiepPipeline.Tunnel.Runtime
import ShiepPipeline.Concurrency.Rounds
import ShiepPipeline.Netstack.Outbound
