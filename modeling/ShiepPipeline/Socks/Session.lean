import ShiepPipeline.Concurrency.Channel
import ShiepPipeline.Concurrency.Fallible
import ShiepPipeline.Netstack.State
import ShiepPipeline.Routing.Matcher
import ShiepPipeline.Socks.Wire

/-!
# A client of the SOCKS server

What one thread does for a client, from the first byte to the point where relaying starts:
`handleClient`. The client's stream, the planner, the resolver, the netstack's control channel and
the sockets are calls, and each of them may be answered in any way.

The lines that are printed for the user are left out, and so is the part of a route decision that is
only printed.
-/

open Net Program Str Utf8
open Program.Fallible (attempt lift ignore)

namespace ShiepPipeline.Socks

/-! ## Calls -/

/-- What is read from the client while it makes its request. -/
inductive ClientRead
  | hello
  | methods (count : ℕ)
  | requestHead
  | ipv4
  | domainLength
  | domain (length : ℕ)
  | ipv6
  | port
deriving DecidableEq

namespace ClientRead

/-- The size of the buffer. -/
abbrev size : ClientRead → ℕ
  | .hello => 2
  | .methods count => count
  | .requestHead => 4
  | .ipv4 => 4
  | .domainLength => 1
  | .domain length => length
  | .ipv6 => 16
  | .port => 2

/-- How an error of the read begins. -/
def label : ClientRead → String
  | .hello => "socks hello read failed"
  | .methods _ => "socks methods read failed"
  | .requestHead => "socks request head read failed"
  | .ipv4 => "read ipv4 failed"
  | .domainLength => "read domain length failed"
  | .domain _ => "read domain failed"
  | .ipv6 => "read ipv6 failed"
  | .port => "read target port failed"

end ClientRead

inductive FallbackProxyKind
  | socks5
  | http
deriving DecidableEq, Repr

structure FallbackProxy where
  url : String
  addr : String
  kind : FallbackProxyKind
deriving DecidableEq, Repr

inductive SocksOp
  /-- `client.read_exact(&mut buf)`. -/
  | readExact (what : ClientRead)
  /-- `client.write_all(bytes)`. -/
  | writeAll (bytes : List UInt8)
  /-- `plan_target_with_proto`. -/
  | planTarget (host : String) (port : UInt16) (flowProto : FlowProto)
  /-- `CONTROL_TX.get()`. -/
  | controlTx
  /-- `target.to_socket_addrs()`. -/
  | toSocketAddrs (target : String)
  /-- `control.send(message)`. -/
  | sendControl (message : ControlMessage)
  /-- `reply_rx.recv_timeout(OPEN_CONN_TIMEOUT)`. -/
  | awaitReply
  /-- `TcpStream::connect(target)`. -/
  | connect (target : String)
  /-- `connect_via_proxy(&proxy, host, port)`. -/
  | connectViaProxy (proxy : FallbackProxy) (host : String) (port : UInt16)
  /-- `client.local_addr()`. -/
  | controlLocalAddr
  /-- `UdpSocket::bind(addr)`. -/
  | bindUdp (addr : SocketAddrV4)
  /-- `udp_socket.local_addr()`. -/
  | udpLocalAddr
  /-- `client.try_clone()`. -/
  | cloneClient
  /-- `client.read(&mut buf)`, with a buffer of 4096 bytes. -/
  | readClient
  /-- `rx.recv()`, which waits for data from the tunnel. -/
  | recvTunnel
  /-- `client.shutdown(Shutdown::Write)`. -/
  | shutdownWrite
deriving DecidableEq

/-- Sending on the control channel succeeds while the netstack has its end. A proxy that has been
connected through and a socket that has been connected or bound are not looked at any further. -/
abbrev SocksAns : SocksOp → Type
  | .readExact what => Except String (Vector UInt8 what.size)
  | .writeAll _ => Except String Unit
  | .planTarget _ _ _ => Except EcError RoutePlan
  | .controlTx => Bool
  | .toSocketAddrs _ => Except String (List SocketAddr)
  | .sendControl _ => Bool
  | .awaitReply => Recv (Except EcError UInt64)
  | .connect _ => Except String Unit
  | .connectViaProxy _ _ _ => Except EcError Unit
  | .controlLocalAddr => Except String SocketAddr
  | .bindUdp _ => Except String Unit
  | .udpLocalAddr => Except String SocketAddr
  | .cloneClient => Except String Unit
  | .readClient => Except String { bytes : List UInt8 // bytes.length ≤ 4096 }
  | .recvTunnel => Option (List UInt8)
  | .shutdownWrite => Except String Unit

/-- What a client's thread runs. -/
abbrev Session (α : Type) := Fallible EcError SocksOp SocksAns α

abbrev SessionTrace := List (Exchange SocksOp SocksAns)

/-! ## Replies -/

def writeReply (rep : UInt8) : Session Unit :=
  attempt (perform (SocksOp.writeAll (replyBytes rep))) fun e ↦
    .runtime s!"socks reply write failed: {e}"

def writeBoundReply (rep : UInt8) (bound : SocketAddrV4) : Session Unit :=
  attempt (perform (SocksOp.writeAll (boundReplyBytes rep bound))) fun e ↦
    .runtime s!"socks bound reply write failed: {e}"

/-! ## The request -/

def readExact (what : ClientRead) : Session (Vector UInt8 what.size) :=
  attempt (perform (SocksOp.readExact what)) fun e ↦ .runtime s!"{what.label}: {e}"

def negotiateMethod : Session Unit := do
  let head ← readExact .hello
  if head[0] ≠ socksVersion5 then throw (.runtime "unsupported socks version")
  else
    let methods ← readExact (.methods head[1].toNat)
    if socksMethodNoAuth ∈ methods.toList then
      attempt (perform (SocksOp.writeAll [socksVersion5, socksMethodNoAuth])) fun e ↦
        .runtime s!"socks method reply failed: {e}"
    else
      attempt (perform (SocksOp.writeAll [socksVersion5, socksMethodNotAcceptable])) fun e ↦
        .runtime s!"socks method reject reply failed: {e}"
      throw (.runtime "client does not support no-auth method")

/-- `Ipv6Addr::from`, for an array of bytes. -/
def ipv6FromBytes (bytes : Vector UInt8 16) : Ipv6Addr :=
  ⟨.ofFn fun i ↦ fromBeBytes bytes[2 * i.1] bytes[2 * i.1 + 1]⟩

/-- The first part of `read_request_target`: the host, by address type. -/
def readRequestHost (atyp : UInt8) : Session String :=
  if atyp = socksAtypIpv4 then do
    let ip ← readExact .ipv4
    return Ipv4Addr.display ⟨ip[0], ip[1], ip[2], ip[3]⟩
  else if atyp = socksAtypDomain then do
    let len ← readExact .domainLength
    let domain ← readExact (.domain len[0].toNat)
    match fromUtf8 domain.toList with
    | .ok host => return host
    | .error e => throw (.runtime s!"invalid domain utf8: {e}")
  else if atyp = socksAtypIpv6 then do
    let ip ← readExact .ipv6
    return (ipv6FromBytes ip).display
  else do
    ignore (writeReply socksRepAtypNotSupported)
    throw (.runtime s!"unsupported socks atyp: 0x{hexByte atyp}")

def readRequestTarget (atyp : UInt8) : Session ConnectTarget := do
  let host ← readRequestHost atyp
  let port ← readExact .port
  return ⟨host, fromBeBytes port[0] port[1]⟩

structure SocksRequest where
  command : SocksCommand
  target : ConnectTarget
deriving DecidableEq, Repr

/-- The first byte of a request head. -/
def requestVersion (req : Vector UInt8 4) : UInt8 := req[0]

def readSocksRequest : Session SocksRequest := do
  let req ← readExact .requestHead
  if requestVersion req ≠ socksVersion5 then throw (.runtime "invalid socks request version")
  else
    let command := SocksCommand.fromByte req[1]
    if command.isOther then
      ignore (writeReply socksRepCmdNotSupported)
      throw (.runtime s!"unsupported socks command: {command.display}")
    else if req[2] ≠ socksRsv then
      ignore (writeReply socksRepGeneralFailure)
      throw (.runtime "invalid socks reserved byte")
    else
      let target ← readRequestTarget req[3]
      return ⟨command, target⟩

/-! ## Routes -/

inductive RouteTransport
  | tunnel (dialTarget : String)
  | direct (dialTarget : String)
  | proxy (proxy : FallbackProxy) (target : ConnectTarget)
  | unsupported (reason : String)
deriving DecidableEq, Repr

/-- A route decision without the line that is printed. -/
structure RouteDecision where
  path : String
  transport : RouteTransport
deriving DecidableEq, Repr

def formatSocketTarget (host port : String) : String :=
  let h := trim host
  if (Ipv6Addr.fromStr h).isSome then s!"[{h}]:{port}" else s!"{h}:{port}"

def targetAddr (target : String) : String :=
  match rsplitOnce target ':' with
  | some (host, port) => formatSocketTarget host port
  | none => target

def routeDecisionRemote (dial rcName : String) (source : RouteSource) : RouteDecision :=
  let name := if trim rcName = "" then "unknown" else rcName
  ⟨s!"remote -> {name}({dial}); source={source.describe}", .tunnel dial⟩

def routeDecisionFallback (target : ConnectTarget) (dial reason : String)
    (fallbackProxy : Option FallbackProxy) : RouteDecision :=
  match fallbackProxy with
  | some proxy => ⟨s!"fallback -> {proxy.url}; reason: {reason}", .proxy proxy target⟩
  | none => ⟨s!"fallback -> direct; dial: {dial}; reason: {reason}", .direct dial⟩

def routeDecisionPlannerError (err : EcError) : RouteDecision :=
  ⟨"fallback -> unavailable; reason: route planner unavailable: " ++ conciseError err,
    .unsupported "route planner unavailable"⟩

def decideRoute (target : ConnectTarget) (fallbackProxy : Option FallbackProxy) :
    Session RouteDecision := do
  match ← lift (perform (SocksOp.planTarget target.host target.port .tcp)) with
  | .ok (.remote dial _ rcName source) => return routeDecisionRemote dial rcName source
  | .ok (.fallback plannedTarget reason) =>
    return routeDecisionFallback target (targetAddr plannedTarget) reason fallbackProxy
  | .error err => return routeDecisionPlannerError err

/-! ## The netstack -/

/-- The sending end of the control channel, if the netstack has been started. -/
def controlSender : Session Unit := do
  if ← lift (perform SocksOp.controlTx) then return ()
  else throw (.runtime "netstack runtime is not started")

def resolveIpv4Target (target : String) : Session SocketAddrV4 := do
  let addrs ← attempt (perform (SocksOp.toSocketAddrs target)) fun e ↦
    .runtime s!"resolve target failed: {target}: {e}"
  match firstV4 addrs with
  | some addr => return addr
  | none => throw (.runtime s!"no ipv4 address resolved for {target}")

/-- `control.send(message)`; `label` is how an error begins. -/
def sendControl (message : ControlMessage) (label : String) : Session Unit := do
  if ← lift (perform (SocksOp.sendControl message)) then return ()
  else throw (.runtime s!"{label}: sending on a closed channel")

/-- Wait for the reply to an open request; `label` is how an error of waiting begins. -/
def awaitOpenReply (label : String) : Session UInt64 := do
  match ← lift (perform SocksOp.awaitReply) with
  | .message (.ok id) => return id
  | .message (.error e) => throw e
  | .timeout => throw (.runtime s!"{label}: timed out waiting on channel")
  | .disconnected =>
    throw (.runtime s!"{label}: channel is empty and sending half is closed")

def openTcpConnection (target : String) : Session UInt64 := do
  controlSender
  let targetAddr ← resolveIpv4Target target
  sendControl (.openTcp targetAddr) "send open connection request failed"
  awaitOpenReply s!"wait open connection response failed for {target}"

def openUdpAssociation : Session UInt64 := do
  controlSender
  sendControl .openUdp "send open udp association request failed"
  awaitOpenReply "wait open udp association response failed"

/-! ## Carrying out a route -/

/-- What is relayed once the client has its reply. -/
inductive Relay
  | tunnel (id : UInt64)
  | direct
  | udp (id : UInt64) (relayAddr : SocketAddrV4)
deriving DecidableEq, Repr

def routeRuntimeError (targetDisplay routePath err : String) : EcError :=
  .runtime s!"{targetDisplay} -> {routePath}; error: {conciseMessage err}"

/-- A part of a route's work: its errors name the route. -/
def onRoute {α : Type} (targetDisplay routePath : String) (p : Session α) : Session α :=
  ExceptT.adapt (fun e ↦ routeRuntimeError targetDisplay routePath e.display) p

def writeConnectOkReply (targetDisplay routePath : String) : Session Unit :=
  onRoute targetDisplay routePath (writeReply socksRepSucceeded)

/-- The tunnel branch of `execute_route`, as far as the reply. -/
def openTunnel (dialTarget targetDisplay routePath : String) : Session UInt64 := do
  let id ← onRoute targetDisplay routePath (openTcpConnection dialTarget)
  writeConnectOkReply targetDisplay routePath
  return id

def executeRoute (targetDisplay : String) (route : RouteDecision) : Session Relay :=
  match route.transport with
  | .tunnel dialTarget => do
    let id ← openTunnel dialTarget targetDisplay route.path
    return .tunnel id
  | .direct dialTarget => do
    attempt (perform (SocksOp.connect dialTarget)) (routeRuntimeError targetDisplay route.path)
    writeConnectOkReply targetDisplay route.path
    return .direct
  | .proxy proxy target => do
    attempt (perform (SocksOp.connectViaProxy proxy target.host target.port)) fun e ↦
      routeRuntimeError targetDisplay route.path e.display
    writeConnectOkReply targetDisplay route.path
    return .direct
  | .unsupported reason => throw (routeRuntimeError targetDisplay route.path reason)

/-! ## The commands -/

def handleConnect (target : ConnectTarget) (fallbackProxy : Option FallbackProxy) :
    Session Relay := do
  let route ← decideRoute target fallbackProxy
  executeRoute target.display route

def udpRelayBindAddr : Session SocketAddrV4 := do
  let addr ← attempt (perform SocksOp.controlLocalAddr) fun e ↦
    .runtime s!"socks control local addr failed: {e}"
  match addr with
  | .v4 addr => return ⟨addr.ip, 0⟩
  | .v6 _ => throw (.runtime "udp associate over ipv6 control connection is not supported")

def handleUdpAssociate : Session Relay := do
  let relayBind ← udpRelayBindAddr
  attempt (perform (SocksOp.bindUdp relayBind)) fun e ↦ .runtime s!"udp relay bind failed: {e}"
  let addr ← attempt (perform SocksOp.udpLocalAddr) fun e ↦
    .runtime s!"udp relay local addr failed: {e}"
  match addr with
  | .v6 _ =>
    ignore (writeReply socksRepGeneralFailure)
    throw (.runtime "udp relay only supports ipv4 bind address")
  | .v4 relayAddr =>
    attempt (perform SocksOp.cloneClient) fun e ↦
      .runtime s!"clone socks control stream failed: {e}"
    let id ← openUdpAssociation
    tryCatch (writeBoundReply socksRepSucceeded relayAddr) fun err ↦ do
      ignore (sendControl (.closeUdp id) "send udp close request failed")
      throw err
    return .udp id relayAddr

def handleClient (fallbackProxy : Option FallbackProxy) : Session Relay := do
  negotiateMethod
  let request ← readSocksRequest
  match request.command with
  | .connect => handleConnect request.target fallbackProxy
  | .udpAssociate => handleUdpAssociate
  | .other _ =>
    ignore (writeReply socksRepCmdNotSupported)
    throw (.runtime s!"unsupported socks command: {request.command.display}")

end ShiepPipeline.Socks
