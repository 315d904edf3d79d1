import ShiepPipeline.Socks.Session

/-!
# The fallback proxy

A target that the tunnel does not serve is reached through a proxy, by SOCKS5 or by the `CONNECT`
method of HTTP. The stream to the proxy is a list of calls that may be answered in any way; the head
of an HTTP reply is read one byte at a time, so that nothing behind it is taken from the stream.
-/

open Net Program Str Utf8
open Program.Fallible (attempt)

namespace ShiepPipeline.Socks

/-! ## Calls -/

/-- What a SOCKS5 proxy answers with. -/
inductive ProxyRead
  | greeting
  | replyHead
  | bindIpv4
  | bindDomainLength
  | bindDomain (length : ℕ)
  | bindIpv6
  | bindPort
deriving DecidableEq

namespace ProxyRead

/-- The size of the buffer. -/
abbrev size : ProxyRead → ℕ
  | .greeting => 2
  | .replyHead => 4
  | .bindIpv4 => 4
  | .bindDomainLength => 1
  | .bindDomain length => length
  | .bindIpv6 => 16
  | .bindPort => 2

/-- How an error of the read begins. -/
def label : ProxyRead → String
  | .greeting => "proxy greeting read failed"
  | .replyHead => "proxy connect reply read failed"
  | .bindIpv4 => "read proxy bind ipv4 failed"
  | .bindDomainLength => "read proxy bind domain length failed"
  | .bindDomain _ => "read proxy bind domain failed"
  | .bindIpv6 => "read proxy bind ipv6 failed"
  | .bindPort => "read proxy bind port failed"

end ProxyRead

inductive ProxyOp
  /-- `TcpStream::connect(addr)`. -/
  | connect (addr : String)
  /-- `stream.write_all(bytes)`. -/
  | writeAll (bytes : List UInt8)
  /-- `stream.read_exact(&mut buf)`. -/
  | readExact (what : ProxyRead)
  /-- `stream.read(&mut one)`, with a buffer of one byte. -/
  | read
deriving DecidableEq

/-- A read of one byte gives none at the end of the stream. -/
abbrev ProxyAns : ProxyOp → Type
  | .connect _ => Except String Unit
  | .writeAll _ => Except String Unit
  | .readExact what => Except String (Vector UInt8 what.size)
  | .read => Except String (Option UInt8)

abbrev ProxySession (α : Type) := Fallible EcError ProxyOp ProxyAns α

abbrev ProxyTrace := List (Exchange ProxyOp ProxyAns)

def connectTcpStream (addr label : String) : ProxySession Unit :=
  attempt (perform (ProxyOp.connect addr)) fun e ↦ .runtime s!"connect {label} {addr} failed: {e}"

def readFromProxy (what : ProxyRead) : ProxySession (Vector UInt8 what.size) :=
  attempt (perform (ProxyOp.readExact what)) fun e ↦ .runtime s!"{what.label}: {e}"

/-- `?` on a result that no call is needed for. -/
def check {α : Type} : Except EcError α → ProxySession α
  | .ok a => return a
  | .error e => throw e

/-! ## SOCKS5 -/

def socksCmdConnect : UInt8 := 0x01

def negotiateSocks5ProxyNoAuth : ProxySession Unit := do
  attempt (perform (ProxyOp.writeAll [socksVersion5, 0x01, socksMethodNoAuth])) fun e ↦
    .runtime s!"proxy greeting write failed: {e}"
  let methodResp ← readFromProxy .greeting
  if methodResp.toList = [socksVersion5, socksMethodNoAuth] then return ()
  else throw (.runtime ("fallback proxy auth method unsupported: "
    ++ s!"version=0x{hexByte methodResp[0]} method=0x{hexByte methodResp[1]}"))

/-- `Ipv6Addr::octets`. -/
def ipv6Octets (x : Ipv6Addr) : List UInt8 := x.segments.toList.flatMap toBeBytes

def appendSocks5Addr (buf : List UInt8) (host : String) : Except EcError (List UInt8) :=
  let host := trim host
  match Ipv4Addr.fromStr host with
  | some ipv4 => .ok (buf ++ [socksAtypIpv4] ++ ipv4.octets)
  | none =>
    match Ipv6Addr.fromStr host with
    | some ipv6 => .ok (buf ++ [socksAtypIpv6] ++ ipv6Octets ipv6)
    | none =>
      if (asBytes host).length = 0 ∨ 255 < (asBytes host).length then
        .error (.runtime "fallback proxy target domain is empty or too long")
      else
        .ok (buf ++ [socksAtypDomain] ++ [UInt8.ofNat (asBytes host).length] ++ asBytes host)

def writeSocks5ConnectRequest (host : String) (port : UInt16) : ProxySession Unit := do
  let req ← check (appendSocks5Addr [socksVersion5, socksCmdConnect, socksRsv] host)
  attempt (perform (ProxyOp.writeAll (req ++ toBeBytes port))) fun e ↦
    .runtime s!"proxy connect request write failed: {e}"

def socks5ReplyName (code : UInt8) : String :=
  match code.toNat with
  | 0x00 => "succeeded"
  | 0x01 => "general failure"
  | 0x02 => "connection not allowed"
  | 0x03 => "network unreachable"
  | 0x04 => "host unreachable"
  | 0x05 => "connection refused"
  | 0x06 => "ttl expired"
  | 0x07 => "command not supported"
  | 0x08 => "address type not supported"
  | _ => "unknown reply code"

/-- `output::value`, which colours a text. -/
def outputValue (value : String) : String := "\x1b[38;5;183m" ++ value ++ "\x1b[0m"

/-- The first part of `consume_socks5_addr_and_port`: the address, by its type. -/
def consumeSocks5Addr (atyp : UInt8) : ProxySession Unit := do
  if atyp = socksAtypIpv4 then
    let _ ← readFromProxy .bindIpv4
  else if atyp = socksAtypDomain then
    let len ← readFromProxy .bindDomainLength
    let _ ← readFromProxy (.bindDomain len[0].toNat)
  else if atyp = socksAtypIpv6 then
    let _ ← readFromProxy .bindIpv6
  else throw (.runtime s!"unsupported fallback proxy bind atyp: 0x{hexByte atyp}")

def consumeSocks5AddrAndPort (atyp : UInt8) : ProxySession Unit := do
  consumeSocks5Addr atyp
  let _ ← readFromProxy .bindPort

def readSocks5ConnectReply : ProxySession Unit := do
  let head ← readFromProxy .replyHead
  if head[0] ≠ socksVersion5 then
    throw (.runtime s!"invalid fallback proxy reply version: 0x{hexByte head[0]}")
  else if head[1] ≠ socksRepSucceeded then
    throw (.runtime ("fallback proxy connect rejected with code: "
      ++ outputValue s!"0x{hexByte head[1]}" ++ s!" ({socks5ReplyName head[1]})"))
  else consumeSocks5AddrAndPort head[3]

def connectViaSocks5Proxy (proxyAddr host : String) (port : UInt16) : ProxySession Unit := do
  connectTcpStream proxyAddr "fallback proxy"
  negotiateSocks5ProxyNoAuth
  writeSocks5ConnectRequest host port
  readSocks5ConnectReply

/-! ## HTTP -/

/-- `HTTP_PROXY_HEAD_MAX_SIZE`. -/
def httpProxyHeadMaxSize : ℕ := 16 * 1024

/-- The line end twice. -/
def headEnd : List UInt8 := [0x0d, 0x0a, 0x0d, 0x0a]

/-- The loop of `read_http_proxy_head` with the bytes it has read. -/
def readHeadFrom (buf : List UInt8) : ProxySession String := do
  let one ← attempt (perform ProxyOp.read) fun e ↦
    .runtime s!"http proxy connect reply read failed: {e}"
  match one with
  | none => throw (.runtime "http proxy connect reply is empty")
  | some b =>
    if 4 ≤ (buf ++ [b]).length ∧ (buf ++ [b]).drop ((buf ++ [b]).length - 4) = headEnd then
      return fromUtf8Lossy (buf ++ [b])
    else if httpProxyHeadMaxSize < (buf ++ [b]).length then
      throw (.runtime "http proxy connect reply header is too large")
    else readHeadFrom (buf ++ [b])
termination_by httpProxyHeadMaxSize + 1 - buf.length
decreasing_by
  rw [List.length_append, List.length_singleton] at *
  omega

def readHttpProxyHead : ProxySession String := readHeadFrom []

def ensureHttpConnectSuccess (replyHead : String) : Except EcError Unit :=
  let statusLine := trim (firstLine replyHead)
  if startsWith statusLine "HTTP/" = false then
    .error (.runtime s!"invalid http proxy connect reply: {statusLine}")
  else
    match (splitWhitespace statusLine)[1]?.bind (parseUnsigned 65535) with
    | none => .error (.runtime s!"invalid http proxy connect status line: {statusLine}")
    | some code =>
      if code ≠ 200 then .error (.runtime s!"http proxy connect rejected: {statusLine}")
      else .ok ()

/-- What is written to the proxy. -/
def httpConnectRequest (host : String) (port : UInt16) : String :=
  let authority := formatSocketTarget host (decimal port.toNat)
  "CONNECT " ++ authority ++ " HTTP/1.1\r\nHost: " ++ authority
    ++ "\r\nConnection: keep-alive\r\nProxy-Connection: keep-alive\r\n\r\n"

def connectViaHttpConnectProxy (proxyAddr host : String) (port : UInt16) : ProxySession Unit := do
  connectTcpStream proxyAddr "fallback http proxy"
  attempt (perform (ProxyOp.writeAll (asBytes (httpConnectRequest host port)))) fun e ↦
    .runtime s!"http proxy connect request write failed: {e}"
  let replyHead ← readHttpProxyHead
  check (ensureHttpConnectSuccess replyHead)

/-- `FallbackProxy::connect`. -/
def FallbackProxy.connect (proxy : FallbackProxy) (host : String) (port : UInt16) :
    ProxySession Unit :=
  match proxy.kind with
  | .socks5 => connectViaSocks5Proxy proxy.addr host port
  | .http => connectViaHttpConnectProxy proxy.addr host port

end ShiepPipeline.Socks
