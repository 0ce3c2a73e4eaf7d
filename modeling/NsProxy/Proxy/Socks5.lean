import NsProxy.Net
import NsProxy.Proxy.Stream
import NsProxy.Proxy.Target
import NsProxy.Tokio.Session

/-!
# The SOCKS5 connector

`proxy/socks5.rs`: method negotiation, username/password authentication and the CONNECT
request over one socket. What a function computes from the bytes it holds (a request, the
verdict on a reply) is a definition of its own.
-/

namespace NsProxy.Socks5

open Tokio

/-- `SOCKS5_VERSION`. -/
def socks5Version : UInt8 := 0x05
/-- `METHOD_NO_AUTH`. -/
def methodNoAuth : UInt8 := 0x00
/-- `METHOD_USER_PASS`. -/
def methodUserPass : UInt8 := 0x02
/-- `METHOD_NO_ACCEPTABLE`. -/
def methodNoAcceptable : UInt8 := 0xFF
/-- `CMD_CONNECT`. -/
def cmdConnect : UInt8 := 0x01
/-- `RSV`. -/
def rsv : UInt8 := 0x00
/-- `ATYP_IPV4`. -/
def atypIpv4 : UInt8 := 0x01
/-- `ATYP_DOMAIN`. -/
def atypDomain : UInt8 := 0x03
/-- `ATYP_IPV6`. -/
def atypIpv6 : UInt8 := 0x04
/-- `REP_SUCCESS`. -/
def repSuccess : UInt8 := 0x00
/-- `AUTH_VERSION`. -/
def authVersion : UInt8 := 0x01
/-- `AUTH_SUCCESS`. -/
def authSuccess : UInt8 := 0x00

/-- The format `{:02X}` of a byte. -/
def hex02 (byte : UInt8) : String :=
  String.ofList [(Nat.digitChar (byte.toNat / 16)).toUpper, (Nat.digitChar (byte.toNat % 16)).toUpper]

/-- `socks5_reply_message`. -/
def socks5ReplyMessage (rep : UInt8) : String :=
  match rep with
  | 0x01 => "general SOCKS server failure"
  | 0x02 => "connection not allowed by ruleset"
  | 0x03 => "network unreachable"
  | 0x04 => "host unreachable"
  | 0x05 => "connection refused"
  | 0x06 => "TTL expired"
  | 0x07 => "command not supported"
  | 0x08 => "address type not supported"
  | _ => "unknown error"

/-- The greeting of `negotiate_method`. -/
def greeting (hasAuth : Bool) : List UInt8 :=
  let methods := if hasAuth then [methodNoAuth, methodUserPass] else [methodNoAuth]
  [socks5Version, UInt8.ofNat methods.length] ++ methods

/-- The verdict of `negotiate_method` on the reply. -/
def checkMethod (hasAuth : Bool) (resp : List UInt8) : Except Error UInt8 :=
  let version := resp.getD 0 0
  let method := resp.getD 1 0
  if version ≠ socks5Version then
    Error.bail ("SOCKS5: server replied with unexpected version 0x" ++ hex02 version)
  else if method = methodNoAuth then .ok method
  else if method = methodUserPass then
    if !hasAuth then
      Error.bail "SOCKS5: server requires authentication but no credentials were provided"
    else .ok method
  else if method = methodNoAcceptable then
    Error.bail "SOCKS5: server found no acceptable authentication method"
  else Error.bail ("SOCKS5: server chose unknown auth method 0x" ++ hex02 method)

/-- `negotiate_method`. -/
def negotiateMethod (api : Api) (hasAuth : Bool) : Io UInt8 := do
  Io.context "SOCKS5: write greeting" (Io.writeAll api (greeting hasAuth))
  let resp ← Io.context "SOCKS5: read method response" (Io.readExact api 2)
  Io.ofExcept (checkMethod hasAuth resp)

/-- The request of `authenticate`. -/
def authRequest (user pass : String) : Except Error (List UInt8) :=
  let userBytes := Text.asBytes user
  let passBytes := Text.asBytes pass
  if 255 < userBytes.length then Error.bail "SOCKS5 auth: username too long (max 255 bytes)"
  else if 255 < passBytes.length then Error.bail "SOCKS5 auth: password too long (max 255 bytes)"
  else
    .ok ([authVersion, UInt8.ofNat userBytes.length] ++ userBytes ++
      [UInt8.ofNat passBytes.length] ++ passBytes)

/-- The verdict of `authenticate` on the reply. -/
def checkAuth (resp : List UInt8) : Except Error Unit :=
  let status := resp.getD 1 0
  if status ≠ authSuccess then
    Error.bail ("SOCKS5 auth: authentication failed (status 0x" ++ hex02 status ++ ")")
  else .ok ()

/-- `authenticate`. -/
def authenticate (api : Api) (user pass : String) : Io Unit := do
  let req ← Io.ofExcept (authRequest user pass)
  Io.context "SOCKS5 auth: write request" (Io.writeAll api req)
  let resp ← Io.context "SOCKS5 auth: read response" (Io.readExact api 2)
  Io.ofExcept (checkAuth resp)

/-- The request of `send_connect_request`. -/
def connectRequest (target : ProxyTarget) : Except Error (List UInt8) :=
  let req := [socks5Version, cmdConnect, rsv]
  match target with
  | .ip (.v4 v4) port => .ok (req ++ [atypIpv4] ++ v4.octets ++ Bytes.be16 port)
  | .ip (.v6 v6) port => .ok (req ++ [atypIpv6] ++ v6.octets.toList ++ Bytes.be16 port)
  | .domain host port =>
    let hostBytes := Text.asBytes host
    if 255 < hostBytes.length then
      Error.bail "SOCKS5: target hostname too long (max 255 bytes)"
    else
      .ok (req ++ [atypDomain] ++ [UInt8.ofNat hostBytes.length] ++ hostBytes ++ Bytes.be16 port)

/-- The verdict of `send_connect_request` on the fixed part of the reply. -/
def checkReply (target : ProxyTarget) (hdr : List UInt8) : Except Error Unit :=
  let version := hdr.getD 0 0
  let rep := hdr.getD 1 0
  if version ≠ socks5Version then
    Error.bail ("SOCKS5: unexpected version in reply 0x" ++ hex02 version)
  else if rep ≠ repSuccess then
    Error.bail ("SOCKS5: CONNECT to " ++ target.toText ++ " failed: " ++ socks5ReplyMessage rep ++
      " (0x" ++ hex02 rep ++ ")")
  else .ok ()

/-- `skip_addr`. -/
def skipAddr (api : Api) (atyp : UInt8) : Io Unit := do
  if atyp = atypIpv4 then
    let _ ← Io.readExact api 6
    return ()
  else if atyp = atypIpv6 then
    let _ ← Io.readExact api 18
    return ()
  else if atyp = atypDomain then
    let lenBuf ← Io.readExact api 1
    let _ ← Io.readExact api ((lenBuf.getD 0 0).toNat + 2)
    return ()
  else Io.bail ("SOCKS5: unknown ATYP in reply 0x" ++ hex02 atyp)

/-- `send_connect_request`. -/
def sendConnectRequest (api : Api) (target : ProxyTarget) : Io Unit := do
  let req ← Io.ofExcept (connectRequest target)
  Io.context "SOCKS5: write CONNECT request" (Io.writeAll api req)
  let hdr ← Io.context "SOCKS5: read CONNECT reply header" (Io.readExact api 4)
  Io.ofExcept (checkReply target hdr)
  Io.context "SOCKS5: skip BND address" (skipAddr api (hdr.getD 3 0))

/-- The authentication step of `connect`. -/
def authenticateIfAsked (api : Api) (auth : Option (String × String)) (method : UInt8) :
    Io Unit := do
  if method = methodUserPass then
    let (user, pass) ← Io.ofExcept (Error.contextOption "SOCKS5: missing credentials" auth)
    authenticate api user pass
  else return ()

/-- The three steps of `connect` on a connected socket. -/
def handshake (api : Api) (auth : Option (String × String)) (target : ProxyTarget) : Io Unit := do
  let method ← negotiateMethod api auth.isSome
  authenticateIfAsked api auth method
  sendConnectRequest api target

/-- `Socks5Connector`. -/
structure Socks5Connector where
  /-- `server`. -/
  server : String
  /-- `auth`. -/
  auth : Option (String × String)

/-- `Socks5Connector::connect`, given what `TcpStream::connect` returns; also the calls made
on the socket. -/
def Socks5Connector.connect (api : Api) (dial : String → Except String TcpStream)
    (connector : Socks5Connector) (target : ProxyTarget) :
    Except Error ProxyStream × List Transfer :=
  match dial connector.server with
  | .error cause => (.error [s!"TCP connect to SOCKS5 server {connector.server}", cause], [])
  | .ok stream =>
    let (result, session) := handshake api connector.auth target ⟨stream, []⟩
    (result.map fun _ => ProxyStream.new session.stream [], session.trace)

end NsProxy.Socks5
