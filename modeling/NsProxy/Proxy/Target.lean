import NsProxy.Net

/-!
# Routes and targets

`ProxyConfig` and `ProxyTarget` of `proxy/mod.rs`: the route a connection takes and the
destination it asks for, with the texts that the connectors format into their requests.
-/

namespace NsProxy

/-- `ProxyConfig`: a fully parsed outbound route. -/
inductive ProxyConfig
  | direct
  | socks5 (addr : String) (auth : Option (String × String))
  | http (addr : String) (auth : Option (String × String))
  deriving DecidableEq, Repr

/-- `Display for ProxyConfig`; credentials are not shown. -/
def ProxyConfig.toText : ProxyConfig → String
  | direct => "direct"
  | socks5 addr _ => "socks5://" ++ addr
  | http addr _ => "http://" ++ addr

/-- `ProxyTarget`: the destination of a proxy connection. -/
inductive ProxyTarget
  | domain (host : String) (port : UInt16)
  | ip (addr : IpAddr) (port : UInt16)
  deriving DecidableEq, Repr

/-- `Display for ProxyTarget`. -/
def ProxyTarget.toText : ProxyTarget → String
  | domain host port => host ++ ":" ++ toString port.toNat
  | ip addr port => addr.toText ++ ":" ++ toString port.toNat

end NsProxy
