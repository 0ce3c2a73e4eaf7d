import NsProxy.Proxy.HttpTruncation
import NsProxy.Proxy.Socks5Messages
import NsProxy.Tokio.Schedule

/-!
# Upstream connections

`connect` of `proxy/mod.rs` with its three connectors. Where the route has a proxy, the proxy is
the one address that is dialled, so that nothing on the host resolves or reaches the target; the
bytes written ask for the target, and the stream that is returned begins right behind the reply.
-/

namespace NsProxy

open Tokio

/-- What `TcpStream::connect` is called with. -/
inductive Dialled
  /-- A `host:port` text. -/
  | server (addr : String)
  /-- A name for the resolver of the host, and a port. -/
  | host (host : String) (port : UInt16)
  /-- An address and a port. -/
  | ip (addr : IpAddr) (port : UInt16)
  deriving DecidableEq

/-- What `TcpStream::connect` returns. -/
abbrev Dialer : Type := Dialled → Except String TcpStream

/-- `DirectConnector::connect`. -/
def DirectConnector.connect (network : Dialer) (target : ProxyTarget) :
    Except Error ProxyStream :=
  let connected := match target with
    | .ip addr port => network (.ip addr port)
    | .domain host port => network (.host host port)
  match connected with
  | .error cause => .error ["direct TCP connect to " ++ target.toText, cause]
  | .ok stream => .ok (.new stream [])

namespace ProxyConfig

/-- `ProxyConfig::connect_inner`. -/
def connectInner (api : Api) (network : Dialer) (target : ProxyTarget) :
    ProxyConfig → Except Error ProxyStream
  | direct => DirectConnector.connect network target
  | socks5 addr auth =>
    (Socks5.Socks5Connector.connect api (fun server => network (.server server)) ⟨addr, auth⟩
      target).1
  | http addr auth =>
    Http.HttpConnector.connect api (fun server => network (.server server)) ⟨addr, auth⟩ target

/-- `ProxyConfig::connect`, given whether the timeout has elapsed before the connection was
there. -/
def connect (api : Api) (network : Dialer) (elapsed : Bool) (config : ProxyConfig)
    (target : ProxyTarget) : Except Error ProxyStream :=
  if elapsed then
    .error ["upstream connection timed out after 32 seconds", "deadline has elapsed"]
  else config.connectInner api network target

/-- The address that is dialled for a target. -/
def endpoint (target : ProxyTarget) : ProxyConfig → Dialled
  | direct =>
    match target with
    | .ip addr port => .ip addr port
    | .domain host port => .host host port
  | socks5 addr _ => .server addr
  | http addr _ => .server addr

end ProxyConfig

/-! ## What a handshake takes -/

namespace Socks5

open Io

variable {α β : Type}

/-- Where the function succeeds, the parser accepts the bytes to come with the same value and
leaves the same bytes, and the bytes taken are those that the trace has received. -/
def Consumes (action : Io α) (parser : Parser α) : Prop :=
  ∀ session value, session.stream.Clean → (action session).1 = .ok value →
    parser session.stream.remaining = some (value, (action session).2.stream.remaining) ∧
    (action session).2.stream.Clean ∧
    ∃ added, (action session).2.trace = session.trace ++ added ∧
      session.stream.remaining = receivedBytes added ++ (action session).2.stream.remaining

/-- A result that is at hand takes nothing. -/
theorem consumes_ofExcept (result : Except Error α) :
    Consumes (ofExcept result) (StateT.lift result.toOption) := by
  intro session value clean succeeded
  have same : result = .ok value := succeeded
  rw [same]
  exact ⟨rfl, clean, [], (List.append_nil _).symm, rfl⟩

/-- A value that is at hand takes nothing. -/
theorem consumes_pure (value : α) : Consumes (pure value) (pure value) := by
  intro session other clean succeeded
  rw [← Except.ok.inj succeeded]
  exact ⟨rfl, clean, [], (List.append_nil _).symm, rfl⟩

/-- A refusal takes nothing. -/
theorem consumes_bail (message : String) : Consumes (bail message : Io α) failure := by
  intro session value clean succeeded
  contradiction

/-- A context changes nothing of what is taken. -/
theorem consumes_context (message : String) {action : Io α} {parser : Parser α}
    (consumes : Consumes action parser) : Consumes (context message action) parser := by
  intro session value clean succeeded
  exact consumes session value clean (Error.context_eq_ok.mp succeeded)

/-- A write takes nothing. -/
theorem consumes_writeAll (api : Api) (bytes : List UInt8) :
    Consumes (writeAll api bytes) (pure ()) := by
  intro session value clean succeeded
  have incoming := api.writeAll_incoming session.stream bytes
  have remaining : (writeAll api bytes session).2.stream.remaining = session.stream.remaining := by
    simp only [writeAll, TcpStream.remaining, incoming]
  refine ⟨?_, ?_, [.sent bytes], rfl, ?_⟩
  · rw [remaining]
    rfl
  · intro event member
    exact clean event (incoming ▸ member)
  · rw [remaining]
    rfl

/-- An exact read takes as many bytes as it asks for. -/
theorem consumes_readExact (api : Api) (count : Nat) :
    Consumes (readExact api count) (Parser.take count) := by
  intro session value clean succeeded
  have reads := reads_readExact api count session clean
  obtain ⟨added, traced, shape⟩ := traces_readExact api count session
  rw [succeeded] at shape
  cases parsed : Parser.take count session.stream.remaining with
  | none =>
    rw [parsed] at reads
    obtain ⟨causes, failed⟩ := reads
    rw [succeeded] at failed
    contradiction
  | some read =>
    rw [parsed] at reads
    obtain ⟨returned, left, still⟩ := reads
    rw [succeeded] at returned
    have same : value = read.1 := Except.ok.inj returned
    refine ⟨?_, still, added, traced, ?_⟩
    · rw [same, left]
    · rcases shape with ⟨causes, failed, -⟩ | ⟨bytes, got, -, only⟩
      · contradiction
      · have whole : read = (session.stream.remaining.take count,
            session.stream.remaining.drop count) := by
          unfold Parser.take at parsed
          split_ifs at parsed
          exact (Option.some.inj parsed).symm
        rw [left, only, ← Except.ok.inj got, same, whole]
        simp [receivedBytes]

/-- Two functions one after the other take what their parsers take one after the other. -/
theorem consumes_bind {action : Io α} {parser : Parser α} {next : α → Io β}
    {nextParser : α → Parser β} (first : Consumes action parser)
    (second : ∀ value, Consumes (next value) (nextParser value)) :
    Consumes (action >>= next) (parser >>= nextParser) := by
  intro session value clean succeeded
  rw [bind_apply] at succeeded ⊢
  have start := first session
  cases ran : action session with
  | mk result middle =>
    rw [ran] at succeeded start
    cases result with
    | error causes => contradiction
    | ok found =>
      obtain ⟨parsed, still, before, traced, taken⟩ := start found clean rfl
      obtain ⟨further, last, after, more, rest⟩ := second found middle value still succeeded
      simp only at parsed traced taken
      refine ⟨?_, last, before ++ after, ?_, ?_⟩
      · change (parser session.stream.remaining).bind (fun read => nextParser read.1 read.2) = _
        rw [parsed]
        exact further
      · rw [more, traced, List.append_assoc]
      · rw [taken, rest, receivedBytes_append, List.append_assoc]

/-- The bound address is taken by its type. -/
theorem consumes_skipAddr (api : Api) (atyp : UInt8) :
    Consumes (skipAddr api atyp) (addrParser atyp) := by
  unfold skipAddr addrParser
  split
  · exact consumes_bind (consumes_readExact api 6) fun _ => consumes_pure ()
  · split
    · exact consumes_bind (consumes_readExact api 18) fun _ => consumes_pure ()
    · split
      · exact consumes_bind (consumes_readExact api 1) fun _ =>
          consumes_bind (consumes_readExact api _) fun _ => consumes_pure ()
      · exact consumes_bail _

/-- The reply to the credentials is taken. -/
theorem consumes_authenticate (api : Api) (user pass : String) :
    Consumes (authenticate api user pass) (authParser user pass) :=
  consumes_bind (consumes_ofExcept _) fun _ =>
    consumes_bind (consumes_context _ (consumes_writeAll api _)) fun _ =>
      consumes_bind (consumes_context _ (consumes_readExact api 2)) fun _ => consumes_ofExcept _

/-- A reply to the credentials is taken exactly where they were asked for. -/
theorem consumes_authenticateIfAsked (api : Api) (auth : Option (String × String))
    (method : UInt8) :
    Consumes (authenticateIfAsked api auth method) (askedParser auth method) := by
  unfold authenticateIfAsked askedParser
  split
  · cases auth with
    | none => exact consumes_bind (consumes_ofExcept _) fun _ => consumes_authenticate api _ _
    | some credentials =>
      exact consumes_bind (consumes_ofExcept _) fun _ => consumes_authenticate api _ _
  · exact consumes_pure ()

/-- The reply to the request is taken. -/
theorem consumes_sendConnectRequest (api : Api) (target : ProxyTarget) :
    Consumes (sendConnectRequest api target) (replyParser target) :=
  consumes_bind (consumes_ofExcept _) fun _ =>
    consumes_bind (consumes_context _ (consumes_writeAll api _)) fun _ =>
      consumes_bind (consumes_context _ (consumes_readExact api 4)) fun _ =>
        consumes_bind (consumes_ofExcept _) fun _ => consumes_context _ (consumes_skipAddr api _)

/-- The choice of the method is taken. -/
theorem consumes_negotiateMethod (api : Api) (hasAuth : Bool) :
    Consumes (negotiateMethod api hasAuth) (methodParser hasAuth) :=
  consumes_bind (consumes_context _ (consumes_writeAll api _)) fun _ =>
    consumes_bind (consumes_context _ (consumes_readExact api 2)) fun _ => consumes_ofExcept _

/-- The handshake takes its reply and nothing behind it. -/
theorem consumes_handshake (api : Api) (auth : Option (String × String)) (target : ProxyTarget) :
    Consumes (handshake api auth target) (handshakeParser auth target) :=
  consumes_bind (consumes_negotiateMethod api _) fun _ =>
    consumes_bind (consumes_authenticateIfAsked api _ _) fun _ => consumes_sendConnectRequest api _

/-- A connection is returned behind a well-formed reply, after a request that a server decodes to
the target. -/
theorem connect_asks {api : Api} {dial : String → Except String TcpStream}
    {connector : Socks5Connector} {target : ProxyTarget} {stream : TcpStream} {proxy : ProxyStream}
    (connected : dial connector.server = .ok stream) (clean : stream.Clean)
    (succeeded : (connector.connect api dial target).1 = .ok proxy) :
    ∃ method reply request, WellFormed connector.auth reply ∧ reply.take 2 = [5, method] ∧
      stream.remaining = reply ++ proxy.unread ∧ proxy.inner.written = stream.written ++ request ∧
      Socks.decode method request = some (conversation connector.auth method target) := by
  obtain ⟨trace, outcome⟩ := @connect_of_dial api dial connector target stream connected
  obtain ⟨returned, same⟩ := (outcome proxy).mp succeeded
  obtain ⟨method, replied, written, decoded⟩ := connect_decodes connected succeeded
  obtain ⟨parsed, -, added, traced, taken⟩ :=
    consumes_handshake api connector.auth target ⟨stream, []⟩ () clean returned
  have fits : TargetFits target := by
    by_contra unfit
    exact (connect_unfit_target unfit).1 proxy succeeded
  obtain ⟨reply, split, formed⟩ := (handshakeParser_iff fits).mp parsed
  have received : reply = receivedBytes added := by
    rw [split] at taken
    exact List.append_cancel_right taken
  rw [List.nil_append] at traced
  rw [trace, traced, ← received] at replied
  refine ⟨method, reply, _, formed, replied, ?_, written, decoded⟩
  rw [← same]
  exact split

end Socks5

namespace Http

variable {api : Api}

/-- A loop whose next line is known, with the reader that it leaves. -/
theorem skipHeaders_eq {reader : api.BufReader} {line : String}
    (read : (api.readLine reader).1 = .ok line) :
    (skipHeaders api reader).2 = if (trimLineEnd line).isEmpty then (api.readLine reader).2
      else (skipHeaders api (api.readLine reader).2).2 := by
  rw [skipHeaders]
  split
  · rename_i failed
    rw [read] at failed
    contradiction
  · rename_i text found
    have same : line = text := Except.ok.inj (read.symm.trans found)
    rw [same]
    split <;> rfl

/-- At the end of the stream the loop leaves nothing. -/
theorem unread_skipHeaders_end {reader : api.BufReader} (clean : (api.inner reader).Clean)
    (left : api.unread reader = []) : api.unread (skipHeaders api reader).2 = [] := by
  have empty : api.unread reader = Text.asBytes "" ++ [] := left
  obtain ⟨read, after, _⟩ := readLine_next clean empty (Or.inr ⟨rfl, List.not_mem_nil⟩)
  rw [skipHeaders_eq read]
  exact after

/-- Behind cut headers nothing is left. -/
theorem unread_skipHeaders_cut (reader : api.BufReader) (clean : (api.inner reader).Clean)
    (cut : CutHeaders (api.unread reader)) : api.unread (skipHeaders api reader).2 = [] := by
  obtain ⟨headers, tail, whole, lines, unended⟩ := cut
  induction headers generalizing reader with
  | nil =>
    rw [List.flatMap_nil, List.nil_append, ← List.append_nil (Text.asBytes tail)] at whole
    obtain ⟨read, after, still⟩ := readLine_next clean whole (Or.inr ⟨rfl, unended⟩)
    rw [skipHeaders_eq read]
    split
    · exact after
    · exact unread_skipHeaders_end still after
  | cons header headers ih =>
    obtain ⟨ended, kept, rest⟩ := lines.uncons
    rw [List.flatMap_cons, List.append_assoc] at whole
    obtain ⟨read, after, still⟩ := readLine_next clean whole (Or.inl ended)
    rw [skipHeaders_eq read, if_neg fun blank => kept ((trimLineEnd_isEmpty_iff header).mp blank)]
    exact ih _ still after rest

/-- A response that is accepted is a complete head, or a cut head behind which nothing is left. -/
theorem readResponse_takes {reader : api.BufReader} (target : ProxyTarget)
    (clean : (api.inner reader).Clean) (accepted : (readResponse api target reader).1 = .ok ()) :
    ∃ head, api.unread reader = head ++ api.unread (readResponse api target reader).2 ∧
      (CompleteHead head ∨ CutHead head ∧ api.unread (readResponse api target reader).2 = []) := by
  rcases (readResponse_ok_iff target clean).mp accepted with ⟨head, tunnel, whole, complete⟩ | cut
  · obtain ⟨-, after, -⟩ := readResponse_complete target clean whole complete
    refine ⟨head, ?_, Or.inl complete⟩
    rw [after, whole]
  · have again := cut
    obtain ⟨status, rest, whole, isLine, code, headers⟩ := cut
    obtain ⟨read, after, still⟩ := readLine_next clean whole isLine
    have checked : checkStatus target (trimLineEnd status) = .ok () := checkStatus_eq_ok.mpr code
    have left : api.unread (readResponse api target reader).2 = [] := by
      simp only [readResponse, read, checked]
      rw [← after] at headers
      exact unread_skipHeaders_cut _ still headers
    refine ⟨api.unread reader, ?_, Or.inr ⟨again, left⟩⟩
    rw [left, List.append_nil]

/-- A tunnel is returned behind such a response, after the request. -/
theorem doConnect_asks {stream : TcpStream} {target : ProxyTarget}
    {auth : Option (String × String)} {proxy : ProxyStream} (clean : stream.Clean)
    (succeeded : (doConnect api stream target auth).1 = .ok proxy) :
    ∃ head, stream.remaining = head ++ proxy.unread ∧
      proxy.inner.written = stream.written ++ Text.asBytes (connectRequest target auth) ∧
      (CompleteHead head ∨ CutHead head ∧ proxy.unread = []) := by
  have sent := ((doConnect_ok_iff clean).mp ⟨proxy, succeeded⟩).1
  have written := doConnect_written sent
  let reader := api.setInner (api.newReader stream)
    (api.writeAll stream (Text.asBytes (connectRequest target auth))).2
  let last := (readResponse api target reader).2
  have outcome : doConnect api stream target auth =
      ((readResponse api target reader).1.map fun _ =>
        ProxyStream.new (api.inner last) (api.buffer last), api.inner last) := by
    simp only [doConnect, api.newReader_inner, sent]
    rfl
  have incoming : (api.inner reader).incoming = stream.incoming := by
    rw [api.setInner_inner, api.writeAll_incoming]
  have left : api.unread reader = stream.remaining := by
    rw [Api.unread, api.setInner_buffer, api.newReader_buffer, List.nil_append,
      TcpStream.remaining, incoming]
    rfl
  have readable : (api.inner reader).Clean := by
    intro event member
    rw [incoming] at member
    exact clean event member
  rw [outcome] at succeeded written
  cases answered : (readResponse api target reader).1 with
  | error causes =>
    rw [answered] at succeeded
    contradiction
  | ok done =>
    rw [answered] at succeeded
    have same := Except.ok.inj succeeded
    obtain ⟨head, whole, shape⟩ := readResponse_takes target readable answered
    rw [left] at whole
    rw [← same]
    exact ⟨head, whole, written, shape⟩

end Http

/-! ## Every route -/

namespace ProxyConfig

/-- What was asked of the server and what it replied: nothing without a proxy; a conversation
that decodes to the target and a well-formed reply; or a CONNECT request and a response head,
which may be cut only where the stream ends. -/
def Agreed (target : ProxyTarget) (request reply rest : List UInt8) : ProxyConfig → Prop
  | direct => request = [] ∧ reply = []
  | socks5 _ auth => Socks5.WellFormed auth reply ∧ ∃ method, reply.take 2 = [5, method] ∧
      Socks.decode method request = some (Socks5.conversation auth method target)
  | http _ auth => request = Text.asBytes (Http.connectRequest target auth) ∧
      (Http.CompleteHead reply ∨ Http.CutHead reply ∧ rest = [])

/-- The returned stream continues the dialled one: the request was written and its reply was
taken, and any reads yield what is behind the reply, in order. -/
def Tunnelled (config : ProxyConfig) (target : ProxyTarget) (stream : TcpStream)
    (proxy : ProxyStream) : Prop :=
  ∃ request reply, proxy.inner.written = stream.written ++ request ∧
    config.Agreed target request reply proxy.unread ∧
    ∀ calls, stream.remaining = reply ++ ((proxy.runCalls calls).1.flatMap ProxyStream.returned ++
      (proxy.runCalls calls).2.unread)

/-- The server will reply as the route needs it. -/
def Replies (target : ProxyTarget) (bytes : List UInt8) : ProxyConfig → Prop
  | direct => True
  | socks5 _ auth => Socks5.TargetFits target ∧
      ∃ reply tunnel, bytes = reply ++ tunnel ∧ Socks5.WellFormed auth reply
  | http _ _ => ∃ head tunnel, bytes = head ++ tunnel ∧ Http.CompleteHead head

variable {api : Api} {network : Dialer} {config : ProxyConfig} {target : ProxyTarget}

/-- A stream that splits into the reply and what is unread is tunnelled. -/
theorem tunnelled_of_split {stream : TcpStream} {proxy : ProxyStream} {request reply : List UInt8}
    (written : proxy.inner.written = stream.written ++ request)
    (agreed : config.Agreed target request reply proxy.unread)
    (split : stream.remaining = reply ++ proxy.unread) : config.Tunnelled target stream proxy := by
  refine ⟨request, reply, written, agreed, ?_⟩
  intro calls
  rw [split, proxy.unread_runCalls calls]

/-- A direct connection is the dialled stream. -/
theorem direct_eq : DirectConnector.connect network target =
    match network (direct.endpoint target) with
    | .error cause => .error ["direct TCP connect to " ++ target.toText, cause]
    | .ok stream => .ok (.new stream []) := by
  unfold DirectConnector.connect
  cases target <;> rfl

/-- Only the endpoint of the route is dialled. -/
theorem connectInner_congr {other : Dialer}
    (same : other (config.endpoint target) = network (config.endpoint target)) :
    config.connectInner api other target = config.connectInner api network target := by
  cases config with
  | direct =>
    rw [connectInner, connectInner, direct_eq, direct_eq, same]
  | socks5 addr auth =>
    have server : other (.server addr) = network (.server addr) := same
    simp only [connectInner, Socks5.Socks5Connector.connect, server]
  | http addr auth =>
    have server : other (.server addr) = network (.server addr) := same
    simp only [connectInner, Http.HttpConnector.connect, server]

/-- A connection comes from the endpoint and continues its stream. -/
theorem connectInner_tunnelled {proxy : ProxyStream}
    (succeeded : config.connectInner api network target = .ok proxy) :
    ∃ stream, network (config.endpoint target) = .ok stream ∧
      (stream.Clean → config.Tunnelled target stream proxy) := by
  cases config with
  | direct =>
    rw [connectInner, direct_eq] at succeeded
    cases dialled : network (direct.endpoint target) with
    | error cause =>
      rw [dialled] at succeeded
      contradiction
    | ok stream =>
      rw [dialled] at succeeded
      have same := Except.ok.inj succeeded
      refine ⟨stream, rfl, fun _ => ?_⟩
      rw [← same]
      exact tunnelled_of_split (List.append_nil _).symm ⟨rfl, rfl⟩ rfl
  | socks5 addr auth =>
    rw [connectInner] at succeeded
    cases dialled : network (.server addr) with
    | error cause =>
      simp only [Socks5.Socks5Connector.connect, dialled] at succeeded
      contradiction
    | ok stream =>
      refine ⟨stream, dialled, fun clean => ?_⟩
      obtain ⟨method, reply, request, formed, selected, split, written, decoded⟩ :=
        Socks5.connect_asks dialled clean succeeded
      exact tunnelled_of_split written ⟨formed, method, selected, decoded⟩ split
  | http addr auth =>
    rw [connectInner] at succeeded
    cases dialled : network (.server addr) with
    | error cause =>
      simp only [Http.HttpConnector.connect, dialled] at succeeded
      contradiction
    | ok stream =>
      simp only [Http.HttpConnector.connect, dialled] at succeeded
      refine ⟨stream, dialled, fun clean => ?_⟩
      obtain ⟨head, split, written, shape⟩ := Http.doConnect_asks clean succeeded
      exact tunnelled_of_split written ⟨rfl, shape⟩ split

/-- A server that replies as the route needs it is connected to. -/
theorem connectInner_of_replies {stream : TcpStream}
    (dialled : network (config.endpoint target) = .ok stream) (clean : stream.Clean)
    (writes : ∀ stream bytes, (api.writeAll stream bytes).1 = .ok ())
    (replies : config.Replies target stream.remaining) :
    ∃ proxy, config.connectInner api network target = .ok proxy := by
  cases config with
  | direct =>
    rw [connectInner, direct_eq, dialled]
    exact ⟨_, rfl⟩
  | socks5 addr auth =>
    obtain ⟨fits, reply, tunnel, split, formed⟩ := replies
    have server : network (.server addr) = .ok stream := dialled
    have parsed : Socks5.handshakeParser auth target stream.remaining = some ((), tunnel) :=
      (Socks5.handshakeParser_iff fits).mpr ⟨reply, split, formed⟩
    have reads := Socks5.reads_handshake writes auth target ⟨stream, []⟩ clean
    simp only [parsed] at reads
    simp only [connectInner, Socks5.Socks5Connector.connect, server, reads.1]
    exact ⟨_, rfl⟩
  | http addr auth =>
    have server : network (.server addr) = .ok stream := dialled
    simp only [connectInner, Http.HttpConnector.connect, server]
    exact (Http.doConnect_ok_iff clean).mpr ⟨writes _ _, Or.inl replies⟩

/-- For every route, target and network: what any address but the endpoint of the route would
answer does not matter; a returned stream continues the one that was dialled there; and a server
that replies as the route needs it in time is connected to. -/
theorem upstream_connections (api : Api) (network : Dialer) (elapsed : Bool)
    (config : ProxyConfig) (target : ProxyTarget) :
    (∀ other : Dialer, other (config.endpoint target) = network (config.endpoint target) →
      config.connect api other elapsed target = config.connect api network elapsed target) ∧
    (∀ proxy, config.connect api network elapsed target = .ok proxy →
      elapsed = false ∧ ∃ stream, network (config.endpoint target) = .ok stream ∧
        (stream.Clean → config.Tunnelled target stream proxy)) ∧
    (∀ stream, network (config.endpoint target) = .ok stream → stream.Clean →
      (∀ stream bytes, (api.writeAll stream bytes).1 = .ok ()) →
      config.Replies target stream.remaining → elapsed = false →
      ∃ proxy, config.connect api network elapsed target = .ok proxy) := by
  refine ⟨?_, ?_, ?_⟩
  · intro other same
    rw [connect, connect, connectInner_congr same]
  · intro proxy succeeded
    unfold connect at succeeded
    split_ifs at succeeded with late
    refine ⟨Bool.eq_false_iff.mpr late, connectInner_tunnelled succeeded⟩
  · intro stream dialled clean writes replies early
    rw [connect, early, if_neg Bool.false_ne_true]
    exact connectInner_of_replies dialled clean writes replies

/-- A proxy that replies and sends the first byte of the tunnel in one go. -/
def repliedStream : TcpStream :=
  ⟨[.data [5, 0, 5, 0, 0, 1, 127, 0, 0, 1, 0, 0, 42] (by decide)], [], []⟩

/-- A SOCKS5 proxy is greeted, answers, and leaves the tunnel to the returned stream. -/
theorem upstream_connections_socks5 :
    ∃ proxy, (socks5 "127.0.0.1:1080" none).connect scheduleApi (fun _ => .ok repliedStream) false
      (.domain "example.com" 443) = .ok proxy ∧
      (socks5 "127.0.0.1:1080" none).Tunnelled (.domain "example.com" 443) repliedStream proxy := by
  have clean : repliedStream.Clean := by
    intro event member message
    simp only [repliedStream, List.mem_cons, List.not_mem_nil, or_false] at member
    rw [member]
    exact fun same => by contradiction
  have fits : Socks5.TargetFits (.domain "example.com" 443) := by
    intro host port same
    rw [← (ProxyTarget.domain.inj same).1]
    decide +kernel
  have replies : (socks5 "127.0.0.1:1080" none).Replies (.domain "example.com" 443)
      repliedStream.remaining :=
    ⟨fits, [5, 0, 5, 0, 0, 1, 127, 0, 0, 1, 0, 0], [42], rfl, [5, 0], 0, 1, [127, 0, 0, 1, 0, 0],
      Or.inl rfl, Or.inl ⟨rfl, rfl⟩, rfl⟩
  obtain ⟨-, tunnelled, connects⟩ := upstream_connections scheduleApi
    (fun _ => .ok repliedStream) false (socks5 "127.0.0.1:1080" none) (.domain "example.com" 443)
  obtain ⟨proxy, connected⟩ := connects repliedStream rfl clean (fun _ _ => rfl) replies rfl
  obtain ⟨-, stream, dialled, continues⟩ := tunnelled proxy connected
  have same : repliedStream = stream := Except.ok.inj dialled
  rw [← same] at continues
  exact ⟨proxy, connected, continues clean⟩

end ProxyConfig

end NsProxy
