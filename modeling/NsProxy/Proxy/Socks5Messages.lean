import NsProxy.Lib.Socks
import NsProxy.Proxy.Socks5Handshake

/-!
# What the SOCKS5 client says

The bytes of a successful handshake are one conversation of the protocol: a decoder that knows
the selected method finds in them the offered methods, the credentials and the target. A field
that its length byte cannot hold is never sent.
-/

namespace NsProxy.Socks5

open Tokio Io

/-- The address that a target asks for. -/
def addressOf : ProxyTarget → Socks.Address
  | .ip (.v4 v4) _ => .ipv4 v4.octets
  | .ip (.v6 v6) _ => .ipv6 v6.octets.toList
  | .domain host _ => .domain (Text.asBytes host)

/-- The port that a target asks for. -/
def portOf : ProxyTarget → UInt16
  | .ip _ port => port
  | .domain _ port => port

/-- What a client with these credentials has to say to a server that selects a method. -/
def conversation (auth : Option (String × String)) (method : UInt8) (target : ProxyTarget) :
    Socks.Conversation where
  methods := if auth.isSome then [0, 2] else [0]
  credentials :=
    if method = 2 then auth.map fun (user, pass) => (Text.asBytes user, Text.asBytes pass) else none
  request := ⟨1, addressOf target, portOf target⟩

/-! ## The messages one by one -/

/-- The greeting is read back as the methods that are offered. -/
theorem readGreeting_greeting (hasAuth : Bool) (rest : List UInt8) :
    Socks.readGreeting (greeting hasAuth ++ rest) =
      some (if hasAuth then [0, 2] else [0], rest) := by
  cases hasAuth with
  | false => exact Socks.readGreeting_append (show [(0 : UInt8)].length ≤ 255 by decide) rest
  | true => exact Socks.readGreeting_append (show [(0 : UInt8), 2].length ≤ 255 by decide) rest

/-- The credentials are read back as they were given. -/
theorem readCredentials_authRequest {user pass : String} {request : List UInt8}
    (built : authRequest user pass = .ok request) (rest : List UInt8) :
    Socks.readCredentials (request ++ rest) =
      some ((Text.asBytes user, Text.asBytes pass), rest) := by
  obtain ⟨⟨shortUser, shortPass⟩, same⟩ := authRequest_eq_ok.mp built
  rw [same]
  simp only [List.append_assoc, List.cons_append, List.nil_append]
  exact Socks.readCredentials_append shortUser shortPass rest

/-- The request is read back as a CONNECT to the target. -/
theorem readRequest_connectRequest {target : ProxyTarget} {request : List UInt8}
    (built : connectRequest target = .ok request) (rest : List UInt8) :
    Socks.readRequest (request ++ rest) = some (⟨1, addressOf target, portOf target⟩, rest) := by
  unfold connectRequest at built
  cases target with
  | ip addr port =>
    cases addr with
    | v4 v4 =>
      have found : ∀ tail, Socks.readAddress 1 (v4.octets ++ tail) =
          some (.ipv4 v4.octets, tail) := by
        intro tail
        simp only [Socks.readAddress]
        rw [show 4 = v4.octets.length from rfl, Socks.readBytes_append]
        rfl
      rw [← Except.ok.inj built]
      simp only [List.append_assoc, List.cons_append, List.nil_append]
      exact Socks.readRequest_append port rest found
    | v6 v6 =>
      have found : ∀ tail, Socks.readAddress 4 (v6.octets.toList ++ tail) =
          some (.ipv6 v6.octets.toList, tail) := by
        intro tail
        have taken := Socks.readBytes_append v6.octets.toList tail
        rw [Vector.length_toList] at taken
        simp only [Socks.readAddress, taken, Option.map_some]
      rw [← Except.ok.inj built]
      simp only [List.append_assoc, List.cons_append, List.nil_append]
      exact Socks.readRequest_append port rest found
  | domain host port =>
    dsimp only at built
    split at built
    · contradiction
    · rename_i short
      have found : ∀ tail, Socks.readAddress 3
          ((UInt8.ofNat (Text.asBytes host).length :: Text.asBytes host) ++ tail) =
          some (.domain (Text.asBytes host), tail) := by
        intro tail
        simp only [Socks.readAddress, List.cons_append]
        rw [Socks.readCounted_append (by omega)]
        rfl
      rw [← Except.ok.inj built]
      simp only [List.append_assoc, List.cons_append, List.nil_append]
      exact Socks.readRequest_append port rest found

/-- The messages of a handshake that sends its CONNECT request. -/
inductive Messages (auth : Option (String × String)) (target : ProxyTarget) :
    UInt8 → List (List UInt8) → Prop
  /-- The server wants no authentication. -/
  | plain {request : List UInt8} (built : connectRequest target = .ok request) :
    Messages auth target 0 [greeting auth.isSome, request]
  /-- The server asks for the credentials. -/
  | authenticated {credentials request : List UInt8} (asked : IsAuthRequest auth credentials)
    (built : connectRequest target = .ok request) :
    Messages auth target 2 [greeting auth.isSome, credentials, request]

/-- The messages of a handshake end with a request that was built. -/
theorem Messages.request {auth : Option (String × String)} {target : ProxyTarget} {method : UInt8}
    {messages : List (List UInt8)} (sent : Messages auth target method messages) :
    ∃ request, connectRequest target = .ok request := by
  cases sent with
  | plain built => exact ⟨_, built⟩
  | authenticated _ built => exact ⟨_, built⟩

/-- The messages decode to what the client has to say. -/
theorem Messages.decode {auth : Option (String × String)} {target : ProxyTarget} {method : UInt8}
    {messages : List (List UInt8)} (sent : Messages auth target method messages) :
    Socks.decode method messages.flatten = some (conversation auth method target) := by
  cases sent with
  | @plain request built =>
    have greeted := readGreeting_greeting auth.isSome (request ++ [])
    have asked := readRequest_connectRequest built []
    have offered : (0 : UInt8) ∈ if auth.isSome then ([0, 2] : List UInt8) else [0] := by
      split <;> decide
    simp only [List.flatten_cons, List.flatten_nil, Socks.decode, greeted, bind, Option.bind,
      offered, Socks.readSelected, show (0 : UInt8) ≠ 2 by decide, ↓reduceIte, asked,
      conversation]
  | @authenticated credentials request asked built =>
    obtain ⟨user, pass, present, made⟩ := asked
    rw [present]
    have greeted := readGreeting_greeting true (credentials ++ (request ++ []))
    have named := readCredentials_authRequest made (request ++ [])
    have targeted := readRequest_connectRequest built []
    have offered : (2 : UInt8) ∈ ([0, 2] : List UInt8) := by decide
    simp only [List.flatten_cons, List.flatten_nil, Option.isSome_some, Socks.decode, greeted,
      bind, Option.bind, offered, Socks.readSelected, ↓reduceIte, named, Option.map_some, targeted,
      conversation]

/-! ## The messages of a run -/

/-- A successful handshake has sent its messages, with the authentication request exactly when the
reply to the greeting selects it. -/
theorem traces_messages (api : Api) (auth : Option (String × String)) (target : ProxyTarget) :
    Traces (handshake api auth target) fun result added => result = .ok () →
      ∃ method, (receivedBytes added).take 2 = [5, method] ∧
        Messages auth target method (sentMessages added) := by
  refine (traces_bind (traces_negotiateMethod api auth.isSome) fun method =>
    traces_bind (traces_authenticateIfAsked api auth method) fun _ =>
      traces_sendConnectRequest api target).mono fun result added shape succeeded => ?_
  rcases shape with ⟨_, failed, _⟩ | ⟨method, first, _, rfl, ⟨greeted, selected⟩, shape⟩
  · rw [failed] at succeeded
    contradiction
  · obtain ⟨replied, allowed⟩ := selected method rfl
    rcases shape with ⟨_, failed, _⟩ | ⟨_, second, third, rfl, calls, shape⟩
    · rw [failed] at succeeded
      contradiction
    · rcases shape with ⟨_, failed, _⟩ | ⟨request, after, built, rfl, quiet⟩
      · exact absurd succeeded failed
      · refine ⟨method, ?_, ?_⟩
        · rw [receivedBytes_append, replied]
          rfl
        · have last : sentMessages (.sent request :: after) = [request] := by
            rw [← List.singleton_append, sentMessages_append, quiet]
            rfl
          rw [sentMessages_append, sentMessages_append, greeted, last]
          rcases calls with ⟨rfl, other, _⟩ | ⟨rfl, credentials, asked, only, _⟩
          · obtain rfl := allowed.resolve_right fun user => other rfl user.1
            exact .plain built
          · rw [only]
            exact .authenticated asked built

/-- Without a CONNECT request the handshake fails, and sends nothing else in its place. -/
theorem traces_unfit_target (api : Api) (auth : Option (String × String)) {target : ProxyTarget}
    (unfit : ¬ TargetFits target) :
    Traces (handshake api auth target) fun result added => result ≠ .ok () ∧
      ∀ message ∈ sentMessages added,
        message = greeting auth.isSome ∨ IsAuthRequest auth message := by
  have unbuilt : ∀ request, connectRequest target ≠ .ok request := by
    intro request built
    exact unfit ((connectRequest_spec target).1.mpr ⟨request, built⟩)
  intro session
  obtain ⟨added, whole, before, after, rfl, early, late⟩ := traces_handshake api auth target session
  obtain ⟨again, sameWhole, sent⟩ := traces_messages api auth target session
  refine ⟨before ++ after, whole, ?_, ?_⟩
  · intro succeeded
    obtain ⟨method, _, messages⟩ := sent succeeded
    obtain ⟨request, built⟩ := messages.request
    exact unbuilt request built
  · rcases late with rfl | ⟨request, _, built, _⟩
    · rw [List.append_nil]
      exact early
    · exact absurd built (unbuilt request)

/-- Without an authentication request the handshake fails once the server asks for it, with
nothing sent but the greeting. -/
theorem traces_unfit_credentials (api : Api) {auth : Option (String × String)}
    (target : ProxyTarget) (unfit : ¬ CredentialsFit auth) :
    Traces (handshake api auth target) fun result added =>
      (receivedBytes added).take 2 = [5, 2] →
        result ≠ .ok () ∧ sentMessages added = [greeting auth.isSome] := by
  refine (traces_bind (traces_negotiateMethod api auth.isSome) fun method =>
    traces_bind (traces_authenticateIfAsked api auth method) fun _ =>
      traces_sendConnectRequest api target).mono fun result added shape asked => ?_
  rcases shape with ⟨_, failed, sent, _⟩ | ⟨method, first, _, rfl, ⟨sent, selected⟩, shape⟩
  · rw [failed]
    exact ⟨by simp, sent⟩
  · obtain ⟨replied, _⟩ := selected method rfl
    have user : method = 2 := by
      rw [receivedBytes_append, replied] at asked
      simpa using asked
    have silent : ∀ {outcome : Except Error Unit} {second : List Transfer},
        AuthCalls auth method outcome second → second = [] ∧ outcome ≠ .ok () := by
      intro outcome second calls
      rcases calls with ⟨empty, other, _⟩ | ⟨_, request, built, _⟩
      · exact ⟨empty, fun succeeded => other succeeded user⟩
      · exact absurd ((exists_isAuthRequest_iff auth).mp ⟨request, built⟩) unfit
    rcases shape with ⟨_, failed, calls⟩ | ⟨_, second, third, rfl, calls, _⟩
    · rw [failed, (silent calls).1, List.append_nil]
      exact ⟨by simp, sent⟩
    · exact absurd rfl (silent calls).2

/-! ## The bytes on the socket -/

/-- A function that succeeds has written the messages that it sent, and nothing else. -/
def Delivers {α : Type} (action : Io α) : Prop :=
  ∀ session value, (action session).1 = .ok value → ∃ added,
    (action session).2.trace = session.trace ++ added ∧
    (action session).2.stream.written = session.stream.written ++ (sentMessages added).flatten

section Delivering

variable {α β : Type}

/-- A result that is at hand writes nothing. -/
theorem delivers_ofExcept (result : Except Error α) : Delivers (Io.ofExcept result) := by
  intro session value succeeded
  exact ⟨[], (List.append_nil _).symm, (List.append_nil _).symm⟩

/-- A value that is at hand writes nothing. -/
theorem delivers_pure (value : α) : Delivers (pure value) :=
  delivers_ofExcept (.ok value)

/-- Two functions one after the other write their messages one after the other. -/
theorem delivers_bind {action : Io α} {next : α → Io β} (first : Delivers action)
    (second : ∀ value, Delivers (next value)) : Delivers (action >>= next) := by
  intro session value succeeded
  rw [bind_apply] at succeeded ⊢
  have start := first session
  cases ran : action session with
  | mk result middle =>
    rw [ran] at succeeded start
    cases result with
    | error causes => contradiction
    | ok found =>
      obtain ⟨before, traced, written⟩ := start found rfl
      obtain ⟨after, further, more⟩ := second found middle value succeeded
      simp only at traced written
      refine ⟨before ++ after, ?_, ?_⟩
      · rw [further, traced, List.append_assoc]
      · rw [more, written, sentMessages_append, List.flatten_append, List.append_assoc]

/-- A context changes nothing of what is written. -/
theorem delivers_context (message : String) {action : Io α} (delivers : Delivers action) :
    Delivers (context message action) := by
  intro session value succeeded
  have inner : (action session).1 = .ok value := Error.context_eq_ok.mp succeeded
  exact delivers session value inner

/-- A write puts its bytes on the socket. -/
theorem delivers_writeAll (api : Api) (bytes : List UInt8) : Delivers (writeAll api bytes) := by
  intro session value succeeded
  have wrote : (api.writeAll session.stream bytes).1 = .ok () := by
    cases result : (api.writeAll session.stream bytes).1 with
    | ok done => rfl
    | error cause => simp [writeAll, result, Except.mapError] at succeeded
  refine ⟨[.sent bytes], rfl, ?_⟩
  have written := api.writeAll_written session.stream bytes wrote
  simpa [writeAll, sentMessages] using written

/-- A read writes nothing. -/
theorem delivers_readExact (api : Api) (count : Nat) : Delivers (readExact api count) := by
  intro session value succeeded
  have quiet := api.readExact_written session.stream count
  unfold readExact at succeeded ⊢
  split at succeeded
  · rename_i bytes read
    refine ⟨[.received bytes], rfl, ?_⟩
    rw [quiet]
    exact (List.append_nil _).symm
  · contradiction

end Delivering

/-- Taking the bound address writes nothing. -/
theorem delivers_skipAddr (api : Api) (atyp : UInt8) : Delivers (skipAddr api atyp) := by
  unfold skipAddr
  split
  · exact delivers_bind (delivers_readExact api 6) fun _ => delivers_pure ()
  · split
    · exact delivers_bind (delivers_readExact api 18) fun _ => delivers_pure ()
    · split
      · exact delivers_bind (delivers_readExact api 1) fun _ =>
          delivers_bind (delivers_readExact api _) fun _ => delivers_pure ()
      · exact delivers_ofExcept (.error _)

/-- The greeting is written as it was sent. -/
theorem delivers_negotiateMethod (api : Api) (hasAuth : Bool) :
    Delivers (negotiateMethod api hasAuth) :=
  delivers_bind (delivers_context _ (delivers_writeAll api _)) fun _ =>
    delivers_bind (delivers_context _ (delivers_readExact api 2)) fun _ => delivers_ofExcept _

/-- The credentials are written as they were sent. -/
theorem delivers_authenticateIfAsked (api : Api) (auth : Option (String × String))
    (method : UInt8) : Delivers (authenticateIfAsked api auth method) := by
  unfold authenticateIfAsked
  split
  · refine delivers_bind (delivers_ofExcept _) fun _ => ?_
    exact delivers_bind (delivers_ofExcept _) fun _ =>
      delivers_bind (delivers_context _ (delivers_writeAll api _)) fun _ =>
        delivers_bind (delivers_context _ (delivers_readExact api 2)) fun _ => delivers_ofExcept _
  · exact delivers_pure ()

/-- The request is written as it was sent. -/
theorem delivers_sendConnectRequest (api : Api) (target : ProxyTarget) :
    Delivers (sendConnectRequest api target) :=
  delivers_bind (delivers_ofExcept _) fun _ =>
    delivers_bind (delivers_context _ (delivers_writeAll api _)) fun _ =>
      delivers_bind (delivers_context _ (delivers_readExact api 4)) fun _ =>
        delivers_bind (delivers_ofExcept _) fun _ => delivers_context _ (delivers_skipAddr api _)

/-- The handshake writes the messages that it sent, and nothing else. -/
theorem delivers_handshake (api : Api) (auth : Option (String × String)) (target : ProxyTarget) :
    Delivers (handshake api auth target) :=
  delivers_bind (delivers_negotiateMethod api _) fun _ =>
    delivers_bind (delivers_authenticateIfAsked api _ _) fun _ => delivers_sendConnectRequest api _

/-! ## The connector -/

section Connecting

variable {api : Api} {dial : String → Except String TcpStream} {connector : Socks5Connector}
  {target : ProxyTarget} {stream : TcpStream}

/-- With a connection, `connect` returns a stream exactly when the handshake succeeds. -/
theorem connect_of_dial (connected : dial connector.server = .ok stream) :
    (connector.connect api dial target).2 =
        (handshake api connector.auth target ⟨stream, []⟩).2.trace ∧
      ∀ proxy, (connector.connect api dial target).1 = .ok proxy ↔
        (handshake api connector.auth target ⟨stream, []⟩).1 = .ok () ∧
          ProxyStream.new (handshake api connector.auth target ⟨stream, []⟩).2.stream [] =
            proxy := by
  unfold Socks5Connector.connect
  rw [connected]
  refine ⟨rfl, fun proxy => ?_⟩
  cases ran : handshake api connector.auth target ⟨stream, []⟩ with
  | mk result session =>
    cases result with
    | error causes => simp [ran, Except.map]
    | ok done => simp [ran, Except.map]

/-- Without a connection, `connect` fails and nothing is transferred. -/
theorem connect_of_no_dial {cause : String} (refused : dial connector.server = .error cause) :
    (connector.connect api dial target).2 = [] ∧
      ∀ proxy, (connector.connect api dial target).1 ≠ .ok proxy := by
  unfold Socks5Connector.connect
  rw [refused]
  exact ⟨rfl, fun proxy => by simp⟩

/-- The bytes that a successful `connect` has written decode to what was asked. -/
theorem connect_decodes {proxy : ProxyStream} (connected : dial connector.server = .ok stream)
    (succeeded : (connector.connect api dial target).1 = .ok proxy) :
    ∃ method, (receivedBytes (connector.connect api dial target).2).take 2 = [5, method] ∧
      proxy.inner.written =
        stream.written ++ (sentMessages (connector.connect api dial target).2).flatten ∧
      Socks.decode method (sentMessages (connector.connect api dial target).2).flatten =
        some (conversation connector.auth method target) := by
  obtain ⟨trace, outcome⟩ := @connect_of_dial api dial connector target stream connected
  obtain ⟨returned, same⟩ := (outcome proxy).mp succeeded
  obtain ⟨added, traced, sent⟩ := traces_messages api connector.auth target ⟨stream, []⟩
  obtain ⟨again, sameTrace, written⟩ :=
    delivers_handshake api connector.auth target ⟨stream, []⟩ () returned
  obtain ⟨method, replied, messages⟩ := sent returned
  rw [List.nil_append] at traced sameTrace
  rw [traced] at sameTrace
  rw [trace, traced]
  refine ⟨method, replied, ?_, messages.decode⟩
  rw [← same, sameTrace]
  exact written

/-- A target that its length byte cannot hold is not sent. -/
theorem connect_unfit_target (unfit : ¬ TargetFits target) :
    (∀ proxy, (connector.connect api dial target).1 ≠ .ok proxy) ∧
      ∀ message ∈ sentMessages (connector.connect api dial target).2,
        message = greeting connector.auth.isSome ∨ IsAuthRequest connector.auth message := by
  cases connected : dial connector.server with
  | error cause =>
    obtain ⟨trace, failed⟩ := @connect_of_no_dial api dial connector target cause connected
    rw [trace]
    exact ⟨failed, fun message member => by contradiction⟩
  | ok stream =>
    obtain ⟨trace, outcome⟩ := @connect_of_dial api dial connector target stream connected
    obtain ⟨added, traced, failed, sent⟩ :=
      traces_unfit_target api connector.auth unfit ⟨stream, []⟩
    rw [List.nil_append] at traced
    rw [trace, traced]
    exact ⟨fun proxy succeeded => failed ((outcome proxy).mp succeeded).1, sent⟩

/-- Credentials that their length bytes cannot hold are not sent when the server asks for them. -/
theorem connect_unfit_credentials (unfit : ¬ CredentialsFit connector.auth)
    (replied : (receivedBytes (connector.connect api dial target).2).take 2 = [5, 2]) :
    (∀ proxy, (connector.connect api dial target).1 ≠ .ok proxy) ∧
      sentMessages (connector.connect api dial target).2 = [greeting connector.auth.isSome] := by
  cases connected : dial connector.server with
  | error cause =>
    rw [(@connect_of_no_dial api dial connector target cause connected).1] at replied
    contradiction
  | ok stream =>
    obtain ⟨trace, outcome⟩ := @connect_of_dial api dial connector target stream connected
    obtain ⟨added, traced, refused⟩ := traces_unfit_credentials api target unfit ⟨stream, []⟩
    rw [List.nil_append] at traced
    rw [trace, traced] at replied ⊢
    obtain ⟨failed, sent⟩ := refused replied
    exact ⟨fun proxy succeeded => failed ((outcome proxy).mp succeeded).1, sent⟩

end Connecting

/-- For every socket, all credentials and every target: the bytes that a successful `connect` has
written are the messages that it sent, and decode to the offered methods, the credentials if the
reply to the greeting selected method 2, and the target. A target whose host its length byte
cannot hold makes `connect` fail without a CONNECT request, and credentials that their length
bytes cannot hold make it fail with nothing sent but the greeting when method 2 is selected. -/
theorem client_messages_decode (api : Api) (dial : String → Except String TcpStream)
    (connector : Socks5Connector) (target : ProxyTarget) :
    let outcome := connector.connect api dial target
    (∀ stream proxy, dial connector.server = .ok stream → outcome.1 = .ok proxy →
      ∃ method, (receivedBytes outcome.2).take 2 = [5, method] ∧
        proxy.inner.written = stream.written ++ (sentMessages outcome.2).flatten ∧
        Socks.decode method (sentMessages outcome.2).flatten =
          some (conversation connector.auth method target)) ∧
    (∀ host port, target = .domain host port → 255 < (Text.asBytes host).length →
      (∀ proxy, outcome.1 ≠ .ok proxy) ∧ ∀ message ∈ sentMessages outcome.2,
        message = greeting connector.auth.isSome ∨ IsAuthRequest connector.auth message) ∧
    (∀ user pass, connector.auth = some (user, pass) →
      255 < (Text.asBytes user).length ∨ 255 < (Text.asBytes pass).length →
      (receivedBytes outcome.2).take 2 = [5, 2] →
      (∀ proxy, outcome.1 ≠ .ok proxy) ∧
        sentMessages outcome.2 = [greeting connector.auth.isSome]) := by
  refine ⟨?_, ?_, ?_⟩
  · intro stream proxy connected succeeded
    exact connect_decodes connected succeeded
  · intro host port targeted long
    apply connect_unfit_target
    intro fits
    have short := fits host port targeted
    omega
  · intro user pass present long replied
    have unfit : ¬ CredentialsFit connector.auth := by
      rintro ⟨name, word, same, shortName, shortWord⟩
      rw [present, Option.some.injEq, Prod.mk.injEq] at same
      rw [same.1, same.2] at long
      omega
    exact connect_unfit_credentials unfit replied

/-- A server that asks for the credentials finds them and the target in the bytes. -/
theorem client_messages_decode_user_pass :
    let stream : TcpStream := ⟨[.data [5, 2, 1] (by decide), .wouldBlock,
      .data [0, 5, 0, 0, 1, 127, 0, 0, 1, 0, 0, 42] (by decide)], [], []⟩
    let connector : Socks5Connector := ⟨"127.0.0.1:1080", some ("user", "pass")⟩
    ∃ proxy, (connector.connect scheduleApi (fun _ => .ok stream) (.domain "a" 80)).1 = .ok proxy ∧
      Socks.decode 2 proxy.inner.written = some ⟨[0, 2], some ([117, 115, 101, 114],
        [112, 97, 115, 115]), ⟨1, .domain [97], 80⟩⟩ := by
  intro stream connector
  have succeeded : ∃ proxy, (connector.connect scheduleApi (fun _ => .ok stream)
      (.domain "a" 80)).1 = .ok proxy := ⟨_, rfl⟩
  obtain ⟨proxy, returned⟩ := succeeded
  obtain ⟨method, replied, written, decoded⟩ := (client_messages_decode scheduleApi
    (fun _ => .ok stream) connector (.domain "a" 80)).1 stream proxy rfl returned
  have user : [5, 2] = [5, method] := replied
  rw [List.cons.injEq, List.cons.injEq] at user
  rw [← user.2.1] at decoded
  refine ⟨proxy, returned, ?_⟩
  rw [written, show stream.written = [] from rfl, List.nil_append, decoded]
  decide +kernel

end NsProxy.Socks5
