import NsProxy.Proxy.Socks5
import NsProxy.Tokio.Schedule

/-!
# The SOCKS5 handshake over every byte stream

Each step of the handshake is compared with a parser of the bytes to come, and the parsers
with the grammar of well-formed replies. The order of the messages is read off the calls that
each step adds.
-/

namespace NsProxy.Socks5

open Tokio Io

/-! ## The grammar of the replies -/

/-- The bound address of a reply, by its type. -/
def BoundAddress (atyp : UInt8) (bound : List UInt8) : Prop :=
  (atyp = 1 ∧ bound.length = 6) ∨ (atyp = 4 ∧ bound.length = 18) ∨
    (atyp = 3 ∧ ∃ length rest, bound = length :: rest ∧ rest.length = length.toNat + 2)

/-- The credentials are present and each fits its length byte. -/
def CredentialsFit (auth : Option (String × String)) : Prop :=
  ∃ user pass, auth = some (user, pass) ∧ (Text.asBytes user).length ≤ 255 ∧
    (Text.asBytes pass).length ≤ 255

/-- The part of a well-formed reply from the method to the authentication. -/
def MethodReply (auth : Option (String × String)) (reply : List UInt8) : Prop :=
  reply = [5, 0] ∨ (CredentialsFit auth ∧ ∃ version, reply = [5, 2, version, 0])

/-- A well-formed reply to the whole handshake. -/
def WellFormed (auth : Option (String × String)) (reply : List UInt8) : Prop :=
  ∃ methods reserved atyp bound, MethodReply auth methods ∧ BoundAddress atyp bound ∧
    reply = methods ++ ([5, 0, reserved, atyp] ++ bound)

/-- The host of a target fits its length byte. -/
def TargetFits (target : ProxyTarget) : Prop :=
  ∀ host port, target = .domain host port → (Text.asBytes host).length ≤ 255

/-! ## The steps as parsers -/

/-- The parser of the method selection. -/
def methodParser (hasAuth : Bool) : Parser UInt8 := do
  let resp ← Parser.take 2
  StateT.lift (checkMethod hasAuth resp).toOption

/-- The parser of the authentication reply. -/
def authParser (user pass : String) : Parser Unit := do
  let _ ← StateT.lift (authRequest user pass).toOption
  let resp ← Parser.take 2
  StateT.lift (checkAuth resp).toOption

/-- The parser of the bound address. -/
def addrParser (atyp : UInt8) : Parser Unit := do
  if atyp = atypIpv4 then
    let _ ← Parser.take 6
    return ()
  else if atyp = atypIpv6 then
    let _ ← Parser.take 18
    return ()
  else if atyp = atypDomain then
    let lenBuf ← Parser.take 1
    let _ ← Parser.take ((lenBuf.getD 0 0).toNat + 2)
    return ()
  else failure

/-- The parser of the reply to the CONNECT request. -/
def replyParser (target : ProxyTarget) : Parser Unit := do
  let _ ← StateT.lift (connectRequest target).toOption
  let hdr ← Parser.take 4
  StateT.lift (checkReply target hdr).toOption
  addrParser (hdr.getD 3 0)

/-- The parser of the authentication step. -/
def askedParser (auth : Option (String × String)) (method : UInt8) : Parser Unit := do
  if method = methodUserPass then
    let (user, pass) ← StateT.lift auth
    authParser user pass
  else return ()

/-- The parser of the whole handshake. -/
def handshakeParser (auth : Option (String × String)) (target : ProxyTarget) : Parser Unit := do
  let method ← methodParser auth.isSome
  askedParser auth method
  replyParser target

section Reading

variable {api : Api} (writes : ∀ stream bytes, (api.writeAll stream bytes).1 = .ok ())

include writes

/-- A send reads nothing. -/
theorem reads_send (message : String) (bytes : List UInt8) :
    Reads (Io.context message (Io.writeAll api bytes)) (pure ()) :=
  reads_context message (reads_writeAll fun stream => writes stream bytes)

/-- The choice of the method is read by its parser. -/
theorem reads_negotiateMethod (hasAuth : Bool) :
    Reads (negotiateMethod api hasAuth) (methodParser hasAuth) :=
  reads_bind (reads_send writes _ _) fun _ =>
    reads_bind (reads_context _ (reads_readExact api 2)) fun _ => reads_ofExcept _

/-- The reply to the credentials is read by its parser. -/
theorem reads_authenticate (user pass : String) :
    Reads (authenticate api user pass) (authParser user pass) :=
  reads_bind (reads_ofExcept _) fun _ => reads_bind (reads_send writes _ _) fun _ =>
    reads_bind (reads_context _ (reads_readExact api 2)) fun _ => reads_ofExcept _

omit writes in

/-- The bound address is read by its parser. -/
theorem reads_skipAddr (api : Api) (atyp : UInt8) :
    Reads (skipAddr api atyp) (addrParser atyp) := by
  unfold skipAddr addrParser
  split
  · exact reads_bind (reads_readExact api 6) fun _ => reads_pure ()
  · split
    · exact reads_bind (reads_readExact api 18) fun _ => reads_pure ()
    · split
      · exact reads_bind (reads_readExact api 1) fun _ =>
          reads_bind (reads_readExact api _) fun _ => reads_pure ()
      · exact reads_bail _

/-- The reply to the request is read by its parser. -/
theorem reads_sendConnectRequest (target : ProxyTarget) :
    Reads (sendConnectRequest api target) (replyParser target) :=
  reads_bind (reads_ofExcept _) fun _ => reads_bind (reads_send writes _ _) fun _ =>
    reads_bind (reads_context _ (reads_readExact api 4)) fun _ =>
      reads_bind (reads_ofExcept _) fun _ => reads_context _ (reads_skipAddr api _)

/-- The reply to the credentials is read exactly where they were asked for. -/
theorem reads_authenticateIfAsked (auth : Option (String × String)) (method : UInt8) :
    Reads (authenticateIfAsked api auth method) (askedParser auth method) := by
  unfold authenticateIfAsked askedParser
  split
  · cases auth with
    | none => exact reads_bind (reads_ofExcept _) fun _ => reads_authenticate writes _ _
    | some credentials => exact reads_bind (reads_ofExcept _) fun _ => reads_authenticate writes _ _
  · exact reads_pure ()

/-- The handshake is read by its parser. -/
theorem reads_handshake (auth : Option (String × String)) (target : ProxyTarget) :
    Reads (handshake api auth target) (handshakeParser auth target) :=
  reads_bind (reads_negotiateMethod writes _) fun _ =>
    reads_bind (reads_authenticateIfAsked writes _ _) fun _ => reads_sendConnectRequest writes _

end Reading

/-! ## The parsers and the grammar -/

/-- Two parsers in sequence accept what splits between them. -/
theorem parser_bind {α β : Type} {parser : Parser α} {next : α → Parser β} {bytes : List UInt8}
    {result : β × List UInt8} :
    (parser >>= next) bytes = some result ↔
      ∃ value rest, parser bytes = some (value, rest) ∧ next value rest = some result := by
  change (parser bytes).bind (fun read => next read.1 read.2) = some result ↔ _
  rw [Option.bind_eq_some_iff]
  exact Prod.exists

/-- A parser of fixed length accepts as many bytes as it takes. -/
theorem parser_take {count : Nat} {bytes taken rest : List UInt8} :
    Parser.take count bytes = some (taken, rest) ↔
      bytes = taken ++ rest ∧ taken.length = count := by
  unfold Parser.take
  constructor
  · intro read
    split at read
    · rename_i enough
      cases read
      exact ⟨(List.take_append_drop count bytes).symm, List.length_take_of_le enough⟩
    · contradiction
  · rintro ⟨rfl, rfl⟩
    simp

/-- A value that is at hand is accepted without a byte. -/
theorem parser_lift {α : Type} {value : Option α} {bytes rest : List UInt8} {result : α} :
    (StateT.lift value : Parser α) bytes = some (result, rest) ↔
      value = some result ∧ rest = bytes := by
  change (value.bind fun found => some (found, bytes)) = some (result, rest) ↔ _
  cases value <;> simp [eq_comm]

/-- The trivial parser accepts without a byte. -/
theorem parser_pure {bytes rest : List UInt8} {result : Unit} :
    (pure () : Parser Unit) bytes = some (result, rest) ↔ rest = bytes := by
  change some ((), bytes) = some (result, rest) ↔ _
  simp [eq_comm]

/-- A result has a value exactly where it succeeds. -/
theorem toOption_eq_some {α : Type} {result : Except Error α} {value : α} :
    result.toOption = some value ↔ result = .ok value := by
  cases result <;> simp [Except.toOption]

/-- The method is accepted exactly where it was offered. -/
theorem checkMethod_eq_ok {hasAuth : Bool} {version method selected : UInt8} :
    checkMethod hasAuth [version, method] = .ok selected ↔
      version = 5 ∧ selected = method ∧ (method = 0 ∨ method = 2 ∧ hasAuth = true) := by
  simp only [checkMethod, List.getD_cons_zero, List.getD_cons_succ, socks5Version, methodNoAuth,
    methodUserPass, methodNoAcceptable]
  by_cases known : version = 5
  · by_cases none : method = 0
    · simp [known, none, eq_comm]
    · by_cases user : method = 2
      · cases hasAuth <;> simp [known, user, Error.bail, eq_comm]
      · simp only [known, none, user, ne_eq, not_true_eq_false, ↓reduceIte, false_and, or_self,
          and_false, iff_false]
        split <;> simp [Error.bail]
  · simp [known, Error.bail]

/-- The choice of the method is version 5 and a method that was offered. -/
theorem methodParser_iff {hasAuth : Bool} {bytes rest : List UInt8} {method : UInt8} :
    methodParser hasAuth bytes = some (method, rest) ↔
      bytes = [5, method] ++ rest ∧ (method = 0 ∨ method = 2 ∧ hasAuth = true) := by
  rw [methodParser, parser_bind]
  simp only [parser_take, parser_lift, toOption_eq_some, List.length_eq_two]
  constructor
  · rintro ⟨resp, left, ⟨rfl, version, selected, rfl⟩, accepted, rfl⟩
    obtain ⟨rfl, rfl, allowed⟩ := checkMethod_eq_ok.mp accepted
    exact ⟨rfl, allowed⟩
  · rintro ⟨rfl, allowed⟩
    exact ⟨_, _, ⟨rfl, 5, method, rfl⟩, checkMethod_eq_ok.mpr ⟨rfl, rfl, allowed⟩, rfl⟩

/-- The credentials are framed exactly where both fit a length byte. -/
theorem authRequest_eq_ok {user pass : String} {request : List UInt8} :
    authRequest user pass = .ok request ↔
      ((Text.asBytes user).length ≤ 255 ∧ (Text.asBytes pass).length ≤ 255) ∧
        request = [1, UInt8.ofNat (Text.asBytes user).length] ++ Text.asBytes user ++
          [UInt8.ofNat (Text.asBytes pass).length] ++ Text.asBytes pass := by
  unfold authRequest
  dsimp only
  split
  · simp [Error.bail]
    omega
  · split
    · simp [Error.bail]
      omega
    · simp [authVersion, eq_comm]
      omega

/-- The reply to the credentials is any version and a zero status. -/
theorem authParser_iff {user pass : String} {bytes rest : List UInt8} {result : Unit} :
    authParser user pass bytes = some (result, rest) ↔
      ((Text.asBytes user).length ≤ 255 ∧ (Text.asBytes pass).length ≤ 255) ∧
        ∃ version, bytes = [version, 0] ++ rest := by
  rw [authParser, parser_bind]
  simp only [parser_bind, parser_take, parser_lift, toOption_eq_some, List.length_eq_two]
  constructor
  · rintro ⟨request, _, ⟨built, rfl⟩, resp, left, ⟨rfl, version, status, rfl⟩, accepted, rfl⟩
    refine ⟨(authRequest_eq_ok.mp built).1, version, ?_⟩
    simp only [checkAuth, List.getD_cons_succ, List.getD_cons_zero, authSuccess] at accepted
    split at accepted
    · contradiction
    · rename_i success
      rw [not_not] at success
      rw [success]
  · rintro ⟨fits, version, rfl⟩
    exact ⟨_, _, ⟨authRequest_eq_ok.mpr ⟨fits, rfl⟩, rfl⟩, _, _, ⟨rfl, version, 0, rfl⟩, rfl, rfl⟩

/-- The bound address is accepted in the shape of its type. -/
theorem addrParser_iff {atyp : UInt8} {bytes rest : List UInt8} {result : Unit} :
    addrParser atyp bytes = some (result, rest) ↔
      ∃ bound, bytes = bound ++ rest ∧ BoundAddress atyp bound := by
  have fixed (count : Nat) :
      (do let _ ← Parser.take count; return () : Parser Unit) bytes = some (result, rest) ↔
        ∃ bound, bytes = bound ++ rest ∧ bound.length = count := by
    rw [parser_bind]
    simp only [parser_take, parser_pure]
    constructor
    · rintro ⟨bound, left, ⟨rfl, sized⟩, rfl⟩
      exact ⟨bound, rfl, sized⟩
    · rintro ⟨bound, rfl, sized⟩
      exact ⟨bound, rest, ⟨rfl, sized⟩, rfl⟩
  unfold addrParser
  split
  · rename_i v4
    obtain rfl : atyp = 1 := v4
    rw [fixed]
    simp [BoundAddress]
  · rename_i v4
    split
    · rename_i v6
      obtain rfl : atyp = 4 := v6
      rw [fixed]
      simp [BoundAddress]
    · rename_i v6
      split
      · rename_i domain
        obtain rfl : atyp = 3 := domain
        rw [parser_bind]
        simp only [parser_bind, parser_take, parser_pure, List.length_eq_one_iff]
        constructor
        · rintro ⟨lenBuf, _, ⟨rfl, length, rfl⟩, name, left, ⟨rfl, sized⟩, rfl⟩
          exact ⟨length :: name, rfl, Or.inr (Or.inr ⟨rfl, length, name, rfl, sized⟩)⟩
        · rintro ⟨bound, rfl, ⟨impossible, _⟩ | ⟨impossible, _⟩ | ⟨_, length, name, rfl, sized⟩⟩
          · contradiction
          · contradiction
          · exact ⟨[length], name ++ rest, ⟨rfl, length, rfl⟩, name, rest, ⟨rfl, sized⟩, rfl⟩
      · rename_i domain
        constructor
        · intro failed
          contradiction
        · rintro ⟨bound, _, ⟨known, _⟩ | ⟨known, _⟩ | ⟨known, _⟩⟩
          · exact absurd known v4
          · exact absurd known v6
          · exact absurd known domain

/-- The CONNECT request exists exactly when the target fits; it starts with the version and
is longer than a greeting. -/
theorem connectRequest_spec (target : ProxyTarget) :
    (TargetFits target ↔ ∃ request, connectRequest target = .ok request) ∧
      ∀ request, connectRequest target = .ok request →
        request.head? = some 5 ∧ 4 < request.length := by
  unfold connectRequest TargetFits
  cases target with
  | ip addr port =>
    cases addr with
    | v4 v4 => simp [socks5Version, cmdConnect, rsv]
    | v6 v6 => simp [socks5Version, cmdConnect, rsv]
  | domain host port =>
    dsimp only
    by_cases long : 255 < (Text.asBytes host).length
    · rw [if_pos long]
      constructor
      · constructor
        · intro fits
          have := fits host port rfl
          omega
        · rintro ⟨request, built⟩
          contradiction
      · intro request built
        contradiction
    · rw [if_neg long]
      constructor
      · constructor
        · intro _
          exact ⟨_, rfl⟩
        · rintro _ other number same
          cases same
          omega
      · rintro request ⟨⟩
        simp [socks5Version, cmdConnect, rsv]

/-- The reply to the request is version 5, a zero code, any reserved byte and a bound address. -/
theorem replyParser_iff {target : ProxyTarget} {bytes rest : List UInt8} {result : Unit} :
    replyParser target bytes = some (result, rest) ↔ TargetFits target ∧
      ∃ reserved atyp bound, bytes = [5, 0, reserved, atyp] ++ bound ++ rest ∧
        BoundAddress atyp bound := by
  have fits := (connectRequest_spec target).1
  rw [replyParser, parser_bind]
  simp only [parser_bind, parser_take, parser_lift, toOption_eq_some, addrParser_iff]
  constructor
  · rintro ⟨request, _, ⟨built, rfl⟩, hdr, _, ⟨rfl, sized⟩, _, _, ⟨accepted, rfl⟩, bound, rfl,
      address⟩
    obtain ⟨version, rep, reserved, atyp, rfl⟩ := List.length_eq_four.mp sized
    simp only [checkReply, List.getD_cons_succ, List.getD_cons_zero, socks5Version,
      repSuccess] at accepted
    split at accepted
    · contradiction
    · rename_i known
      split at accepted
      · contradiction
      · rename_i success
        rw [not_not] at known success
        subst known success
        refine ⟨fits.mpr ⟨request, built⟩, reserved, atyp, bound, ?_, address⟩
        rw [List.append_assoc]
  · rintro ⟨fitting, reserved, atyp, bound, rfl, address⟩
    obtain ⟨request, built⟩ := fits.mp fitting
    refine ⟨request, _, ⟨built, rfl⟩, [5, 0, reserved, atyp], bound ++ rest,
      ⟨List.append_assoc _ _ _, rfl⟩, (), bound ++ rest, ⟨rfl, rfl⟩, bound, rfl, address⟩

/-- A reply to the credentials is there exactly where method 2 was chosen. -/
theorem askedParser_iff {auth : Option (String × String)} {method : UInt8}
    {bytes rest : List UInt8} {result : Unit} :
    askedParser auth method bytes = some (result, rest) ↔
      (method ≠ 2 ∧ rest = bytes) ∨
        (method = 2 ∧ CredentialsFit auth ∧ ∃ version, bytes = [version, 0] ++ rest) := by
  unfold askedParser
  split
  · rename_i asked
    have user : method = 2 := asked
    simp only [parser_bind, parser_lift, authParser_iff, CredentialsFit]
    constructor
    · rintro ⟨⟨name, pass⟩, _, ⟨present, rfl⟩, short, version, rfl⟩
      exact Or.inr ⟨user, ⟨name, pass, present, short⟩, version, rfl⟩
    · rintro (⟨other, _⟩ | ⟨_, ⟨name, pass, present, short⟩, version, rfl⟩)
      · exact absurd user other
      · exact ⟨(name, pass), _, ⟨present, rfl⟩, short, version, rfl⟩
  · rename_i asked
    have other : method ≠ 2 := asked
    rw [parser_pure]
    constructor
    · exact fun same => Or.inl ⟨other, same⟩
    · rintro (⟨_, same⟩ | ⟨user, _⟩)
      · exact same
      · exact absurd user other

/-- The parser of the handshake accepts exactly the streams that start with a well-formed
reply, and takes that reply. -/
theorem handshakeParser_iff {auth : Option (String × String)} {target : ProxyTarget}
    {bytes rest : List UInt8} {result : Unit} (fits : TargetFits target) :
    handshakeParser auth target bytes = some (result, rest) ↔
      ∃ reply, bytes = reply ++ rest ∧ WellFormed auth reply := by
  rw [handshakeParser, parser_bind]
  simp only [parser_bind, methodParser_iff, replyParser_iff, askedParser_iff]
  constructor
  · rintro ⟨method, _, ⟨rfl, allowed⟩, _, middle, asked, _, reserved, atyp, bound, rfl, address⟩
    rcases asked with ⟨other, rfl⟩ | ⟨rfl, present, version, rfl⟩
    · obtain rfl : method = 0 := allowed.resolve_right fun user => other user.1
      exact ⟨_, by simp, [5, 0], reserved, atyp, bound, Or.inl rfl, address, rfl⟩
    · refine ⟨_, ?_, [5, 2, version, 0], reserved, atyp, bound,
        Or.inr ⟨present, version, rfl⟩, address, rfl⟩
      simp
  · rintro ⟨reply, rfl, methods, reserved, atyp, bound, selected, address, rfl⟩
    rcases selected with rfl | ⟨present, version, rfl⟩
    · exact ⟨0, [5, 0, reserved, atyp] ++ bound ++ rest, ⟨by simp, Or.inl rfl⟩, (), _,
        Or.inl ⟨by decide, rfl⟩, fits, reserved, atyp, bound, rfl, address⟩
    · have offered : auth.isSome = true := by
        obtain ⟨user, pass, same, _⟩ := present
        rw [same]
        rfl
      exact ⟨2, [version, 0] ++ ([5, 0, reserved, atyp] ++ bound ++ rest),
        ⟨by simp, Or.inr ⟨rfl, offered⟩⟩, (), _, Or.inr ⟨rfl, present, version, rfl⟩,
        fits, reserved, atyp, bound, rfl, address⟩

/-! ## The order of the messages -/

/-- The bytes received along a trace. -/
def receivedBytes (trace : List Transfer) : List UInt8 :=
  trace.flatMap fun
    | .sent _ => []
    | .received bytes => bytes

/-- The messages sent along a trace. -/
def sentMessages (trace : List Transfer) : List (List UInt8) :=
  trace.filterMap fun
    | .sent bytes => some bytes
    | .received _ => none

/-- A send leaves its message on the trace. -/
theorem traces_send (api : Api) (message : String) (bytes : List UInt8) :
    Traces (Io.context message (Io.writeAll api bytes)) fun _ added => added = [.sent bytes] :=
  (traces_context message (traces_writeAll api bytes)).mono fun _ _ shape => by
    rcases shape with ⟨_, _, here⟩ | ⟨_, _, here⟩ <;> exact here

/-- A read leaves the bytes it brings on the trace, or fails and leaves none. -/
theorem traces_receive (api : Api) (message : String) (count : Nat) :
    Traces (Io.context message (Io.readExact api count)) fun result added =>
      (∃ causes, result = .error causes ∧ added = []) ∨
        ∃ bytes, result = .ok bytes ∧ bytes.length = count ∧ added = [.received bytes] := by
  refine (traces_context message (traces_readExact api count)).mono fun result added shape => ?_
  rcases shape with ⟨causes, rfl, ⟨_, _, rfl⟩ | ⟨_, impossible, _⟩⟩ |
    ⟨value, rfl, ⟨_, impossible, _⟩ | ⟨bytes, same, sized, rfl⟩⟩
  · exact Or.inl ⟨_, rfl, rfl⟩
  · contradiction
  · contradiction
  · cases same
    exact Or.inr ⟨value, rfl, sized, rfl⟩

/-- The calls of the negotiation: the greeting, and a reply of two bytes if one was read; a
method is returned only for a reply that selects it. -/
theorem traces_negotiateMethod (api : Api) (hasAuth : Bool) :
    Traces (negotiateMethod api hasAuth) fun result added =>
      sentMessages added = [greeting hasAuth] ∧
        ∀ method, result = .ok method → receivedBytes added = [5, method] ∧
          (method = 0 ∨ method = 2 ∧ hasAuth = true) := by
  refine (traces_bind (traces_send api _ _) fun _ => traces_bind (traces_receive api _ 2) fun resp =>
    traces_ofExcept (checkMethod hasAuth resp)).mono fun result added shape => ?_
  rcases shape with ⟨causes, rfl, rfl⟩ | ⟨_, _, after, rfl, rfl, shape⟩
  · exact ⟨rfl, fun method impossible => absurd impossible (by simp)⟩
  · rcases shape with ⟨causes, rfl, ⟨_, _, rfl⟩ | ⟨_, impossible, _⟩⟩ |
      ⟨resp, received, checked, rfl, ⟨_, impossible, _⟩ | ⟨bytes, same, sized, rfl⟩, rfl, rfl⟩
    · exact ⟨rfl, fun method impossible => absurd impossible (by simp)⟩
    · contradiction
    · contradiction
    · cases same
      obtain ⟨version, method, rfl⟩ := List.length_eq_two.mp sized
      refine ⟨rfl, fun selected accepted => ?_⟩
      obtain ⟨rfl, rfl, allowed⟩ := checkMethod_eq_ok.mp accepted
      exact ⟨rfl, allowed⟩

/-- The request that the credentials give, if they fit. -/
def IsAuthRequest (auth : Option (String × String)) (request : List UInt8) : Prop :=
  ∃ user pass, auth = some (user, pass) ∧ authRequest user pass = .ok request

/-- Credentials give a request exactly when they fit. -/
theorem exists_isAuthRequest_iff (auth : Option (String × String)) :
    (∃ request, IsAuthRequest auth request) ↔ CredentialsFit auth := by
  constructor
  · rintro ⟨request, user, pass, present, built⟩
    exact ⟨user, pass, present, (authRequest_eq_ok.mp built).1⟩
  · rintro ⟨user, pass, present, short⟩
    exact ⟨_, user, pass, present, authRequest_eq_ok.mpr ⟨short, rfl⟩⟩

/-- The calls of the authentication: none without a request, otherwise the request and then
the reply. -/
theorem traces_authenticate (api : Api) (user pass : String) :
    Traces (authenticate api user pass) fun result added =>
      (added = [] ∧ result ≠ .ok () ∧ ∀ request, authRequest user pass ≠ .ok request) ∨
        ∃ request, authRequest user pass = .ok request ∧ sentMessages added = [request] ∧
          (result = .ok () → ∃ version, receivedBytes added = [version, 0]) := by
  refine (traces_bind (traces_ofExcept (authRequest user pass)) fun request =>
    traces_bind (traces_send api _ request) fun _ => traces_bind (traces_receive api _ 2) fun resp =>
      traces_ofExcept (checkAuth resp)).mono fun result added shape => ?_
  rcases shape with ⟨causes, rfl, failed, rfl⟩ | ⟨request, _, _, rfl, ⟨built, rfl⟩, shape⟩
  · exact Or.inl ⟨rfl, by simp, fun request built => by rw [built] at failed; contradiction⟩
  · refine Or.inr ⟨request, built.symm, ?_⟩
    rcases shape with ⟨causes, rfl, rfl⟩ | ⟨_, _, _, rfl, rfl, shape⟩
    · exact ⟨rfl, fun impossible => absurd impossible (by simp)⟩
    · rcases shape with ⟨causes, rfl, ⟨_, _, rfl⟩ | ⟨_, impossible, _⟩⟩ |
        ⟨resp, _, _, rfl, ⟨_, impossible, _⟩ | ⟨bytes, same, sized, rfl⟩, rfl, rfl⟩
      · exact ⟨rfl, fun impossible => absurd impossible (by simp)⟩
      · contradiction
      · contradiction
      · cases same
        obtain ⟨version, status, rfl⟩ := List.length_eq_two.mp sized
        refine ⟨rfl, fun accepted => ⟨version, ?_⟩⟩
        simp only [checkAuth, List.getD_cons_succ, List.getD_cons_zero, authSuccess] at accepted
        split at accepted
        · contradiction
        · rename_i success
          rw [not_not] at success
          rw [success]
          rfl

/-- The calls of the authentication step. Without method 2, or without a request to send,
there are none; otherwise the request is sent, and the step succeeds only after a reply whose
status is zero. -/
def AuthCalls (auth : Option (String × String)) (method : UInt8) (result : Except Error Unit)
    (added : List Transfer) : Prop :=
  (added = [] ∧ (result = .ok () → method ≠ 2) ∧ (method = 2 → ¬ CredentialsFit auth)) ∨
    (method = 2 ∧ ∃ request, IsAuthRequest auth request ∧ sentMessages added = [request] ∧
      (result = .ok () → ∃ version, receivedBytes added = [version, 0]))

/-- The authentication step makes these calls. -/
theorem traces_authenticateIfAsked (api : Api) (auth : Option (String × String))
    (method : UInt8) :
    Traces (authenticateIfAsked api auth method) (AuthCalls auth method) := by
  unfold authenticateIfAsked
  split
  · rename_i asked
    have user : method = 2 := asked
    cases auth with
    | none =>
      intro session
      refine ⟨[], (List.append_nil session.trace).symm, Or.inl ⟨rfl, ?_, ?_⟩⟩
      · intro impossible
        contradiction
      · rintro _ ⟨_, _, impossible, _⟩
        contradiction
    | some credentials =>
      obtain ⟨name, pass⟩ := credentials
      change Traces (authenticate api name pass) _
      refine (traces_authenticate api name pass).mono fun result added shape => ?_
      rcases shape with ⟨rfl, failed, unbuilt⟩ | ⟨request, built, sent, replied⟩
      · refine Or.inl ⟨rfl, fun impossible => absurd impossible failed, ?_⟩
        rintro _ ⟨_, _, same, short⟩
        cases same
        exact unbuilt _ (authRequest_eq_ok.mpr ⟨short, rfl⟩)
      · exact Or.inr ⟨user, request, ⟨name, pass, rfl, built⟩, sent, replied⟩
  · rename_i asked
    have other : method ≠ 2 := asked
    refine (traces_pure ()).mono fun result added shape => ?_
    obtain ⟨rfl, rfl⟩ := shape
    exact Or.inl ⟨rfl, fun _ => other, fun user => absurd user other⟩

/-- Skipping the bound address sends nothing. -/
theorem traces_skipAddr (api : Api) (atyp : UInt8) :
    Traces (skipAddr api atyp) fun _ added => sentMessages added = [] := by
  have fixed (count : Nat) :
      Traces (do let _ ← Io.readExact api count; return () : Io Unit) fun _ added =>
        sentMessages added = [] := by
    refine (traces_bind (traces_readExact api count) fun _ => traces_pure ()).mono
      fun result added shape => ?_
    rcases shape with ⟨_, _, ⟨_, _, rfl⟩ | ⟨_, _, _, rfl⟩⟩ |
      ⟨_, _, _, rfl, ⟨_, _, rfl⟩ | ⟨_, _, _, rfl⟩, _, rfl⟩ <;> rfl
  unfold skipAddr
  split
  · exact fixed 6
  · split
    · exact fixed 18
    · split
      · refine (traces_bind (traces_readExact api 1) fun lenBuf => fixed _).mono
          fun result added shape => ?_
        rcases shape with ⟨_, _, ⟨_, _, rfl⟩ | ⟨_, _, _, rfl⟩⟩ |
          ⟨_, _, _, rfl, ⟨_, _, rfl⟩ | ⟨_, _, _, rfl⟩, rest⟩
        · rfl
        · rfl
        · exact rest
        · exact rest
      · refine (traces_bail _).mono fun result added shape => ?_
        rw [shape.2]
        rfl

/-- The calls of the CONNECT step: none without a request, otherwise the request, and no
other message. -/
theorem traces_sendConnectRequest (api : Api) (target : ProxyTarget) :
    Traces (sendConnectRequest api target) fun result added =>
      (added = [] ∧ result ≠ .ok () ∧ ∀ request, connectRequest target ≠ .ok request) ∨
        ∃ request after, connectRequest target = .ok request ∧ added = .sent request :: after ∧
          sentMessages after = [] := by
  refine (traces_bind (traces_ofExcept (connectRequest target)) fun request =>
    traces_bind (traces_send api _ request) fun _ =>
      traces_bind (traces_receive api _ 4) fun hdr =>
        traces_bind (traces_ofExcept (checkReply target hdr)) fun _ =>
          traces_context _ (traces_skipAddr api (hdr.getD 3 0))).mono fun result added shape => ?_
  rcases shape with ⟨causes, rfl, failed, rfl⟩ | ⟨request, _, _, rfl, ⟨built, rfl⟩, shape⟩
  · exact Or.inl ⟨rfl, by simp, fun request built => by rw [built] at failed; contradiction⟩
  · refine Or.inr ⟨request, ?_⟩
    rcases shape with ⟨_, _, rfl⟩ | ⟨_, _, after, rfl, rfl, shape⟩
    · exact ⟨[], built.symm, rfl, rfl⟩
    · refine ⟨after, built.symm, rfl, ?_⟩
      rcases shape with ⟨_, _, ⟨_, _, rfl⟩ | ⟨_, _, _, rfl⟩⟩ |
        ⟨_, first, later, rfl, received, shape⟩
      · rfl
      · rfl
      · have silent : sentMessages first = [] := by
          rcases received with ⟨_, _, rfl⟩ | ⟨_, _, _, rfl⟩ <;> rfl
        have quiet : sentMessages later = [] := by
          rcases shape with ⟨_, _, _, rfl⟩ | ⟨_, _, _, rfl, ⟨_, rfl⟩, ⟨_, _, rest⟩ | ⟨_, _, rest⟩⟩
          · rfl
          · exact rest
          · exact rest
        rw [sentMessages, List.filterMap_append, ← sentMessages, ← sentMessages, silent, quiet]
        rfl

/-- The messages of two traces are those of the first and then those of the second. -/
theorem sentMessages_append (first second : List Transfer) :
    sentMessages (first ++ second) = sentMessages first ++ sentMessages second :=
  List.filterMap_append

/-- The bytes received in two traces are those of the first and then those of the second. -/
theorem receivedBytes_append (first second : List Transfer) :
    receivedBytes (first ++ second) = receivedBytes first ++ receivedBytes second :=
  List.flatMap_append

/-- A message was sent exactly where its transfer is on the trace. -/
theorem mem_sentMessages {trace : List Transfer} {request : List UInt8} :
    request ∈ sentMessages trace ↔ .sent request ∈ trace := by
  rw [sentMessages, List.mem_filterMap]
  constructor
  · rintro ⟨transfer, member, same⟩
    cases transfer with
    | sent bytes =>
      cases same
      exact member
    | received bytes => contradiction
  · intro member
    exact ⟨_, member, rfl⟩

/-- The greeting is no CONNECT request and no authentication request. -/
theorem greeting_head (hasAuth : Bool) :
    (greeting hasAuth).head? = some 5 ∧ (greeting hasAuth).length ≤ 4 := by
  cases hasAuth <;> decide

/-- An authentication request starts with its own version. -/
theorem IsAuthRequest.head {auth : Option (String × String)} {request : List UInt8}
    (built : IsAuthRequest auth request) : request.head? = some 1 := by
  obtain ⟨user, pass, _, made⟩ := built
  rw [(authRequest_eq_ok.mp made).2]
  rfl

/-- The authentication step sends nothing but authentication requests. -/
theorem AuthCalls.messages {auth : Option (String × String)} {method : UInt8}
    {result : Except Error Unit} {added : List Transfer}
    (calls : AuthCalls auth method result added) :
    ∀ message ∈ sentMessages added, IsAuthRequest auth message := by
  intro message member
  rcases calls with ⟨rfl, _⟩ | ⟨_, request, built, only, _⟩
  · contradiction
  · rw [only, List.mem_singleton] at member
    rw [member]
    exact built

/-- Followed by calls without an authentication request, the step has sent one exactly when
method 2 is selected and the credentials fit. -/
theorem AuthCalls.sends_iff {auth : Option (String × String)} {method : UInt8}
    {result : Except Error Unit} {added later : List Transfer}
    (calls : AuthCalls auth method result added)
    (silent : ∀ request, IsAuthRequest auth request → Transfer.sent request ∉ later) :
    (∃ request, IsAuthRequest auth request ∧ Transfer.sent request ∈ added ++ later) ↔
      method = 2 ∧ CredentialsFit auth := by
  rcases calls with ⟨rfl, _, unfit⟩ | ⟨user, request, built, only, _⟩
  · constructor
    · rintro ⟨request, built, member⟩
      exact absurd member (silent request built)
    · rintro ⟨user, fit⟩
      exact absurd fit (unfit user)
  · refine ⟨fun _ => ⟨user, (exists_isAuthRequest_iff auth).mp ⟨request, built⟩⟩, fun _ => ?_⟩
    refine ⟨request, built, List.mem_append_left _ (mem_sentMessages.mp ?_)⟩
    rw [only]
    exact List.mem_singleton_self request

/-- The calls of a handshake: the greeting and the reply to it, possibly authentication, and
possibly the CONNECT request, before which the replies were read that allow it. -/
theorem traces_handshake (api : Api) (auth : Option (String × String)) (target : ProxyTarget) :
    Traces (handshake api auth target) fun _ added =>
      ∃ before after, added = before ++ after ∧
        (∀ message ∈ sentMessages before,
          message = greeting auth.isSome ∨ IsAuthRequest auth message) ∧
        (after = [] ∨ ∃ request rest, connectRequest target = .ok request ∧
          after = .sent request :: rest ∧ sentMessages rest = [] ∧
          (receivedBytes before = [5, 0] ∨ ∃ version, receivedBytes before = [5, 2, version, 0])) := by
  refine (traces_bind (traces_negotiateMethod api auth.isSome) fun method =>
    traces_bind (traces_authenticateIfAsked api auth method) fun _ =>
      traces_sendConnectRequest api target).mono fun result added shape => ?_
  have greeted : ∀ {first : List Transfer}, sentMessages first = [greeting auth.isSome] →
      ∀ message ∈ sentMessages first,
        message = greeting auth.isSome ∨ IsAuthRequest auth message := by
    intro first sent message member
    rw [sent, List.mem_singleton] at member
    exact Or.inl member
  rcases shape with ⟨_, _, sent, _⟩ | ⟨method, first, _, rfl, ⟨sent, selected⟩, shape⟩
  · exact ⟨added, [], (List.append_nil added).symm, greeted sent, Or.inl rfl⟩
  · obtain ⟨replied, allowed⟩ := selected method rfl
    -- Whatever the authentication step did, it sent at most the authentication request.
    have asked : ∀ {outcome : Except Error Unit} {second : List Transfer},
        AuthCalls auth method outcome second → ∀ message ∈ sentMessages (first ++ second),
          message = greeting auth.isSome ∨ IsAuthRequest auth message := by
      intro outcome second calls message member
      rw [sentMessages_append, List.mem_append] at member
      rcases member with early | late
      · exact greeted sent message early
      · exact Or.inr (calls.messages message late)
    rcases shape with ⟨_, _, calls⟩ | ⟨_, second, third, rfl, calls, shape⟩
    · exact ⟨_, [], (List.append_nil _).symm, asked calls, Or.inl rfl⟩
    · refine ⟨first ++ second, third, (List.append_assoc _ _ _).symm, asked calls, ?_⟩
      rcases shape with ⟨rfl, _⟩ | ⟨request, rest, built, rfl, quiet⟩
      · exact Or.inl rfl
      · refine Or.inr ⟨request, rest, built, rfl, quiet, ?_⟩
        rw [receivedBytes_append, replied]
        rcases calls with ⟨rfl, other, _⟩ | ⟨rfl, _, _, _, status⟩
        · obtain rfl := allowed.resolve_right fun user => other rfl user.1
          exact Or.inl rfl
        · obtain ⟨version, received⟩ := status rfl
          exact Or.inr ⟨version, by rw [received]; rfl⟩

/-- In every run the CONNECT request is sent only after the replies that allow it. -/
theorem connect_after_replies {api : Api} {auth : Option (String × String)}
    {target : ProxyTarget} {stream : TcpStream} {request : List UInt8}
    {before after : List Transfer} (built : connectRequest target = .ok request)
    (trace : (handshake api auth target ⟨stream, []⟩).2.trace = before ++ .sent request :: after) :
    receivedBytes before = [5, 0] ∨ ∃ version, receivedBytes before = [5, 2, version, 0] := by
  obtain ⟨added, whole, first, last, rfl, sent, shape⟩ :=
    traces_handshake api auth target ⟨stream, []⟩
  rw [whole, List.nil_append] at trace
  obtain ⟨head, long⟩ := (connectRequest_spec target).2 request built
  have absent : Transfer.sent request ∉ first := by
    intro member
    rcases sent request (mem_sentMessages.mpr member) with rfl | other
    · have := (greeting_head auth.isSome).2
      omega
    · rw [other.head] at head
      contradiction
  rcases shape with rfl | ⟨again, rest, same, rfl, quiet, replies⟩
  · rw [List.append_nil] at trace
    exact absurd (trace ▸ List.mem_append_right before List.mem_cons_self) absent
  · obtain rfl : again = request := Except.ok.inj (same.symm.trans built)
    have later : Transfer.sent again ∉ rest := by
      rw [← mem_sentMessages, quiet]
      exact List.not_mem_nil
    obtain ⟨rfl, _, _⟩ := (List.append_cons_inj_of_notMem absent later).mp trace
    exact replies

/-- The authentication request is sent exactly when the server selects method 2 and there are
credentials that fit. -/
theorem auth_sent_iff {api : Api} (writes : ∀ stream bytes, (api.writeAll stream bytes).1 = .ok ())
    {auth : Option (String × String)} {target : ProxyTarget} {stream : TcpStream}
    (clean : stream.Clean) :
    (∃ request, IsAuthRequest auth request ∧
      .sent request ∈ (handshake api auth target ⟨stream, []⟩).2.trace) ↔
      stream.remaining.take 2 = [5, 2] ∧ CredentialsFit auth := by
  obtain ⟨first, whole, sent, _⟩ := traces_negotiateMethod api auth.isSome ⟨stream, []⟩
  have reads := reads_negotiateMethod writes auth.isSome ⟨stream, []⟩ clean
  have absent : ∀ request, IsAuthRequest auth request → Transfer.sent request ∉ first := by
    intro request built member
    rw [← mem_sentMessages, sent, List.mem_singleton] at member
    have head := built.head
    rw [member, (greeting_head auth.isSome).1] at head
    contradiction
  rw [List.nil_append] at whole
  rw [handshake, bind_apply]
  cases negotiated : negotiateMethod api auth.isSome ⟨stream, []⟩ with
  | mk result middle =>
    rw [negotiated] at whole reads
    cases parsed : methodParser auth.isSome stream.remaining with
    | none =>
      simp only [parsed] at reads
      obtain ⟨causes, rfl⟩ := reads
      constructor
      · rintro ⟨request, built, member⟩
        exact absurd (whole ▸ member) (absent request built)
      · rintro ⟨starts, user, pass, present, _⟩
        have split := List.take_append_drop 2 stream.remaining
        rw [starts] at split
        have accepted := methodParser_iff.mpr
          (⟨split.symm, Or.inr ⟨rfl, by rw [present]; rfl⟩⟩ :
            stream.remaining = [5, 2] ++ stream.remaining.drop 2 ∧
              ((2 : UInt8) = 0 ∨ (2 : UInt8) = 2 ∧ auth.isSome = true))
        rw [parsed] at accepted
        contradiction
    | some read =>
      obtain ⟨method, rest⟩ := read
      simp only [parsed] at reads
      obtain ⟨rfl, -, -⟩ := reads
      obtain ⟨starts, -⟩ := methodParser_iff.mp parsed
      have selects : stream.remaining.take 2 = [5, 2] ↔ method = 2 := by
        rw [starts]
        simp
      obtain ⟨added, further, shape⟩ := (traces_bind (traces_authenticateIfAsked api auth method)
        fun _ => traces_sendConnectRequest api target) middle
      have later : ∀ request, IsAuthRequest auth request →
          (Transfer.sent request ∈ first ++ added ↔ Transfer.sent request ∈ added) := by
        intro request built
        rw [List.mem_append]
        exact or_iff_right (absent request built)
      have decided : (∃ request, IsAuthRequest auth request ∧ Transfer.sent request ∈ added) ↔
          method = 2 ∧ CredentialsFit auth := by
        rcases shape with ⟨_, _, calls⟩ | ⟨_, second, third, rfl, calls, shape⟩
        · have step := calls.sends_iff fun _ _ => List.not_mem_nil
          rwa [List.append_nil] at step
        · refine calls.sends_iff fun request built member => ?_
          rcases shape with ⟨rfl, _⟩ | ⟨connect, after, made, rfl, quiet⟩
          · contradiction
          · rcases List.mem_cons.mp member with same | inside
            · cases same
              have head := ((connectRequest_spec target).2 _ made).1
              rw [built.head] at head
              contradiction
            · rw [← mem_sentMessages, quiet] at inside
              contradiction
      have traced : middle.trace = first := whole
      rw [selects, ← decided]
      simp only [further, traced]
      exact exists_congr fun request => and_congr_right fun built => later request built

/-- For every socket, every segmentation of the bytes it will deliver, all credentials and
every target that fits, with the connection made and all writes succeeding: `connect`
succeeds exactly when the stream starts with a well-formed reply, and then has consumed that
reply and nothing else; the authentication request is sent exactly when method 2 is selected
and there are credentials that fit; and the CONNECT request is sent only after the replies
that allow it have been received. -/
theorem handshake_exact (api : Api) (dial : String → Except String TcpStream)
    (connector : Socks5Connector) (target : ProxyTarget) (stream : TcpStream)
    (dialed : dial connector.server = .ok stream) (clean : stream.Clean)
    (writes : ∀ stream bytes, (api.writeAll stream bytes).1 = .ok ())
    (fits : TargetFits target) :
    let outcome := connector.connect api dial target
    ((∃ proxy, outcome.1 = .ok proxy) ↔
      ∃ reply tunnel, stream.remaining = reply ++ tunnel ∧ WellFormed connector.auth reply) ∧
    (∀ proxy, outcome.1 = .ok proxy → proxy.buffered.bytes = [] ∧
      ∃ reply, WellFormed connector.auth reply ∧
        stream.remaining = reply ++ proxy.inner.remaining) ∧
    ((∃ request, IsAuthRequest connector.auth request ∧ .sent request ∈ outcome.2) ↔
      stream.remaining.take 2 = [5, 2] ∧ CredentialsFit connector.auth) ∧
    (∀ request before after, connectRequest target = .ok request →
      outcome.2 = before ++ .sent request :: after →
      receivedBytes before = [5, 0] ∨ ∃ version, receivedBytes before = [5, 2, version, 0]) := by
  have reads := reads_handshake writes connector.auth target ⟨stream, []⟩ clean
  simp only [Socks5Connector.connect, dialed]
  refine ⟨?_, ?_, auth_sent_iff writes clean, fun _ _ _ built => connect_after_replies built⟩
  · cases parsed : handshakeParser connector.auth target stream.remaining with
    | none =>
      simp only [parsed] at reads
      obtain ⟨causes, failed⟩ := reads
      rw [failed]
      constructor
      · rintro ⟨proxy, impossible⟩
        contradiction
      · rintro ⟨reply, tunnel, split, formed⟩
        have accepted : handshakeParser connector.auth target stream.remaining =
            some ((), tunnel) := (handshakeParser_iff fits).mpr ⟨reply, split, formed⟩
        rw [parsed] at accepted
        contradiction
    | some read =>
      obtain ⟨⟨⟩, rest⟩ := read
      simp only [parsed] at reads
      rw [reads.1]
      obtain ⟨reply, split, formed⟩ := (handshakeParser_iff fits).mp parsed
      exact ⟨fun _ => ⟨reply, rest, split, formed⟩, fun _ => ⟨_, rfl⟩⟩
  · intro proxy succeeded
    cases parsed : handshakeParser connector.auth target stream.remaining with
    | none =>
      simp only [parsed] at reads
      obtain ⟨causes, failed⟩ := reads
      rw [failed] at succeeded
      contradiction
    | some read =>
      obtain ⟨⟨⟩, rest⟩ := read
      simp only [parsed] at reads
      obtain ⟨returned, left, -⟩ := reads
      rw [returned] at succeeded
      cases succeeded
      obtain ⟨reply, split, formed⟩ := (handshakeParser_iff fits).mp parsed
      refine ⟨rfl, reply, formed, ?_⟩
      rw [split, ← left]
      rfl

/-- A reply that selects method 2, cut inside the authentication reply. -/
theorem handshake_exact_user_pass :
    let stream : TcpStream := ⟨[.data [5, 2, 1] (by decide), .wouldBlock,
      .data [0, 5, 0, 0, 1, 127, 0, 0, 1, 0, 0, 42] (by decide)], [], []⟩
    let connector : Socks5Connector := ⟨"127.0.0.1:1080", some ("user", "pass")⟩
    ∃ proxy, (connector.connect scheduleApi (fun _ => .ok stream)
      (.ip (.v4 (Ipv4Addr.new 1 2 3 4)) 80)).1 = .ok proxy := by
  intro stream connector
  have clean : stream.Clean := by
    intro event member message
    simp only [stream, List.mem_cons, List.not_mem_nil, or_false] at member
    rcases member with rfl | rfl | rfl <;> simp
  have credentials : CredentialsFit connector.auth :=
    ⟨"user", "pass", rfl, by decide +kernel, by decide +kernel⟩
  refine (handshake_exact scheduleApi (fun _ => .ok stream) connector
    (.ip (.v4 (Ipv4Addr.new 1 2 3 4)) 80) stream rfl clean (fun _ _ => rfl)
    (fun _ _ impossible => by contradiction)).1.mpr ?_
  refine ⟨[5, 2, 1, 0, 5, 0, 0, 1, 127, 0, 0, 1, 0, 0], [42], rfl, [5, 2, 1, 0], 0, 1,
    [127, 0, 0, 1, 0, 0], Or.inr ⟨credentials, 1, rfl⟩, Or.inl ⟨rfl, rfl⟩, rfl⟩

end NsProxy.Socks5
