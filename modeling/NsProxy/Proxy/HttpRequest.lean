import NsProxy.EventLoop.Dns
import NsProxy.Lib.Crlf
import NsProxy.Proxy.Http
import NsProxy.Tokio.Schedule

/-!
# Framing of the CONNECT request

The request is text around a host that may be any text. Read back by a head parser that
splits at CR LF, it is one request with the intended lines exactly when the host contains no
space and no CR LF pair.
-/

namespace NsProxy.Http

open Tokio

/-- The bytes are one request head and nothing after it: a request line of the three tokens
`CONNECT`, the target and `HTTP/1.1`, one `Host` line with the target, and, with credentials
only, one `Proxy-Authorization` line whose code decodes to them. -/
def Framed (request target : List UInt8) (auth : Option (String × String)) : Prop :=
  ∃ requestLine headers,
    Crlf.readHead request = some (requestLine :: headers, []) ∧
    requestLine.splitOn 32 = [Text.asBytes "CONNECT", target, Text.asBytes "HTTP/1.1"] ∧
    match auth with
    | none => headers = [Text.asBytes "Host: " ++ target]
    | some (user, pass) => ∃ code,
      headers = [Text.asBytes "Host: " ++ target,
        Text.asBytes "Proxy-Authorization: Basic " ++ code] ∧
      Base64.decode code = some (Text.asBytes (user ++ ":" ++ pass))

/-- The bytes of a decimal number are digits. -/
theorem digit_of_mem_toString {number : Nat} {byte : UInt8} (small : byte.toNat < 48) :
    byte ∉ Text.asBytes (toString number) := by
  intro member
  have same : (Char.ofUInt8 byte).toNat = byte.toNat := Text.toNat_ofUInt8 byte
  rw [Text.ascii_mem_asBytes (by omega) same] at member
  have digit := Nat.isDigit_of_mem_toDigits (by decide) (by decide)
    (Nat.toList_repr ▸ member : Char.ofUInt8 byte ∈ Nat.toDigits 10 number)
  simp only [Char.isDigit, Bool.and_eq_true, decide_eq_true_eq] at digit
  have bound : 48 ≤ (Char.ofUInt8 byte).toNat := digit.1
  omega

/-- The target of a host and a port, in bytes. -/
def targetBytes (host : String) (port : UInt16) : List UInt8 :=
  Text.asBytes host ++ (58 :: Text.asBytes (toString port.toNat))

/-- A domain target is written as its host, a colon and its port. -/
theorem asBytes_target (host : String) (port : UInt16) :
    Text.asBytes (ProxyTarget.domain host port).toText = targetBytes host port := by
  rw [ProxyTarget.toText, Text.asBytes_append, Text.asBytes_append, List.append_assoc]
  rfl

/-- A byte below the digits that is not in the host is not in the target. -/
theorem mem_targetBytes {host : String} {port : UInt16} {byte : UInt8} (small : byte.toNat < 48) :
    byte ∈ targetBytes host port ↔ byte ∈ Text.asBytes host := by
  have digits : byte ∉ Text.asBytes (toString port.toNat) := digit_of_mem_toString small
  have colon : byte ≠ 58 := by
    rintro rfl
    contradiction
  rw [targetBytes, List.mem_append, List.mem_cons]
  constructor
  · rintro (inside | rfl | digit)
    · exact inside
    · exact absurd rfl colon
    · exact absurd digit digits
  · exact Or.inl

/-- The target contains a CR LF pair exactly when the host does. -/
theorem free_targetBytes (host : String) (port : UInt16) :
    Crlf.Free (targetBytes host port) ↔ Crlf.Free (Text.asBytes host) := by
  constructor
  · intro free
    exact free.of_infix (List.infix_append' [] _ _)
  · intro free
    refine Crlf.free_append_right free ?_
    have digits : (10 : UInt8) ∉ Text.asBytes (toString port.toNat) :=
      digit_of_mem_toString (by decide)
    rw [List.mem_cons, not_or]
    exact ⟨by decide, digits⟩

/-- The lines of the request. -/
def requestLines (target : List UInt8) (auth : Option (String × String)) : List (List UInt8) :=
  [Text.asBytes "CONNECT " ++ (target ++ Text.asBytes " HTTP/1.1"), Text.asBytes "Host: " ++ target]
    ++ (auth.map fun (user, pass) => Text.asBytes "Proxy-Authorization: Basic " ++
      Base64.encodeBytes (Text.asBytes (user ++ ":" ++ pass))).toList

/-- The request consists of its lines and an empty one. -/
theorem asBytes_connectRequest (target : ProxyTarget) (auth : Option (String × String)) :
    Text.asBytes (connectRequest target auth) =
      (requestLines (Text.asBytes target.toText) auth).flatMap (· ++ Crlf.crlf) ++ Crlf.crlf := by
  have lineEnd : Text.asBytes "\r\n" = Crlf.crlf := by decide +kernel
  have host : Text.asBytes " HTTP/1.1\r\nHost: " =
      Text.asBytes " HTTP/1.1" ++ Crlf.crlf ++ Text.asBytes "Host: " := by decide +kernel
  unfold connectRequest requestLines
  cases auth with
  | none =>
    simp only [Text.asBytes_append, lineEnd, host]
    simp only [List.append_assoc, Option.map_none, Option.toList_none, List.append_nil,
      List.flatMap_cons, List.flatMap_nil]
  | some credentials =>
    simp only [Text.asBytes_append, lineEnd, host, Base64.asBytes_base64Encode]
    simp only [List.append_assoc, Option.map_some, Option.toList_some, List.cons_append,
      List.nil_append, List.flatMap_cons, List.flatMap_nil, List.append_nil]

/-- The lines of a request for a free target are free and not empty. -/
theorem requestLines_shape {target : List UInt8} (free : Crlf.Free target)
    (auth : Option (String × String)) :
    ∀ line ∈ requestLines target auth, Crlf.Free line ∧ line ≠ [] := by
  have version : (10 : UInt8) ∉ Text.asBytes " HTTP/1.1" := by decide +kernel
  have method : (13 : UInt8) ∉ Text.asBytes "CONNECT " ∧ Text.asBytes "CONNECT " ≠ [] := by
    decide +kernel
  have host : (13 : UInt8) ∉ Text.asBytes "Host: " ∧ Text.asBytes "Host: " ≠ [] := by
    decide +kernel
  have name : (13 : UInt8) ∉ Text.asBytes "Proxy-Authorization: Basic " ∧
      Text.asBytes "Proxy-Authorization: Basic " ≠ [] := by
    decide +kernel
  intro line member
  rcases List.mem_append.mp member with fixed | optional
  · simp only [List.mem_cons, List.not_mem_nil, or_false] at fixed
    rcases fixed with rfl | rfl
    · exact ⟨Crlf.free_append_left method.1 (Crlf.free_append_right free version),
        List.append_ne_nil_of_left_ne_nil method.2 _⟩
    · exact ⟨Crlf.free_append_left host.1 free, List.append_ne_nil_of_left_ne_nil host.2 _⟩
  · cases auth with
    | none => contradiction
    | some credentials =>
      obtain rfl := List.mem_singleton.mp optional
      refine ⟨Crlf.free_append_left name.1 ?_, List.append_ne_nil_of_left_ne_nil name.2 _⟩
      have visible : (10 : UInt8) ∉
          Base64.encodeBytes (Text.asBytes (credentials.1 ++ ":" ++ credentials.2)) :=
        fun inside => absurd (Base64.visible_encodeBytes inside).1 (by decide)
      have empty : Crlf.Free [] := by decide
      exact Crlf.free_append_right empty visible

/-- The request for a host is framed exactly when the host has no space and no CR LF pair. -/
theorem framed_iff (host : String) (port : UInt16) (auth : Option (String × String)) :
    Framed (Text.asBytes (connectRequest (.domain host port) auth)) (targetBytes host port) auth ↔
      32 ∉ Text.asBytes host ∧ Crlf.Free (Text.asBytes host) := by
  have method : Text.asBytes "CONNECT " = Text.asBytes "CONNECT" ++ [32] := by decide +kernel
  have version : Text.asBytes " HTTP/1.1" = [32] ++ Text.asBytes "HTTP/1.1" := by decide +kernel
  rw [asBytes_connectRequest, asBytes_target, ← @mem_targetBytes host port 32 (by decide),
    ← free_targetBytes host port]
  generalize targetBytes host port = target
  constructor
  · rintro ⟨requestLine, headers, head, tokens, -⟩
    have joined : [32].intercalate (requestLine.splitOn 32) = requestLine :=
      List.intercalate_splitOn 32
    rw [tokens] at joined
    have free := Crlf.free_of_mem_readHead head List.mem_cons_self
    have listed : target ∈ requestLine.splitOn 32 := by
      rw [tokens]
      simp
    refine ⟨Text.not_mem_of_mem_splitOn listed, free.of_infix ?_⟩
    refine ⟨Text.asBytes "CONNECT" ++ [32], [32] ++ Text.asBytes "HTTP/1.1", ?_⟩
    rw [← joined]
    simp [List.intercalate]
  · rintro ⟨noSpace, free⟩
    have head := Crlf.readHead_lines (requestLines_shape free auth)
    refine ⟨_, _, head, ?_, ?_⟩
    · have parts : Text.asBytes "CONNECT " ++ (target ++ Text.asBytes " HTTP/1.1") =
          [32].intercalate [Text.asBytes "CONNECT", target, Text.asBytes "HTTP/1.1"] := by
        rw [method, version]
        simp [List.intercalate]
      rw [parts, List.splitOn_intercalate 32 ?_ (by simp)]
      have first : (32 : UInt8) ∉ Text.asBytes "CONNECT" := by decide +kernel
      have last : (32 : UInt8) ∉ Text.asBytes "HTTP/1.1" := by decide +kernel
      simp only [List.mem_cons, List.not_mem_nil, or_false]
      rintro part (rfl | rfl | rfl)
      · exact first
      · exact noSpace
      · exact last
    · cases auth with
      | none => rfl
      | some credentials => exact ⟨_, rfl, Base64.decode_encodeBytes _⟩

/-- Every call of `do_connect` for a host, a port and optional credentials whose request the
socket takes writes one request, which is framed exactly when the host contains no space and
no CR LF pair. -/
theorem connect_request_framed_iff (api : Api) (stream : TcpStream) (host : String)
    (port : UInt16) (auth : Option (String × String))
    (sent : (api.writeAll stream
      (Text.asBytes (connectRequest (.domain host port) auth))).1 = .ok ()) :
    ∃ request, (doConnect api stream (.domain host port) auth).2.written =
        stream.written ++ request ∧
      (Framed request (Text.asBytes (host ++ ":" ++ toString port.toNat)) auth ↔
        32 ∉ Text.asBytes host ∧ Crlf.Free (Text.asBytes host)) := by
  refine ⟨_, doConnect_written sent, ?_⟩
  have target := asBytes_target host port
  rw [ProxyTarget.toText] at target
  rw [target]
  exact framed_iff host port auth

/-- An ordinary host is framed, with its credentials in a header of their own. -/
theorem connect_request_framed_credentials :
    let written := (doConnect scheduleApi ⟨[], [], []⟩ (.domain "example.com" 443)
      (some ("user", "pass"))).2.written
    Crlf.readHead written = some ([Text.asBytes "CONNECT example.com:443 HTTP/1.1",
        Text.asBytes "Host: example.com:443",
        Text.asBytes "Proxy-Authorization: Basic dXNlcjpwYXNz"], []) ∧
      Framed written (Text.asBytes "example.com:443") (some ("user", "pass")) := by
  intro written
  have sent : written =
      [] ++ Text.asBytes (connectRequest (.domain "example.com" 443) (some ("user", "pass"))) :=
    doConnect_written rfl
  obtain ⟨request, same, framed⟩ := connect_request_framed_iff scheduleApi ⟨[], [], []⟩
    "example.com" 443 (some ("user", "pass")) rfl
  have port : "example.com" ++ ":" ++ toString (443 : UInt16).toNat = "example.com:443" := by
    decide +kernel
  rw [port] at framed
  constructor
  · rw [sent]
    decide +kernel
  · rw [show written = request from same]
    exact framed.mpr (by decide +kernel)

/-- A query for the one-label name `a\r\nX: b` is answered, its address leads to that name as
a host, and the request for it carries a header of the name's making. -/
theorem connect_request_injected_header :
    let query : List UInt8 :=
      [0, 7, 1, 0, 0, 1, 0, 0, 0, 0, 0, 0, 7, 97, 13, 10, 88, 58, 32, 98, 0, 0, 1, 0, 1]
    let dns := ((⟨0, FakeDns.new⟩ : EventLoop.DnsInterceptor).answer query).1
    let written := (doConnect scheduleApi ⟨[], [], []⟩ (.domain "a\r\nX: b" 80) none).2.written
    FakeDns.parseQuery query = some (7, "a\r\nX: b", 1) ∧
      dns.targetFor (FakeDns.poolAddr 0) 80 = .domain "a\r\nX: b" 80 ∧
      Crlf.readHead written = some ([Text.asBytes "CONNECT a", Text.asBytes "X: b:80 HTTP/1.1",
        Text.asBytes "Host: a", Text.asBytes "X: b:80"], []) ∧
      ¬ Framed written (Text.asBytes ("a\r\nX: b" ++ ":" ++ toString (80 : UInt16).toNat)) none := by
  have bytes : (doConnect scheduleApi ⟨[], [], []⟩ (.domain "a\r\nX: b" 80) none).2.written =
      [] ++ Text.asBytes (connectRequest (.domain "a\r\nX: b" 80) none) := doConnect_written rfl
  rw [List.nil_append] at bytes
  refine ⟨by decide +kernel, by decide +kernel, ?_, ?_⟩
  · rw [bytes]
    decide +kernel
  · rw [bytes]
    have target := asBytes_target "a\r\nX: b" 80
    rw [ProxyTarget.toText] at target
    rw [target, framed_iff]
    decide +kernel

end NsProxy.Http
