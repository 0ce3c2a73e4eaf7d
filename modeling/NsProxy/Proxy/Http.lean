import Mathlib.Data.List.DropRight
import NsProxy.Net.Parse
import NsProxy.Proxy.Base64
import NsProxy.Proxy.Stream
import NsProxy.Proxy.Target

/-!
# The HTTP connector

`proxy/http.rs`: the CONNECT request, the status line, the header loop and the stream that is
handed on with what the line reader read ahead. A function that waits on the socket returns
the reader or the socket as it leaves it, also when it fails.
-/

namespace NsProxy.Http

open Tokio

/-- The request of `do_connect`. -/
def connectRequest (target : ProxyTarget) (auth : Option (String × String)) : String :=
  let request := "CONNECT " ++ target.toText ++ " HTTP/1.1\r\nHost: " ++ target.toText ++ "\r\n"
  let request := match auth with
    | none => request
    | some (user, pass) =>
      request ++ ("Proxy-Authorization: Basic " ++
        Base64.base64Encode (Text.asBytes (user ++ ":" ++ pass)) ++ "\r\n")
  request ++ "\r\n"

/-- The character ends that `trim_end_matches` removes. -/
def isLineEnd (char : Char) : Bool := char = '\r' || char = '\n'

/-- `trim_end_matches(['\r', '\n'])`. -/
def trimLineEnd (text : String) : String := String.ofList (text.toList.rdropWhile isLineEnd)

/-- `Debug` of a text: quotes around, escapes inside. Beyond ASCII every character stands for
itself; Rust also escapes those that its Unicode tables call unprintable, such as U+00A0, and
combining marks. -/
def debugText (text : String) : String :=
  let escape (char : Char) : String :=
    if char = '"' then "\\\""
    else if char = '\\' then "\\\\"
    else if char = '\n' then "\\n"
    else if char = '\r' then "\\r"
    else if char = '\t' then "\\t"
    else if char = '\x00' then "\\0"
    else if char.toNat < 32 ∨ char.toNat = 127 then
      "\\u\x7b" ++ String.ofList (Nat.toDigits 16 char.toNat) ++ "\x7d"
    else String.singleton char
  "\"" ++ String.join (text.toList.map escape) ++ "\""

/-- `parse_status_code`. -/
def parseStatusCode (statusLine : String) : Except Error UInt16 := do
  let (version, rest) := match Text.splitOnce statusLine ' ' with
    | none => (statusLine, none)
    | some (version, rest) => (version, some rest)
  if (Text.stripPrefix version "HTTP/").isNone then
    Error.bail ("HTTP CONNECT: expected HTTP response, got: " ++ debugText statusLine)
  else
    let rest ← Error.contextOption
      ("HTTP CONNECT: malformed status line: " ++ debugText statusLine) rest
    let codeText := ((Text.splitOnce rest ' ').map Prod.fst).getD rest
    Error.context ("HTTP CONNECT: invalid status code " ++ debugText codeText) (parseU16 codeText)

/-- The check of the status line in `do_connect`. -/
def checkStatus (target : ProxyTarget) (statusLine : String) : Except Error Unit := do
  let statusCode ← parseStatusCode statusLine
  if statusCode ≠ 200 then
    Error.bail s!"HTTP CONNECT to {target.toText} failed with status {statusCode}"
  else return ()

/-- A line that is not blank is not empty. -/
theorem asBytes_ne_nil_of_trim {text : String} (kept : ¬ (trimLineEnd text).isEmpty = true) :
    Text.asBytes text ≠ [] := by
  intro empty
  have blank : text = "" := Text.asBytes_inj.mp (empty.trans rfl)
  subst blank
  exact kept rfl

/-- The header loop of `do_connect`, up to the first blank line. -/
def skipHeaders (api : Api) (reader : api.BufReader) : Except Error Unit × api.BufReader :=
  match _ : (api.readLine reader).1 with
  | .error cause =>
    (.error ["HTTP CONNECT: read header line", cause], (api.readLine reader).2)
  | .ok text =>
    if (trimLineEnd text).isEmpty then (.ok (), (api.readLine reader).2)
    else skipHeaders api (api.readLine reader).2
termination_by (api.unread reader).length
decreasing_by
  rename_i line kept
  have nonempty := List.length_pos_of_ne_nil (asBytes_ne_nil_of_trim kept)
  have consumed := (api.readLine_consumes reader text line).1
  simp only [Api.unread, consumed, List.length_append]
  omega

/-- The part of `do_connect` that reads the response. -/
def readResponse (api : Api) (target : ProxyTarget) (reader : api.BufReader) :
    Except Error Unit × api.BufReader :=
  match (api.readLine reader).1 with
  | .error cause =>
    (.error ["HTTP CONNECT: read status line", cause], (api.readLine reader).2)
  | .ok statusLine =>
    match checkStatus target (trimLineEnd statusLine) with
    | .error causes => (.error causes, (api.readLine reader).2)
    | .ok () => skipHeaders api (api.readLine reader).2

/-- `do_connect`, with the socket as it is left. -/
def doConnect (api : Api) (stream : TcpStream) (target : ProxyTarget)
    (auth : Option (String × String)) : Except Error ProxyStream × TcpStream :=
  let reader := api.newReader stream
  let (sent, inner) :=
    api.writeAll (api.inner reader) (Text.asBytes (connectRequest target auth))
  let reader := api.setInner reader inner
  match sent with
  | .error cause => (.error ["HTTP CONNECT: write request", cause], api.inner reader)
  | .ok () =>
    let (response, reader) := readResponse api target reader
    (response.map fun _ => ProxyStream.new (api.inner reader) (api.buffer reader),
      api.inner reader)

/-- `HttpConnector`. -/
structure HttpConnector where
  /-- `server`. -/
  server : String
  /-- `auth`. -/
  auth : Option (String × String)

/-- `HttpConnector::connect`, given what `TcpStream::connect` returns. -/
def HttpConnector.connect (api : Api) (dial : String → Except String TcpStream)
    (connector : HttpConnector) (target : ProxyTarget) : Except Error ProxyStream :=
  match dial connector.server with
  | .error cause => .error [s!"TCP connect to HTTP proxy {connector.server}", cause]
  | .ok stream => (doConnect api stream target connector.auth).1

/-! ## What the reader loses -/

/-- Reading the headers writes nothing. -/
theorem skipHeaders_written (api : Api) (reader : api.BufReader) :
    (api.inner (skipHeaders api reader).2).written = (api.inner reader).written := by
  fun_induction skipHeaders api reader with
  | case1 reader cause line => exact api.readLine_written reader
  | case2 reader text line blank => exact api.readLine_written reader
  | case3 reader text line kept ih => exact ih.trans (api.readLine_written reader)

/-- Reading the response writes nothing. -/
theorem readResponse_written (api : Api) (target : ProxyTarget) (reader : api.BufReader) :
    (api.inner (readResponse api target reader).2).written = (api.inner reader).written := by
  unfold readResponse
  split
  · exact api.readLine_written reader
  · split
    · exact api.readLine_written reader
    · exact (skipHeaders_written api _).trans (api.readLine_written reader)

/-- A call whose request is taken by the socket writes the request and nothing else. -/
theorem doConnect_written {api : Api} {stream : TcpStream} {target : ProxyTarget}
    {auth : Option (String × String)}
    (sent : (api.writeAll stream (Text.asBytes (connectRequest target auth))).1 = .ok ()) :
    (doConnect api stream target auth).2.written =
      stream.written ++ Text.asBytes (connectRequest target auth) := by
  have written := api.writeAll_written stream _ sent
  simp only [doConnect, api.newReader_inner, sent, readResponse_written, api.setInner_inner]
  exact written

end NsProxy.Http
