import NsProxy.Proxy.Http
import NsProxy.Tokio.Schedule

/-!
# The tunnel behind the response

The response head ends at a line boundary, the reads of the socket end anywhere. What the
line reader read past the head is handed on in front of the socket, so that no byte of the
tunnel is lost, repeated or moved, wherever the stream was cut.
-/

namespace NsProxy.Http

open Tokio

/-- A line that ends with its only newline. -/
def Terminated (line : List UInt8) : Prop := ∃ body, line = body ++ [10] ∧ 10 ∉ body

/-- A line of CR and LF bytes only. -/
def OnlyLineEnds (line : List UInt8) : Prop := ∀ byte ∈ line, byte = 13 ∨ byte = 10

/-- A complete response head: a status line of code 200, header lines, and the first line of
CR and LF bytes only, all of them UTF-8 and ended by a newline. -/
def CompleteHead (head : List UInt8) : Prop :=
  ∃ (status : String) (headers : List String) (blank : String),
    head = Text.asBytes status ++ (headers.flatMap Text.asBytes ++ Text.asBytes blank) ∧
    Terminated (Text.asBytes status) ∧ parseStatusCode (trimLineEnd status) = .ok 200 ∧
    (∀ header ∈ headers,
      Terminated (Text.asBytes header) ∧ ¬ OnlyLineEnds (Text.asBytes header)) ∧
    Terminated (Text.asBytes blank) ∧ OnlyLineEnds (Text.asBytes blank)

/-- The encoding of a character consists of line ends exactly when the character is one. -/
theorem onlyLineEnds_encodeChar (char : Char) :
    OnlyLineEnds (String.utf8EncodeChar char) ↔ isLineEnd char = true := by
  have cr := @Text.ascii_mem_utf8EncodeChar char 13 (by decide)
  have lf := @Text.ascii_mem_utf8EncodeChar char 10 (by decide)
  constructor
  · intro only
    obtain ⟨byte, member⟩ := List.exists_mem_of_ne_nil (String.utf8EncodeChar char) (by simp)
    rcases only byte member with rfl | rfl
    · have same : char = '\r' := Char.toNat_inj.mp (cr.mp member)
      simp [isLineEnd, same]
    · have same : char = '\n' := Char.toNat_inj.mp (lf.mp member)
      simp [isLineEnd, same]
  · intro ends
    rw [isLineEnd, Bool.or_eq_true, decide_eq_true_eq, decide_eq_true_eq] at ends
    intro byte member
    rcases ends with rfl | rfl
    · exact Or.inl (List.mem_singleton.mp member)
    · exact Or.inr (List.mem_singleton.mp member)

/-- The trimmed line is empty exactly when the line consists of line ends. -/
theorem trimLineEnd_isEmpty_iff (text : String) :
    (trimLineEnd text).isEmpty = true ↔ OnlyLineEnds (Text.asBytes text) := by
  have bytes : OnlyLineEnds (Text.asBytes text) ↔ ∀ char ∈ text.toList, isLineEnd char = true := by
    simp only [← onlyLineEnds_encodeChar, Text.asBytes_eq_flatMap, OnlyLineEnds, List.mem_flatMap]
    constructor
    · intro only char member byte encoded
      exact only byte ⟨char, member, encoded⟩
    · rintro only byte ⟨char, member, encoded⟩
      exact only char member byte encoded
  rw [bytes, String.isEmpty_iff, ← List.rdropWhile_eq_nil_iff, trimLineEnd, ← String.toList_inj]
  simp

/-- The next line of a clean reader is returned, and what follows it is left. -/
theorem readLine_next {api : Api} {reader : api.BufReader} {line : String} {rest : List UInt8}
    (clean : (api.inner reader).Clean) (left : api.unread reader = Text.asBytes line ++ rest)
    (next : IsLine (Text.asBytes line) rest) :
    (api.readLine reader).1 = .ok line ∧ api.unread (api.readLine reader).2 = rest ∧
      (api.inner (api.readLine reader).2).Clean := by
  obtain ⟨returned, -, still⟩ := api.readLine_clean reader _ rest clean left next
  have read := returned line (Text.fromUtf8_asBytes line)
  have consumed := (api.readLine_consumes reader line read).1
  refine ⟨read, ?_, still⟩
  exact List.append_cancel_left (consumed.symm.trans left)

/-- The header loop stops behind the first blank line. -/
theorem skipHeaders_complete {api : Api} {headers : List String} {blank : String}
    {rest : List UInt8} (reader : api.BufReader) (clean : (api.inner reader).Clean)
    (left : api.unread reader = headers.flatMap Text.asBytes ++ Text.asBytes blank ++ rest)
    (shape : ∀ header ∈ headers,
      Terminated (Text.asBytes header) ∧ ¬ OnlyLineEnds (Text.asBytes header))
    (ended : Terminated (Text.asBytes blank)) (only : OnlyLineEnds (Text.asBytes blank)) :
    (skipHeaders api reader).1 = .ok () ∧ api.unread (skipHeaders api reader).2 = rest ∧
      (api.inner (skipHeaders api reader).2).Clean := by
  induction headers generalizing reader with
  | nil =>
    obtain ⟨read, after, still⟩ := readLine_next clean left (Or.inl ended)
    rw [skipHeaders]
    split
    · rename_i failed
      rw [read] at failed
      contradiction
    · rename_i text line
      obtain rfl : blank = text := Except.ok.inj (read.symm.trans line)
      rw [if_pos ((trimLineEnd_isEmpty_iff blank).mpr only)]
      exact ⟨rfl, after, still⟩
  | cons header headers ih =>
    have here := shape header List.mem_cons_self
    rw [List.flatMap_cons, List.append_assoc, List.append_assoc, ← List.append_assoc _ _ rest]
      at left
    obtain ⟨read, after, still⟩ := readLine_next clean left (Or.inl here.1)
    rw [skipHeaders]
    split
    · rename_i failed
      rw [read] at failed
      contradiction
    · rename_i text line
      obtain rfl : header = text := Except.ok.inj (read.symm.trans line)
      rw [if_neg fun empty => here.2 ((trimLineEnd_isEmpty_iff header).mp empty)]
      exact ih _ still after fun other member => shape other (List.mem_cons_of_mem _ member)

/-- A complete response head is read to its end. -/
theorem readResponse_complete {api : Api} {reader : api.BufReader} {head rest : List UInt8}
    (target : ProxyTarget) (clean : (api.inner reader).Clean)
    (left : api.unread reader = head ++ rest) (complete : CompleteHead head) :
    (readResponse api target reader).1 = .ok () ∧
      api.unread (readResponse api target reader).2 = rest ∧
      (api.inner (readResponse api target reader).2).Clean := by
  obtain ⟨status, headers, blank, rfl, started, accepted, shape, ended, only⟩ := complete
  rw [List.append_assoc] at left
  obtain ⟨read, after, still⟩ := readLine_next clean left (Or.inl started)
  have checked : checkStatus target (trimLineEnd status) = .ok () := by
    simp only [checkStatus, accepted]
    rfl
  simp only [readResponse, read, checked]
  exact skipHeaders_complete _ still after shape ended only

/-- For every socket that will deliver a complete response head and then any bytes, cut into
reads in any way: once the request is written, `do_connect` succeeds, and every sequence of
reads with non-empty buffers on the returned stream yields the bytes behind the head in
order, each once: those read ahead, then those of the socket. A read reports zero bytes only
after all of them, none fails, and enough reads return them all. -/
theorem connect_loses_no_tunnel_byte (api : Api) (stream : TcpStream) (target : ProxyTarget)
    (auth : Option (String × String)) (head tunnel : List UInt8) (clean : stream.Clean)
    (sent : (api.writeAll stream (Text.asBytes (connectRequest target auth))).1 = .ok ())
    (arriving : stream.remaining = head ++ tunnel) (complete : CompleteHead head) :
    ∃ proxy, (doConnect api stream target auth).1 = .ok proxy ∧
      proxy.buffered.bytes ++ proxy.inner.remaining = tunnel ∧
      ∀ calls : List ProxyStream.ReadCall, (∀ call ∈ calls, 0 < call.size) →
        let results := (proxy.runCalls calls).1
        results.flatMap ProxyStream.returned ++ (proxy.runCalls calls).2.unread = tunnel ∧
        (∀ index, results[index]? = some (.ok []) →
          (results.take index).flatMap ProxyStream.returned = tunnel) ∧
        (∀ message, .error (.other message) ∉ results) ∧
        (tunnel.length + proxy.inner.waits ≤ calls.length →
          results.flatMap ProxyStream.returned = tunnel) := by
  let reader := api.setInner (api.newReader stream)
    (api.writeAll stream (Text.asBytes (connectRequest target auth))).2
  have incoming : (api.inner reader).incoming = stream.incoming := by
    rw [api.setInner_inner, api.writeAll_incoming]
  have left : api.unread reader = head ++ tunnel := by
    rw [Api.unread, api.setInner_buffer, api.newReader_buffer, List.nil_append,
      TcpStream.remaining, incoming]
    exact arriving
  have readable : (api.inner reader).Clean := by
    intro event member
    rw [incoming] at member
    exact clean event member
  obtain ⟨accepted, after, still⟩ := readResponse_complete target readable left complete
  let last := (readResponse api target reader).2
  let proxy := ProxyStream.new (api.inner last) (api.buffer last)
  have whole : proxy.unread = tunnel := after
  refine ⟨proxy, ?_, after, ?_⟩
  · simp only [doConnect, api.newReader_inner, sent]
    rw [show (readResponse api target _).1 = _ from accepted]
    rfl
  · intro calls positive results
    have split := proxy.unread_runCalls calls
    rw [whole] at split
    refine ⟨split.symm, ?_, ?_, ?_⟩
    · intro index empty
      exact (ProxyStream.runCalls_nil positive empty).trans whole
    · exact ProxyStream.runCalls_clean still calls
    · intro enough
      have done := ProxyStream.runCalls_complete still positive (by rw [whole]; exact enough)
      rw [done, List.append_nil] at split
      exact split.symm

/-- A response cut inside its status code and followed by tunnel bytes in the same read. -/
theorem connect_loses_no_tunnel_byte_coalesced :
    let stream : TcpStream :=
      ⟨[.data (Text.asBytes "HTTP/1.1 20") (by decide +kernel), .wouldBlock,
        .data (Text.asBytes "0 OK\r\n\r\nhi") (by decide +kernel),
        .data (Text.asBytes "!") (by decide +kernel)], [], []⟩
    ∃ proxy, (doConnect scheduleApi stream (.domain "example.com" 443) none).1 = .ok proxy ∧
      proxy.buffered.bytes ++ proxy.inner.remaining = Text.asBytes "hi!" := by
  intro stream
  have complete : CompleteHead (Text.asBytes "HTTP/1.1 200 OK\r\n\r\n") :=
    ⟨"HTTP/1.1 200 OK\r\n", [], "\r\n", by decide +kernel,
      ⟨Text.asBytes "HTTP/1.1 200 OK\r", by decide +kernel, by decide +kernel⟩, by rfl,
      by simp, ⟨[13], by decide +kernel, by decide⟩,
      by unfold OnlyLineEnds; decide +kernel⟩
  have clean : stream.Clean := by
    intro event member message
    simp only [stream, List.mem_cons, List.not_mem_nil, or_false] at member
    rcases member with rfl | rfl | rfl | rfl <;> simp
  obtain ⟨proxy, connected, whole, -⟩ := connect_loses_no_tunnel_byte scheduleApi stream
    (.domain "example.com" 443) none _ (Text.asBytes "hi!") clean rfl (by decide +kernel) complete
  exact ⟨proxy, connected, whole⟩

end NsProxy.Http
