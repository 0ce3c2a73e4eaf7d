import NsProxy.Proxy.HttpTunnel

/-!
# Responses that end too early

`read_line` reports the end of the stream as a line without a newline, in the end as an empty
one, and the header loop takes an empty line for the blank line behind the headers. The streams
on which a tunnel is established are therefore of two kinds: those that start with a complete
head, and those that end inside a head that had said 200.
-/

namespace NsProxy.Http

open Tokio

/-- Header lines: each is ended by a newline and is not blank. -/
def HeaderLines (headers : List String) : Prop :=
  ∀ header ∈ headers, Terminated (Text.asBytes header) ∧ ¬ OnlyLineEnds (Text.asBytes header)

/-- Header lines behind which the blank line follows. -/
def EndedHeaders (bytes : List UInt8) : Prop :=
  ∃ (headers : List String) (blank : String) (rest : List UInt8),
    bytes = headers.flatMap Text.asBytes ++ Text.asBytes blank ++ rest ∧ HeaderLines headers ∧
    Terminated (Text.asBytes blank) ∧ OnlyLineEnds (Text.asBytes blank)

/-- Header lines behind which the stream ends, possibly inside a further line. -/
def CutHeaders (bytes : List UInt8) : Prop :=
  ∃ (headers : List String) (tail : String),
    bytes = headers.flatMap Text.asBytes ++ Text.asBytes tail ∧ HeaderLines headers ∧
    10 ∉ Text.asBytes tail

/-- A stream that ends inside its head: a status line of code 200, which may be cut itself, and
then only header lines. -/
def CutHead (bytes : List UInt8) : Prop :=
  ∃ (status : String) (rest : List UInt8), bytes = Text.asBytes status ++ rest ∧
    IsLine (Text.asBytes status) rest ∧ parseStatusCode (trimLineEnd status) = .ok 200 ∧
    CutHeaders rest

/-- A terminated line has a newline. -/
theorem terminated_mem {line : List UInt8} (ended : Terminated line) : 10 ∈ line := by
  obtain ⟨body, rfl, _⟩ := ended
  simp

/-- No lines at all are header lines. -/
theorem headerLines_nil : HeaderLines [] := fun _ member => nomatch member

/-- One more header line in front. -/
theorem headerLines_cons {header : String} {headers : List String}
    (ended : Terminated (Text.asBytes header)) (kept : ¬ OnlyLineEnds (Text.asBytes header))
    (lines : HeaderLines headers) : HeaderLines (header :: headers) := by
  intro other member
  rcases List.mem_cons.mp member with same | later
  · rw [same]
    exact ⟨ended, kept⟩
  · exact lines other later

/-- The first of some header lines, and the others. -/
theorem HeaderLines.uncons {header : String} {headers : List String}
    (lines : HeaderLines (header :: headers)) :
    Terminated (Text.asBytes header) ∧ ¬ OnlyLineEnds (Text.asBytes header) ∧
      HeaderLines headers := by
  obtain ⟨ended, kept⟩ := lines header List.mem_cons_self
  exact ⟨ended, kept, fun other member => lines other (List.mem_cons_of_mem _ member)⟩

/-- A stream that ends inside its headers has no blank line behind them. -/
theorem CutHeaders.not_ended {bytes : List UInt8} (cut : CutHeaders bytes) :
    ¬ EndedHeaders bytes := by
  obtain ⟨headers, tail, whole, lines, unended⟩ := cut
  rintro ⟨others, blank, rest, same, otherLines, ended, only⟩
  rw [whole] at same
  clear whole
  -- Both are read line by line; the blank line meets a header line or the rest without newline.
  induction headers generalizing others with
  | nil =>
    apply unended
    have inside : (10 : UInt8) ∈ others.flatMap Text.asBytes ++ Text.asBytes blank ++ rest := by
      simp [terminated_mem ended]
    rw [← same] at inside
    simpa using inside
  | cons header headers ih =>
    obtain ⟨headEnded, kept, tailLines⟩ := lines.uncons
    rw [List.flatMap_cons, List.append_assoc] at same
    cases others with
    | nil =>
      rw [List.flatMap_nil, List.nil_append] at same
      have first := (isLine_unique (Or.inl headEnded) (Or.inl ended) same).1
      rw [first] at kept
      exact kept only
    | cons other others =>
      obtain ⟨otherEnded, _, otherTail⟩ := otherLines.uncons
      rw [List.flatMap_cons, List.append_assoc, List.append_assoc, ← List.append_assoc _ _ rest]
        at same
      have later := (isLine_unique (Or.inl headEnded) (Or.inl otherEnded) same).2
      exact ih tailLines others later otherTail

/-- A complete head is a status line of code 200 and ended headers. -/
theorem starts_complete_iff {bytes : List UInt8} :
    (∃ head tunnel, bytes = head ++ tunnel ∧ CompleteHead head) ↔
      ∃ (status : String) (rest : List UInt8), bytes = Text.asBytes status ++ rest ∧
        Terminated (Text.asBytes status) ∧ parseStatusCode (trimLineEnd status) = .ok 200 ∧
        EndedHeaders rest := by
  constructor
  · rintro ⟨_, tunnel, rfl, status, headers, blank, rfl, started, accepted, shape, ended, only⟩
    exact ⟨status, _, List.append_assoc _ _ _, started, accepted, headers, blank, tunnel, rfl,
      shape, ended, only⟩
  · rintro ⟨status, _, rfl, started, accepted, headers, blank, tunnel, rfl, shape, ended, only⟩
    refine ⟨_, tunnel, (List.append_assoc _ _ _).symm, status, headers, blank, rfl, started,
      accepted, shape, ended, only⟩

/-- A stream that ends inside its head does not start with a complete one. -/
theorem CutHead.not_complete {bytes : List UInt8} (cut : CutHead bytes) :
    ¬ ∃ head tunnel, bytes = head ++ tunnel ∧ CompleteHead head := by
  rw [starts_complete_iff]
  obtain ⟨status, rest, whole, isLine, _, headers⟩ := cut
  rintro ⟨other, tail, same, ended, _, complete⟩
  have tails := (isLine_unique isLine (Or.inl ended) (whole.symm.trans same)).2
  rw [tails] at headers
  exact headers.not_ended complete

/-! ## The header loop -/

section Loop

variable {api : Api}

/-- The header loop succeeds only on headers that are ended or cut. -/
theorem skipHeaders_sound (reader : api.BufReader) (stopped : (skipHeaders api reader).1 = .ok ()) :
    EndedHeaders (api.unread reader) ∨ CutHeaders (api.unread reader) := by
  fun_induction skipHeaders api reader with
  | case1 reader cause line => contradiction
  | case2 reader text line blank =>
    obtain ⟨whole, isLine⟩ := api.readLine_consumes reader text line
    have only := (trimLineEnd_isEmpty_iff text).mp blank
    rcases isLine with ended | ⟨empty, unended⟩
    · exact Or.inl ⟨[], text, _, whole, headerLines_nil, ended, only⟩
    · refine Or.inr ⟨[], text, ?_, headerLines_nil, unended⟩
      rw [Api.unread, whole, empty, List.append_nil]
      rfl
  | case3 reader text line kept ih =>
    obtain ⟨whole, isLine⟩ := api.readLine_consumes reader text line
    have nonblank : ¬ OnlyLineEnds (Text.asBytes text) := by
      rwa [trimLineEnd_isEmpty_iff] at kept
    rcases isLine with ended | ⟨empty, unended⟩
    · rcases ih stopped with ⟨headers, blank, rest, same, lines, last, only⟩ |
        ⟨headers, tail, same, lines, unended⟩
      · refine Or.inl ⟨text :: headers, blank, rest, ?_, headerLines_cons ended nonblank lines,
          last, only⟩
        rw [Api.unread, whole, ← Api.unread, same, List.flatMap_cons]
        simp only [List.append_assoc]
      · refine Or.inr ⟨text :: headers, tail, ?_, headerLines_cons ended nonblank lines, unended⟩
        rw [Api.unread, whole, ← Api.unread, same, List.flatMap_cons, List.append_assoc]
    · refine Or.inr ⟨[], text, ?_, headerLines_nil, unended⟩
      rw [Api.unread, whole, empty, List.append_nil]
      rfl

/-- A loop whose next line is known goes on behind it, or stops there if it is blank. -/
theorem skipHeaders_next {reader : api.BufReader} {line : String}
    (read : (api.readLine reader).1 = .ok line) :
    (skipHeaders api reader).1 = if (trimLineEnd line).isEmpty then .ok ()
      else (skipHeaders api (api.readLine reader).2).1 := by
  rw [skipHeaders]
  split
  · rename_i failed
    rw [read] at failed
    contradiction
  · rename_i text found
    obtain rfl : line = text := Except.ok.inj (read.symm.trans found)
    split <;> rfl

/-- At the end of the stream the loop stops. -/
theorem skipHeaders_end {reader : api.BufReader} (clean : (api.inner reader).Clean)
    (left : api.unread reader = []) : (skipHeaders api reader).1 = .ok () := by
  have empty : api.unread reader = Text.asBytes "" ++ [] := left
  obtain ⟨read, _, _⟩ := readLine_next clean empty (Or.inr ⟨rfl, List.not_mem_nil⟩)
  rw [skipHeaders_next read]
  rfl

/-- Cut headers are taken for ended ones. -/
theorem skipHeaders_cut (reader : api.BufReader) (clean : (api.inner reader).Clean)
    (cut : CutHeaders (api.unread reader)) : (skipHeaders api reader).1 = .ok () := by
  obtain ⟨headers, tail, whole, lines, unended⟩ := cut
  induction headers generalizing reader with
  | nil =>
    rw [List.flatMap_nil, List.nil_append, ← List.append_nil (Text.asBytes tail)] at whole
    obtain ⟨read, after, still⟩ := readLine_next clean whole (Or.inr ⟨rfl, unended⟩)
    rw [skipHeaders_next read]
    split
    · rfl
    · exact skipHeaders_end still after
  | cons header headers ih =>
    obtain ⟨ended, kept, rest⟩ := lines.uncons
    rw [List.flatMap_cons, List.append_assoc] at whole
    obtain ⟨read, after, still⟩ := readLine_next clean whole (Or.inl ended)
    rw [skipHeaders_next read, if_neg fun blank => kept ((trimLineEnd_isEmpty_iff header).mp blank)]
    exact ih _ still after rest

end Loop

/-! ## The response -/

/-- The status line is accepted exactly where its code is 200. -/
theorem checkStatus_eq_ok {target : ProxyTarget} {statusLine : String} :
    checkStatus target statusLine = .ok () ↔ parseStatusCode statusLine = .ok 200 := by
  unfold checkStatus
  cases parseStatusCode statusLine with
  | error causes => simp [bind, Except.bind]
  | ok code =>
    by_cases success : code = 200
    · simp [success, bind, Except.bind, pure, Except.pure]
    · simp [success, bind, Except.bind, Error.bail]

/-- A response is accepted line by line. -/
theorem readResponse_eq_ok {api : Api} {reader : api.BufReader} {target : ProxyTarget} :
    (readResponse api target reader).1 = .ok () ↔
      ∃ status, (api.readLine reader).1 = .ok status ∧
        parseStatusCode (trimLineEnd status) = .ok 200 ∧
        (skipHeaders api (api.readLine reader).2).1 = .ok () := by
  unfold readResponse
  cases (api.readLine reader).1 with
  | error cause => simp
  | ok status =>
    simp only [Except.ok.injEq, exists_eq_left']
    rw [← @checkStatus_eq_ok target]
    cases checkStatus target (trimLineEnd status) with
    | error causes => simp
    | ok checked => simp

/-- On a clean socket a response is accepted exactly when it starts with a complete head or ends
inside a head. -/
theorem readResponse_ok_iff {api : Api} {reader : api.BufReader} (target : ProxyTarget)
    (clean : (api.inner reader).Clean) :
    (readResponse api target reader).1 = .ok () ↔
      (∃ head tunnel, api.unread reader = head ++ tunnel ∧ CompleteHead head) ∨
        CutHead (api.unread reader) := by
  rw [starts_complete_iff]
  constructor
  · intro accepted
    obtain ⟨status, read, code, stopped⟩ := readResponse_eq_ok.mp accepted
    obtain ⟨whole, isLine⟩ := api.readLine_consumes reader status read
    have behind := skipHeaders_sound _ stopped
    rcases isLine with ended | ⟨empty, unended⟩
    · rcases behind with complete | cut
      · exact Or.inl ⟨status, _, whole, ended, code, complete⟩
      · exact Or.inr ⟨status, _, whole, Or.inl ended, code, cut⟩
    · -- Behind a status line without newline there is nothing.
      refine Or.inr ⟨status, _, whole, Or.inr ⟨empty, unended⟩, code, [], "", ?_, ?_, ?_⟩
      · rw [empty]
        rfl
      · exact headerLines_nil
      · exact List.not_mem_nil
  · rintro (complete | ⟨status, rest, whole, isLine, code, cut⟩)
    · obtain ⟨head, tunnel, whole, formed⟩ := starts_complete_iff.mpr complete
      exact (readResponse_complete target clean whole formed).1
    · obtain ⟨read, after, still⟩ := readLine_next clean whole isLine
      rw [← after] at cut
      exact readResponse_eq_ok.mpr ⟨status, read, code, skipHeaders_cut _ still cut⟩

/-- The request is written and the response accepted. -/
theorem doConnect_ok_iff {api : Api} {stream : TcpStream} {target : ProxyTarget}
    {auth : Option (String × String)} (clean : stream.Clean) :
    (∃ proxy, (doConnect api stream target auth).1 = .ok proxy) ↔
      (api.writeAll stream (Text.asBytes (connectRequest target auth))).1 = .ok () ∧
        ((∃ head tunnel, stream.remaining = head ++ tunnel ∧ CompleteHead head) ∨
          CutHead stream.remaining) := by
  have accepts : ∀ inner : TcpStream, inner.incoming = stream.incoming →
      ((readResponse api target (api.setInner (api.newReader stream) inner)).1 = .ok () ↔
        (∃ head tunnel, stream.remaining = head ++ tunnel ∧ CompleteHead head) ∨
          CutHead stream.remaining) := by
    intro inner incoming
    have left : api.unread (api.setInner (api.newReader stream) inner) = stream.remaining := by
      rw [Api.unread, api.setInner_buffer, api.newReader_buffer, List.nil_append,
        api.setInner_inner, TcpStream.remaining, incoming]
      rfl
    have readable : (api.inner (api.setInner (api.newReader stream) inner)).Clean := by
      intro event member
      rw [api.setInner_inner, incoming] at member
      exact clean event member
    rw [← left]
    exact readResponse_ok_iff target readable
  have decided := accepts _
    (api.writeAll_incoming stream (Text.asBytes (connectRequest target auth)))
  cases sent : (api.writeAll stream (Text.asBytes (connectRequest target auth))).1 with
  | error cause => simp [doConnect, api.newReader_inner, sent]
  | ok done =>
    rw [← decided]
    simp only [doConnect, api.newReader_inner, sent]
    generalize readResponse api target _ = response
    cases response.1 with
    | error causes => simp [Except.map]
    | ok answered => simp [Except.map]

/-- For every socket, cut into reads in any way: a tunnel is established only on a complete
response head, unless the request was written and the stream ends inside a head that says 200. -/
theorem connect_needs_complete_head_iff (api : Api) (stream : TcpStream) (target : ProxyTarget)
    (auth : Option (String × String)) (clean : stream.Clean) :
    ((∃ proxy, (doConnect api stream target auth).1 = .ok proxy) →
      ∃ head tunnel, stream.remaining = head ++ tunnel ∧ CompleteHead head) ↔
    ¬ ((api.writeAll stream (Text.asBytes (connectRequest target auth))).1 = .ok () ∧
      CutHead stream.remaining) := by
  rw [doConnect_ok_iff clean]
  constructor
  · rintro needed ⟨sent, cut⟩
    exact cut.not_complete (needed ⟨sent, Or.inr cut⟩)
  · rintro whole ⟨sent, complete | cut⟩
    · exact complete
    · exact absurd ⟨sent, cut⟩ whole

/-- A response that was sent whole, in two pieces. -/
theorem connect_needs_complete_head_whole :
    let stream : TcpStream :=
      ⟨[.data (Text.asBytes "HTTP/1.1 200 OK\r\n\r") (by decide +kernel),
        .data [10] (by decide)], [], []⟩
    stream.Clean ∧
    ((∃ proxy, (doConnect scheduleApi stream (.domain "example.com" 443) none).1 = .ok proxy) →
      ∃ head tunnel, stream.remaining = head ++ tunnel ∧ CompleteHead head) := by
  intro stream
  have clean : stream.Clean := by
    intro event member message
    simp only [stream, List.mem_cons, List.not_mem_nil, or_false] at member
    rcases member with rfl | rfl <;> simp
  have whole : ∃ head tunnel, stream.remaining = head ++ tunnel ∧ CompleteHead head :=
    ⟨Text.asBytes "HTTP/1.1 200 OK\r\n\r\n", [], by decide +kernel, "HTTP/1.1 200 OK\r\n", [],
      "\r\n", by decide +kernel,
      ⟨Text.asBytes "HTTP/1.1 200 OK\r", by decide +kernel, by decide +kernel⟩, by rfl,
      by simp, ⟨[13], by decide +kernel, by decide⟩, by unfold OnlyLineEnds; decide +kernel⟩
  exact ⟨clean, (connect_needs_complete_head_iff scheduleApi stream (.domain "example.com" 443) none
    clean).mpr fun cut => cut.2.not_complete whole⟩

/-- A response that ends behind its status line establishes a tunnel. -/
theorem cut_response_accepted :
    let stream : TcpStream :=
      ⟨[.data (Text.asBytes "HTTP/1.1 200 OK\r\n") (by decide +kernel)], [], []⟩
    stream.Clean ∧
    (∃ proxy, (doConnect scheduleApi stream (.domain "example.com" 443) none).1 = .ok proxy) ∧
      ¬ ∃ head tunnel, stream.remaining = head ++ tunnel ∧ CompleteHead head := by
  intro stream
  have clean : stream.Clean := by
    intro event member message
    simp only [stream, List.mem_singleton] at member
    rw [member]
    simp
  have cut : CutHead stream.remaining := by
    refine ⟨"HTTP/1.1 200 OK\r\n", [], by decide +kernel, Or.inl ?_, by rfl, [], "", rfl,
      headerLines_nil, List.not_mem_nil⟩
    exact ⟨Text.asBytes "HTTP/1.1 200 OK\r", by decide +kernel, by decide +kernel⟩
  exact ⟨clean, (doConnect_ok_iff clean).mpr ⟨rfl, Or.inr cut⟩, cut.not_complete⟩

end NsProxy.Http
