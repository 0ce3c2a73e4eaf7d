import NsProxy.EventLoop.Dns

/-!
# DNS interception over whole runs

A run is a sequence of `process` calls, each on a socket that holds any batch of datagrams.
The parser, the pool, the response builder and the reverse lookup compose as follows: every
address query is answered in arrival order with a pool address, and that address leads back
to the queried domain until a pool's worth of further domains has been allocated.
-/

namespace NsProxy.EventLoop.DnsInterceptor

open Smoltcp

/-- The state after a run of calls, and everything the calls appended to the transmit queues. -/
def processAll (udp : UdpApi) (dns : DnsInterceptor) :
    List udp.Socket → DnsInterceptor × List Datagram
  | [] => (dns, [])
  | socket :: rest =>
    let (next, after) := process udp dns socket
    let (last, sent) := processAll udp next rest
    (last, (udp.tx after).drop (udp.tx socket).length ++ sent)

/-- The transmit buffer accepts every response of every call of a run. -/
def CallsAccepted (udp : UdpApi) (dns : DnsInterceptor) : List udp.Socket → Prop
  | [] => True
  | socket :: rest =>
    RepliesAccepted udp dns socket ∧ CallsAccepted udp (process udp dns socket).1 rest

/-- The domain of an address query; other datagrams ask for no address. -/
def askedDomain (datagram : Datagram) : Option String :=
  match FakeDns.parseQuery datagram.payload with
  | none => none
  | some (_, domain, qtype) => if qtype = 1 then some domain else none

/-- The fresh allocations made while answering a list of datagrams. -/
def allocationsFor (dns : DnsInterceptor) (datagrams : List Datagram) :
    List (String × Ipv4Addr) :=
  dns.fakeDns.allocations (datagrams.filterMap askedDomain)

/-- What a run owes to an address query with this id and domain that arrived after `before` and
ahead of `after`, when it sent `sent` and answered with `ip`. -/
structure Answered (start : DnsInterceptor) (before : List Datagram) (query : Datagram)
    (after sent : List Datagram) (id : UInt16) (domain : String) (ip : Ipv4Addr) : Prop where
  /-- The response follows the responses to earlier datagrams and goes to the sender. -/
  reply : sent[(start.answerAll before).2.length]? =
    some ⟨FakeDns.buildAResponse id domain ip, query.endpoint⟩
  /-- The response starts with the transaction id. -/
  echo : (FakeDns.buildAResponse id domain ip).take 2 = Bytes.be16 id
  /-- The response ends with the address. -/
  rdata : (FakeDns.buildAResponse id domain ip).drop
    ((FakeDns.buildAResponse id domain ip).length - 4) = ip.octets
  /-- The address is from the pool. -/
  fake : FakeDns.isFakeIp ip = true
  /-- The latest allocation of this pair is not after the query, and until a pool's worth of
  further allocations the address leads back to the domain. -/
  kept : ∃ index,
    (start.allocationsFor (before ++ [query]))[index]? = some (domain, ip) ∧
    (∀ other, (start.allocationsFor (before ++ [query]))[other]? = some (domain, ip) →
      other ≤ index) ∧
    ∀ later, later <+: after →
      (start.allocationsFor (before ++ query :: later)).length - (index + 1) <
        FakeDns.poolSize.toNat →
      ∀ port, (start.answerAll (before ++ query :: later)).1.targetFor ip port =
        .domain domain port

/-- Answering touches the mapping exactly by resolving the queried domains in order. -/
theorem answerAll_fakeDns (dns : DnsInterceptor) (datagrams : List Datagram) :
    (dns.answerAll datagrams).1.fakeDns =
      dns.fakeDns.resolveAll (datagrams.filterMap askedDomain) := by
  induction datagrams generalizing dns with
  | nil => rfl
  | cons datagram rest ih =>
    rw [List.filterMap_cons]
    simp only [answerAll, ih]
    unfold answer askedDomain
    cases FakeDns.parseQuery datagram.payload with
    | none => rfl
    | some parsed =>
      obtain ⟨id, domain, qtype⟩ := parsed
      dsimp only
      by_cases address : qtype = 1
      · simp [address, FakeDns.resolveAll]
      · simp [address]

/-- A datagram that asks for no address leaves the mapping as it was. -/
theorem answer_unasked (dns : DnsInterceptor) (datagram : Datagram)
    (unasked : ∀ id domain, FakeDns.parseQuery datagram.payload ≠ some (id, domain, 1)) :
    (dns.answer datagram.payload).1 = dns := by
  unfold answer
  cases parsed : FakeDns.parseQuery datagram.payload with
  | none => rfl
  | some fields =>
    obtain ⟨id, domain, qtype⟩ := fields
    have other : qtype ≠ 1 := by
      rintro rfl
      exact unasked id domain parsed
    simp [other]

/-- The calls of a run answer the concatenation of their batches. -/
theorem processAll_eq (udp : UdpApi) (sockets : List udp.Socket) (dns : DnsInterceptor)
    (fits : ∀ socket ∈ sockets, ∀ datagram ∈ udp.rx socket,
      datagram.payload.length ≤ dnsBufSize) :
    (processAll udp dns sockets).1 = (dns.answerAll (sockets.flatMap udp.rx)).1 := by
  induction sockets generalizing dns with
  | nil => rfl
  | cons socket rest ih =>
    have batch := process_eq_answerAll udp _ dns socket rfl (fits socket List.mem_cons_self)
    have tail := ih (process udp dns socket).1 fun other member =>
      fits other (List.mem_cons_of_mem _ member)
    rw [batch.1] at tail
    simp only [processAll, List.flatMap_cons, answerAll_append, batch.1, tail]

/-- The calls of an accepted run send exactly the responses to the concatenated batches. -/
theorem processAll_sent (udp : UdpApi) (sockets : List udp.Socket) (dns : DnsInterceptor)
    (fits : ∀ socket ∈ sockets, ∀ datagram ∈ udp.rx socket,
      datagram.payload.length ≤ dnsBufSize)
    (accepted : CallsAccepted udp dns sockets) :
    (processAll udp dns sockets).2 = (dns.answerAll (sockets.flatMap udp.rx)).2 := by
  induction sockets generalizing dns with
  | nil => rfl
  | cons socket rest ih =>
    have batch := process_eq_answerAll udp _ dns socket rfl (fits socket List.mem_cons_self)
    have sent := process_transmits udp _ dns socket rfl (fits socket List.mem_cons_self) accepted.1
    have tail := ih (process udp dns socket).1
      (fun other member => fits other (List.mem_cons_of_mem _ member)) accepted.2
    rw [batch.1] at tail
    simp only [processAll, sent, List.drop_left, List.flatMap_cons, answerAll_append, batch.1, tail]

/-- The response carries the id in front and the address behind. -/
theorem buildAResponse_ends (id : UInt16) (domain : String) (ip : Ipv4Addr) :
    (FakeDns.buildAResponse id domain ip).take 2 = Bytes.be16 id ∧
      (FakeDns.buildAResponse id domain ip).drop
        ((FakeDns.buildAResponse id domain ip).length - 4) = ip.octets := by
  constructor
  · simp [FakeDns.buildAResponse, FakeDns.encodeName_eq, Bytes.be16]
  · unfold FakeDns.buildAResponse
    dsimp only
    rw [List.length_append, Ipv4Addr.length_octets, Nat.add_sub_cancel, List.drop_left]

/-- An address query is answered with the address of a live allocation of its domain. -/
theorem answer_query {dns : DnsInterceptor} {query : Datagram} {id : UInt16} {domain : String}
    (asked : FakeDns.parseQuery query.payload = some (id, domain, 1)) :
    dns.answer query.payload =
      ({ dns with fakeDns := (dns.fakeDns.resolve domain).1 },
        some (FakeDns.buildAResponse id domain (dns.fakeDns.resolve domain).2)) := by
  simp [answer, asked]

/-- The pool state of a run represents its allocations, each at the address of its position. -/
theorem run_tracks (handle : SocketHandle) (datagrams : List Datagram) :
    FakeDns.Represents ((⟨handle, FakeDns.new⟩ : DnsInterceptor).answerAll datagrams).1.fakeDns
      (((⟨handle, FakeDns.new⟩ : DnsInterceptor).allocationsFor datagrams).map Prod.fst) ∧
    ∀ index pair, ((⟨handle, FakeDns.new⟩ : DnsInterceptor).allocationsFor datagrams)[index]? =
      some pair → pair.2 = FakeDns.poolAddr index := by
  have tracks := FakeDns.run_represents FakeDns.represents_new (datagrams.filterMap askedDomain)
  rw [answerAll_fakeDns]
  simpa [allocationsFor] using tracks

/-- The allocations up to a point are an initial part of those up to any later point. -/
theorem allocationsFor_append (dns : DnsInterceptor) (first second : List Datagram) :
    dns.allocationsFor first <+: dns.allocationsFor (first ++ second) := by
  rw [allocationsFor, allocationsFor, List.filterMap_append, FakeDns.allocations_append]
  exact List.prefix_append _ _

/-- A live allocation makes its address lead back to its domain. -/
theorem targetFor_live {dns : DnsInterceptor} {history : List String} {index : Nat}
    {domain : String} (rep : FakeDns.Represents dns.fakeDns history)
    (held : Ring.Holds FakeDns.capacity history index domain) (port : UInt16) :
    dns.targetFor (FakeDns.poolAddr index) port = .domain domain port := by
  have found := (rep.backward _ _).mpr ⟨index, held, rfl⟩
  simp [targetFor, FakeDns.isFakeIp_poolAddr, FakeDns.lookup, found]

/-- Every address query of a run is answered as owed. -/
theorem query_answered (handle : SocketHandle) (before : List Datagram) (query : Datagram)
    (after : List Datagram) (id : UInt16) (domain : String)
    (asked : FakeDns.parseQuery query.payload = some (id, domain, 1)) :
    ∃ ip, Answered ⟨handle, FakeDns.new⟩ before query after
      ((⟨handle, FakeDns.new⟩ : DnsInterceptor).answerAll (before ++ query :: after)).2
      id domain ip := by
  generalize opened : (⟨handle, FakeDns.new⟩ : DnsInterceptor) = start
  have tracks := run_tracks handle
  rw [opened] at tracks
  let dns := (start.answerAll before).1
  obtain ⟨index, held, returned⟩ := FakeDns.resolve_holds (tracks before).1 domain
  have allocated : start.allocationsFor (before ++ [query]) =
      start.allocationsFor before ++ dns.fakeDns.allocated domain := by
    have one : [query].filterMap askedDomain = [domain] := by
      simp [askedDomain, asked]
    rw [allocationsFor, allocationsFor, List.filterMap_append, FakeDns.allocations_append, one,
      ← answerAll_fakeDns]
    simp [FakeDns.allocations, dns]
  have history : (start.allocationsFor before).map Prod.fst ++
      (dns.fakeDns.allocated domain).map Prod.fst =
      (start.allocationsFor (before ++ [query])).map Prod.fst := by
    rw [allocated, List.map_append]
  rw [history] at held
  have ends := buildAResponse_ends id domain (dns.fakeDns.resolve domain).2
  have pair := (FakeDns.holds_pair (tracks (before ++ [query])).2 index domain _).mpr
    ⟨held, returned⟩
  refine ⟨(dns.fakeDns.resolve domain).2, ?_, ends.1, ends.2, ?_, index, pair.2, ?_, ?_⟩
  · rw [answerAll_append, List.getElem?_append_right (Nat.le_refl _), Nat.sub_self]
    simp [answerAll, answer_query asked, dns]
  · rw [returned]
    exact FakeDns.isFakeIp_poolAddr index
  · intro other found
    by_contra beyond
    have named : ((start.allocationsFor (before ++ [query])).map Prod.fst)[other]? =
        some domain := by
      rw [List.getElem?_map, found]
      rfl
    have bound := (List.getElem?_eq_some_iff.mp named).1
    exact (tracks (before ++ [query])).1.fresh index other domain (by omega)
      (by have := held.1.2; omega) held.2 named
  · intro later _ recent port
    obtain ⟨more, whole⟩ := allocationsFor_append start (before ++ [query]) later
    rw [List.append_assoc, List.singleton_append] at whole
    have still : Ring.Holds FakeDns.capacity (start.allocationsFor (before ++ query :: later)) index
        (domain, (dns.fakeDns.resolve domain).2) := by
      have live := pair.1.1
      rw [← whole] at recent ⊢
      refine ⟨⟨?_, ?_⟩, ?_⟩
      · rw [List.length_append]
        omega
      · unfold FakeDns.capacity
        omega
      · rw [List.getElem?_append_left live]
        exact pair.2
    rw [returned] at still ⊢
    exact targetFor_live (tracks (before ++ query :: later)).1
      ((FakeDns.holds_pair (tracks (before ++ query :: later)).2 _ _ _).mp still).1 port

/-- Every run of `process` calls from a new interceptor, over any batches of datagrams that
fit the receive buffer and whose responses the transmit buffer accepts: the calls answer
the datagrams in arrival order, each address query is answered as owed, and every other
datagram leaves the mapping unchanged. -/
theorem dns_interception (udp : UdpApi) (handle : SocketHandle) (sockets : List udp.Socket)
    (fits : ∀ socket ∈ sockets, ∀ datagram ∈ udp.rx socket, datagram.payload.length ≤ 1500)
    (accepted : CallsAccepted udp ⟨handle, FakeDns.new⟩ sockets) :
    let start : DnsInterceptor := ⟨handle, FakeDns.new⟩
    let arrivals := sockets.flatMap udp.rx
    let sent := (processAll udp start sockets).2
    sent = (start.answerAll arrivals).2 ∧
    (∀ calls, (processAll udp start (sockets.take calls)).1 =
      (start.answerAll ((sockets.take calls).flatMap udp.rx)).1) ∧
    (∀ before query after id domain, arrivals = before ++ query :: after →
      FakeDns.parseQuery query.payload = some (id, domain, 1) →
      ∃ ip, Answered start before query after sent id domain ip) ∧
    (∀ before datagram after, arrivals = before ++ datagram :: after →
      (∀ id domain, FakeDns.parseQuery datagram.payload ≠ some (id, domain, 1)) →
      (start.answerAll (before ++ [datagram])).1.fakeDns =
        (start.answerAll before).1.fakeDns) := by
  intro start arrivals sent
  have replies : sent = (start.answerAll arrivals).2 :=
    processAll_sent udp sockets start fits accepted
  refine ⟨replies, ?_, ?_, ?_⟩
  · intro calls
    exact processAll_eq udp _ start fun socket member => fits socket (List.mem_of_mem_take member)
  · intro before query after id domain split asked
    rw [replies, split]
    exact query_answered handle before query after id domain asked
  · intro before datagram after _ unasked
    rw [answerAll_append]
    simp only [answerAll]
    rw [answer_unasked _ _ unasked]

/-- Two queues with room for one response per waiting datagram accept every response. -/
theorem queueUdp_accepts (limit : Nat) (queue : List Datagram) (dns : DnsInterceptor)
    (socket : (queueUdp limit).Socket) (queued : (queueUdp limit).rx socket = queue)
    (room : queue.length + ((queueUdp limit).tx socket).length ≤ limit) :
    RepliesAccepted (queueUdp limit) dns socket := by
  induction queue generalizing dns socket with
  | nil =>
    have idle : ¬ (queueUdp limit).canRecv socket = true := by
      rw [(queueUdp limit).canRecv_iff, queued]
      simp
    rw [RepliesAccepted, dif_neg idle]
    trivial
  | cons datagram rest ih =>
    have ready : (queueUdp limit).canRecv socket = true := by
      rw [(queueUdp limit).canRecv_iff, queued]
      simp
    obtain ⟨dequeued, kept⟩ :=
      (queueUdp limit).recvSlice_dequeues socket dnsBufSize datagram rest queued
    rw [List.length_cons] at room
    rw [RepliesAccepted, dif_pos ready]
    cases received : ((queueUdp limit).recvSlice socket dnsBufSize).1 with
    | none => trivial
    | some taken =>
      have space : ((queueUdp limit).tx ((queueUdp limit).recvSlice socket dnsBufSize).2).length <
          limit := by
        rw [kept]
        omega
      have sends : ∀ response, (queueUdp limit).canSend
          ((queueUdp limit).recvSlice socket dnsBufSize).2 = true ∧
          ((queueUdp limit).sendSlice ((queueUdp limit).recvSlice socket dnsBufSize).2 response
            taken.endpoint).1 = true := by
        intro response
        exact ⟨decide_eq_true space, by simp only [queueUdp] at space ⊢; simp [space]⟩
      refine ⟨fun response _ => sends response, ih _ _ (by rw [respond_rx, dequeued]) ?_⟩
      cases response : (dns.answer taken.payload).2 with
      | none =>
        rw [respond, kept]
        omega
      | some bytes =>
        rw [respond, if_pos (sends bytes).1, (queueUdp limit).sendSlice_tx _ _ _ (sends bytes).2,
          kept, List.length_append, List.length_singleton]
        omega

/-- A query for a name of one letter. -/
def letterQuery (id letter qtype : UInt8) : Datagram :=
  ⟨[0, id, 1, 0, 0, 1, 0, 0, 0, 0, 0, 0, 1, letter, 0, 0, qtype, 0, 1], ⟨⟨9⟩, 4000⟩⟩

/-- Two calls: a new name, a malformed datagram and a query for no address, and then a second
name and the first one again. -/
def mixedBatches : List (queueUdp 16).Socket :=
  [([letterQuery 7 97 1, ⟨[1, 2, 3], ⟨⟨9⟩, 4000⟩⟩, letterQuery 8 98 28], []),
    ([letterQuery 9 98 1, letterQuery 10 97 1], [])]

/-- The datagrams of the two calls. -/
def mixedArrivals : List Datagram := mixedBatches.flatMap (queueUdp 16).rx

/-- Both names are answered with an address of their own, the repeated one with the address it
had, and neither the malformed datagram nor the query for no address takes one. -/
theorem dns_interception_mixed :
    let start : DnsInterceptor := ⟨0, FakeDns.new⟩
    let sent := (processAll (queueUdp 16) start mixedBatches).2
    (∃ ip, Answered start [] (letterQuery 7 97 1) (mixedArrivals.drop 1) sent 7 "a" ip) ∧
    (∃ ip, Answered start (mixedArrivals.take 4) (letterQuery 10 97 1) [] sent 10 "a" ip) ∧
    (start.answerAll (mixedArrivals.take 2)).1.fakeDns =
      (start.answerAll (mixedArrivals.take 1)).1.fakeDns ∧
    sent.map (·.payload.drop 31) = [[198, 18, 0, 1], [], [198, 18, 0, 2], [198, 18, 0, 1]] := by
  intro start sent
  have fits : ∀ socket ∈ mixedBatches, ∀ datagram ∈ (queueUdp 16).rx socket,
      datagram.payload.length ≤ 1500 := by decide +kernel
  have accepted : CallsAccepted (queueUdp 16) start mixedBatches :=
    ⟨queueUdp_accepts 16 _ _ _ rfl (by decide), queueUdp_accepts 16 _ _ _ rfl (by decide), trivial⟩
  obtain ⟨replies, -, answered, unasked⟩ :=
    dns_interception (queueUdp 16) 0 mixedBatches fits accepted
  have repeated := answered (mixedArrivals.take 4) _ [] 10 "a" rfl (by decide +kernel)
  have malformed : FakeDns.parseQuery [1, 2, 3] = none := by decide +kernel
  have ignored := unasked (mixedArrivals.take 1) _ (mixedArrivals.drop 2) rfl
    (fun id domain asked => nomatch malformed.symm.trans asked)
  refine ⟨answered [] _ _ 7 "a" rfl (by decide +kernel), repeated, ignored, ?_⟩
  rw [show sent = (start.answerAll mixedArrivals).2 from replies]
  decide +kernel

end NsProxy.EventLoop.DnsInterceptor
