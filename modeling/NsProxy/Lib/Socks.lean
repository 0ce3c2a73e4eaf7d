import NsProxy.Lib.Bytes

/-!
# What a SOCKS5 client says

A decoder of the client's side of a SOCKS5 conversation, as a server reads it: the greeting of
RFC 1928 with the offered methods, the request of RFC 1929 where the server selected that method,
and the request of RFC 1928. Each reader takes its message off the front and returns the bytes
after it.
-/

namespace NsProxy.Socks

/-- The address of a request, by its type. -/
inductive Address
  | ipv4 (octets : List UInt8)
  | domain (name : List UInt8)
  | ipv6 (octets : List UInt8)
  deriving DecidableEq

/-- A request. -/
structure Request where
  /-- CMD. -/
  command : UInt8
  /-- ATYP and DST.ADDR. -/
  address : Address
  /-- DST.PORT. -/
  port : UInt16
  deriving DecidableEq

/-- Everything that a client says before the tunnel. -/
structure Conversation where
  /-- METHODS. -/
  methods : List UInt8
  /-- UNAME and PASSWD, where they were asked for. -/
  credentials : Option (List UInt8 × List UInt8)
  /-- The request. -/
  request : Request
  deriving DecidableEq

/-! ## The decoder -/

/-- One byte. -/
def readByte : List UInt8 → Option (UInt8 × List UInt8)
  | [] => none
  | byte :: rest => some (byte, rest)

/-- One byte with a fixed value. -/
def readGiven (expected : UInt8) (data : List UInt8) : Option (List UInt8) := do
  let (byte, rest) ← readByte data
  if byte = expected then some rest else none

/-- A number of bytes. -/
def readBytes (count : Nat) (data : List UInt8) : Option (List UInt8 × List UInt8) :=
  if count ≤ data.length then some (data.take count, data.drop count) else none

/-- A length byte and that many bytes. -/
def readCounted (data : List UInt8) : Option (List UInt8 × List UInt8) := do
  let (length, rest) ← readByte data
  readBytes length.toNat rest

/-- The greeting: VER, NMETHODS, METHODS. -/
def readGreeting (data : List UInt8) : Option (List UInt8 × List UInt8) := do
  let rest ← readGiven 5 data
  readCounted rest

/-- The username/password request: VER, ULEN, UNAME, PLEN, PASSWD. -/
def readCredentials (data : List UInt8) : Option ((List UInt8 × List UInt8) × List UInt8) := do
  let rest ← readGiven 1 data
  let (uname, rest) ← readCounted rest
  let (passwd, rest) ← readCounted rest
  some ((uname, passwd), rest)

/-- The address of a request of a type. -/
def readAddress (atyp : UInt8) (data : List UInt8) : Option (Address × List UInt8) :=
  match atyp with
  | 1 => (readBytes 4 data).map fun (octets, rest) => (.ipv4 octets, rest)
  | 3 => (readCounted data).map fun (name, rest) => (.domain name, rest)
  | 4 => (readBytes 16 data).map fun (octets, rest) => (.ipv6 octets, rest)
  | _ => none

/-- The request: VER, CMD, RSV, ATYP, DST.ADDR, DST.PORT. -/
def readRequest (data : List UInt8) : Option (Request × List UInt8) := do
  let rest ← readGiven 5 data
  let (command, rest) ← readByte rest
  let rest ← readGiven 0 rest
  let (atyp, rest) ← readByte rest
  let (address, rest) ← readAddress atyp rest
  let (high, rest) ← readByte rest
  let (low, rest) ← readByte rest
  some (⟨command, address, Bytes.u16FromBe high low⟩, rest)

/-- The request for credentials, if the selected method is the one of RFC 1929. -/
def readSelected (selected : UInt8) (data : List UInt8) :
    Option (Option (List UInt8 × List UInt8) × List UInt8) :=
  if selected = 2 then
    (readCredentials data).map fun (credentials, rest) => (some credentials, rest)
  else some (none, data)

/-- The conversation with a server that selects a method. The method must have been offered, and
nothing may follow the request. -/
def decode (selected : UInt8) (data : List UInt8) : Option Conversation := do
  let (methods, rest) ← readGreeting data
  if selected ∈ methods then
    let (credentials, rest) ← readSelected selected rest
    let (request, rest) ← readRequest rest
    if rest = [] then some ⟨methods, credentials, request⟩ else none
  else none

/-! ## Reading what was written -/

/-- A field is taken off the front. -/
theorem readBytes_append (field rest : List UInt8) :
    readBytes field.length (field ++ rest) = some (field, rest) := by
  unfold readBytes
  rw [if_pos (by simp), List.take_left, List.drop_left]

/-- A field behind its length byte is taken off the front when the byte can hold the length. -/
theorem readCounted_append {field : List UInt8} (short : field.length ≤ 255) (rest : List UInt8) :
    readCounted (UInt8.ofNat field.length :: (field ++ rest)) = some (field, rest) := by
  have length : (UInt8.ofNat field.length).toNat = field.length := by
    rw [UInt8.toNat_ofNat']
    omega
  simp only [readCounted, readByte, bind, Option.bind, length]
  exact readBytes_append field rest

/-- A greeting is read back with its methods, whatever follows. -/
theorem readGreeting_append {methods : List UInt8} (short : methods.length ≤ 255)
    (rest : List UInt8) :
    readGreeting (5 :: UInt8.ofNat methods.length :: (methods ++ rest)) = some (methods, rest) := by
  simp only [readGreeting, readGiven, readByte, bind, Option.bind, ↓reduceIte]
  exact readCounted_append short rest

/-- The credentials are read back from their two fields, whatever follows. -/
theorem readCredentials_append {uname passwd : List UInt8} (shortName : uname.length ≤ 255)
    (shortWord : passwd.length ≤ 255) (rest : List UInt8) :
    readCredentials (1 :: UInt8.ofNat uname.length :: (uname ++
      UInt8.ofNat passwd.length :: (passwd ++ rest))) = some ((uname, passwd), rest) := by
  simp only [readCredentials, readGiven, readByte, bind, Option.bind, ↓reduceIte]
  rw [readCounted_append shortName]
  simp only
  rw [readCounted_append shortWord]

/-- A request is read when its address is. -/
theorem readRequest_append {command atyp : UInt8} {body : List UInt8} {address : Address}
    (port : UInt16) (rest : List UInt8)
    (found : ∀ tail, readAddress atyp (body ++ tail) = some (address, tail)) :
    readRequest (5 :: command :: 0 :: atyp :: (body ++ (Bytes.be16 port ++ rest))) =
      some (⟨command, address, port⟩, rest) := by
  simp only [readRequest, readGiven, readByte, bind, Option.bind, ↓reduceIte, found, Bytes.be16,
    List.cons_append, List.nil_append, Bytes.u16FromBe_be16]

end NsProxy.Socks
