import NsProxy.Lib.Bytes

/-!
# DNS messages

A decoder of the message format of RFC 1035: the header with its counts, questions and resource
records, and names with compression. A pointer must lead to a place before the name that it ends,
so that reading a name comes to an end. Positions count from the start of the message.
-/

namespace NsProxy.Dns

/-- A name as its labels, without the root. -/
abbrev Name : Type := List (List UInt8)

/-- An entry of the question section. -/
structure Question where
  /-- QNAME. -/
  qname : Name
  /-- QTYPE. -/
  qtype : UInt16
  /-- QCLASS. -/
  qclass : UInt16
  deriving DecidableEq

/-- A resource record. -/
structure Record where
  /-- NAME. -/
  name : Name
  /-- TYPE. -/
  rtype : UInt16
  /-- CLASS. -/
  rclass : UInt16
  /-- TTL. -/
  ttl : UInt32
  /-- RDATA. -/
  rdata : List UInt8
  deriving DecidableEq

/-- A message. -/
structure Message where
  /-- ID. -/
  id : UInt16
  /-- The second word of the header. -/
  flags : UInt16
  /-- The question section. -/
  questions : List Question
  /-- The answer section. -/
  answers : List Record
  /-- The authority section. -/
  authorities : List Record
  /-- The additional section. -/
  additionals : List Record
  deriving DecidableEq

/-- QR: the message is a response. -/
def Message.isResponse (message : Message) : Bool := message.flags.toNat.testBit 15

/-- TC: the message was truncated. -/
def Message.isTruncated (message : Message) : Bool := message.flags.toNat.testBit 9

/-- RCODE: zero means no error. -/
def Message.rcode (message : Message) : Nat := message.flags.toNat % 16

/-! ## The decoder -/

/-- A name at a position, and the position behind it. `start` is where the name began that is
being read: a pointer leads before it. -/
def readName (data : List UInt8) (start pos : Nat) : Option (Name × Nat) :=
  if inside : pos < data.length then
    let length := data[pos].toNat
    if length = 0 then some ([], pos + 1)
    else if length < 64 then
      if pos + 1 + length ≤ data.length then do
        let (labels, stop) ← readName data start (pos + 1 + length)
        some (data.extract (pos + 1) (pos + 1 + length) :: labels, stop)
      else none
    else if 192 ≤ length then
      if more : pos + 1 < data.length then
        let target := (length - 192) * 256 + data[pos + 1].toNat
        if target < start then do
          let (labels, _) ← readName data target target
          some (labels, pos + 2)
        else none
      else none
    -- The two other forms of the first byte are reserved.
    else none
  else none
termination_by (start, data.length - pos)

/-- A 16-bit word at a position. -/
def readU16 (data : List UInt8) (pos : Nat) : Option UInt16 :=
  if inside : pos + 1 < data.length then some (Bytes.u16FromBe data[pos] data[pos + 1]) else none

/-- A 32-bit word at a position. -/
def readU32 (data : List UInt8) (pos : Nat) : Option UInt32 :=
  if inside : pos + 3 < data.length then
    some (Bytes.u32FromBe data[pos] data[pos + 1] data[pos + 2] data[pos + 3])
  else none

/-- A number of bytes at a position. -/
def readBytes (data : List UInt8) (pos count : Nat) : Option (List UInt8) :=
  if pos + count ≤ data.length then some (data.extract pos (pos + count)) else none

/-- A question at a position. -/
def readQuestion (data : List UInt8) (pos : Nat) : Option (Question × Nat) := do
  let (qname, pos) ← readName data pos pos
  let qtype ← readU16 data pos
  let qclass ← readU16 data (pos + 2)
  some (⟨qname, qtype, qclass⟩, pos + 4)

/-- A resource record at a position. -/
def readRecord (data : List UInt8) (pos : Nat) : Option (Record × Nat) := do
  let (name, pos) ← readName data pos pos
  let rtype ← readU16 data pos
  let rclass ← readU16 data (pos + 2)
  let ttl ← readU32 data (pos + 4)
  let length ← readU16 data (pos + 8)
  let rdata ← readBytes data (pos + 10) length.toNat
  some (⟨name, rtype, rclass, ttl, rdata⟩, pos + 10 + length.toNat)

/-- A number of entries, one after the other. -/
def readMany {α : Type} (read : Nat → Option (α × Nat)) : Nat → Nat → Option (List α × Nat)
  | 0, pos => some ([], pos)
  | count + 1, pos => do
    let (entry, pos) ← read pos
    let (entries, pos) ← readMany read count pos
    some (entry :: entries, pos)

/-- A message that takes up the whole data. -/
def decode (data : List UInt8) : Option Message := do
  let id ← readU16 data 0
  let flags ← readU16 data 2
  let qdcount ← readU16 data 4
  let ancount ← readU16 data 6
  let nscount ← readU16 data 8
  let arcount ← readU16 data 10
  let (questions, pos) ← readMany (readQuestion data) qdcount.toNat 12
  let (answers, pos) ← readMany (readRecord data) ancount.toNat pos
  let (authorities, pos) ← readMany (readRecord data) nscount.toNat pos
  let (additionals, pos) ← readMany (readRecord data) arcount.toNat pos
  if pos = data.length then some ⟨id, flags, questions, answers, authorities, additionals⟩
  else none

/-! ## Reading what stands in the data -/

section Reading

variable {data rest : List UInt8} {pos : Nat}

/-- What stands behind a field. -/
theorem drop_field (field : List UInt8) (stands : data.drop pos = field ++ rest) :
    data.drop (pos + field.length) = rest := by
  rw [← List.drop_drop, stands, List.drop_left]

/-- A field lies within the data. -/
theorem field_inside {field : List UInt8} (stands : data.drop pos = field ++ rest)
    (nonempty : field ≠ []) : pos + field.length + rest.length = data.length := by
  have lengths := congrArg List.length stands
  rw [List.length_drop, List.length_append] at lengths
  have positive := List.length_pos_of_ne_nil nonempty
  omega

/-- A 16-bit word is read where it stands. -/
theorem readU16_stands {word : UInt16} (stands : data.drop pos = Bytes.be16 word ++ rest) :
    readU16 data pos = some word := by
  have inside := field_inside stands (List.cons_ne_nil _ _)
  rw [Bytes.length_be16] at inside
  rw [List.drop_eq_getElem_cons (by omega), List.drop_eq_getElem_cons (by omega)] at stands
  have first := List.cons.inj stands
  have second := List.cons.inj first.2
  unfold readU16
  rw [dif_pos (by omega), first.1, second.1, Bytes.u16FromBe_be16]

/-- A 32-bit word is read where it stands. -/
theorem readU32_stands {word : UInt32} (stands : data.drop pos = Bytes.be32 word ++ rest) :
    readU32 data pos = some word := by
  have inside := field_inside stands (List.cons_ne_nil _ _)
  rw [Bytes.length_be32] at inside
  rw [List.drop_eq_getElem_cons (by omega), List.drop_eq_getElem_cons (by omega),
    List.drop_eq_getElem_cons (by omega), List.drop_eq_getElem_cons (by omega)] at stands
  have first := List.cons.inj stands
  have second := List.cons.inj first.2
  have third := List.cons.inj second.2
  have fourth := List.cons.inj third.2
  unfold readU32
  rw [dif_pos (by omega), first.1, second.1, third.1, fourth.1, Bytes.u32FromBe_be32]

/-- A field is read where it stands. -/
theorem readBytes_stands {field : List UInt8} (stands : data.drop pos = field ++ rest)
    (nonempty : field ≠ []) : readBytes data pos field.length = some field := by
  have inside := field_inside stands nonempty
  unfold readBytes
  rw [if_pos (by omega), List.extract_eq_take_drop, stands, Nat.add_sub_cancel_left,
    List.take_left]

/-- The labels of a name in wire format, without the root. -/
def nameBytes (name : Name) : List UInt8 :=
  name.flatMap fun label => UInt8.ofNat label.length :: label

/-- A label that the wire format can carry: 1 to 63 bytes. -/
def IsLabel (label : List UInt8) : Prop := 1 ≤ label.length ∧ label.length ≤ 63

/-- The labels of a name are written in their order, each behind its length. -/
theorem nameBytes_cons (label : List UInt8) (name : Name) :
    nameBytes (label :: name) = UInt8.ofNat label.length :: (label ++ nameBytes name) := by
  simp [nameBytes]

/-- A name that stands in full is read to its root. -/
theorem readName_stands {name : Name} (start : Nat) (labels : ∀ label ∈ name, IsLabel label)
    (stands : data.drop pos = nameBytes name ++ 0 :: rest) :
    readName data start pos = some (name, pos + (nameBytes name).length + 1) := by
  induction name generalizing pos with
  | nil =>
    have bound := congrArg List.length stands
    simp only [nameBytes, List.flatMap_nil, List.nil_append, List.length_drop,
      List.length_cons] at bound
    rw [List.drop_eq_getElem_cons (by omega)] at stands
    have zero : data[pos] = 0 := (List.cons.inj stands).1
    rw [readName, dif_pos (by omega)]
    simp [zero, nameBytes]
  | cons label name ih =>
    obtain ⟨positive, short⟩ := labels label List.mem_cons_self
    rw [nameBytes_cons, List.cons_append, List.append_assoc] at stands
    have bound := congrArg List.length stands
    simp only [List.length_drop, List.length_cons, List.length_append] at bound
    have head := stands
    rw [List.drop_eq_getElem_cons (by omega)] at head
    have tail : data.drop (pos + 1) = label ++ (nameBytes name ++ 0 :: rest) :=
      (List.cons.inj head).2
    have length : data[pos].toNat = label.length := by
      rw [(List.cons.inj head).1, UInt8.toNat_ofNat']
      omega
    have field : data.extract (pos + 1) (pos + 1 + label.length) = label := by
      rw [List.extract_eq_take_drop, tail, Nat.add_sub_cancel_left, List.take_left]
    have next := ih (fun other member => labels other (List.mem_cons_of_mem _ member))
      (drop_field label tail)
    rw [readName, dif_pos (by omega)]
    simp only [length, show label.length ≠ 0 by omega, show label.length < 64 by omega,
      show pos + 1 + label.length ≤ data.length by omega, ↓reduceIte, next, field, bind,
      Option.bind, nameBytes_cons, List.length_cons, List.length_append, Option.some.injEq,
      Prod.mk.injEq, true_and]
    omega

/-- A name that is a pointer is the name at its target. -/
theorem readName_pointer {start stop : Nat} {high low : UInt8} {name : Name}
    (stands : data.drop pos = high :: low :: rest) (pointer : 192 ≤ high.toNat)
    (before : (high.toNat - 192) * 256 + low.toNat < start)
    (there : readName data ((high.toNat - 192) * 256 + low.toNat)
      ((high.toNat - 192) * 256 + low.toNat) = some (name, stop)) :
    readName data start pos = some (name, pos + 2) := by
  have bound := congrArg List.length stands
  simp only [List.length_drop, List.length_cons] at bound
  rw [List.drop_eq_getElem_cons (by omega), List.drop_eq_getElem_cons (by omega)] at stands
  have first := List.cons.inj stands
  have second := List.cons.inj first.2
  rw [readName, dif_pos (by omega)]
  simp only [first.1, second.1, show high.toNat ≠ 0 by omega, show ¬ high.toNat < 64 by omega,
    pointer, before, ↓reduceIte, there, bind, Option.bind]
  rw [dif_pos (by omega)]

/-- A question that stands in full is read. -/
theorem readQuestion_stands {name : Name} {qtype qclass : UInt16}
    (labels : ∀ label ∈ name, IsLabel label)
    (stands : data.drop pos =
      nameBytes name ++ 0 :: (Bytes.be16 qtype ++ (Bytes.be16 qclass ++ rest))) :
    readQuestion data pos = some (⟨name, qtype, qclass⟩, pos + (nameBytes name).length + 5) := by
  have named := readName_stands pos labels stands
  have root := drop_field (nameBytes name) stands
  have typed := drop_field [0] root
  have classed := drop_field (Bytes.be16 qtype) typed
  have readType : readU16 data (pos + (nameBytes name).length + 1) = some qtype :=
    readU16_stands typed
  have readClass : readU16 data (pos + (nameBytes name).length + 1 + 2) = some qclass :=
    readU16_stands classed
  unfold readQuestion
  simp only [named, readType, readClass, bind, Option.bind]

/-- A record whose name is a pointer is read, with the name at the target. -/
theorem readRecord_stands {high low : UInt8} {name : Name} {stop : Nat} {rtype rclass : UInt16}
    {ttl : UInt32} {length : UInt16} {rdata : List UInt8}
    (stands : data.drop pos = high :: low :: (Bytes.be16 rtype ++ (Bytes.be16 rclass ++
      (Bytes.be32 ttl ++ (Bytes.be16 length ++ (rdata ++ rest))))))
    (pointer : 192 ≤ high.toNat) (before : (high.toNat - 192) * 256 + low.toNat < pos)
    (there : readName data ((high.toNat - 192) * 256 + low.toNat)
      ((high.toNat - 192) * 256 + low.toNat) = some (name, stop))
    (counted : length.toNat = rdata.length) (nonempty : rdata ≠ []) :
    readRecord data pos = some (⟨name, rtype, rclass, ttl, rdata⟩, pos + 12 + rdata.length) := by
  have named := readName_pointer stands pointer before there
  have typed := drop_field [high, low] stands
  have classed := drop_field (Bytes.be16 rtype) typed
  have lived := drop_field (Bytes.be16 rclass) classed
  have sized := drop_field (Bytes.be32 ttl) lived
  have filled := drop_field (Bytes.be16 length) sized
  have readType : readU16 data (pos + 2) = some rtype := readU16_stands typed
  have readClass : readU16 data (pos + 2 + 2) = some rclass := readU16_stands classed
  have readTtl : readU32 data (pos + 2 + 4) = some ttl := readU32_stands lived
  have readLength : readU16 data (pos + 2 + 8) = some length := readU16_stands sized
  have readData : readBytes data (pos + 2 + 10) rdata.length = some rdata :=
    readBytes_stands filled nonempty
  unfold readRecord
  simp only [named, readType, readClass, readTtl, readLength, counted, readData, bind, Option.bind]

/-- The header stands before the sections. -/
theorem decode_header {id flags qdcount ancount nscount arcount : UInt16}
    (stands : data = Bytes.be16 id ++ (Bytes.be16 flags ++ (Bytes.be16 qdcount ++
      (Bytes.be16 ancount ++ (Bytes.be16 nscount ++ (Bytes.be16 arcount ++ rest)))))) :
    data.drop 12 = rest ∧ decode data = (do
      let (questions, pos) ← readMany (readQuestion data) qdcount.toNat 12
      let (answers, pos) ← readMany (readRecord data) ancount.toNat pos
      let (authorities, pos) ← readMany (readRecord data) nscount.toNat pos
      let (additionals, pos) ← readMany (readRecord data) arcount.toNat pos
      if pos = data.length then some ⟨id, flags, questions, answers, authorities, additionals⟩
      else none) := by
  have first : data.drop 0 = _ := stands
  have second := drop_field (Bytes.be16 id) first
  have third := drop_field (Bytes.be16 flags) second
  have fourth := drop_field (Bytes.be16 qdcount) third
  have fifth := drop_field (Bytes.be16 ancount) fourth
  have sixth := drop_field (Bytes.be16 nscount) fifth
  refine ⟨drop_field (Bytes.be16 arcount) sixth, ?_⟩
  unfold decode
  rw [readU16_stands first, show readU16 data 2 = _ from readU16_stands second,
    show readU16 data 4 = _ from readU16_stands third,
    show readU16 data 6 = _ from readU16_stands fourth,
    show readU16 data 8 = _ from readU16_stands fifth,
    show readU16 data 10 = _ from readU16_stands sixth]
  rfl

end Reading

end NsProxy.Dns
