import NsProxy.FakeDns.Packet
import NsProxy.Lib.Dns

/-!
# Responses on the wire

Every response that the builders make is a whole DNS message: the counts of its header, the
lengths of its labels and data and its one pointer agree, so that a decoder of the message format
finds in it what the builder was given. The name in the answer is found through the pointer to
the question.
-/

namespace NsProxy.FakeDns

/-- The labels that `encode_name` writes for a domain. -/
def labelsOf (domain : String) : List String :=
  if domain = "" then [] else Text.split domain '.'

/-- The name of a domain on the wire. -/
def nameOf (domain : String) : Dns.Name := (labelsOf domain).map Text.asBytes

/-- A domain that a name can carry: the root, or labels of 1 to 63 bytes. -/
def ValidDomain (domain : String) : Prop :=
  domain = "" ∨ ∀ label ∈ Text.split domain '.', ValidLabel label

/-- The labels are written in the wire format of a name. -/
theorem labelBytes_eq (labels : List String) :
    labelBytes labels = Dns.nameBytes (labels.map Text.asBytes) := by
  simp [labelBytes, Dns.nameBytes, List.flatMap_map]

/-- A domain is written in the wire format of its name, with the root behind it. -/
theorem encodeName_nameOf (buf : List UInt8) (domain : String) :
    encodeName buf domain = buf ++ (Dns.nameBytes (nameOf domain) ++ [0]) := by
  rw [encodeName_eq, labelBytes_eq, List.append_assoc]
  rfl

/-- The labels of a valid domain are valid. -/
theorem labelsOf_valid {domain : String} (valid : ValidDomain domain) :
    ∀ label ∈ labelsOf domain, ValidLabel label := by
  unfold labelsOf
  rcases valid with empty | labels
  · rw [if_pos empty]
    simp
  · split
    · simp
    · exact labels

/-- The labels of a valid domain fit the wire format. -/
theorem nameOf_labels {domain : String} (valid : ValidDomain domain) :
    ∀ label ∈ nameOf domain, Dns.IsLabel label := by
  intro bytes member
  obtain ⟨label, inside, same⟩ := List.mem_map.mp member
  rw [← same]
  exact labelsOf_valid valid label inside

/-- The labels joined at dots are the domain. -/
theorem intercalate_labelsOf (domain : String) : ".".intercalate (labelsOf domain) = domain := by
  unfold labelsOf
  split
  · rename_i empty
    rw [empty]
    rfl
  · exact Text.intercalate_split domain '.'

/-- An A response decodes to its one question and one answer. -/
theorem decode_buildAResponse (id : UInt16) (ip : Ipv4Addr) {domain : String}
    (valid : ValidDomain domain) :
    Dns.decode (buildAResponse id domain ip) = some
      ⟨id, 0x8180, [⟨nameOf domain, 1, 1⟩], [⟨nameOf domain, 1, 1, 300, ip.octets⟩], [], []⟩ := by
  generalize whole : buildAResponse id domain ip = data
  unfold buildAResponse at whole
  simp only [encodeName_nameOf, List.append_assoc] at whole
  obtain ⟨body, decoded⟩ := Dns.decode_header whole.symm
  have labels := nameOf_labels valid
  have asked := Dns.readQuestion_stands labels body
  -- The pointer of the answer leads to the name behind the header.
  have named := Dns.readName_stands 12 labels body
  have behindName := Dns.drop_field (Dns.nameBytes (nameOf domain)) body
  have behindRoot := Dns.drop_field [0] behindName
  have behindType := Dns.drop_field (Bytes.be16 1) behindRoot
  have behindClass := Dns.drop_field (Bytes.be16 1) behindType
  have pointed : data.drop (12 + (Dns.nameBytes (nameOf domain)).length + 5) =
      0xC0 :: 0x0C :: (Bytes.be16 1 ++ (Bytes.be16 1 ++ (Bytes.be32 300 ++ (Bytes.be16 4 ++
        (ip.octets ++ []))))) := by
    rw [List.append_nil]
    exact behindClass
  have answered := Dns.readRecord_stands pointed (by decide)
    (show (192 - 192) * 256 + 12 < 12 + (Dns.nameBytes (nameOf domain)).length + 5 by omega)
    named (by rfl) (List.cons_ne_nil _ _)
  have inside := congrArg List.length pointed
  simp only [List.length_drop, List.length_cons, List.length_append, Bytes.length_be16,
    Bytes.length_be32, List.length_nil, Ipv4Addr.length_octets] at inside
  rw [decoded]
  simp only [Dns.readMany, UInt16.reduceToNat, asked, answered, bind, Option.bind,
    Ipv4Addr.length_octets]
  rw [if_pos (by omega)]

/-- An empty response decodes to its one question. -/
theorem decode_buildEmptyResponse (id qtype : UInt16) {domain : String}
    (valid : ValidDomain domain) :
    Dns.decode (buildEmptyResponse id domain qtype) = some
      ⟨id, 0x8180, [⟨nameOf domain, qtype, 1⟩], [], [], []⟩ := by
  generalize whole : buildEmptyResponse id domain qtype = data
  unfold buildEmptyResponse at whole
  simp only [encodeName_nameOf, List.append_assoc] at whole
  obtain ⟨body, decoded⟩ := Dns.decode_header whole.symm
  have stands : data.drop 12 = Dns.nameBytes (nameOf domain) ++
      0 :: (Bytes.be16 qtype ++ (Bytes.be16 1 ++ [])) := by
    rw [List.append_nil]
    exact body
  have asked := Dns.readQuestion_stands (nameOf_labels valid) stands
  have inside := congrArg List.length stands
  simp only [List.length_drop, List.length_cons, List.length_append, Bytes.length_be16,
    List.length_nil] at inside
  rw [decoded]
  simp only [Dns.readMany, UInt16.reduceToNat, asked, bind, Option.bind]
  rw [if_pos (by omega)]

/-- A query whose name is the encoded domain parses to the domain. -/
theorem parseQuery_encodeName {domain : String} (valid : ValidDomain domain)
    (header qclass rest : List UInt8) (qtype : UInt16) (complete : header.length = 12)
    (query : (header.getD 2 0).toNat < 128)
    (asked : Bytes.u16FromBe (header.getD 4 0) (header.getD 5 0) ≠ 0)
    (classed : qclass.length = 2) :
    parseQuery (encodeName header domain ++ Bytes.be16 qtype ++ qclass ++ rest) =
      some (Bytes.u16FromBe (header.getD 0 0) (header.getD 1 0), domain, qtype) := by
  have parsed := parseQuery_complete
    (show (QueryParts.mk header (labelsOf domain) qtype qclass rest).WellFormed from
      ⟨complete, query, asked, labelsOf_valid valid, classed⟩)
  have same : encodeName header domain ++ Bytes.be16 qtype ++ qclass ++ rest =
      (QueryParts.mk header (labelsOf domain) qtype qclass rest).bytes := by
    rw [encodeName_eq]
    simp [QueryParts.bytes, labelsOf]
  rw [same, parsed]
  show some (_, ".".intercalate (labelsOf domain), qtype) = _
  rw [intercalate_labelsOf]
  rfl

/-- For every domain that a name can carry, the responses decode to the id, the question and the
answer that they were built from, and a query for the encoded name parses to the domain. -/
theorem responses_decode (id qtype : UInt16) (ip : Ipv4Addr) (domain : String)
    (valid : ValidDomain domain) :
    (∃ message, Dns.decode (buildAResponse id domain ip) = some message ∧ message.id = id ∧
      message.isResponse = true ∧ message.isTruncated = false ∧ message.rcode = 0 ∧
      message.questions = [⟨nameOf domain, 1, 1⟩] ∧
      message.answers = [⟨nameOf domain, 1, 1, 300, ip.octets⟩] ∧
      message.authorities = [] ∧ message.additionals = []) ∧
    (∃ message, Dns.decode (buildEmptyResponse id domain qtype) = some message ∧
      message.id = id ∧ message.isResponse = true ∧ message.isTruncated = false ∧
      message.rcode = 0 ∧ message.questions = [⟨nameOf domain, qtype, 1⟩] ∧
      message.answers = [] ∧ message.authorities = [] ∧ message.additionals = []) ∧
    ∀ header qclass rest : List UInt8, header.length = 12 → (header.getD 2 0).toNat < 128 →
      Bytes.u16FromBe (header.getD 4 0) (header.getD 5 0) ≠ 0 → qclass.length = 2 →
      parseQuery (encodeName header domain ++ Bytes.be16 qtype ++ qclass ++ rest) =
        some (Bytes.u16FromBe (header.getD 0 0) (header.getD 1 0), domain, qtype) := by
  have response : (0x8180 : UInt16).toNat.testBit 15 = true ∧
      (0x8180 : UInt16).toNat.testBit 9 = false ∧ (0x8180 : UInt16).toNat % 16 = 0 := by decide
  obtain ⟨answers, complete, clean⟩ := response
  refine ⟨⟨_, decode_buildAResponse id ip valid, ?_⟩, ⟨_, decode_buildEmptyResponse id qtype valid,
    ?_⟩, ?_⟩
  · exact ⟨rfl, answers, complete, clean, rfl, rfl, rfl, rfl⟩
  · exact ⟨rfl, answers, complete, clean, rfl, rfl, rfl, rfl⟩
  · intro header qclass rest
    exact parseQuery_encodeName valid header qclass rest qtype

/-- The responses for a name of two labels. -/
theorem responses_decode_two_labels :
    ValidDomain "example.org" ∧
    (∃ message,
      Dns.decode (buildAResponse 7 "example.org" (Ipv4Addr.new 198 18 0 1)) = some message ∧
      message.answers = [⟨nameOf "example.org", 1, 1, 300, [198, 18, 0, 1]⟩]) := by
  have valid : ValidDomain "example.org" := by
    right
    intro label member
    have cases : label = "example" ∨ label = "org" := by
      have parts : Text.split "example.org" '.' = ["example", "org"] := by decide
      simpa [parts] using member
    rcases cases with rfl | rfl <;> exact ⟨by decide, by decide⟩
  obtain ⟨⟨message, decoded, _, _, _, _, _, answers, _, _⟩, _⟩ :=
    responses_decode 7 1 (Ipv4Addr.new 198 18 0 1) "example.org" valid
  exact ⟨valid, message, decoded, answers⟩

end NsProxy.FakeDns
