import Mathlib.Algebra.GroupWithZero.Nat
import NsProxy.FakeDns.Packet

/-!
# The echoed question

A resolver recognises a response by its question section, so the response builders must
reproduce the name and type bytes of the query. The name reaches them as dotted text: the
labels of the wire are joined at dots and split again. Both texts have one wire length, but
the split restores the labels only when no label contains a dot itself, and then the echo is
exact. `qnameLabels` reads the labels off the wire independently of the parser.
-/

namespace NsProxy.FakeDns

/-- The labels of an uncompressed name, as raw bytes, up to its zero terminator. -/
def qnameLabels : List UInt8 → List (List UInt8)
  | [] => []
  | length :: rest =>
    if length = 0 then []
    else rest.take length.toNat :: qnameLabels (rest.drop length.toNat)
termination_by bytes => bytes.length
decreasing_by
  simp only [List.length_drop, List.length_cons]
  omega

/-- The wire length of a name with these labels, its terminator included. -/
def qnameLength (labels : List (List UInt8)) : Nat :=
  (labels.map fun label => label.length + 1).sum + 1

/-- A response carries the name and type bytes of the query at the query's own offsets. -/
def EchoesQuestion (query response : List UInt8) : Prop :=
  let length := qnameLength (qnameLabels (query.drop 12))
  (response.drop 12).take (length + 2) = (query.drop 12).take (length + 2)

instance (query response : List UInt8) : Decidable (EchoesQuestion query response) :=
  inferInstanceAs (Decidable (_ = _))

/-- The independent reading of a well-formed name returns its labels. -/
theorem qnameLabels_labelBytes (labels : List String) (rest : List UInt8)
    (valid : ∀ label ∈ labels, ValidLabel label) :
    qnameLabels (labelBytes labels ++ 0 :: rest) = labels.map Text.asBytes := by
  induction labels with
  | nil => simp [labelBytes, qnameLabels]
  | cons label labels ih =>
    obtain ⟨positive, short⟩ := valid label List.mem_cons_self
    have length : (UInt8.ofNat (Text.asBytes label).length).toNat = (Text.asBytes label).length :=
      toNat_lengthByte (by omega)
    have nonzero : UInt8.ofNat (Text.asBytes label).length ≠ 0 := by
      intro zero
      rw [zero] at length
      simp only [UInt8.toNat_zero] at length
      omega
    rw [labelBytes_cons, List.cons_append, qnameLabels, if_neg nonzero, length, List.append_assoc,
      List.take_left, List.drop_left, List.map_cons,
      ih fun other member => valid other (List.mem_cons_of_mem _ member)]

/-- The wire length of a name is one more than its label bytes. -/
theorem qnameLength_labels (labels : List String) :
    qnameLength (labels.map Text.asBytes) = (labelBytes labels).length + 1 := by
  induction labels with
  | nil => rfl
  | cons label labels ih =>
    simp only [qnameLength, List.map_cons, List.sum_cons] at ih ⊢
    simp only [labelBytes_cons, List.length_cons, List.length_append]
    omega

/-- Joined labels occupy one byte less than their wire form. -/
theorem length_labelBytes (labels : List String) (nonempty : labels ≠ []) :
    (labelBytes labels).length = (Text.asBytes (".".intercalate labels)).length + 1 := by
  induction labels with
  | nil => contradiction
  | cons label labels ih =>
    cases labels with
    | nil => simp [labelBytes]
    | cons next labels =>
      have dot : (Text.asBytes ".").length = 1 := by decide
      have tail := ih (by simp)
      rw [labelBytes_cons, String.intercalate_cons_cons]
      simp only [List.length_cons, List.length_append, Text.asBytes_append, dot, tail]
      omega

/-- Splitting joined labels splits each label on its own. -/
theorem split_joined (labels : List String) (nonempty : labels ≠ []) :
    Text.split (".".intercalate labels) '.' = labels.flatMap fun label => Text.split label '.' := by
  induction labels with
  | nil => contradiction
  | cons label labels ih =>
    cases labels with
    | nil => simp
    | cons next labels =>
      have tail := ih (by simp)
      rw [List.flatMap_cons, ← tail]
      simp only [Text.split, String.intercalate_cons_cons, String.toList_append]
      rw [show ".".toList = ['.'] from rfl, List.append_assoc, List.singleton_append,
        List.splitOn_append_cons_self, List.map_append]

/-- A part of a split label is no longer than the label. -/
theorem length_split_le {label part : String} (inside : part ∈ Text.split label '.') :
    (Text.asBytes part).length ≤ (Text.asBytes label).length := by
  have parts : Text.split label '.' ≠ [] := List.ne_nil_of_mem inside
  have whole := length_labelBytes _ parts
  rw [show (".".intercalate (Text.split label '.')) = label from Text.intercalate_split label '.']
    at whole
  have : (Text.asBytes part).length + 1 ≤ (labelBytes (Text.split label '.')).length := by
    obtain ⟨before, after, split⟩ := List.append_of_mem inside
    rw [split]
    simp only [labelBytes, List.flatMap_append, List.flatMap_cons, List.length_append,
      List.length_cons]
    omega
  omega

/-- The wire form of short labels determines them. -/
theorem labelBytes_injective (left right : List String)
    (hl : ∀ label ∈ left, (Text.asBytes label).length < 256)
    (hr : ∀ label ∈ right, (Text.asBytes label).length < 256)
    (same : labelBytes left = labelBytes right) : left = right := by
  induction left generalizing right with
  | nil =>
    cases right with
    | nil => rfl
    | cons label right => simp [labelBytes] at same
  | cons first left ih =>
    cases right with
    | nil => simp [labelBytes] at same
    | cons second right =>
      rw [labelBytes_cons, labelBytes_cons, List.cons.injEq] at same
      have lengths := congrArg UInt8.toNat same.1
      rw [toNat_lengthByte (hl _ List.mem_cons_self), toNat_lengthByte (hr _ List.mem_cons_self)]
        at lengths
      obtain ⟨bytes, tails⟩ := List.append_inj same.2 lengths
      rw [Text.asBytes_inj.mp bytes, ih right (fun label inside => hl label (by simp [inside]))
        (fun label inside => hr label (by simp [inside])) tails]

/-- The labels the encoder writes for a domain joined from valid labels. -/
def rewritten (labels : List String) : List String :=
  if ".".intercalate labels = "" then [] else Text.split (".".intercalate labels) '.'

/-- Only the root name joins to the empty domain. -/
theorem intercalate_eq_empty {labels : List String} (valid : ∀ label ∈ labels, ValidLabel label) :
    ".".intercalate labels = "" ↔ labels = [] := by
  constructor
  · intro empty
    by_contra nonempty
    have length := length_labelBytes labels nonempty
    rw [empty] at length
    obtain ⟨label, others, rfl⟩ := List.exists_cons_of_ne_nil nonempty
    have positive := (valid label List.mem_cons_self).1
    simp only [labelBytes_cons, List.length_cons, List.length_append,
      show Text.asBytes "" = [] from rfl, List.length_nil] at length
    omega
  · rintro rfl
    rfl

/-- The encoder keeps the wire length of the name. -/
theorem length_rewritten {labels : List String} (valid : ∀ label ∈ labels, ValidLabel label) :
    (labelBytes (rewritten labels)).length = (labelBytes labels).length := by
  unfold rewritten
  split
  · rename_i empty
    rw [(intercalate_eq_empty valid).mp empty]
  · rename_i notEmpty
    have nonempty : labels ≠ [] := fun none => notEmpty ((intercalate_eq_empty valid).mpr none)
    have parts : Text.split (".".intercalate labels) '.' ≠ [] := by
      simp [Text.split, List.splitOn_ne_nil]
    rw [length_labelBytes _ parts, length_labelBytes _ nonempty,
      show ".".intercalate (Text.split (".".intercalate labels) '.') = ".".intercalate labels from
        Text.intercalate_split _ '.']

/-- The encoder restores the labels exactly when none of them contains a dot. -/
theorem rewritten_eq_iff {labels : List String} (valid : ∀ label ∈ labels, ValidLabel label) :
    labelBytes (rewritten labels) = labelBytes labels ↔ ∀ label ∈ labels, '.' ∉ label.toList := by
  by_cases root : labels = []
  · subst root
    simp [rewritten]
  · have notEmpty := mt (intercalate_eq_empty valid).mp root
    rw [rewritten, if_neg notEmpty]
    constructor
    · intro same label inside
      have short : ∀ part ∈ Text.split (".".intercalate labels) '.',
          (Text.asBytes part).length < 256 := by
        intro part member
        rw [split_joined labels root, List.mem_flatMap] at member
        obtain ⟨label, inside, part⟩ := member
        have := length_split_le part
        have := (valid label inside).2
        omega
      have restored := labelBytes_injective _ _ short
        (fun label inside => by have := (valid label inside).2; omega) same
      rw [← restored] at inside
      exact Text.separator_not_mem_split inside
    · intro absent
      rw [show Text.split (".".intercalate labels) '.' = labels from
        Text.split_intercalate root absent]

/-- The question section that both builders write behind their twelve header bytes. -/
theorem question_bytes (labels : List String) (header tail : List UInt8) (qtype : UInt16)
    (twelve : header.length = 12) :
    ((encodeName header (".".intercalate labels) ++ Bytes.be16 qtype ++ tail).drop 12).take
        ((labelBytes (rewritten labels)).length + 1 + 2) =
      labelBytes (rewritten labels) ++ 0 :: Bytes.be16 qtype := by
  rw [encodeName_eq]
  change ((header ++ labelBytes (rewritten labels) ++ [0] ++ Bytes.be16 qtype ++ tail).drop 12).take
    _ = _
  rw [List.append_assoc, List.append_assoc, List.append_assoc, ← twelve, List.drop_left,
    ← List.append_assoc [0], ← List.append_assoc, List.take_left' (by simp)]
  simp

/-- For a query with these labels, a response built from the joined name echoes the question
exactly when the rewritten labels are the original ones. -/
theorem echoes_iff_rewritten {query : List UInt8} {labels : List String} {qtype : UInt16}
    {rest : List UInt8} (valid : ∀ label ∈ labels, ValidLabel label)
    (stands : query.drop 12 = labelBytes labels ++ 0 :: (Bytes.be16 qtype ++ rest))
    (header tail : List UInt8) (twelve : header.length = 12) :
    EchoesQuestion query
        (encodeName header (".".intercalate labels) ++ Bytes.be16 qtype ++ tail) ↔
      labelBytes (rewritten labels) = labelBytes labels := by
  have asked : (query.drop 12).take ((labelBytes labels).length + 1 + 2) =
      labelBytes labels ++ 0 :: Bytes.be16 qtype := by
    have length : (labelBytes labels ++ 0 :: Bytes.be16 qtype).length =
        (labelBytes labels).length + 1 + 2 := by
      simp
    rw [stands, ← List.cons_append, ← List.append_assoc, List.take_left' length]
  unfold EchoesQuestion
  dsimp only
  have length : qnameLength (qnameLabels (query.drop 12)) = (labelBytes labels).length + 1 := by
    rw [stands, qnameLabels_labelBytes _ _ valid, qnameLength_labels]
  have same := length_rewritten valid
  rw [length, asked, ← same, question_bytes labels header tail qtype twelve]
  constructor
  · intro equal
    exact (List.append_inj equal same).1
  · intro equal
    rw [equal]

/-- Both responses to an accepted query echo its name and type bytes exactly when no label of
its name contains a dot. -/
theorem question_echo_iff (query : List UInt8) (id qtype : UInt16) (domain : String)
    (accepted : parseQuery query = some (id, domain, qtype)) :
    (EchoesQuestion query (buildEmptyResponse id domain qtype) ∧
      (qtype = 1 → ∀ ip, EchoesQuestion query (buildAResponse id domain ip))) ↔
    ∀ label ∈ qnameLabels (query.drop 12), 0x2E ∉ label := by
  obtain ⟨parts, formed, rfl, rfl, rfl, rfl⟩ := parseQuery_sound accepted
  have valid := formed.labels
  have stands := drop_header formed
  have dotted : (∀ label ∈ qnameLabels (parts.bytes.drop 12), 0x2E ∉ label) ↔
      ∀ label ∈ parts.labels, '.' ∉ label.toList := by
    rw [stands, qnameLabels_labelBytes _ _ valid, List.forall_mem_map]
    exact forall₂_congr fun label _ =>
      not_congr (Text.ascii_mem_asBytes (by decide) (by decide) label)
  have empty : EchoesQuestion parts.bytes
      (buildEmptyResponse parts.id (".".intercalate parts.labels) parts.qtype) ↔
      ∀ label ∈ parts.labels, '.' ∉ label.toList := by
    rw [← rewritten_eq_iff valid, ← echoes_iff_rewritten valid stands
      (Bytes.be16 parts.id ++ Bytes.be16 0x8180 ++ Bytes.be16 1 ++ Bytes.be16 0 ++ Bytes.be16 0 ++
        Bytes.be16 0) (Bytes.be16 1) (by simp)]
    rfl
  rw [dotted]
  constructor
  · intro echo
    exact empty.mp echo.1
  · intro absent
    refine ⟨empty.mpr absent, ?_⟩
    intro address ip
    rw [address] at stands
    have echo := (echoes_iff_rewritten valid stands
      (Bytes.be16 parts.id ++ Bytes.be16 0x8180 ++ Bytes.be16 1 ++ Bytes.be16 1 ++ Bytes.be16 0 ++
        Bytes.be16 0)
      (Bytes.be16 1 ++ (Bytes.be16 0xC00C ++ (Bytes.be16 1 ++ (Bytes.be16 1 ++ (Bytes.be32 300 ++
        (Bytes.be16 4 ++ ip.octets)))))) (by simp)).mpr ((rewritten_eq_iff valid).mpr absent)
    simpa only [buildAResponse, List.append_assoc] using echo

/-- A query for the two labels `a` and `b` is echoed. -/
theorem question_echo_two_labels :
    EchoesQuestion [0, 1, 1, 0, 0, 1, 0, 0, 0, 0, 0, 0, 1, 97, 1, 98, 0, 0, 1, 0, 1]
      (buildEmptyResponse 1 "a.b" 1) ∧
    ((1 : UInt16) = 1 → ∀ ip, EchoesQuestion
      [0, 1, 1, 0, 0, 1, 0, 0, 0, 0, 0, 0, 1, 97, 1, 98, 0, 0, 1, 0, 1]
      (buildAResponse 1 "a.b" ip)) :=
  (question_echo_iff [0, 1, 1, 0, 0, 1, 0, 0, 0, 0, 0, 0, 1, 97, 1, 98, 0, 0, 1, 0, 1] 1 1 "a.b"
    (by decide +kernel)).mpr (by decide +kernel)

/-- A query for the single label `a.b` is accepted under the same domain, and neither response
echoes it: the dot inside the label becomes a label boundary. -/
theorem question_echo_dotted_label :
    parseQuery [0, 1, 1, 0, 0, 1, 0, 0, 0, 0, 0, 0, 3, 97, 46, 98, 0, 0, 1, 0, 1] =
      some (1, "a.b", 1) ∧
    ¬ EchoesQuestion [0, 1, 1, 0, 0, 1, 0, 0, 0, 0, 0, 0, 3, 97, 46, 98, 0, 0, 1, 0, 1]
      (buildEmptyResponse 1 "a.b" 1) ∧
    ¬ EchoesQuestion [0, 1, 1, 0, 0, 1, 0, 0, 0, 0, 0, 0, 3, 97, 46, 98, 0, 0, 1, 0, 1]
      (buildAResponse 1 "a.b" (Ipv4Addr.new 198 18 0 1)) := by
  decide +kernel

end NsProxy.FakeDns
