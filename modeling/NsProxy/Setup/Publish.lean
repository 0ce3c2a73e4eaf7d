import Mathlib.Data.List.Forall2
import NsProxy.Net.Parse
import NsProxy.Proxy.Http
import NsProxy.Setup.Programs

/-!
# Publications on the command line

`parse_publish_specs` of `publish.rs`. A publication is written as
`[HOST_IP:]HOST_PORT:NS_PORT[/tcp]`; the parser accepts exactly these texts, each as the
publication that it denotes, and refuses a list in which two publications have the same host
endpoint.
-/

namespace NsProxy.Publish

open Http

/-- `parse_port`. -/
def parsePort (value side raw : String) : Except Error UInt16 := do
  let port ← Error.context
    ("invalid " ++ side ++ " port " ++ debugText value ++ " in " ++ debugText raw) (parseU16 value)
  if port = 0 then
    Error.bail (side ++ " port must be between 1 and 65535 in " ++ debugText raw)
  else return port

/-- The match of `parse_publish_spec` on the fields of the address. -/
def parsePublishFields (raw : String) : List String → Except Error PublishSpec
  | [hostPort, namespacePort] => do
    let hostPort ← parsePort hostPort "host" raw
    let namespacePort ← parsePort namespacePort "namespace" raw
    return ⟨.unspecified, hostPort, namespacePort⟩
  | [hostIp, hostPort, namespacePort] => do
    let hostIp ← Error.context
      ("invalid host IPv4 address " ++ debugText hostIp ++ " in " ++ debugText raw)
      (Ipv4Addr.parse hostIp)
    let hostPort ← parsePort hostPort "host" raw
    let namespacePort ← parsePort namespacePort "namespace" raw
    return ⟨hostIp, hostPort, namespacePort⟩
  | _ =>
    Error.bail ("invalid publish specification " ++ debugText raw ++
      ": expected [HOST_IP:]HOST_PORT:NS_PORT[/tcp]")

/-- `parse_publish_spec`. -/
def parsePublishSpec (raw : String) : Except Error PublishSpec :=
  let (address, protocol) := (Text.splitOnce raw '/').getD (raw, "tcp")
  if protocol ≠ "tcp" then
    Error.bail ("unsupported publish protocol " ++ debugText protocol ++ " in " ++ debugText raw ++
      "; only tcp is supported")
  else parsePublishFields raw (Text.split address ':')

/-- The key of the duplicate check. -/
def hostEndpoint (spec : PublishSpec) : Ipv4Addr × UInt16 := (spec.hostIp, spec.hostPort)

/-- The loop of `parse_publish_specs`, with `host_endpoints` and `parsed`. -/
def parseEachPublish (hostEndpoints : Finset (Ipv4Addr × UInt16)) (parsed : List PublishSpec) :
    List String → Except Error (List PublishSpec)
  | [] => .ok parsed
  | raw :: specs => do
    let spec ← parsePublishSpec raw
    if hostEndpoint spec ∈ hostEndpoints then
      Error.bail ("duplicate published TCP endpoint " ++ spec.hostAddr)
    else parseEachPublish (insert (hostEndpoint spec) hostEndpoints) (parsed ++ [spec]) specs

/-- `parse_publish_specs`. -/
def parsePublishSpecs (specs : List String) : Except Error (List PublishSpec) :=
  parseEachPublish ∅ [] specs

/-! ## Publications as they are written -/

/-- The parts of a written publication. -/
structure PublishForm where
  /-- The host address, if there is one. -/
  hostIp : Option String
  /-- The host port. -/
  hostPort : String
  /-- The port in the namespace. -/
  namespacePort : String
  /-- Whether the protocol is written out. -/
  protocol : Bool

namespace PublishForm

/-- The address, `[HOST_IP:]HOST_PORT:NS_PORT`. -/
def address (form : PublishForm) : String :=
  match form.hostIp with
  | none => form.hostPort ++ ":" ++ form.namespacePort
  | some hostIp => hostIp ++ ":" ++ form.hostPort ++ ":" ++ form.namespacePort

/-- The publication as it is written. -/
def text (form : PublishForm) : String :=
  if form.protocol then form.address ++ "/tcp" else form.address

/-- The parts are the numbers and the address of a publication, in texts that the standard
library accepts; without an address it is the unspecified one. -/
structure Denotes (form : PublishForm) (spec : PublishSpec) : Prop where
  /-- The host address. -/
  hostIp : match form.hostIp with
    | none => spec.hostIp = .unspecified
    | some hostIp => Ipv4Addr.parse hostIp = .ok spec.hostIp
  /-- The host port. -/
  hostPort : parseU16 form.hostPort = .ok spec.hostPort ∧ spec.hostPort ≠ 0
  /-- The port in the namespace. -/
  namespacePort : parseU16 form.namespacePort = .ok spec.namespacePort ∧ spec.namespacePort ≠ 0

end PublishForm

/-- A text denotes a publication when it is written so. -/
def Denotes (raw : String) (spec : PublishSpec) : Prop :=
  ∃ form : PublishForm, raw = form.text ∧ form.Denotes spec

/-! ## What the parser accepts -/

/-- A port is accepted when it is a number and not zero. -/
theorem parsePort_eq_ok {value side raw : String} {port : UInt16} :
    parsePort value side raw = .ok port ↔ parseU16 value = .ok port ∧ port ≠ 0 := by
  unfold parsePort
  rw [Error.bind_eq_ok]
  constructor
  · rintro ⟨read, accepted, checked⟩
    rw [Error.context_eq_ok] at accepted
    by_cases zero : read = 0
    · rw [if_pos zero] at checked
      contradiction
    · rw [if_neg zero] at checked
      have same : read = port := Except.ok.inj checked
      rw [← same]
      exact ⟨accepted, zero⟩
  · rintro ⟨accepted, nonzero⟩
    refine ⟨port, Error.context_eq_ok.mpr accepted, ?_⟩
    rw [if_neg nonzero]
    rfl

namespace PublishForm

/-- The fields between the colons. -/
def fields (form : PublishForm) : List String :=
  form.hostIp.toList ++ [form.hostPort, form.namespacePort]

/-- The fields of an address are joined by colons. -/
theorem address_eq (form : PublishForm) :
    form.address = (String.singleton ':').intercalate form.fields := by
  apply String.toList_inj.mp
  rw [String.toList_intercalate]
  cases present : form.hostIp with
  | none => simp [address, fields, present]
  | some hostIp => simp [address, fields, present]

/-- A port is published with its protocol or without it. -/
theorem text_eq (form : PublishForm) : form.text = form.address ∨
    form.text = form.address ++ String.singleton '/' ++ "tcp" := by
  rw [text]
  cases form.protocol with
  | false => exact Or.inl rfl
  | true =>
    right
    rw [String.append_assoc]
    rfl

/-- No separator is a part of a number or of an address. -/
theorem Denotes.plain {form : PublishForm} {spec : PublishSpec} (denotes : form.Denotes spec)
    {separator : Char} (separates : separator = ':' ∨ separator = '/') :
    ∀ field ∈ form.fields, separator ∉ field.toList := by
  have number {text : String} {port : UInt16} (accepted : parseU16 text = .ok port) :
      separator ∉ text.toList := by
    intro member
    have kind := chars_of_parseU16 accepted separator member
    rcases separates with rfl | rfl
    · revert kind
      decide
    · revert kind
      decide
  have dotted {text : String} {addr : Ipv4Addr} (accepted : Ipv4Addr.parse text = .ok addr) :
      separator ∉ text.toList := by
    intro member
    have kind := Ipv4Addr.chars_of_parse accepted separator member
    rw [AddrParser.IsDotted] at kind
    rcases separates with rfl | rfl
    · revert kind
      decide
    · revert kind
      decide
  intro field member
  rw [fields, List.mem_append, List.mem_cons, List.mem_singleton, Option.mem_toList] at member
  rcases member with host | port | port
  · have accepted := denotes.hostIp
    rw [host] at accepted
    exact dotted accepted
  · rw [port]
    exact number denotes.hostPort.1
  · rw [port]
    exact number denotes.namespacePort.1

/-- The address of a publication has no slash. -/
theorem Denotes.slash_not_mem {form : PublishForm} {spec : PublishSpec}
    (denotes : form.Denotes spec) : '/' ∉ form.address.toList := by
  have plain := denotes.plain (Or.inr rfl)
  rw [address_eq, String.toList_intercalate, String.toList_singleton]
  cases present : form.hostIp with
  | none => simpa [fields, present] using plain
  | some hostIp => simpa [fields, present] using plain

/-- The fields are accepted as the publication that the form denotes. -/
theorem Denotes.parsePublishFields {form : PublishForm} {spec : PublishSpec}
    (denotes : form.Denotes spec) (raw : String) :
    parsePublishFields raw form.fields = .ok spec := by
  have host (side : String) : parsePort form.hostPort side raw = .ok spec.hostPort :=
    parsePort_eq_ok.mpr denotes.hostPort
  have inner (side : String) : parsePort form.namespacePort side raw = .ok spec.namespacePort :=
    parsePort_eq_ok.mpr denotes.namespacePort
  have addressed := denotes.hostIp
  rw [fields]
  cases present : form.hostIp with
  | none =>
    rw [present] at addressed
    have whole : (⟨.unspecified, spec.hostPort, spec.namespacePort⟩ : PublishSpec) = spec := by
      rw [← addressed]
    show Publish.parsePublishFields raw [form.hostPort, form.namespacePort] = _
    rw [Publish.parsePublishFields, host, inner]
    exact congrArg Except.ok whole
  | some hostIp =>
    rw [present] at addressed
    show Publish.parsePublishFields raw [hostIp, form.hostPort, form.namespacePort] = _
    rw [Publish.parsePublishFields, addressed, host, inner]
    rfl

end PublishForm

/-- Accepted fields are those of a form that denotes the publication. -/
theorem parsePublishFields_sound {raw : String} {fields : List String} {spec : PublishSpec}
    (accepted : parsePublishFields raw fields = .ok spec) (protocol : Bool) :
    ∃ form : PublishForm, form.fields = fields ∧ form.protocol = protocol ∧ form.Denotes spec := by
  unfold parsePublishFields at accepted
  split at accepted
  · rename_i hostPort namespacePort
    obtain ⟨host, hostRead, accepted⟩ := Error.bind_eq_ok.mp accepted
    obtain ⟨inner, innerRead, accepted⟩ := Error.bind_eq_ok.mp accepted
    rw [← Except.ok.inj accepted]
    exact ⟨⟨none, hostPort, namespacePort, protocol⟩, rfl, rfl, rfl, parsePort_eq_ok.mp hostRead,
      parsePort_eq_ok.mp innerRead⟩
  · rename_i hostIp hostPort namespacePort
    obtain ⟨addr, addrRead, accepted⟩ := Error.bind_eq_ok.mp accepted
    obtain ⟨host, hostRead, accepted⟩ := Error.bind_eq_ok.mp accepted
    obtain ⟨inner, innerRead, accepted⟩ := Error.bind_eq_ok.mp accepted
    rw [Error.context_eq_ok] at addrRead
    rw [← Except.ok.inj accepted]
    exact ⟨⟨some hostIp, hostPort, namespacePort, protocol⟩, rfl, rfl, addrRead,
      parsePort_eq_ok.mp hostRead, parsePort_eq_ok.mp innerRead⟩
  · contradiction

/-- The slash is looked for first: what stands before it is the address. -/
theorem splitOnce_text {form : PublishForm} {spec : PublishSpec} (denotes : form.Denotes spec) :
    (Text.splitOnce form.text '/').getD (form.text, "tcp") = (form.address, "tcp") := by
  have absent := denotes.slash_not_mem
  rcases form.text_eq with plain | protocol
  · rw [plain, Text.splitOnce_eq_none_iff.mpr absent]
    rfl
  · rw [Text.splitOnce_eq_some_iff.mpr ⟨protocol, absent⟩]
    rfl

/-- A text is accepted exactly as the publication that it denotes. -/
theorem parsePublishSpec_eq_ok {raw : String} {spec : PublishSpec} :
    parsePublishSpec raw = .ok spec ↔ Denotes raw spec := by
  constructor
  · intro accepted
    rw [parsePublishSpec] at accepted
    cases found : Text.splitOnce raw '/' with
    | none =>
      rw [found] at accepted
      simp only [Option.getD_none, ne_eq, not_true_eq_false, if_false] at accepted
      obtain ⟨form, fields, unwritten, denotes⟩ := parsePublishFields_sound accepted false
      refine ⟨form, ?_, denotes⟩
      rw [PublishForm.text, unwritten, form.address_eq, fields, Text.intercalate_split]
      rfl
    | some parts =>
      obtain ⟨address, protocol⟩ := parts
      rw [found] at accepted
      simp only [Option.getD_some] at accepted
      by_cases tcp : protocol = "tcp"
      · rw [if_neg (not_not.mpr tcp)] at accepted
        obtain ⟨form, fields, written, denotes⟩ := parsePublishFields_sound accepted true
        refine ⟨form, ?_, denotes⟩
        rw [PublishForm.text, written, form.address_eq, fields, Text.intercalate_split,
          (Text.splitOnce_eq_some_iff.mp found).1, tcp, String.append_assoc]
        rfl
      · rw [if_pos tcp] at accepted
        contradiction
  · rintro ⟨form, rfl, denotes⟩
    have fields : Text.split form.address ':' = form.fields := by
      rw [form.address_eq]
      apply Text.split_intercalate
      · simp [PublishForm.fields]
      · exact denotes.plain (Or.inl rfl)
    rw [parsePublishSpec, splitOnce_text denotes]
    simp only [ne_eq, not_true_eq_false, if_false, fields]
    exact denotes.parsePublishFields form.text

/-- The loop accepts texts that denote publications with new endpoints, and appends these. -/
theorem parseEachPublish_eq_ok {hostEndpoints : Finset (Ipv4Addr × UInt16)}
    {parsed result : List PublishSpec} {specs : List String} :
    parseEachPublish hostEndpoints parsed specs = .ok result ↔
      ∃ found, result = parsed ++ found ∧ List.Forall₂ Denotes specs found ∧
        (found.map hostEndpoint).Nodup ∧ ∀ spec ∈ found, hostEndpoint spec ∉ hostEndpoints := by
  induction specs generalizing hostEndpoints parsed with
  | nil =>
    rw [parseEachPublish, Except.ok.injEq]
    constructor
    · rintro rfl
      exact ⟨[], (List.append_nil parsed).symm, List.Forall₂.nil, List.nodup_nil,
        fun spec member => nomatch member⟩
    · rintro ⟨found, rfl, denoted, -, -⟩
      rw [List.forall₂_nil_left_iff.mp denoted, List.append_nil]
  | cons raw specs ih =>
    rw [parseEachPublish, Error.bind_eq_ok]
    constructor
    · rintro ⟨spec, read, rest⟩
      by_cases known : hostEndpoint spec ∈ hostEndpoints
      · rw [if_pos known] at rest
        contradiction
      · rw [if_neg known] at rest
        obtain ⟨found, rfl, denoted, distinct, fresh⟩ := ih.mp rest
        refine ⟨spec :: found, by rw [List.append_assoc]; rfl,
          List.Forall₂.cons (parsePublishSpec_eq_ok.mp read) denoted, ?_, ?_⟩
        · rw [List.map_cons, List.nodup_cons]
          refine ⟨?_, distinct⟩
          intro member
          obtain ⟨other, inside, same⟩ := List.mem_map.mp member
          apply fresh other inside
          rw [same]
          exact Finset.mem_insert_self _ _
        · intro other member
          rcases List.mem_cons.mp member with here | later
          · rw [here]
            exact known
          · intro inside
            exact fresh other later (Finset.mem_insert_of_mem inside)
    · rintro ⟨found, rfl, denoted, distinct, fresh⟩
      cases denoted with
      | cons first later =>
        rename_i spec found
        rw [List.map_cons, List.nodup_cons] at distinct
        refine ⟨spec, parsePublishSpec_eq_ok.mpr first, ?_⟩
        rw [if_neg (fresh spec List.mem_cons_self)]
        apply ih.mpr
        refine ⟨found, by rw [List.append_assoc]; rfl, later, distinct.2, ?_⟩
        intro other member inside
        rcases Finset.mem_insert.mp inside with same | earlier
        · exact distinct.1 (same ▸ List.mem_map_of_mem member)
        · exact fresh other (List.mem_cons_of_mem _ member) earlier

/-- The list is accepted as the publications that its texts denote, when no two of them have
the same host endpoint. -/
theorem parsePublishSpecs_eq_ok {specs : List String} {result : List PublishSpec} :
    parsePublishSpecs specs = .ok result ↔
      List.Forall₂ Denotes specs result ∧ (result.map hostEndpoint).Nodup := by
  rw [parsePublishSpecs, parseEachPublish_eq_ok]
  constructor
  · rintro ⟨found, rfl, denoted, distinct, -⟩
    exact ⟨denoted, distinct⟩
  · rintro ⟨denoted, distinct⟩
    exact ⟨result, rfl, denoted, distinct, fun spec _ => Finset.notMem_empty _⟩

/-! ## Lists of publications -/

/-- A text denotes at most one publication. -/
theorem Denotes.unique {raw : String} {left right : PublishSpec} (first : Denotes raw left)
    (second : Denotes raw right) : left = right := by
  have accepted := parsePublishSpec_eq_ok.mpr first
  rw [parsePublishSpec_eq_ok.mpr second] at accepted
  exact (Except.ok.inj accepted).symm

/-- Two texts do not denote publications with the same host endpoint. -/
def Apart (first second : String) : Prop :=
  ∀ left right, Denotes first left → Denotes second right → hostEndpoint left ≠ hostEndpoint right

/-- The publications have distinct endpoints exactly when no two texts share one. -/
theorem nodup_iff_pairwise_apart {specs : List String} {result : List PublishSpec}
    (denoted : List.Forall₂ Denotes specs result) :
    (result.map hostEndpoint).Nodup ↔ specs.Pairwise Apart := by
  induction denoted with
  | nil => simp
  | @cons raw spec specs result first rest ih =>
    rw [List.map_cons, List.nodup_cons, List.pairwise_cons, ih]
    have here : hostEndpoint spec ∉ result.map hostEndpoint ↔ ∀ other ∈ specs, Apart raw other := by
      clear ih
      induction rest with
      | nil => simp
      | @cons other next others results denotes _ ih =>
        rw [List.map_cons, List.mem_cons, not_or, List.forall_mem_cons, ih]
        have apart : hostEndpoint spec ≠ hostEndpoint next ↔ Apart raw other := by
          constructor
          · intro different left right leftly rightly
            rw [leftly.unique first, rightly.unique denotes]
            exact different
          · intro apart
            exact apart spec next first denotes
        rw [← apart]
    rw [here]

/-- Texts denote a list when each of them denotes something. -/
theorem exists_forall₂_denotes_iff (specs : List String) :
    (∃ result, List.Forall₂ Denotes specs result) ↔ ∀ raw ∈ specs, ∃ spec, Denotes raw spec := by
  induction specs with
  | nil => simp
  | cons raw specs ih =>
    rw [List.forall_mem_cons, ← ih]
    constructor
    · rintro ⟨result, denoted⟩
      obtain ⟨spec, rest, first, later, -⟩ := List.forall₂_cons_left_iff.mp denoted
      exact ⟨⟨spec, first⟩, ⟨rest, later⟩⟩
    · rintro ⟨⟨spec, first⟩, ⟨rest, later⟩⟩
      exact ⟨spec :: rest, List.Forall₂.cons first later⟩

/-- A list is accepted exactly when all its texts denote publications and no two of them the
same host endpoint. -/
theorem exists_parsePublishSpecs_iff (specs : List String) :
    (∃ result, parsePublishSpecs specs = .ok result) ↔
      (∀ raw ∈ specs, ∃ spec, Denotes raw spec) ∧ specs.Pairwise Apart := by
  rw [← exists_forall₂_denotes_iff]
  constructor
  · rintro ⟨result, accepted⟩
    obtain ⟨denoted, distinct⟩ := parsePublishSpecs_eq_ok.mp accepted
    exact ⟨⟨result, denoted⟩, (nodup_iff_pairwise_apart denoted).mp distinct⟩
  · rintro ⟨⟨result, denoted⟩, apart⟩
    have distinct := (nodup_iff_pairwise_apart denoted).mpr apart
    exact ⟨result, parsePublishSpecs_eq_ok.mpr ⟨denoted, distinct⟩⟩

/-! ## Rendering -/

/-- A publication written out with its address. -/
def render (spec : PublishSpec) (protocol : Bool) : PublishForm where
  hostIp := some spec.hostIp.toText
  hostPort := toString spec.hostPort.toNat
  namespacePort := toString spec.namespacePort.toNat
  protocol := protocol

/-- A rendered publication is accepted as itself. -/
theorem parsePublishSpecs_render {spec : PublishSpec} (host : spec.hostPort ≠ 0)
    (inner : spec.namespacePort ≠ 0) (protocol : Bool) :
    parsePublishSpecs [(render spec protocol).text] = .ok [spec] := by
  have denotes : Denotes (render spec protocol).text spec := by
    refine ⟨render spec protocol, rfl, ?_, ?_, ?_⟩
    · exact Ipv4Addr.parse_toText spec.hostIp
    · exact ⟨parseU16_toString spec.hostPort, host⟩
    · exact ⟨parseU16_toString spec.namespacePort, inner⟩
  apply parsePublishSpecs_eq_ok.mpr
  exact ⟨List.Forall₂.cons denotes List.Forall₂.nil, List.nodup_singleton _⟩

/-- Publications are parsed as they are written: a list is accepted exactly when every text
denotes a publication and no two the same host endpoint; the result has what each text denotes,
in order, with distinct endpoints; and a rendered publication is read back. -/
theorem publish_specs_parse_as_written :
    (∀ specs, (∃ result, parsePublishSpecs specs = .ok result) ↔
      (∀ raw ∈ specs, ∃ spec, Denotes raw spec) ∧ specs.Pairwise Apart) ∧
    (∀ specs result, parsePublishSpecs specs = .ok result →
      result.length = specs.length ∧ List.Forall₂ Denotes specs result ∧
        (result.map fun spec => (spec.hostIp, spec.hostPort)).Nodup) ∧
    (∀ raw left right, Denotes raw left → Denotes raw right → left = right) ∧
    ∀ spec : PublishSpec, spec.hostPort ≠ 0 → spec.namespacePort ≠ 0 →
      parsePublishSpecs [spec.hostIp.toText ++ ":" ++ toString spec.hostPort.toNat ++ ":" ++
        toString spec.namespacePort.toNat] = .ok [spec] ∧
      parsePublishSpecs [spec.hostIp.toText ++ ":" ++ toString spec.hostPort.toNat ++ ":" ++
        toString spec.namespacePort.toNat ++ "/tcp"] = .ok [spec] := by
  refine ⟨exists_parsePublishSpecs_iff, ?_, fun _ _ _ => Denotes.unique, ?_⟩
  · intro specs result accepted
    obtain ⟨denoted, distinct⟩ := parsePublishSpecs_eq_ok.mp accepted
    exact ⟨denoted.length_eq.symm, denoted, distinct⟩
  · intro spec host inner
    exact ⟨parsePublishSpecs_render host inner false, parsePublishSpecs_render host inner true⟩

/-- One publication in full. -/
theorem publish_spec_written_out :
    parsePublishSpecs ["127.0.0.1:8443:443/tcp"] = .ok [⟨.new 127 0 0 1, 8443, 443⟩] := by
  have text : (Ipv4Addr.new 127 0 0 1).toText ++ ":" ++ toString (8443 : UInt16).toNat ++ ":" ++
      toString (443 : UInt16).toNat ++ "/tcp" = "127.0.0.1:8443:443/tcp" := by
    decide +kernel
  have parsed := (publish_specs_parse_as_written.2.2.2 ⟨.new 127 0 0 1, 8443, 443⟩ (by decide)
    (by decide)).2
  rw [text] at parsed
  exact parsed

end NsProxy.Publish
