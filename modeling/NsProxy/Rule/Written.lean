import NsProxy.Net.Written
import NsProxy.Rule.Routing

/-!
# Rules as they are written

The grammar of `--rule`: a kind, a colon, a value, an equals sign and a route. The parser splits
at the first equals sign and at the first colon, so a value has no equals sign and may have
colons. A command line is accepted exactly when all its specs are written so and the domain
patterns compile together, and then it routes as the rules say.
-/

namespace NsProxy

open ProxyConfig

/-- A route as it is written. -/
inductive RouteForm
  | direct
  | proxied (url : ProxyUrl)

namespace RouteForm

/-- The text of a route. -/
def text : RouteForm → String
  | direct => "direct"
  | proxied url => url.text

/-- The route that is meant. -/
def config : RouteForm → ProxyConfig
  | direct => .direct
  | proxied url => url.config

/-- The parser accepts exactly the written routes. -/
theorem parse_eq_ok_iff {value : String} {config : ProxyConfig} :
    ProxyConfig.parse value = .ok config ↔
      ∃ form : RouteForm, value = form.text ∧ config = form.config := by
  constructor
  · intro accepted
    by_cases direct : value = "direct"
    · rw [direct] at accepted
      have route : config = .direct := (Except.ok.inj accepted).symm
      exact ⟨.direct, direct, route⟩
    · obtain ⟨url, written, same⟩ := parse_sound accepted direct
      exact ⟨.proxied url, written, same⟩
  · rintro ⟨form, rfl, rfl⟩
    cases form with
    | direct => rfl
    | proxied url => exact parse_text url

/-- A route is never written as nothing. -/
theorem text_ne_empty (form : RouteForm) : form.text ≠ "" := by
  intro empty
  have accepted := parse_eq_ok_iff.mpr ⟨form, rfl, rfl⟩
  rw [empty] at accepted
  contradiction

end RouteForm

/-- What a rule matches, as it is written: the prefix length is a numeral. -/
inductive MatchForm
  | ip (addr : Ipv4Addr)
  | cidr (network : Ipv4Addr) (plus : Bool) (zeros : Nat) (prefixLen : Fin 33)
  | domain (name : String)
  | domainRegex (pattern : String)

namespace MatchForm

/-- The word before the colon. -/
def kind : MatchForm → String
  | ip _ => "ip"
  | cidr .. => "cidr"
  | domain _ => "domain"
  | domainRegex _ => "domain-regex"

/-- The text after the colon. -/
def value : MatchForm → String
  | ip addr => addr.toText
  | cidr network plus zeros prefixLen =>
    network.toText ++ "/" ++ (Numeral.mk plus zeros prefixLen).text
  | domain name => name
  | domainRegex pattern => pattern

/-- The text of a match. -/
def text (form : MatchForm) : String := form.kind ++ ":" ++ form.value

/-- A domain is not empty, a regex compiles. -/
def WellFormed (regex : RegexApi) : MatchForm → Prop
  | domain name => name ≠ ""
  | domainRegex pattern => regex.newError pattern = none
  | _ => True

/-- What is matched. -/
def matched : MatchForm → RuleMatch
  | ip addr => .ip addr
  | cidr network _ _ prefixLen => .cidr network prefixLen
  | domain name => .domain name
  | domainRegex pattern => .domainRegex pattern

end MatchForm

/-- A rule as it is written. -/
structure RuleForm (regex : RegexApi) where
  /-- The match. -/
  matched : MatchForm
  /-- The route. -/
  route : RouteForm
  /-- The match can be written. -/
  formed : matched.WellFormed regex
  /-- Its value has no equals sign. -/
  plain : '=' ∉ matched.value.toList

namespace RuleForm

variable {regex : RegexApi}

/-- The text of a rule. -/
def text (form : RuleForm regex) : String := form.matched.text ++ "=" ++ form.route.text

/-- The action of a rule. -/
def action (form : RuleForm regex) : MatchAction := ⟨form.route.config⟩

/-- The pattern of a domain rule. -/
def pattern (form : RuleForm regex) : Option String :=
  match form.matched with
  | .domain name => some ("(?i)^" ++ regex.escape name ++ "$")
  | .domainRegex pattern => some pattern
  | _ => none

/-- The network of an address rule. -/
def network (form : RuleForm regex) : Option PrefixTrie.Rule :=
  match form.matched with
  | .ip addr => some ⟨addr.bits, Fin.last 32, form.action⟩
  | .cidr network _ _ prefixLen => some ⟨network.bits, prefixLen, form.action⟩
  | _ => none

/-- A rule matches a host: a domain up to case, a regex by its own meaning. -/
def matchesHost (form : RuleForm regex) (host : String) : Bool :=
  match form.matched with
  | .domain name => name.toList.map regex.caseFold = host.toList.map regex.caseFold
  | .domainRegex pattern => regex.isMatch pattern host
  | _ => false

end RuleForm

/-! ## What the parser accepts -/

namespace RuleMatch

variable {regex : RegexApi} {spec value : String} {matched : RuleMatch}

/-- Bytes are accepted exactly as numerals. -/
theorem parseU8_eq_ok_iff {text : String} {byte : UInt8} : parseU8 text = .ok byte ↔
    ∃ plus zeros, text = (Numeral.mk plus zeros byte.toNat).text := by
  have positive : 0 < 256 := by decide
  constructor
  · intro accepted
    cases read : parseUnsigned 256 text with
    | error causes =>
      rw [parseU8, read] at accepted
      contradiction
    | ok number =>
      rw [parseU8, read] at accepted
      obtain ⟨small, ⟨plus, zeros, value⟩, written, same⟩ :=
        (parseUnsigned_eq_ok_iff positive).mp read
      have byte : UInt8.ofNat number = byte := Except.ok.inj accepted
      refine ⟨plus, zeros, ?_⟩
      rw [← byte, UInt8.toNat_ofNat_of_lt' small, ← same, written]
  · rintro ⟨plus, zeros, written⟩
    have read := (parseUnsigned_eq_ok_iff positive).mpr ⟨byte.toNat_lt, _, written, rfl⟩
    rw [parseU8, read]
    show Except.ok (UInt8.ofNat byte.toNat) = Except.ok byte
    rw [UInt8.ofNat_toNat]

/-- A dotted text has digits and dots only. -/
theorem not_mem_toText {char : Char} (other : ¬ AddrParser.IsDotted char) (addr : Ipv4Addr) :
    char ∉ addr.toText.toList := by
  intro member
  exact other (Ipv4Addr.chars_of_parse (Ipv4Addr.parse_toText addr) char member)

/-- Networks are accepted as an address, a slash and a numeral up to 32. -/
theorem parseCidr_eq_ok_iff : parseCidr spec value = .ok matched ↔
    ∃ network plus zeros prefixLen, value = (MatchForm.cidr network plus zeros prefixLen).value ∧
      matched = .cidr network prefixLen := by
  unfold parseCidr
  simp only [Error.bind_eq_ok, Error.context_eq_ok, Error.contextOption_eq_ok,
    Prod.exists, Text.splitOnce_eq_some_iff, Ipv4Addr.parse_eq_ok_iff, parseU8_eq_ok_iff]
  constructor
  · rintro ⟨before, after, ⟨split, -⟩, network, address, byte, ⟨plus, zeros, numeral⟩, checked⟩
    by_cases small : byte.toNat < 33
    · rw [dif_pos small] at checked
      refine ⟨network, plus, zeros, ⟨byte.toNat, small⟩, ?_, (Except.ok.inj checked).symm⟩
      rw [split, address, numeral]
      rfl
    · rw [dif_neg small] at checked
      contradiction
  · rintro ⟨network, plus, zeros, prefixLen, written, rfl⟩
    have bound := prefixLen.isLt
    have byte : (UInt8.ofNat prefixLen).toNat = prefixLen :=
      UInt8.toNat_ofNat_of_lt' (Nat.lt_trans bound (by decide))
    refine ⟨network.toText, (Numeral.mk plus zeros prefixLen).text, ⟨written, ?_⟩, network, rfl,
      UInt8.ofNat prefixLen, ⟨plus, zeros, by rw [byte]⟩, ?_⟩
    · apply not_mem_toText
      unfold AddrParser.IsDotted
      decide
    · have small : (UInt8.ofNat prefixLen).toNat < 33 := by omega
      rw [dif_pos small]
      simp only [byte]
      rfl

/-- Matches are accepted exactly as they are written. -/
theorem parse_eq_ok_iff : parse regex spec = .ok matched ↔
    ∃ form : MatchForm, form.WellFormed regex ∧ spec = form.text ∧ matched = form.matched := by
  unfold parse
  simp only [Error.bind_eq_ok, Error.contextOption_eq_ok, Prod.exists, Text.splitOnce_eq_some_iff]
  constructor
  · rintro ⟨kind, value, ⟨split, -⟩, accepted⟩
    split_ifs at accepted with ip cidr domain empty domainRegex
    · simp only [Error.bind_eq_ok, Error.context_eq_ok, Ipv4Addr.parse_eq_ok_iff] at accepted
      obtain ⟨addr, written, same⟩ := accepted
      refine ⟨.ip addr, trivial, ?_, (Except.ok.inj same).symm⟩
      rw [split, ip, written]
      rfl
    · obtain ⟨network, plus, zeros, prefixLen, written, same⟩ := parseCidr_eq_ok_iff.mp accepted
      refine ⟨.cidr network plus zeros prefixLen, trivial, ?_, same⟩
      rw [split, cidr, written]
      rfl
    · contradiction
    · refine ⟨.domain value, ?_, ?_, (Except.ok.inj accepted).symm⟩
      · intro none
        rw [none] at empty
        exact empty rfl
      · rw [split, domain]
        rfl
    · split at accepted
      · contradiction
      · rename_i compiles
        refine ⟨.domainRegex value, compiles, ?_, (Except.ok.inj accepted).symm⟩
        rw [split, domainRegex]
        rfl
    · contradiction
  · rintro ⟨form, formed, written, rfl⟩
    have colon : ':' ∉ form.kind.toList := by
      cases form <;> rw [MatchForm.kind] <;> decide
    refine ⟨form.kind, form.value, ⟨written, colon⟩, ?_⟩
    cases form with
    | ip addr =>
      rw [MatchForm.kind, if_pos rfl]
      simp only [Error.bind_eq_ok, Error.context_eq_ok]
      exact ⟨addr, Ipv4Addr.parse_toText addr, rfl⟩
    | cidr network plus zeros prefixLen =>
      rw [MatchForm.kind, if_neg (by decide), if_pos rfl]
      exact parseCidr_eq_ok_iff.mpr ⟨network, plus, zeros, prefixLen, rfl, rfl⟩
    | domain name =>
      rw [MatchForm.kind, if_neg (by decide), if_neg (by decide), if_pos rfl, if_neg]
      · rfl
      · intro empty
        exact formed (String.isEmpty_iff.mp empty)
    | domainRegex pattern =>
      rw [MatchForm.kind, if_neg (by decide), if_neg (by decide), if_neg (by decide), if_pos rfl]
      have compiles : regex.newError pattern = none := formed
      simp only [MatchForm.value, compiles]
      rfl

end RuleMatch

namespace RuleMatcher

variable {regex : RegexApi} {spec : String} {matched : RuleMatch} {action : MatchAction}

/-- Specs are accepted exactly as they are written. -/
theorem parseSpec_eq_ok_iff : parseSpec regex spec = .ok (matched, action) ↔
    ∃ form : RuleForm regex, spec = form.text ∧ matched = form.matched.matched ∧
      action = form.action := by
  unfold parseSpec
  simp only [Error.bind_eq_ok, Error.contextOption_eq_ok, Prod.exists, Text.splitOnce_eq_some_iff]
  constructor
  · rintro ⟨matchSpec, proxySpec, ⟨split, plain⟩, accepted⟩
    split_ifs at accepted
    · contradiction
    · contradiction
    · simp only [Error.bind_eq_ok, Error.context_eq_ok, RouteForm.parse_eq_ok_iff,
        RuleMatch.parse_eq_ok_iff] at accepted
      obtain ⟨proxy, ⟨route, routed, rfl⟩, _, ⟨form, formed, written, rfl⟩, same⟩ := accepted
      have equals : '=' ∉ form.value.toList := by
        intro member
        apply plain
        rw [written, MatchForm.text, String.toList_append]
        exact List.mem_append_right _ member
      have pair := Except.ok.inj same
      rw [Prod.mk.injEq] at pair
      refine ⟨⟨form, route, formed, equals⟩, ?_, pair.1.symm, pair.2.symm⟩
      rw [split, written, routed]
      rfl
  · rintro ⟨form, written, rfl, rfl⟩
    have equals : '=' ∉ form.matched.text.toList := by
      rw [MatchForm.text, String.toList_append, String.toList_append]
      have kind : '=' ∉ form.matched.kind.toList ++ ":".toList := by
        cases form.matched <;> rw [MatchForm.kind] <;> decide
      intro member
      rcases List.mem_append.mp member with front | value
      · exact kind front
      · exact form.plain value
    refine ⟨form.matched.text, form.route.text, ⟨written, equals⟩, ?_⟩
    have someMatch : ¬ form.matched.text.isEmpty = true := by
      rw [String.isEmpty_iff]
      intro empty
      have colon : ':' ∈ form.matched.text.toList := by simp [MatchForm.text]
      rw [empty] at colon
      contradiction
    have someProxy : ¬ form.route.text.isEmpty = true := by
      rw [String.isEmpty_iff]
      exact form.route.text_ne_empty
    rw [if_neg someMatch, if_neg someProxy]
    simp only [Error.bind_eq_ok, Error.context_eq_ok]
    exact ⟨form.route.config, RouteForm.parse_eq_ok_iff.mpr ⟨form.route, rfl, rfl⟩,
      form.matched.matched, RuleMatch.parse_eq_ok_iff.mpr ⟨form.matched, form.formed, rfl, rfl⟩,
      rfl⟩

/-! ## Command lines -/

variable {specs : List String} {rules : Building}

/-- What the spec of a domain rule contributes. -/
theorem domainEntry_text (form : RuleForm regex) :
    domainEntry regex form.text = form.pattern.map fun pattern => (pattern, form.action) := by
  have parsed := parseSpec_eq_ok_iff.mpr ⟨form, rfl, rfl, rfl⟩
  rw [domainEntry, parsed, RuleForm.pattern]
  cases form.matched <;> rfl

/-- What the spec of an address rule contributes. -/
theorem ipEntry_text (form : RuleForm regex) : ipEntry regex form.text = form.network := by
  have parsed := parseSpec_eq_ok_iff.mpr ⟨form, rfl, rfl, rfl⟩
  rw [ipEntry, parsed, RuleForm.network]
  cases form.matched <;> rfl

/-- A spec routes a host as its rule is written. -/
theorem domainRoute_text (form : RuleForm regex) (host : String) :
    domainRoute regex host form.text =
      if form.matchesHost host then some form.route.config else none := by
  have parsed := parseSpec_eq_ok_iff.mpr ⟨form, rfl, rfl, rfl⟩
  rw [domainRoute, parsed, RuleForm.matchesHost]
  cases form.matched <;> simp [MatchForm.matched, RuleForm.action]

/-- Written rules are added, whatever was added before. -/
theorem addSpecs_text (forms : List (RuleForm regex)) (rules : Building) :
    ∃ built, addSpecs regex rules (forms.map RuleForm.text) = .ok built := by
  induction forms generalizing rules with
  | nil => exact ⟨rules, rfl⟩
  | cons form forms ih =>
    have parsed := parseSpec_eq_ok_iff.mpr ⟨form, rfl, rfl, rfl⟩
    rw [List.map_cons, addSpecs, parsed]
    exact ih _

/-- Only written rules are added. -/
theorem forms_of_addSpecs {built : Building} (accepted : addSpecs regex rules specs = .ok built) :
    ∃ forms : List (RuleForm regex), specs = forms.map RuleForm.text := by
  induction specs generalizing rules with
  | nil => exact ⟨[], rfl⟩
  | cons spec rest ih =>
    rw [addSpecs, Error.bind_eq_ok] at accepted
    obtain ⟨⟨matched, action⟩, parsed, later⟩ := accepted
    obtain ⟨form, written, -, -⟩ := parseSpec_eq_ok_iff.mp parsed
    obtain ⟨forms, others⟩ := ih later
    refine ⟨form :: forms, ?_⟩
    rw [List.map_cons, ← written, ← others]

/-- The first spec that is not accepted ends the loop with its error. -/
theorem addSpecs_error {causes : Error} (refused : parseSpec regex spec = .error causes)
    (forms : List (RuleForm regex)) (rest : List String) (rules : Building) :
    addSpecs regex rules (forms.map RuleForm.text ++ spec :: rest) = .error causes := by
  induction forms generalizing rules with
  | nil =>
    rw [List.map_nil, List.nil_append, addSpecs, refused]
    rfl
  | cons form forms ih =>
    have parsed := parseSpec_eq_ok_iff.mpr ⟨form, rfl, rfl, rfl⟩
    rw [List.map_cons, List.cons_append, addSpecs, parsed]
    exact ih _

/-- A spec that is not written as a rule is refused. -/
theorem parseSpec_eq_error (other : ∀ form : RuleForm regex, spec ≠ form.text) :
    ∃ causes, parseSpec regex spec = .error causes := by
  cases parsed : parseSpec regex spec with
  | error causes => exact ⟨causes, rfl⟩
  | ok rule =>
    obtain ⟨form, written, -, -⟩ := parseSpec_eq_ok_iff.mp parsed
    exact absurd written (other form)

/-- The domain patterns of written rules, in order. -/
def patterns (forms : List (RuleForm regex)) : List String := forms.filterMap RuleForm.pattern

/-- The networks of written rules, in order. -/
def networks (forms : List (RuleForm regex)) : List PrefixTrie.Rule :=
  forms.filterMap RuleForm.network

/-- The patterns of the loop are those of the written rules. -/
theorem domainPatterns_text {forms : List (RuleForm regex)} {built : Building}
    (accepted : addSpecs regex ⟨[], [], .empty⟩ (forms.map RuleForm.text) = .ok built) :
    built.domainPatterns = patterns forms := by
  have added := (addSpecs_eq accepted).1
  have contributed : domainEntry regex ∘ RuleForm.text =
      fun form : RuleForm regex => form.pattern.map fun pattern => (pattern, form.action) := by
    funext form
    exact domainEntry_text form
  rw [added, List.nil_append, List.filterMap_map, contributed, patterns, List.map_filterMap]
  congr 1
  funext form
  cases form.pattern <;> rfl

/-- A matcher routes as the rules are written: a host by the first rule that matches it, an
address by the longest network around it, and everything else by the fallback. -/
structure RoutesAs (forms : List (RuleForm regex)) (rules : RuleMatcher regex) : Prop where
  /-- Hosts. -/
  hosts : ∀ fallback host port, Config.proxyFor ⟨fallback, rules⟩ (.domain host port) =
    some (((forms.find? (·.matchesHost host)).map (·.route.config)).getD fallback)
  /-- Addresses. -/
  addresses : ∀ fallback addr port,
    (∃ index rule, PrefixTrie.Wins (networks forms) addr.bits index rule ∧
      Config.proxyFor ⟨fallback, rules⟩ (.ip (.v4 addr) port) = some rule.action.proxy) ∨
    (∀ rule ∈ networks forms, ¬ rule.Agrees addr.bits) ∧
      Config.proxyFor ⟨fallback, rules⟩ (.ip (.v4 addr) port) = some fallback
  /-- IPv6 addresses. -/
  ipv6 : ∀ fallback addr port,
    Config.proxyFor ⟨fallback, rules⟩ (.ip (.v6 addr) port) = some fallback

/-- The rules that are written are those that route. -/
theorem routesAs_text {forms : List (RuleForm regex)} {rules : RuleMatcher regex}
    (accepted : fromSpecs regex (forms.map RuleForm.text) = .ok rules) : RoutesAs forms rules := by
  constructor
  · intro fallback host port
    have routed : (forms.map RuleForm.text).findSome? (domainRoute regex host) =
        (forms.find? (·.matchesHost host)).map (·.route.config) := by
      clear accepted
      induction forms with
      | nil => rfl
      | cons form forms ih =>
        rw [List.map_cons, List.findSome?_cons, domainRoute_text, List.find?_cons]
        cases form.matchesHost host with
        | true => rfl
        | false => exact ih
    rw [Config.proxyFor]
    simp only [matchDomain_eq accepted, find?_domainEntry, routed, Option.map_some]
  · intro fallback addr port
    have held : rules.cidr = PrefixTrie.insertAll (networks forms) := by
      have contributed : ipEntry regex ∘ RuleForm.text =
          fun form : RuleForm regex => form.network := by
        funext form
        exact ipEntry_text form
      rw [cidr_eq accepted, List.filterMap_map, contributed, networks]
    simp only [Config.proxyFor, matchIp, held, Option.map_some]
    cases found : PrefixTrie.get (PrefixTrie.insertAll (networks forms)) addr.bits with
    | none => exact Or.inr ⟨(PrefixTrie.get_eq_none_iff _ _).mp found, rfl⟩
    | some action =>
      obtain ⟨index, rule, wins, same⟩ := PrefixTrie.wins_of_get found
      refine Or.inl ⟨index, rule, wins, ?_⟩
      rw [same]
      rfl
  · intro fallback addr port
    rfl

/-- An error is about a text. -/
def Names (named : String) (causes : Error) : Prop :=
  ∃ reason, causes.head? = some ("rule '" ++ named ++ reason)

/-- A refusal names its spec, or the part before the equals sign. -/
def NamesRule (spec : String) (causes : Error) : Prop :=
  Names spec causes ∨ ∃ named route, Text.splitOnce spec '=' = some (named, route) ∧
    Names named causes

/-- A network that is refused is named in the error. -/
theorem parseCidr_names (spec value : String) :
    Error.FailsWith (Names spec) (RuleMatch.parseCidr spec value) := by
  unfold RuleMatch.parseCidr
  refine Error.FailsWith.bind (.contextOption ⟨_, rfl⟩ _) ?_
  rintro ⟨network, prefixText⟩ -
  refine Error.FailsWith.bind (.context (fun _ => ⟨_, rfl⟩) _) ?_
  intro network _
  refine Error.FailsWith.bind (.context (fun _ => ⟨_, rfl⟩) _) ?_
  intro prefixLen _
  split_ifs
  · exact .ok _
  · refine Error.FailsWith.error ⟨"': prefix /" ++ (toString prefixLen ++
      " out of range (max /32)"), ?_⟩
    simp only [toString, String.append_assoc, List.head?_cons]

/-- A rule that is refused is named in the error. -/
theorem parse_names (regex : RegexApi) (spec : String) :
    Error.FailsWith (Names spec) (RuleMatch.parse regex spec) := by
  unfold RuleMatch.parse
  refine Error.FailsWith.bind (.contextOption ⟨_, rfl⟩ _) ?_
  rintro ⟨kind, value⟩ -
  simp only
  split_ifs
  · refine Error.FailsWith.bind (.context (fun _ => ⟨_, rfl⟩) _) ?_
    intro addr _
    exact .ok _
  · exact parseCidr_names spec value
  · exact .error ⟨_, rfl⟩
  · exact .ok _
  · split
    · exact .error ⟨_, rfl⟩
    · exact .ok _
  · refine Error.FailsWith.error ⟨"': unknown kind '" ++ (kind ++
      "' (expected ip / cidr / domain / domain-regex)"), ?_⟩
    simp only [toString, String.append_assoc, List.head?_cons]

/-- Every refusal of a spec names it. -/
theorem parseSpec_names (regex : RegexApi) (spec : String) :
    Error.FailsWith (NamesRule spec) (parseSpec regex spec) := by
  unfold parseSpec
  refine Error.FailsWith.bind (.contextOption (Or.inl ⟨_, rfl⟩) _) ?_
  rintro ⟨matchSpec, proxySpec⟩ split
  rw [Error.contextOption_eq_ok] at split
  simp only
  split_ifs
  · exact .error (Or.inl ⟨_, rfl⟩)
  · exact .error (Or.inl ⟨_, rfl⟩)
  · refine Error.FailsWith.bind (.context (fun _ => Or.inl ⟨_, rfl⟩) _) ?_
    intro proxy _
    have matching : Error.FailsWith (NamesRule spec) (RuleMatch.parse regex matchSpec) := by
      refine (parse_names regex matchSpec).mono ?_
      intro causes names
      exact Or.inr ⟨matchSpec, proxySpec, split, names⟩
    refine matching.bind ?_
    intro matched _
    exact .ok _

/-- The patterns compile together; without one nothing is compiled. -/
def Compiles (regex : RegexApi) (patterns : List String) : Prop :=
  patterns = [] ∨ ∃ set, regex.newSet patterns = .ok set

/-- Rules are read as they are written: an accepted command line is a list of written rules;
written rules are accepted exactly when their domain patterns compile together, and then route
as they say; and the first spec that is not a written rule is refused by name. -/
theorem rules_route_as_written (regex : RegexApi) :
    (∀ specs rules, fromSpecs regex specs = .ok rules →
      ∃ forms : List (RuleForm regex), specs = forms.map RuleForm.text) ∧
    (∀ forms : List (RuleForm regex),
      ((∃ rules, fromSpecs regex (forms.map RuleForm.text) = .ok rules) ↔
        Compiles regex (patterns forms)) ∧
      ∀ rules, fromSpecs regex (forms.map RuleForm.text) = .ok rules → RoutesAs forms rules) ∧
    (∀ (forms : List (RuleForm regex)) spec rest, (∀ form : RuleForm regex, spec ≠ form.text) →
      ∃ causes, fromSpecs regex (forms.map RuleForm.text ++ spec :: rest) = .error causes ∧
        NamesRule spec causes) := by
  refine ⟨?_, ?_, ?_⟩
  · intro specs rules accepted
    obtain ⟨built, building, -⟩ := fromSpecs_eq_ok accepted
    exact forms_of_addSpecs building
  · intro forms
    refine ⟨?_, fun rules => routesAs_text⟩
    obtain ⟨built, building⟩ := addSpecs_text forms ⟨[], [], .empty⟩
    have same := domainPatterns_text building
    constructor
    · rintro ⟨rules, accepted⟩
      obtain ⟨again, repeated, -, -, compiled⟩ := fromSpecs_eq_ok accepted
      have equal : built = again := Except.ok.inj (building.symm.trans repeated)
      rw [← equal, same] at compiled
      rcases compiled with ⟨empty, -⟩ | ⟨set, compiled, -⟩
      · exact Or.inl empty
      · exact Or.inr ⟨set, compiled⟩
    · intro compiles
      rw [fromSpecs, building]
      simp only [bind, Except.bind, same]
      by_cases empty : patterns forms = []
      · rw [if_pos (List.isEmpty_iff.mpr empty)]
        exact ⟨_, rfl⟩
      · obtain ⟨set, compiled⟩ := compiles.resolve_left empty
        rw [if_neg (fun none => empty (List.isEmpty_iff.mp none)), compiled]
        exact ⟨_, rfl⟩
  · intro forms spec rest other
    obtain ⟨causes, refused⟩ := parseSpec_eq_error other
    refine ⟨causes, ?_, parseSpec_names regex spec causes refused⟩
    rw [fromSpecs, addSpecs_error refused]
    rfl

/-- The literal regex engine compiles a pattern with a colon. -/
theorem colon_compiles : (MatchForm.domainRegex "a:b").WellFormed literalRegex := by
  rw [MatchForm.WellFormed]
  decide +kernel

/-- The pattern with a colon has no equals sign. -/
theorem colon_plain : '=' ∉ (MatchForm.domainRegex "a:b").value.toList := by decide

/-- Eight is a prefix length. -/
theorem eight_fits : 8 < 33 := by decide

/-- The network with a sign and a zero has no equals sign. -/
theorem signed_plain :
    '=' ∉ (MatchForm.cidr (.new 10 0 0 0) true 1 ⟨8, eight_fits⟩).value.toList := by
  decide +kernel

/-- A regex with a colon, and a network whose prefix length has a sign and a zero. -/
def writtenForms : List (RuleForm literalRegex) :=
  [⟨.domainRegex "a:b", .direct, colon_compiles, colon_plain⟩,
    ⟨.cidr (.new 10 0 0 0) true 1 ⟨8, eight_fits⟩, .direct, trivial, signed_plain⟩]

/-- A pattern with a colon and a prefix length with a sign are accepted and route as written. -/
theorem rules_route_as_written_signed :
    ∃ rules, fromSpecs literalRegex ["domain-regex:a:b=direct", "cidr:10.0.0.0/+08=direct"] =
      .ok rules ∧ Config.proxyFor ⟨.http "127.0.0.1:8080" none, rules⟩ (.domain "xa:by" 80) =
        some .direct := by
  have texts : writtenForms.map RuleForm.text =
      ["domain-regex:a:b=direct", "cidr:10.0.0.0/+08=direct"] := by decide +kernel
  have compiles : Compiles literalRegex (patterns writtenForms) := Or.inr ⟨_, rfl⟩
  obtain ⟨accepts, routed⟩ := (rules_route_as_written literalRegex).2.1 writtenForms
  obtain ⟨rules, accepted⟩ := accepts.mpr compiles
  have found : (writtenForms.find? (·.matchesHost "xa:by")).map (·.route.config) =
      some .direct := by decide +kernel
  have hosts := (routed rules accepted).hosts (.http "127.0.0.1:8080" none) "xa:by" 80
  rw [found] at hosts
  rw [texts] at accepted
  exact ⟨rules, accepted, hosts⟩

end RuleMatcher

end NsProxy
