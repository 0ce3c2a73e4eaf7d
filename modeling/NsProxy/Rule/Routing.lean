import NsProxy.Rule.Matcher

/-!
# Routing by mixed rule lists

Pattern and action vectors grow in two branches of the loop and meet again only by index.
The invariant of the loop is that both are projections of one list, the domain rules in
command-line order, and that the trie holds the IP rules in that order.
-/

namespace NsProxy.RuleMatcher

/-- The pattern and action that a domain spec contributes. -/
def domainEntry (regex : RegexApi) (spec : String) : Option (String × MatchAction) :=
  match parseSpec regex spec with
  | .ok (.domain domain, action) => some ("(?i)^" ++ regex.escape domain ++ "$", action)
  | .ok (.domainRegex pattern, action) => some (pattern, action)
  | _ => none

/-- The rule that an IP spec contributes. -/
def ipEntry (regex : RegexApi) (spec : String) : Option PrefixTrie.Rule :=
  match parseSpec regex spec with
  | .ok (.ip addr, action) => some ⟨addr.bits, Fin.last 32, action⟩
  | .ok (.cidr network prefixLen, action) => some ⟨network.bits, prefixLen, action⟩
  | _ => none

/-- A `domain` or `domain-regex` spec. -/
def isDomainSpec (regex : RegexApi) (spec : String) : Bool :=
  match parseSpec regex spec with
  | .ok (.domain _, _) | .ok (.domainRegex _, _) => true
  | _ => false

/-- An `ip` or `cidr` spec. -/
def isIpSpec (regex : RegexApi) (spec : String) : Bool :=
  match parseSpec regex spec with
  | .ok (.ip _, _) | .ok (.cidr _ _, _) => true
  | _ => false

/-- The proxy of a domain spec whose pattern matches a host: a literal up to case, a regex by
its own meaning. -/
def domainRoute (regex : RegexApi) (host spec : String) : Option ProxyConfig :=
  match parseSpec regex spec with
  | .ok (.domain domain, action) =>
    if domain.toList.map regex.caseFold = host.toList.map regex.caseFold then some action.proxy
    else none
  | .ok (.domainRegex pattern, action) =>
    if regex.isMatch pattern host then some action.proxy else none
  | _ => none

/-- What the loop adds to its variables: the entries of the specs, in order. -/
theorem addSpecs_eq {regex : RegexApi} {specs : List String} {rules built : Building}
    (accepted : addSpecs regex rules specs = .ok built) :
    built.domainPatterns =
      rules.domainPatterns ++ (specs.filterMap (domainEntry regex)).map Prod.fst ∧
    built.domainActions =
      rules.domainActions ++ (specs.filterMap (domainEntry regex)).map Prod.snd ∧
    built.cidr = (specs.filterMap (ipEntry regex)).foldl
      (fun trie rule => trie.insert rule.value rule.prefixLen rule.action) rules.cidr := by
  induction specs generalizing rules with
  | nil =>
    cases accepted
    simp
  | cons spec rest ih =>
    rw [addSpecs] at accepted
    cases parsed : parseSpec regex spec with
    | error causes =>
      rw [parsed] at accepted
      contradiction
    | ok rule =>
      obtain ⟨matched, action⟩ := rule
      rw [parsed] at accepted
      obtain ⟨patterns, actions, trie⟩ := ih accepted
      rw [patterns, actions, trie]
      cases matched <;>
        simp [addRule, domainEntry, ipEntry, parsed, List.append_assoc]

/-- A matcher has the variables of the loop, with its patterns compiled if there are any. -/
theorem fromSpecs_eq_ok {regex : RegexApi} {specs : List String} {rules : RuleMatcher regex}
    (accepted : fromSpecs regex specs = .ok rules) :
    ∃ built, addSpecs regex ⟨[], [], .empty⟩ specs = .ok built ∧
      rules.domainActions = built.domainActions ∧ rules.cidr = built.cidr ∧
      ((built.domainPatterns = [] ∧ rules.domains = none) ∨
        ∃ set, regex.newSet built.domainPatterns = .ok set ∧ rules.domains = some set) := by
  unfold fromSpecs at accepted
  obtain ⟨built, building, accepted⟩ := Error.bind_eq_ok.mp accepted
  refine ⟨built, building, ?_⟩
  split at accepted
  · next empty =>
    rw [← Except.ok.inj accepted]
    exact ⟨rfl, rfl, Or.inl ⟨List.isEmpty_iff.mp empty, rfl⟩⟩
  · split at accepted
    · contradiction
    · next set compiled =>
      rw [← Except.ok.inj accepted]
      exact ⟨rfl, rfl, Or.inr ⟨set, compiled, rfl⟩⟩

/-- Looking a list up by the first index that passes a test is finding the first such
element. -/
theorem find?_range_getElem? {α : Type} (list : List α) (test : α → Bool) :
    ((List.range list.length).find? fun index => (list[index]?).any test).bind (list[·]?) =
      list.find? test := by
  induction list with
  | nil => rfl
  | cons head tail ih =>
    rw [List.length_cons, List.range_succ_eq_map, List.find?_cons, List.find?_cons, List.find?_map]
    cases first : test head with
    | true => simp [first]
    | false =>
      have shifted : (fun index => ((head :: tail)[index]?).any test) ∘ Nat.succ =
          fun index => (tail[index]?).any test := rfl
      rw [shifted, ← ih]
      simp [first, Option.bind_map]

/-- A matcher looks hosts up in the list of its domain entries. -/
theorem matchDomain_eq {regex : RegexApi} {specs : List String} {rules : RuleMatcher regex}
    (accepted : fromSpecs regex specs = .ok rules) (host : String) :
    rules.matchDomain host =
      some (((specs.filterMap (domainEntry regex)).find? fun entry =>
        regex.isMatch entry.1 host).map fun entry => entry.2.proxy) := by
  obtain ⟨built, building, actions, -, domains⟩ := fromSpecs_eq_ok accepted
  obtain ⟨patterns, routes, -⟩ := addSpecs_eq building
  rw [List.nil_append] at patterns routes
  generalize specs.filterMap (domainEntry regex) = entries at patterns routes ⊢
  rcases domains with ⟨empty, unset⟩ | ⟨set, compiled, domains⟩
  · rw [patterns, List.map_eq_nil_iff] at empty
    simp [matchDomain, unset, empty]
  · rw [patterns] at compiled
    have first := find?_range_getElem? entries fun entry => regex.isMatch entry.1 host
    rw [matchDomain, domains, actions, routes]
    simp only [Option.bind_some, regex.matchIndices_eq _ _ host compiled, List.head?_filter,
      List.length_map, List.getElem?_map, Option.any_map]
    rw [← first]
    cases found : (List.range entries.length).find? fun index =>
        (entries[index]?).any fun entry => regex.isMatch entry.1 host with
    | none => rfl
    | some index =>
      have inside := List.find?_some found
      cases here : entries[index]? with
      | none =>
        rw [here] at inside
        contradiction
      | some entry => simp [here]

/-- A spec routes a host exactly when its entry's pattern matches. -/
theorem domainRoute_eq (regex : RegexApi) (host spec : String) :
    domainRoute regex host spec = (domainEntry regex spec).bind fun entry =>
      if regex.isMatch entry.1 host then some entry.2.proxy else none := by
  unfold domainEntry domainRoute
  split
  · simp [regex.isMatch_literal]
  · rfl
  · rfl

/-- The first matching entry of a list of specs is the first spec that routes the host. -/
theorem find?_domainEntry (regex : RegexApi) (host : String) (specs : List String) :
    ((specs.filterMap (domainEntry regex)).find? fun entry =>
      regex.isMatch entry.1 host).map (fun entry => entry.2.proxy) =
      specs.findSome? (domainRoute regex host) := by
  induction specs with
  | nil => rfl
  | cons spec rest ih =>
    rw [List.filterMap_cons, List.findSome?_cons, domainRoute_eq, ← ih]
    cases domainEntry regex spec with
    | none => rfl
    | some entry =>
      cases matched : regex.isMatch entry.1 host <;> simp [matched]

/-- A matcher holds the IP rules of its specs in order. -/
theorem cidr_eq {regex : RegexApi} {specs : List String} {rules : RuleMatcher regex}
    (accepted : fromSpecs regex specs = .ok rules) :
    rules.cidr = PrefixTrie.insertAll (specs.filterMap (ipEntry regex)) := by
  obtain ⟨built, building, -, cidr, -⟩ := fromSpecs_eq_ok accepted
  rw [cidr]
  exact (addSpecs_eq building).2.2

/-- Only the specs of one kind contribute to the entries of that kind. -/
theorem filterMap_filter {α β : Type} (entry : α → Option β) (kind : α → Bool)
    (exact : ∀ spec, (entry spec).isSome = kind spec) (specs : List α) :
    specs.filterMap entry = (specs.filter kind).filterMap entry := by
  rw [List.filterMap_filter]
  congr 1
  funext spec
  have same := exact spec
  cases contributed : entry spec <;> simp_all

/-- A rule adds an entry for domains exactly where it is about domains. -/
theorem isSome_domainEntry (regex : RegexApi) (spec : String) :
    (domainEntry regex spec).isSome = isDomainSpec regex spec := by
  unfold domainEntry isDomainSpec
  split <;> simp_all

/-- A rule adds an entry for addresses exactly where it is about addresses. -/
theorem isSome_ipEntry (regex : RegexApi) (spec : String) :
    (ipEntry regex spec).isSome = isIpSpec regex spec := by
  unfold ipEntry isIpSpec
  split <;> simp_all

/-- A fallback is the value for every choice of it exactly when there is nothing to fall back
from. -/
theorem getD_eq_self_iff (matched : Option ProxyConfig) :
    (∀ fallback, matched.getD fallback = fallback) ↔ matched = none := by
  constructor
  · intro always
    cases matched with
    | none => rfl
    | some proxy =>
      have direct := always .direct
      have http := always (.http "" none)
      rw [Option.getD_some] at direct http
      rw [direct] at http
      contradiction
  · rintro rfl fallback
    rfl

/-- For every accepted list of specs: a host is routed by the first domain spec whose pattern
matches it, without a panic; two accepted lists with the same domain specs in the same order
route every host alike, and two with the same IP specs every address; and `proxy_for` asks
only the lookup of the target's kind and falls back to the default exactly when that finds
nothing. -/
theorem mixed_rule_list_routing (regex : RegexApi) (specs : List String)
    (rules : RuleMatcher regex) (accepted : fromSpecs regex specs = .ok rules) :
    (∀ host, rules.matchDomain host = some (specs.findSome? (domainRoute regex host))) ∧
    (∀ others otherRules, fromSpecs regex others = .ok otherRules →
      specs.filter (isDomainSpec regex) = others.filter (isDomainSpec regex) →
      ∀ host, rules.matchDomain host = otherRules.matchDomain host) ∧
    (∀ others otherRules, fromSpecs regex others = .ok otherRules →
      specs.filter (isIpSpec regex) = others.filter (isIpSpec regex) →
      ∀ ip, rules.matchIp ip = otherRules.matchIp ip) ∧
    (∀ host port, ∃ matched, rules.matchDomain host = some matched ∧
      (∀ fallback, Config.proxyFor ⟨fallback, rules⟩ (.domain host port) =
        some (matched.getD fallback)) ∧
      ((∀ fallback, Config.proxyFor ⟨fallback, rules⟩ (.domain host port) = some fallback) ↔
        matched = none)) ∧
    (∀ ip port,
      (∀ fallback, Config.proxyFor ⟨fallback, rules⟩ (.ip (.v4 ip) port) =
        some ((rules.matchIp ip).getD fallback)) ∧
      ((∀ fallback, Config.proxyFor ⟨fallback, rules⟩ (.ip (.v4 ip) port) = some fallback) ↔
        rules.matchIp ip = none)) := by
  refine ⟨?_, ?_, ?_, ?_, ?_⟩
  · intro host
    rw [matchDomain_eq accepted, find?_domainEntry]
  · intro others otherRules otherAccepted same host
    rw [matchDomain_eq accepted, matchDomain_eq otherAccepted,
      filterMap_filter _ _ (isSome_domainEntry regex), same,
      ← filterMap_filter _ _ (isSome_domainEntry regex)]
  · intro others otherRules otherAccepted same ip
    rw [matchIp, matchIp, cidr_eq accepted, cidr_eq otherAccepted,
      filterMap_filter _ _ (isSome_ipEntry regex), same,
      ← filterMap_filter _ _ (isSome_ipEntry regex)]
  · intro host port
    refine ⟨_, matchDomain_eq accepted host, ?_, ?_⟩
    · intro fallback
      simp [Config.proxyFor, matchDomain_eq accepted host]
    · simp only [Config.proxyFor, matchDomain_eq accepted host, Option.map_some, Option.some.injEq]
      exact getD_eq_self_iff _
  · intro ip port
    refine ⟨fun fallback => rfl, ?_⟩
    simp only [Config.proxyFor, Option.map_some, Option.some.injEq]
    exact getD_eq_self_iff _

end NsProxy.RuleMatcher

namespace NsProxy

/-- A configuration as the program makes it: its rules were built from specs. -/
structure AppConfig (regex : RegexApi) extends Config regex where
  /-- The specs of the command line. -/
  specs : List String
  /-- The rules are those of the specs. -/
  accepted : RuleMatcher.fromSpecs regex specs = .ok rules

/-- An empty list of specs is accepted as rules that match nothing. -/
theorem RuleMatcher.fromSpecs_nil (regex : RegexApi) :
    RuleMatcher.fromSpecs regex [] = .ok ⟨none, [], .empty⟩ := rfl

/-- A configuration without rules. -/
def AppConfig.withoutRules (regex : RegexApi) (proxy : ProxyConfig) : AppConfig regex where
  defaultProxy := proxy
  rules := ⟨none, [], .empty⟩
  specs := []
  accepted := RuleMatcher.fromSpecs_nil regex

/-- Routing with such rules does not panic. -/
theorem AppConfig.proxyFor_ok {regex : RegexApi} (config : AppConfig regex)
    (target : ProxyTarget) : ∃ proxy, config.toConfig.proxyFor target = some proxy := by
  cases target with
  | domain host port =>
    have found := RuleMatcher.matchDomain_eq config.accepted host
    simp only [Config.proxyFor, found]
    exact ⟨_, rfl⟩
  | ip addr port =>
    cases addr with
    | v4 v4 => exact ⟨_, rfl⟩
    | v6 v6 => exact ⟨_, rfl⟩

end NsProxy

namespace NsProxy.RuleMatcher

/-! ## A regex engine for literals -/

/-- `regex_syntax::is_meta_character`. -/
def isMetaCharacter (char : Char) : Bool :=
  ['\\', '.', '+', '*', '?', '(', ')', '|', '[', ']', '\x7b', '\x7d', '^', '$', '#', '&', '-',
    '~'].contains char

/-- `regex::escape`: a backslash before every meta character. -/
def escapeLiteral (text : String) : String :=
  String.ofList (text.toList.flatMap fun char =>
    if isMetaCharacter char then ['\\', char] else [char])

/-- The text that an escaped literal stands for. -/
def unescape : List Char → Option (List Char)
  | [] => some []
  | '\\' :: char :: rest => (unescape rest).map (char :: ·)
  | char :: rest => if isMetaCharacter char then none else (unescape rest).map (char :: ·)

/-- The literal of an anchored case-insensitive pattern. -/
def anchoredLiteral (pattern : String) : Option (List Char) :=
  (Text.stripPrefix pattern "(?i)^").bind fun rest =>
    if rest.toList.getLast? = some '$' then unescape rest.toList.dropLast else none

/-- What is escaped is read back character by character. -/
theorem unescape_escape (chars : List Char) :
    unescape (chars.flatMap fun char =>
      if isMetaCharacter char then ['\\', char] else [char]) = some chars := by
  induction chars with
  | nil => rfl
  | cons char rest ih =>
    rw [List.flatMap_cons]
    by_cases special : isMetaCharacter char = true
    · simp [special, unescape, ih]
    · have plain : char ≠ '\\' := by
        rintro rfl
        exact special rfl
      rw [if_neg special, List.singleton_append, unescape.eq_def]
      split
      · contradiction
      · simp_all
      · simp_all

/-- An escaped literal between the anchors is read back as the literal. -/
theorem anchoredLiteral_escape (literal : String) :
    anchoredLiteral ("(?i)^" ++ escapeLiteral literal ++ "$") = some literal.toList := by
  have stripped : Text.stripPrefix ("(?i)^" ++ escapeLiteral literal ++ "$") "(?i)^" =
      some (escapeLiteral literal ++ "$") :=
    Text.stripPrefix_eq_some_iff.mpr (String.append_assoc ..)
  rw [anchoredLiteral, stripped, Option.bind_some, String.toList_append]
  simp [escapeLiteral, unescape_escape]

/-- Plain text matches where it occurs, an anchored literal matches up to ASCII case. -/
def literalIsMatch (pattern text : String) : Bool :=
  match anchoredLiteral pattern with
  | some literal => literal.map Char.toLower = text.toList.map Char.toLower
  | none => text.toList.tails.any pattern.toList.isPrefixOf

/-- A regex engine for plain text and anchored literals that refuses every other pattern. -/
def literalRegex : RegexApi where
  RegexSet := List String
  newError pattern :=
    if (anchoredLiteral pattern).isSome || !pattern.toList.any isMetaCharacter then none
    else some "unsupported pattern"
  escape := escapeLiteral
  isMatch := literalIsMatch
  newSet := .ok
  matchIndices set text :=
    (List.range set.length).filter fun index => (set[index]?).any (literalIsMatch · text)
  caseFold := Char.toLower
  matchIndices_eq := by
    intro patterns set text compiled
    cases compiled
    rfl
  isMatch_literal := by
    intro literal text
    simp only [literalIsMatch, anchoredLiteral_escape]

/-- A literal of another case routes a host although an address rule stands before it. -/
theorem mixed_rule_list_routing_literal :
    let specs := ["ip:1.2.3.4=http://127.0.0.1:8080", "domain:Example.COM=direct"]
    ∃ rules, fromSpecs literalRegex specs = .ok rules ∧
      rules.matchDomain "example.com" = some (some .direct) := by
  intro specs
  have routed : specs.findSome? (domainRoute literalRegex "example.com") = some .direct := by
    decide +kernel
  cases accepted : fromSpecs literalRegex specs with
  | error causes =>
    have ok : (fromSpecs literalRegex specs).isOk = true := by decide +kernel
    rw [accepted] at ok
    exact absurd ok Bool.false_ne_true
  | ok rules =>
    refine ⟨rules, rfl, ?_⟩
    rw [(mixed_rule_list_routing literalRegex specs rules accepted).1 "example.com", routed]

end NsProxy.RuleMatcher
