import NsProxy.Proxy.Parse
import NsProxy.Rule.PrefixTrie

/-!
# The rule matcher

`RuleMatch`, `RuleMatcher` of `rule.rs` and `Config::proxy_for` of `config.rs`. The regex
crate is not part of the program: the matcher is written over a record of the operations it
calls, with what their documentation promises.
-/

namespace NsProxy

/-- The operations of the regex crate that the program uses, with their documented
behaviour. -/
structure RegexApi where
  /-- `RegexSet`. -/
  RegexSet : Type
  /-- The error of `Regex::new`, if the pattern has one. -/
  newError : String → Option String
  /-- `regex::escape`. -/
  escape : String → String
  /-- Whether a pattern matches somewhere in a text. -/
  isMatch : String → String → Bool
  /-- `RegexSet::new`, or the text of its error. -/
  newSet : List String → Except String RegexSet
  /-- `RegexSet::matches(..).iter()`. -/
  matchIndices : RegexSet → String → List Nat
  /-- Unicode simple case folding. -/
  caseFold : Char → Char
  /-- A set reports exactly the indices of its matching patterns, in ascending order. -/
  matchIndices_eq : ∀ patterns set text, newSet patterns = .ok set →
    matchIndices set text = (List.range patterns.length).filter fun index =>
      (patterns[index]?).any (isMatch · text)
  /-- An anchored case-insensitive literal matches the texts equal to it up to case. -/
  isMatch_literal : ∀ literal text, isMatch ("(?i)^" ++ escape literal ++ "$") text =
    decide (literal.toList.map caseFold = text.toList.map caseFold)

/-- `RuleMatch`: what a rule matches. -/
inductive RuleMatch
  | ip (addr : Ipv4Addr)
  | cidr (network : Ipv4Addr) (prefixLen : Fin 33)
  | domain (domain : String)
  | domainRegex (pattern : String)
  deriving DecidableEq, Repr

/-- The `cidr` branch of `RuleMatch::parse`. -/
def RuleMatch.parseCidr (spec value : String) : Except Error RuleMatch := do
  let (network, prefixText) ← Error.contextOption s!"rule '{spec}': CIDR must be 'addr/prefix'"
    (Text.splitOnce value '/')
  let network ← Error.context
    s!"rule '{spec}': invalid IPv4 CIDR network (IPv6 is not supported)" (Ipv4Addr.parse network)
  let prefixLen ← Error.context s!"rule '{spec}': invalid CIDR prefix" (parseU8 prefixText)
  if small : prefixLen.toNat < 33 then return .cidr network ⟨prefixLen.toNat, small⟩
  else Error.bail s!"rule '{spec}': prefix /{prefixLen} out of range (max /32)"

/-- `RuleMatch::parse`. -/
def RuleMatch.parse (regex : RegexApi) (spec : String) : Except Error RuleMatch := do
  let (kind, value) ← Error.contextOption s!"rule '{spec}' is missing a '<kind>:' prefix"
    (Text.splitOnce spec ':')
  if kind = "ip" then
    let addr ← Error.context s!"rule '{spec}': invalid IPv4 address (IPv6 is not supported)"
      (Ipv4Addr.parse value)
    return .ip addr
  else if kind = "cidr" then parseCidr spec value
  else if kind = "domain" then
    if value.isEmpty then Error.bail s!"rule '{spec}': empty domain"
    else return .domain value
  else if kind = "domain-regex" then
    match regex.newError value with
    | some cause => .error [s!"rule '{spec}': invalid regex", cause]
    | none => return .domainRegex value
  else
    Error.bail
      s!"rule '{spec}': unknown kind '{kind}' (expected ip / cidr / domain / domain-regex)"

/-- `RuleMatcher`: the domain patterns and their actions by index, and the IP rules. -/
structure RuleMatcher (regex : RegexApi) where
  /-- `domains`. -/
  domains : Option regex.RegexSet
  /-- `domain_actions`. -/
  domainActions : List MatchAction
  /-- `cidr`. -/
  cidr : PrefixTrie

namespace RuleMatcher

/-- The local variables of the loop of `from_specs`. -/
structure Building where
  /-- `domain_patterns`. -/
  domainPatterns : List String
  /-- `domain_actions`. -/
  domainActions : List MatchAction
  /-- `cidr`. -/
  cidr : PrefixTrie

/-- One spec, split and parsed. -/
def parseSpec (regex : RegexApi) (fullSpec : String) : Except Error (RuleMatch × MatchAction) := do
  let (matchSpec, proxySpec) ← Error.contextOption s!"rule '{fullSpec}' must use '<match>=<proxy>'"
    (Text.splitOnce fullSpec '=')
  if matchSpec.isEmpty then Error.bail s!"rule '{fullSpec}': empty match"
  else if proxySpec.isEmpty then Error.bail s!"rule '{fullSpec}': empty proxy"
  else
    let proxy ← Error.context s!"rule '{fullSpec}': invalid proxy" (ProxyConfig.parse proxySpec)
    let matched ← RuleMatch.parse regex matchSpec
    return (matched, ⟨proxy⟩)

/-- The `match` at the end of the loop body of `from_specs`. -/
def addRule (regex : RegexApi) (rules : Building) : RuleMatch → MatchAction → Building
  | .ip addr, action => { rules with cidr := rules.cidr.insert addr.bits 32 action }
  | .cidr network prefixLen, action =>
    { rules with cidr := rules.cidr.insert network.bits prefixLen action }
  | .domain domain, action =>
    { rules with
      domainPatterns := rules.domainPatterns ++ ["(?i)^" ++ regex.escape domain ++ "$"]
      domainActions := rules.domainActions ++ [action] }
  | .domainRegex pattern, action =>
    { rules with
      domainPatterns := rules.domainPatterns ++ [pattern]
      domainActions := rules.domainActions ++ [action] }

/-- The loop of `from_specs`. -/
def addSpecs (regex : RegexApi) : Building → List String → Except Error Building
  | rules, [] => .ok rules
  | rules, fullSpec :: rest => do
    let (matched, action) ← parseSpec regex fullSpec
    addSpecs regex (addRule regex rules matched action) rest

/-- `RuleMatcher::from_specs`. -/
def fromSpecs (regex : RegexApi) (specs : List String) : Except Error (RuleMatcher regex) := do
  let built ← addSpecs regex ⟨[], [], .empty⟩ specs
  if built.domainPatterns.isEmpty then return ⟨none, built.domainActions, built.cidr⟩
  else
    match regex.newSet built.domainPatterns with
    | .error cause => .error ["compile rule RegexSet", cause]
    | .ok set => return ⟨some set, built.domainActions, built.cidr⟩

/-- `RuleMatcher::match_domain`; `none` outside is the panic of an index out of range. -/
def matchDomain {regex : RegexApi} (rules : RuleMatcher regex) (host : String) :
    Option (Option ProxyConfig) :=
  match rules.domains.bind fun set => (regex.matchIndices set host).head? with
  | none => some none
  | some index => (rules.domainActions[index]?).map fun action => some action.proxy

/-- `RuleMatcher::match_ip`. -/
def matchIp {regex : RegexApi} (rules : RuleMatcher regex) (ip : Ipv4Addr) : Option ProxyConfig :=
  (rules.cidr.get ip.bits).map MatchAction.proxy

end RuleMatcher

/-- The fields of `Config` that routing reads. -/
structure Config (regex : RegexApi) where
  /-- `default_proxy`. -/
  defaultProxy : ProxyConfig
  /-- `rules`. -/
  rules : RuleMatcher regex

/-- `Config::proxy_for`; `none` is a panic inside `match_domain`. -/
def Config.proxyFor {regex : RegexApi} (config : Config regex) (target : ProxyTarget) :
    Option ProxyConfig :=
  let matched := match target with
    | .domain host _ => config.rules.matchDomain host
    | .ip (.v4 v4) _ => some (config.rules.matchIp v4)
    | .ip (.v6 _) _ => some none
  matched.map (·.getD config.defaultProxy)

end NsProxy
