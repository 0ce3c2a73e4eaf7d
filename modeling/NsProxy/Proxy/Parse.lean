import NsProxy.Net.Parse
import NsProxy.Proxy.Target

/-!
# Proxy URLs

`ProxyConfig::parse` of `proxy/mod.rs`: the scheme, the optional credentials in front of the
last `@`, and the check of the address, which is a `SocketAddr` or a hostname and a port. The
URLs as they are written are `ProxyUrl`s; the parser accepts exactly their texts, and separators
inside the credentials do not move the split.
-/

namespace NsProxy.ProxyConfig

/-- The local `Kind` of `parse`. -/
inductive Kind
  | socks5
  | http
  deriving DecidableEq

/-- The scheme of a URL and what follows it. -/
def parseScheme (value : String) : Option (Kind × String) :=
  ((Text.stripPrefix value "socks5://").map (Kind.socks5, ·)).or
    (((Text.stripPrefix value "socks://").map (Kind.socks5, ·)).or
      ((Text.stripPrefix value "http://").map (Kind.http, ·)))

/-- The credentials in front of the last `@`, and the address. -/
def parseAuth (rest : String) : Except Error (Option (String × String) × String) :=
  match Text.rsplitOnce rest '@' with
  | none => .ok (none, rest)
  | some (authStr, hostPort) =>
    let (user, pass) := (Text.splitOnce authStr ':').getD (authStr, "")
    if user.isEmpty then Error.bail "empty username in proxy URL"
    else .ok (some (user, pass), hostPort)

/-- A hostname that `parse` refuses. -/
def invalidHostname (host : String) : Bool :=
  host.isEmpty || host.toList.any [':', '/', '?', '#', '[', ']'].contains ||
    host.toList.any Text.isWhitespace

/-- The check of the address. -/
def checkAddress (hostPort : String) : Except Error Unit :=
  if isSocketAddr hostPort then .ok ()
  else do
    let (host, port) ← Error.contextOption s!"invalid proxy address: '{hostPort}'"
      (Text.rsplitOnce hostPort ':')
    if invalidHostname host then
      Error.bail s!"invalid proxy hostname: '{host}'"
    else
      let _ ← Error.context s!"invalid proxy port: '{port}'" (parseU16 port)
      return ()

/-- `ProxyConfig::parse`. -/
def parse (value : String) : Except Error ProxyConfig :=
  if value = "direct" then .ok .direct
  else
    match parseScheme value with
    | none =>
      Error.bail s!"unsupported proxy '{value}'; use direct, socks5://, socks://, or http://"
    | some (kind, rest) => do
      let (auth, hostPort) ← parseAuth rest
      checkAddress hostPort
      return match kind with
        | .socks5 => .socks5 hostPort auth
        | .http => .http hostPort auth

/-- The route through a proxy of a kind. -/
def Kind.route (addr : String) (auth : Option (String × String)) : Kind → ProxyConfig
  | socks5 => .socks5 addr auth
  | http => .http addr auth

/-- The address of a route through a proxy. -/
def addr : ProxyConfig → Option String
  | direct => none
  | socks5 addr _ => some addr
  | http addr _ => some addr

/-- The credentials of a route. -/
def auth : ProxyConfig → Option (String × String)
  | direct => none
  | socks5 _ auth => auth
  | http _ auth => auth

/-- The route without its credentials. -/
def eraseAuth : ProxyConfig → ProxyConfig
  | direct => direct
  | socks5 addr _ => socks5 addr none
  | http addr _ => http addr none

end NsProxy.ProxyConfig

namespace NsProxy

open ProxyConfig

/-! ## URLs as they are written -/

/-- The schemes of proxy URLs. -/
inductive Scheme
  | socks5
  | socks
  | http
  deriving DecidableEq

namespace Scheme

/-- The scheme with its separator. -/
def text : Scheme → String
  | socks5 => "socks5://"
  | socks => "socks://"
  | http => "http://"

/-- The kind of proxy that a scheme stands for. -/
def kind : Scheme → Kind
  | socks5 => .socks5
  | socks => .socks5
  | http => .http

end Scheme

/-- The credentials of a URL. -/
inductive Credentials
  | absent
  | username (user : String)
  | usernamePassword (user pass : String)
  deriving DecidableEq

namespace Credentials

/-- The credentials in front of the address. -/
def text : Credentials → String
  | absent => ""
  | username user => user ++ "@"
  | usernamePassword user pass => user ++ ":" ++ pass ++ "@"

/-- The username and the password. -/
def auth : Credentials → Option (String × String)
  | absent => none
  | username user => some (user, "")
  | usernamePassword user pass => some (user, pass)

/-- A username is not empty and has no colon; the rest is free. -/
def WellFormed (credentials : Credentials) : Prop :=
  ∀ user pass, credentials.auth = some (user, pass) → user ≠ "" ∧ ':' ∉ user.toList

end Credentials

/-- A proxy URL. -/
structure ProxyUrl where
  /-- The scheme. -/
  scheme : Scheme
  /-- The credentials. -/
  credentials : Credentials
  /-- The address. -/
  hostPort : String
  /-- The credentials can be told from the address. -/
  credentialsFormed : credentials.WellFormed
  /-- The address has no separator of credentials. -/
  plain : '@' ∉ hostPort.toList
  /-- The address passes the check. -/
  checked : checkAddress hostPort = .ok ()

namespace ProxyUrl

/-- The URL as it is written. -/
def text (url : ProxyUrl) : String := url.scheme.text ++ url.credentials.text ++ url.hostPort

/-- The route that the URL stands for. -/
def config (url : ProxyUrl) : ProxyConfig := url.scheme.kind.route url.hostPort url.credentials.auth

end ProxyUrl

/-! ## What the parser accepts -/

/-- The scheme and what follows it are found exactly where they are written. -/
theorem parseScheme_eq_some_iff {value rest : String} {kind : Kind} :
    parseScheme value = some (kind, rest) ↔
      ∃ scheme : Scheme, scheme.kind = kind ∧ value = scheme.text ++ rest := by
  unfold parseScheme
  constructor
  · intro found
    rw [Option.or_eq_some_iff, Option.or_eq_some_iff] at found
    rcases found with first | ⟨_, second | ⟨_, third⟩⟩
    · obtain ⟨tail, stripped, same⟩ := Option.map_eq_some_iff.mp first
      rw [Prod.mk.injEq] at same
      refine ⟨.socks5, same.1, ?_⟩
      rw [Text.stripPrefix_eq_some_iff.mp stripped, same.2]
      rfl
    · obtain ⟨tail, stripped, same⟩ := Option.map_eq_some_iff.mp second
      rw [Prod.mk.injEq] at same
      refine ⟨.socks, same.1, ?_⟩
      rw [Text.stripPrefix_eq_some_iff.mp stripped, same.2]
      rfl
    · obtain ⟨tail, stripped, same⟩ := Option.map_eq_some_iff.mp third
      rw [Prod.mk.injEq] at same
      refine ⟨.http, same.1, ?_⟩
      rw [Text.stripPrefix_eq_some_iff.mp stripped, same.2]
      rfl
  · rintro ⟨scheme, rfl, rfl⟩
    -- No scheme is the start of another one, so an earlier test does not take a later URL.
    cases scheme <;> simp [Scheme.text, Scheme.kind, Text.stripPrefix, List.isPrefixOf?]

/-- The credentials of a well-formed URL are split off at the last separator, and are split
themselves at the first colon. -/
theorem parseAuth_written {credentials : Credentials} {hostPort : String}
    (formed : credentials.WellFormed) (plain : '@' ∉ hostPort.toList) :
    parseAuth (credentials.text ++ hostPort) = .ok (credentials.auth, hostPort) := by
  unfold parseAuth
  cases credentials with
  | absent =>
    have unsplit : Text.rsplitOnce (Credentials.absent.text ++ hostPort) '@' = none := by
      rw [Text.rsplitOnce_eq_none_iff]
      simpa [Credentials.text] using plain
    rw [unsplit]
    simp [Credentials.text, Credentials.auth]
  | username user =>
    obtain ⟨nonempty, noColon⟩ := formed user "" rfl
    have split : Text.rsplitOnce ((Credentials.username user).text ++ hostPort) '@' =
        some (user, hostPort) := Text.rsplitOnce_eq_some_iff.mpr ⟨rfl, plain⟩
    have whole : Text.splitOnce user ':' = none := Text.splitOnce_eq_none_iff.mpr noColon
    simp [split, whole, nonempty, Credentials.auth]
  | usernamePassword user pass =>
    obtain ⟨nonempty, noColon⟩ := formed user pass rfl
    have split : Text.rsplitOnce ((Credentials.usernamePassword user pass).text ++ hostPort) '@' =
        some (user ++ ":" ++ pass, hostPort) := Text.rsplitOnce_eq_some_iff.mpr ⟨rfl, plain⟩
    have named : Text.splitOnce (user ++ ":" ++ pass) ':' = some (user, pass) :=
      Text.splitOnce_eq_some_iff.mpr ⟨rfl, noColon⟩
    simp [split, named, nonempty, Credentials.auth]

/-- Accepted credentials are written in front of the address in one of the three ways. -/
theorem parseAuth_sound {rest hostPort : String} {auth : Option (String × String)}
    (accepted : parseAuth rest = .ok (auth, hostPort)) :
    ∃ credentials : Credentials, credentials.WellFormed ∧ credentials.auth = auth ∧
      '@' ∉ hostPort.toList ∧ rest = credentials.text ++ hostPort := by
  unfold parseAuth at accepted
  split at accepted
  · rename_i unsplit
    rw [Except.ok.injEq, Prod.mk.injEq] at accepted
    obtain ⟨rfl, rfl⟩ := accepted
    refine ⟨.absent, ?_, rfl, Text.rsplitOnce_eq_none_iff.mp unsplit, by simp [Credentials.text]⟩
    intro user pass present
    contradiction
  · rename_i authStr address split
    obtain ⟨whole, plain⟩ := Text.rsplitOnce_eq_some_iff.mp split
    cases named : Text.splitOnce authStr ':' with
    | none =>
      simp only [named, Option.getD_none] at accepted
      split at accepted
      · simp [Error.bail] at accepted
      · rename_i nonempty
        rw [Except.ok.injEq, Prod.mk.injEq] at accepted
        obtain ⟨rfl, rfl⟩ := accepted
        refine ⟨.username authStr, ?_, rfl, plain, whole⟩
        intro user pass present
        simp only [Credentials.auth, Option.some.injEq, Prod.mk.injEq] at present
        rw [← present.1]
        exact ⟨by simpa using nonempty, Text.splitOnce_eq_none_iff.mp named⟩
    | some parts =>
      obtain ⟨user, pass⟩ := parts
      obtain ⟨joined, noColon⟩ := Text.splitOnce_eq_some_iff.mp named
      simp only [named, Option.getD_some] at accepted
      split at accepted
      · simp [Error.bail] at accepted
      · rename_i nonempty
        rw [Except.ok.injEq, Prod.mk.injEq] at accepted
        obtain ⟨rfl, rfl⟩ := accepted
        refine ⟨.usernamePassword user pass, ?_, rfl, plain, by rw [whole, joined]; rfl⟩
        intro other word present
        simp only [Credentials.auth, Option.some.injEq, Prod.mk.injEq] at present
        rw [← present.1]
        exact ⟨by simpa using nonempty, noColon⟩

/-- A URL is accepted as the route that it stands for. -/
theorem parse_text (url : ProxyUrl) : parse url.text = .ok url.config := by
  have named : parseScheme url.text =
      some (url.scheme.kind, url.credentials.text ++ url.hostPort) := by
    apply parseScheme_eq_some_iff.mpr
    exact ⟨url.scheme, rfl, by rw [ProxyUrl.text, String.append_assoc]⟩
  have other : url.text ≠ "direct" := by
    intro same
    rw [same] at named
    contradiction
  unfold parse
  rw [if_neg other, named]
  simp only [parseAuth_written url.credentialsFormed url.plain, url.checked, bind, Except.bind,
    pure, Except.pure, ProxyUrl.config, Kind.route]

/-- Every accepted text but `direct` is a URL. -/
theorem parse_sound {value : String} {config : ProxyConfig} (accepted : parse value = .ok config)
    (proxied : value ≠ "direct") : ∃ url : ProxyUrl, value = url.text ∧ config = url.config := by
  unfold parse at accepted
  rw [if_neg proxied] at accepted
  split at accepted
  · simp [Error.bail] at accepted
  · rename_i kind rest named
    obtain ⟨scheme, sameKind, whole⟩ := parseScheme_eq_some_iff.mp named
    obtain ⟨parts, authorised, accepted⟩ := Error.bind_eq_ok.mp accepted
    obtain ⟨auth, hostPort⟩ := parts
    obtain ⟨_, checked, accepted⟩ := Error.bind_eq_ok.mp accepted
    obtain ⟨credentials, formed, sameAuth, plain, written⟩ := parseAuth_sound authorised
    refine ⟨⟨scheme, credentials, hostPort, formed, plain, checked⟩, ?_, ?_⟩
    · rw [whole, written, ProxyUrl.text, String.append_assoc]
    · rw [← Except.ok.inj accepted, ← sameKind, ← sameAuth, ProxyUrl.config]
      cases scheme <;> rfl

/-- The URL that `Display` writes for the route of a URL. -/
def ProxyUrl.displayed (url : ProxyUrl) : ProxyUrl where
  scheme := match url.scheme.kind with
    | .socks5 => .socks5
    | .http => .http
  credentials := .absent
  hostPort := url.hostPort
  credentialsFormed := fun _ _ present => nomatch present
  plain := url.plain
  checked := url.checked

/-- A configuration is displayed without the credentials of its URL. -/
theorem toText_config (url : ProxyUrl) : url.config.toText = url.displayed.text := by
  rw [ProxyUrl.config, ProxyUrl.text, ProxyUrl.displayed]
  cases url.scheme <;> simp [Scheme.kind, Kind.route, toText, Scheme.text, Credentials.text]

/-- What is displayed is parsed as the configuration without its credentials. -/
theorem config_displayed (url : ProxyUrl) : url.displayed.config = url.config.eraseAuth := by
  rw [ProxyUrl.config, ProxyUrl.config, ProxyUrl.displayed]
  cases url.scheme <;> rfl

/-- The parser reads proxy URLs as they are written: it accepts the text of every URL as the
route of that URL, every text that it accepts is `direct` or the text of a URL, no address has
the separator of the credentials and no username a colon, and a displayed route is read back
without its credentials. -/
theorem proxy_urls_parse_as_written :
    (∀ url : ProxyUrl, parse url.text = .ok url.config ∧ url.config.addr = some url.hostPort ∧
      url.config.auth = url.credentials.auth) ∧
    ∀ value config, parse value = .ok config →
      (value ≠ "direct" → ∃ url : ProxyUrl, value = url.text ∧ config = url.config) ∧
      (∀ addr, config.addr = some addr → '@' ∉ addr.toList) ∧
      (∀ user pass, config.auth = some (user, pass) → user ≠ "" ∧ ':' ∉ user.toList) ∧
      parse config.toText = .ok config.eraseAuth := by
  have parts : ∀ url : ProxyUrl, url.config.addr = some url.hostPort ∧
      url.config.auth = url.credentials.auth := by
    intro url
    rw [ProxyUrl.config]
    cases url.scheme <;> exact ⟨rfl, rfl⟩
  refine ⟨fun url => ⟨parse_text url, parts url⟩, ?_⟩
  intro value config accepted
  by_cases direct : value = "direct"
  · have route : config = .direct := by
      rw [direct] at accepted
      exact (Except.ok.inj accepted).symm
    rw [route]
    refine ⟨fun proxied => absurd direct proxied, ?_, ?_, rfl⟩
    · intro addr present
      contradiction
    · intro user pass present
      contradiction
  · obtain ⟨url, written, same⟩ := parse_sound accepted direct
    obtain ⟨address, credentials⟩ := parts url
    refine ⟨fun _ => ⟨url, written, same⟩, ?_, ?_, ?_⟩
    · intro addr present
      rw [same, address, Option.some.injEq] at present
      rw [← present]
      exact url.plain
    · intro user pass present
      rw [same, credentials] at present
      exact url.credentialsFormed user pass present
    · rw [same, toText_config, parse_text, config_displayed]

/-- Separators inside the credentials do not move the split. -/
theorem proxy_url_with_separators :
    parse "http://me@home:a:b@c@localhost:8080" =
      .ok (.http "localhost:8080" (some ("me@home", "a:b@c"))) := by
  have formed : (Credentials.usernamePassword "me@home" "a:b@c").WellFormed := by
    intro user pass present
    simp only [Credentials.auth, Option.some.injEq, Prod.mk.injEq] at present
    rw [← present.1]
    decide
  exact (proxy_urls_parse_as_written.1 ⟨.http, .usernamePassword "me@home" "a:b@c",
    "localhost:8080", formed, by decide, by decide +kernel⟩).1

end NsProxy
