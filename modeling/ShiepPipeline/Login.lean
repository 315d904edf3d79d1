import ShiepPipeline.Config
import ShiepPipeline.Endpoint
import ShiepPipeline.Text.Url

/-!
# Where the login goes

The login asks for two URLs that are made from the server setting. The token, the route table and
the tunnel are asked for at the authority that `parseServer` makes of the same setting. Either side
looks for a scheme, a port and a path by itself: the base URL keeps what it finds, and the authority
goes without a scheme and a path and always has the port of TLS.

`sameEndpoint_iff` says for which settings both sides talk to one host and port all the same.
-/

open Str Net

namespace ShiepPipeline

/-! ## The URLs of the login -/

def normalizeBaseUrl (server : String) : String :=
  if startsWith server "https://" || startsWith server "http://" then server
  else "https://" ++ server

def loginAuthPath : String := "/por/login_auth.csp?apiversion=1"

def loginPswPath : String := "/por/login_psw.csp?anti_replay=1&encrypt=1&type=cs"

def loginAuthUrl (baseUrl : String) : String := baseUrl ++ loginAuthPath

def loginPswUrl (baseUrl : String) : String := baseUrl ++ loginPswPath

/-! ## One endpoint -/

/-- A base URL of a host and a port, with no path in front of those of the protocol. -/
structure ReadsAs (url : UrlReader) (baseUrl : String) (host : Host) (port : ℕ) : Prop where
  base : url.read baseUrl = some ⟨host, port, ""⟩
  loginAuth : url.read (loginAuthUrl baseUrl) = some ⟨host, port, loginAuthPath⟩
  loginPsw : url.read (loginPswUrl baseUrl) = some ⟨host, port, loginPswPath⟩

/-- The login talks to the host and the port that the authority is connected to. -/
def SameEndpoint (url : UrlReader) (server authority : String) : Prop :=
  ∃ host port, connectTarget authority = some (host, port)
    ∧ ReadsAs url (normalizeBaseUrl server) host port

/-- A setting of a host, without or with a port, that a URL does not read as another one. Without a
port it is not for `http`. -/
inductive IsPlainServer (url : UrlReader) : String → Prop
  | host {host : String} (h : url.hostOf host = some (.spelled host)) : IsPlainServer url host
  | https {host : String} (h : url.hostOf host = some (.spelled host)) :
      IsPlainServer url ("https://" ++ host)
  | port {server host digits : String} {port : ℕ} (h : url.hostOf host = some (.spelled host))
      (hport : IsPortText digits port) (hserver : stripHttpScheme server = host ++ ":" ++ digits) :
      IsPlainServer url server

/-! ## The scheme -/

/-- The port that a URL for the setting has by default. -/
def schemePort (server : String) : ℕ := if startsWith server "http://" then 80 else 443

section

variable {url : UrlReader} {server raw authority host h digits : String} {port : ℕ}

theorem schemePort_cases (server : String) :
    (startsWith server "https://" = true ∧ schemePort server = 443
        ∧ server = "https://" ++ stripHttpScheme server)
      ∨ (startsWith server "http://" = true ∧ schemePort server = 80
        ∧ server = "http://" ++ stripHttpScheme server)
      ∨ (startsWith server "https://" = false ∧ startsWith server "http://" = false
        ∧ schemePort server = 443 ∧ server = stripHttpScheme server) := by
  rw [schemePort, stripHttpScheme]
  rcases hhttps : stripPrefix server "https://" with _ | rest
  · have hnot : startsWith server "https://" = false := startsWith_eq_false_iff.mpr hhttps
    rcases hhttp : stripPrefix server "http://" with _ | rest
    · have hnot' : startsWith server "http://" = false := startsWith_eq_false_iff.mpr hhttp
      exact .inr (.inr ⟨hnot, hnot', by rw [hnot', if_neg Bool.false_ne_true], rfl⟩)
    · obtain rfl := stripPrefix_eq_some_iff.mp hhttp
      have hstart : startsWith ("http://" ++ rest) "http://" = true :=
        startsWith_iff.mpr ⟨rest, rfl⟩
      exact .inr (.inl ⟨hstart, if_pos hstart, rfl⟩)
  · obtain rfl := stripPrefix_eq_some_iff.mp hhttps
    have hstart : startsWith ("https://" ++ rest) "https://" = true :=
      startsWith_iff.mpr ⟨rest, rfl⟩
    exact .inl ⟨hstart, by rw [(startsWith_schemes _).1, if_neg Bool.false_ne_true], rfl⟩

/-- **The base URL** is read as what stands behind the scheme. -/
theorem read_normalizeBaseUrl (url : UrlReader) (server path : String) :
    url.read (normalizeBaseUrl server ++ path)
      = readBehindScheme url.hostOf (schemePort server) (stripHttpScheme server ++ path) := by
  rw [normalizeBaseUrl]
  rcases schemePort_cases server with ⟨hstart, hport, hserver⟩ | ⟨hstart, hport, hserver⟩
    | ⟨hhttps, hhttp, hport, hserver⟩
  · rw [hstart, Bool.true_or, if_pos rfl, hport, ← url.read_https, ← String.append_assoc, ← hserver]
  · rw [hstart, Bool.or_true, if_pos rfl, hport, ← url.read_http, ← String.append_assoc, ← hserver]
  · rw [hhttps, hhttp, Bool.or_false, if_neg Bool.false_ne_true, hport, ← url.read_https,
      ← String.append_assoc, ← hserver]

theorem head?_loginPath :
    loginAuthPath.toList.head? = some '/' ∧ loginPswPath.toList.head? = some '/' := by
  decide +kernel

theorem isControlOrSpace_loginPath :
    loginAuthPath.toList.all (!isControlOrSpace ·) = true
      ∧ loginPswPath.toList.all (!isControlOrSpace ·) = true := by
  decide +kernel

/-- The base URL reads as a host and a port if there is nothing behind the authority, and the
authority reads so. -/
theorem readsAs_iff {H : Host} (hraw : authorityRaw server = some raw)
    (hne : raw ≠ "") (hplain : ∀ c ∈ raw.toList, isPlain c = true) :
    ReadsAs url (normalizeBaseUrl server) H port
      ↔ stripHttpScheme server = raw
        ∧ readHostPort url.hostOf (schemePort server) raw.toList = some (H, port) := by
  constructor
  · intro hreads
    obtain ⟨path, hpath, hslash⟩ := exists_of_authorityRaw hraw
    have hbase := read_normalizeBaseUrl url server ""
    rw [String.append_empty, String.append_empty, hreads.base, hpath,
      readBehindScheme_append _ _ hne hplain hslash, eq_comm] at hbase
    obtain ⟨⟨H', port'⟩, hread, heq⟩ := Option.map_eq_some_iff.mp hbase
    rw [HttpUrl.mk.injEq] at heq
    obtain ⟨rfl, rfl, hempty⟩ := heq
    refine ⟨?_, hread⟩
    -- a path would not be tidied away
    have hhead := head?_tidy (b := path) fun c hc ↦ by
      rw [hslash c hc]
      decide
    rw [hempty, eq_comm] at hhead
    rw [hpath, String.toList_eq_nil_iff.mp (List.head?_eq_none_iff.mp hhead), String.append_empty]
  · rintro ⟨hstrip, hread⟩
    have hpath : ∀ path : String, (∀ c ∈ path.toList.head?, c = '/') →
        path.toList.all (!isControlOrSpace ·) = true →
        url.read (normalizeBaseUrl server ++ path) = some ⟨H, port, path⟩ := by
      intro path hslash hclean
      have htidy : tidy path = path :=
        tidy_eq_self fun c hc ↦ by simpa using List.all_eq_true.mp hclean c hc
      rw [read_normalizeBaseUrl, hstrip, readBehindScheme_append _ _ hne hplain hslash, hread,
        Option.map_some, htidy]
    have hhead : ∀ path : String, path.toList.head? = some '/' →
        ∀ c ∈ path.toList.head?, c = '/' := by
      intro path hhead c hc
      rw [hhead] at hc
      exact (Option.some.inj hc).symm
    refine ⟨?_, ?_, ?_⟩
    · have hempty := hpath "" (fun c hc ↦ nomatch hc) rfl
      rwa [String.append_empty] at hempty
    · exact hpath _ (hhead _ head?_loginPath.1) isControlOrSpace_loginPath.1
    · exact hpath _ (hhead _ head?_loginPath.2) isControlOrSpace_loginPath.2

/-! ## Plain settings -/

theorem isPortText_defaultTlsPort : IsPortText defaultTlsPort 443 :=
  ⟨by decide, List.all_eq_true.mp (by decide), by decide, by decide⟩

theorem head?_ne_of_isHostText (h : IsHostText host) :
    host.toList.head? ≠ some '[' ∧ ':' ∉ host.toList ∨ ∃ inside, host = "[" ++ inside ++ "]"
      ∧ ']' ∉ inside.toList := by
  obtain h | h := h
  · refine .inl ⟨fun hhead ↦ ?_, fun hmem ↦ absurd (h _ hmem) (by decide)⟩
    exact absurd (h _ (List.mem_of_mem_head? hhead)) (by decide)
  · exact .inr ⟨_, rfl, fun hmem ↦ absurd (h _ hmem) (by decide)⟩

/-- The text of a host has no port. -/
theorem authorityPortCandidate_hostText (h : IsHostText host) :
    authorityPortCandidate host = none := by
  rcases head?_ne_of_isHostText h with ⟨hhead, hcolon⟩ | ⟨inside, rfl, hinside⟩
  · exact authorityPortCandidate_of_not_mem hhead hcolon
  · exact authorityPortCandidate_literal hinside

theorem authorityPortCandidate_hostText_append (h : IsHostText host)
    (hport : IsPortText digits port) :
    authorityPortCandidate (host ++ ":" ++ digits) = some digits := by
  rcases head?_ne_of_isHostText h with ⟨hhead, -⟩ | ⟨inside, rfl, -⟩
  · exact authorityPortCandidate_append hhead (hport.not_mem rfl)
  · have hshape : "[" ++ inside ++ "]" ++ ":" ++ digits = "[" ++ inside ++ "]:" ++ digits := by
      simp [String.append_assoc]
    rw [hshape]
    exact authorityPortCandidate_brackets (hport.not_mem rfl)

theorem slash_not_mem_of_isHostText (h : IsHostText host) : '/' ∉ host.toList := by
  intro hmem
  exact absurd (h.isPlain_of_mem _ hmem) (by decide)

/-- No authority begins with its port. -/
theorem ne_empty_of_extractHost (hport : ':' ∉ digits.toList)
    (hhost : extractHost (host ++ ":" ++ digits) = .ok h) : host ≠ "" := by
  rintro rfl
  rw [extractHost, startsWith_append_colon (by decide), if_neg Bool.false_ne_true,
    rsplitOnce_append rfl hport] at hhost
  cases hhost

theorem isPlain_append_port (h : IsHostText host) (hport : IsPort digits) :
    ∀ c ∈ (host ++ ":" ++ digits).toList, isPlain c = true := by
  intro c hc
  simp only [String.toList_append, List.mem_append] at hc
  rcases hc with (hc | hc) | hc
  · exact h.isPlain_of_mem c hc
  · obtain rfl := List.mem_singleton.mp hc
    decide
  · rcases mem_of_parseUnsigned hport hc with rfl | hdigit
    · decide
    · exact isPlain_of_isForbidden (isForbidden_of_isDigit hdigit)

/-! ## When both sides agree -/

/-- A host alone, with the port of TLS. -/
theorem sameEndpoint_of_host (hspelled : url.hostOf host = some (.spelled host))
    (hstrip : stripHttpScheme server = host) (hscheme : schemePort server = 443)
    (hraw : authorityRaw server = some raw) (hne : raw ≠ "")
    (hnormalize : normalizeAuthority raw = .ok authority) : SameEndpoint url server authority := by
  have htext := url.isHostText hspelled
  have hslash := slash_not_mem_of_isHostText htext
  subst hstrip
  rw [authorityRaw_eq_of_not_mem hslash] at hraw
  obtain rfl := Option.some.inj hraw
  rw [normalizeAuthority_default (authorityPortCandidate_hostText htext)] at hnormalize
  obtain rfl := Except.ok.inj hnormalize
  refine ⟨.spelled (stripHttpScheme server), 443,
    connectTarget_append (url.percent hspelled htext) isPortText_defaultTlsPort, ?_⟩
  rw [readsAs_iff (authorityRaw_eq_of_not_mem hslash) hne htext.isPlain_of_mem,
    htext.readHostPort_iff hne]
  exact ⟨rfl, hspelled, hscheme⟩

/-- A host with a port. -/
theorem sameEndpoint_of_port (hspelled : url.hostOf host = some (.spelled host))
    (hport : IsPortText digits port) (hstrip : stripHttpScheme server = host ++ ":" ++ digits)
    (hraw : authorityRaw server = some raw) (hnormalize : normalizeAuthority raw = .ok authority)
    (hhost : extractHost authority = .ok h) : SameEndpoint url server authority := by
  have htext := url.isHostText hspelled
  have hisPort : IsPort digits := by
    rw [IsPort, parseUnsigned_of_isPortText hport]
    rfl
  have hplain := isPlain_append_port htext hisPort
  have hslash : '/' ∉ (stripHttpScheme server).toList := by
    rw [hstrip]
    exact fun hmem ↦ absurd (hplain _ hmem) (by decide)
  rw [authorityRaw_eq_of_not_mem hslash, hstrip] at hraw
  obtain rfl := Option.some.inj hraw
  rw [normalizeAuthority_explicit (authorityPortCandidate_hostText_append htext hport) hisPort]
    at hnormalize
  obtain rfl := Except.ok.inj hnormalize
  have hne : host ≠ "" := ne_empty_of_extractHost (hport.not_mem rfl) hhost
  refine ⟨.spelled host, port, connectTarget_append (url.percent hspelled htext) hport, ?_⟩
  rw [readsAs_iff (hstrip ▸ authorityRaw_eq_of_not_mem hslash) (by simp) hplain,
    htext.readHostPort_append_iff hne hport.ne_nil]
  exact ⟨hstrip, hspelled, hport⟩

theorem AppConfig.trim_server {username password socksBind : String}
    {fallbackProxy : Option String} {extraIps : List String} {details : Bool} {cfg : AppConfig}
    (hcfg : AppConfig.new server username password socksBind fallbackProxy extraIps details
      = .ok cfg) : trim cfg.server = cfg.server := by
  obtain ⟨-, -, h⟩ := bind_eq_ok_iff.mp hcfg
  obtain rfl := Except.ok.inj h
  exact trim_trim server

/-- **When the login and the tunnel talk to one endpoint**: exactly if the setting is a host,
without a scheme or for `https`, or a host and a port, in a text that a URL has no other reading
of. -/
theorem sameEndpoint_iff (url : UrlReader) {username password socksBind : String}
    {fallbackProxy : Option String} {extraIps : List String} {details : Bool} {cfg : AppConfig}
    (hcfg : AppConfig.new server username password socksBind fallbackProxy extraIps details
      = .ok cfg) (hparse : parseServer cfg.server = .ok (authority, host)) :
    SameEndpoint url cfg.server authority ↔ IsPlainServer url cfg.server := by
  obtain ⟨-, raw, hraw, hne, hnormalize, hhost⟩ := parseServer_eq_ok_iff.mp hparse
  rw [AppConfig.trim_server hcfg] at hraw
  constructor
  · rintro ⟨H, port, htarget, hreads⟩
    -- the library has read the host, so its name has nothing in it that ends one
    have hbase := read_normalizeBaseUrl url cfg.server ""
    rw [String.append_empty, String.append_empty, hreads.base] at hbase
    obtain ⟨hostText, hhostText⟩ := exists_hostOf_of_readBehindScheme hbase.symm
    have hname : ∀ name, H = .name name → ∀ c ∈ name.toList, isForbidden c = false := by
      rintro name rfl
      exact url.isForbidden_of_name hhostText
    obtain ⟨front, digits, rfl, hport, htext⟩ := exists_of_connectTarget htarget hname
    have hcolon : ':' ∉ digits.toList := IsPort.not_mem hport (by decide) rfl
    have hfront : front ≠ "" := ne_empty_of_extractHost hcolon hhost
    rcases eq_or_eq_of_normalizeAuthority hnormalize with rfl | heq
    · obtain ⟨hstrip, hread⟩ :=
        (readsAs_iff hraw hne (isPlain_append_port htext hport)).mp hreads
      obtain ⟨hspelled, hdigits⟩ :=
        (htext.readHostPort_append_iff hfront (IsPort.ne_nil hport)).mp hread
      rw [connectTarget_append (url.percent hspelled htext) hdigits] at htarget
      obtain ⟨rfl, -⟩ := Prod.mk.inj (Option.some.inj htarget)
      exact .port hspelled hdigits hstrip
    · obtain ⟨rfl, rfl⟩ := append_inj_of_not_mem rfl hcolon (by decide) heq
      obtain ⟨hstrip, hread⟩ := (readsAs_iff hraw hne htext.isPlain_of_mem).mp hreads
      obtain ⟨hspelled, hscheme⟩ := (htext.readHostPort_iff hfront).mp hread
      rw [connectTarget_append (url.percent hspelled htext) isPortText_defaultTlsPort] at htarget
      obtain ⟨rfl, rfl⟩ := Prod.mk.inj (Option.some.inj htarget)
      rcases schemePort_cases cfg.server with ⟨-, -, hserver⟩ | ⟨-, hport', -⟩ | ⟨-, -, -, hserver⟩
      · rw [hserver, hstrip]
        exact .https hspelled
      · rw [hport'] at hscheme
        cases hscheme
      · rw [hserver, hstrip]
        exact .host hspelled
  · intro hplain
    generalize cfg.server = setting at hplain hraw ⊢
    obtain hspelled | hspelled | ⟨hspelled, hport, hstrip⟩ := hplain
    · have hslash := slash_not_mem_of_isHostText (url.isHostText hspelled)
      have hhttp : startsWith setting "http://" = false :=
        startsWith_eq_false_iff.mpr (stripPrefix_eq_none (by decide) hslash)
      have hscheme : schemePort setting = 443 := by
        rw [schemePort, hhttp, if_neg Bool.false_ne_true]
      exact sameEndpoint_of_host hspelled (stripHttpScheme_of_not_mem hslash) hscheme hraw hne
        hnormalize
    · rename_i front
      have hstrip : stripHttpScheme ("https://" ++ front) = front := by
        rw [stripHttpScheme, stripPrefix_eq_some_iff.mpr rfl]
        rfl
      have hscheme : schemePort ("https://" ++ front) = 443 := by
        rw [schemePort, (startsWith_schemes _).1, if_neg Bool.false_ne_true]
      exact sameEndpoint_of_host hspelled hstrip hscheme hraw hne hnormalize
    · exact sameEndpoint_of_port hspelled hport hstrip hraw hnormalize hhost

end

/-- A base URL for `http` has a port of its own, and a path of the setting stays in front of the
path of the protocol. -/
theorem login_elsewhere :
    (AppConfig.new " http://vpn.example.com" "alice" "secret" "127.0.0.1:1080" none [] false).map
        (·.server) = .ok "http://vpn.example.com"
      ∧ parseServer "http://vpn.example.com" = .ok ("vpn.example.com:443", "vpn.example.com")
      ∧ ¬SameEndpoint spellingReader "http://vpn.example.com" "vpn.example.com:443"
      ∧ parseServer "https://vpn.example.com/" = .ok ("vpn.example.com:443", "vpn.example.com")
      ∧ ¬SameEndpoint spellingReader "https://vpn.example.com/" "vpn.example.com:443" := by
  have htarget : connectTarget "vpn.example.com:443" = some (.name "vpn.example.com", 443) := by
    decide +kernel
  have hhttp : spellingReader.read (normalizeBaseUrl "http://vpn.example.com")
      = some ⟨.name "vpn.example.com", 80, ""⟩ := by decide +kernel
  have hslash : spellingReader.read (normalizeBaseUrl "https://vpn.example.com/")
      = some ⟨.name "vpn.example.com", 443, "/"⟩ := by decide +kernel
  refine ⟨by decide +kernel, by decide +kernel, ?_, by decide +kernel, ?_⟩
  · rintro ⟨host, port, hconnect, hreads⟩
    obtain ⟨-, rfl⟩ := Prod.mk.inj (Option.some.inj (htarget.symm.trans hconnect))
    have hport := congrArg HttpUrl.port (Option.some.inj (hhttp.symm.trans hreads.base))
    cases hport
  · rintro ⟨host, port, -, hreads⟩
    have hrest : "/" = "" := congrArg HttpUrl.rest (Option.some.inj (hslash.symm.trans hreads.base))
    exact absurd hrest (by decide)

theorem sameEndpoint_iff_literal :
    SameEndpoint spellingReader "https://[2001:db8::1]:8443" "[2001:db8::1]:8443" := by
  have hcfg : AppConfig.new " https://[2001:db8::1]:8443 " "alice" "secret" "127.0.0.1:1080" none []
      false = .ok ⟨"https://[2001:db8::1]:8443", "alice", "secret", "127.0.0.1:1080", none, [],
        false⟩ := by decide +kernel
  have hparse : parseServer "https://[2001:db8::1]:8443"
      = .ok ("[2001:db8::1]:8443", "2001:db8::1") := by decide +kernel
  have hspelled : spellingReader.hostOf "[2001:db8::1]" = some (.spelled "[2001:db8::1]") := by
    decide +kernel
  have hport : IsPortText "8443" 8443 :=
    ⟨by decide, List.all_eq_true.mp (by decide), by decide, by decide⟩
  exact (sameEndpoint_iff spellingReader hcfg hparse).mpr (.port hspelled hport (by decide +kernel))

end ShiepPipeline
