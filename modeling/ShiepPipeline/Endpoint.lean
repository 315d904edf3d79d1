import ShiepPipeline.Error
import ShiepPipeline.Text.Str

/-!
# The server's address

The setting for the server is free text: a host with or without a scheme, a port and a path.
`parseServer` makes an authority of it, which the connections of the tunnel dial, and a host.

`parseServer_splitsBack_iff` says for which texts the two belong together. The parts of
`parseServer` each look for a colon or a bracket of their own, and a text with more colons than one
outside of brackets, or with nothing where a port or a host should be, gets past all of them.
-/

open Str

namespace ShiepPipeline

/-! ## Reading the setting -/

/-- `DEFAULT_TLS_PORT`, as it is printed. -/
def defaultTlsPort : String := "443"

def stripHttpScheme (server : String) : String :=
  ((stripPrefix server "https://").or (stripPrefix server "http://")).getD server

def authorityPortCandidate (authority : String) : Option String :=
  if startsWith authority "[" then (rsplitOnceStr authority "]:").map fun (_, port) ↦ port
  else (rsplitOnce authority ':').map fun (_, port) ↦ port

/-- A text that `parse::<u16>` accepts. -/
def IsPort (port : String) : Prop := (parseUnsigned 65535 port).isSome

instance : DecidablePred IsPort := fun _ ↦ inferInstanceAs (Decidable (_ = true))

def hasExplicitPort (authority : String) : Bool :=
  (authorityPortCandidate authority).any fun port ↦ (parseUnsigned 65535 port).isSome

def looksLikeMalformedPort (authority : String) : Bool :=
  ((authorityPortCandidate authority).map fun port ↦ decide (port ≠ "")).getD false

def normalizeAuthority (authority : String) : Except EcError String :=
  if hasExplicitPort authority then .ok authority
  else if looksLikeMalformedPort authority then .error (.invalidConfig "invalid server port")
  else .ok (authority ++ ":" ++ defaultTlsPort)

def extractHost (authority : String) : Except EcError String :=
  if startsWith authority "[" then
    match splitOnce authority ']' with
    | none => .error (.runtime "invalid ipv6 authority format")
    -- what is in front of the first `]`, without the `[`
    | some (front, _) => .ok (String.ofList (front.toList.drop 1))
  else
    match rsplitOnce authority ':' with
    | some (host, _) =>
      if host = "" then .error (.runtime "invalid host in server authority") else .ok host
    | none => .ok authority

/-- The text between the scheme and the first `/`. -/
def authorityRaw (trimmed : String) : Option String := (split (stripHttpScheme trimmed) '/').head?

def parseServer (server : String) : Except EcError (String × String) := do
  let trimmed := trim server
  if trimmed = "" then throw (.invalidConfig "server is required")
  match authorityRaw trimmed with
  | none => throw (.runtime "invalid server address")
  | some raw =>
    if raw = "" then throw (.runtime "invalid server authority")
    let authority ← normalizeAuthority raw
    let host ← extractHost authority
    return (authority, host)

/-! ## What parseServer does -/

section

variable {server trimmed raw authority host port : String}

theorem parseServer_eq_ok_iff :
    parseServer server = .ok (authority, host)
      ↔ trim server ≠ "" ∧ ∃ raw, authorityRaw (trim server) = some raw ∧ raw ≠ ""
        ∧ normalizeAuthority raw = .ok authority ∧ extractHost authority = .ok host := by
  rw [parseServer]
  dsimp only
  by_cases htrim : trim server = ""
  · rw [if_pos htrim]
    exact iff_of_false (fun h ↦ nomatch h) fun h ↦ h.1 htrim
  rcases hraw : authorityRaw (trim server) with _ | raw
  · rw [if_neg htrim]
    refine iff_of_false (fun h ↦ nomatch h) ?_
    rintro ⟨-, raw, h, -⟩
    cases h
  by_cases hempty : raw = ""
  · rw [if_neg htrim]
    dsimp only
    refine iff_of_false ?_ ?_
    · rw [if_pos hempty]
      exact fun h ↦ nomatch h
    · rintro ⟨-, raw', h, hne, -⟩
      exact hne (Option.some.inj h ▸ hempty)
  · rw [if_neg htrim]
    dsimp only
    rw [if_neg hempty]
    constructor
    · intro h
      obtain ⟨-, -, h⟩ := bind_eq_ok_iff.mp h
      obtain ⟨-, -, h⟩ := bind_eq_ok_iff.mp h
      obtain ⟨authority', hauthority, h⟩ := bind_eq_ok_iff.mp h
      obtain ⟨host', hhost, h⟩ := bind_eq_ok_iff.mp h
      obtain ⟨rfl, rfl⟩ := Prod.mk.inj (Except.ok.inj h)
      exact ⟨htrim, raw, rfl, hempty, hauthority, hhost⟩
    · rintro ⟨-, raw', h, -, hauthority, hhost⟩
      obtain rfl := Option.some.inj h
      rw [hauthority]
      change (extractHost authority >>= _) = _
      rw [hhost]
      rfl

/-- The text in front of the first `/` has none. -/
theorem slash_not_mem_authorityRaw (h : authorityRaw trimmed = some raw) : '/' ∉ raw.toList := by
  rw [authorityRaw, head?_split, Option.some.injEq] at h
  subst h
  rw [String.toList_ofList]
  intro hmem
  simpa using List.mem_takeWhile_imp hmem

/-- Without a `/` there is no scheme. -/
theorem stripHttpScheme_of_not_mem (h : '/' ∉ trimmed.toList) :
    stripHttpScheme trimmed = trimmed := by
  have hslash : '/' ∈ "https://".toList ∧ '/' ∈ "http://".toList := by decide
  rw [stripHttpScheme, stripPrefix_eq_none hslash.1 h, stripPrefix_eq_none hslash.2 h]
  rfl

/-- Nor is there anything behind the authority. -/
theorem authorityRaw_eq_of_not_mem (h : '/' ∉ (stripHttpScheme trimmed).toList) :
    authorityRaw trimmed = some (stripHttpScheme trimmed) := by
  rw [authorityRaw, split_of_not_mem h, List.head?_cons]

theorem authorityRaw_of_not_mem (h : '/' ∉ trimmed.toList) :
    authorityRaw trimmed = some trimmed := by
  have hstrip := stripHttpScheme_of_not_mem h
  have hslash : '/' ∉ (stripHttpScheme trimmed).toList := by rwa [hstrip]
  rw [authorityRaw_eq_of_not_mem hslash, hstrip]

/-- The path that is cut off begins with a `/`. -/
theorem exists_of_authorityRaw (h : authorityRaw trimmed = some raw) :
    ∃ path, stripHttpScheme trimmed = raw ++ path ∧ ∀ c ∈ path.toList.head?, c = '/' := by
  rw [authorityRaw, head?_split, Option.some.injEq] at h
  refine ⟨String.ofList ((stripHttpScheme trimmed).toList.dropWhile (· != '/')), ?_, ?_⟩
  · rw [← h, ← String.ofList_append, List.takeWhile_append_dropWhile, String.ofList_toList]
  · rw [String.toList_ofList]
    rcases hdrop : (stripHttpScheme trimmed).toList.dropWhile (· != '/') with _ | ⟨x, rest⟩
    · exact fun c hc ↦ nomatch hc
    · rintro c hc
      obtain rfl : x = c := Option.some.inj hc
      exact eq_of_dropWhile_ne hdrop

theorem startsWith_bracket_iff : startsWith raw "[" = true ↔ raw.toList.head? = some '[' := by
  rw [startsWith, decide_eq_true_iff]
  rcases raw.toList with _ | ⟨c, cs⟩ <;> simp [List.cons_prefix_cons, eq_comm]

theorem startsWith_bracket_append (a b : String) : startsWith ("[" ++ a ++ b) "[" = true := by
  rw [startsWith_bracket_iff]
  simp

theorem startsWith_append_colon (h : host.toList.head? ≠ some '[') (rest : String) :
    startsWith (host ++ ":" ++ rest) "[" = false := by
  rw [← Bool.not_eq_true, startsWith_bracket_iff]
  rcases hlist : host.toList with _ | ⟨c, cs⟩
  · simp [hlist]
  · rw [hlist] at h
    simpa [hlist] using h

theorem authorityPortCandidate_append (h : host.toList.head? ≠ some '[')
    (hport : ':' ∉ port.toList) : authorityPortCandidate (host ++ ":" ++ port) = some port := by
  rw [authorityPortCandidate, startsWith_append_colon h, if_neg Bool.false_ne_true,
    rsplitOnce_append rfl hport, Option.map_some]

theorem authorityPortCandidate_brackets (hport : ']' ∉ port.toList) :
    authorityPortCandidate ("[" ++ host ++ "]:" ++ port) = some port := by
  -- there is no bracket behind the one in front of the port
  have hlast : ¬"]:".toList <:+: ("]:".toList ++ port.toList).tail := by
    intro hinfix
    have hmem : ']' ∈ ':' :: port.toList := hinfix.subset (by decide)
    rw [List.mem_cons] at hmem
    exact hmem.elim (by decide) hport
  have hcut : rsplitOnceList "]:".toList ("[" ++ host ++ "]:" ++ port).toList
      = some (("[" ++ host).toList, port.toList) := by
    rw [rsplitOnceList_eq_some_iff (by decide)]
    exact ⟨by simp, hlast⟩
  have hstart : startsWith ("[" ++ host ++ "]:" ++ port) "[" = true := by
    rw [String.append_assoc]
    exact startsWith_bracket_append host _
  rw [authorityPortCandidate, if_pos hstart, rsplitOnceStr, hcut]
  simp

theorem authorityPortCandidate_of_not_mem (h : host.toList.head? ≠ some '[')
    (hcolon : ':' ∉ host.toList) : authorityPortCandidate host = none := by
  have hstart : startsWith host "[" = false := by
    rw [← Bool.not_eq_true, startsWith_bracket_iff]
    exact h
  rw [authorityPortCandidate, hstart, if_neg Bool.false_ne_true, rsplitOnce_eq_none_iff.mpr hcolon,
    Option.map_none]

theorem authorityPortCandidate_literal (h : ']' ∉ host.toList) :
    authorityPortCandidate ("[" ++ host ++ "]") = none := by
  have hnone : ¬"]:".toList <:+: ("[" ++ host ++ "]").toList := by
    rintro ⟨a, b, hab⟩
    -- the first closing bracket is the last character
    have hfront : ']' ∉ '[' :: host.toList := by
      rw [List.mem_cons]
      exact fun hmem ↦ hmem.elim (by decide) h
    have heq : ('[' :: host.toList) ++ ']' :: [] = a ++ ']' :: (':' :: b) := by
      simpa using hab.symm
    have := (List.append_cons_inj_of_notMem hfront List.not_mem_nil).mp heq
    simp at this
  rw [authorityPortCandidate, if_pos (startsWith_bracket_append host _), rsplitOnceStr,
    rsplitOnceList_eq_none_iff.mpr hnone]
  rfl

/-- The authority is the text itself, or the text with the default port. -/
theorem eq_or_eq_of_normalizeAuthority (h : normalizeAuthority raw = .ok authority) :
    authority = raw ∨ authority = raw ++ ":" ++ defaultTlsPort := by
  rw [normalizeAuthority] at h
  split_ifs at h
  · exact .inl (Except.ok.inj h).symm
  · exact .inr (Except.ok.inj h).symm

theorem IsPort.ne_nil (h : IsPort port) : port.toList ≠ [] := ne_nil_of_parseUnsigned h

theorem IsPort.not_mem (h : IsPort port) {c : Char} (hplus : c ≠ '+')
    (hdigit : c.isDigit = false) : c ∉ port.toList := by
  intro hmem
  rcases mem_of_parseUnsigned h hmem with rfl | hc
  · exact hplus rfl
  · rw [hdigit] at hc
    exact Bool.false_ne_true hc

theorem IsPort.isWhitespace (h : IsPort port) {c : Char} (hmem : c ∈ port.toList) :
    isWhitespace c = false := by
  rcases mem_of_parseUnsigned h hmem with rfl | hc
  · rfl
  · exact isWhitespace_of_isDigit hc

theorem isPort_defaultTlsPort : IsPort defaultTlsPort := by decide

/-! ## Names and addresses in brackets -/

/-- What may stand for a host without brackets. -/
structure IsName (host : String) : Prop where
  ne_empty : host ≠ ""
  colon : ':' ∉ host.toList
  bracket : host.toList.head? ≠ some '['
  space : ∀ c ∈ host.toList.head?, isWhitespace c = false

/-- What may stand for a host within brackets. -/
structure IsLiteral (ip : String) : Prop where
  ne_empty : ip ≠ ""
  bracket : ']' ∉ ip.toList

/-- A host with a port. -/
inductive IsEndpoint : String → String → Prop
  | name {host port : String} (h : IsName host) (hport : IsPort port) :
      IsEndpoint (host ++ ":" ++ port) host
  | literal {ip port : String} (h : IsLiteral ip) (hport : IsPort port) :
      IsEndpoint ("[" ++ ip ++ "]:" ++ port) ip

/-- A host with or without a port. -/
inductive IsAddress : String → Prop
  | name {host : String} (h : IsName host) : IsAddress host
  | literal {ip : String} (h : IsLiteral ip) : IsAddress ("[" ++ ip ++ "]")
  | endpoint {authority host : String} (h : IsEndpoint authority host) : IsAddress authority

theorem IsName.head?_append (h : IsName host) (rest : String) :
    (host ++ rest).toList.head? = host.toList.head? := by
  have hne : host.toList ≠ [] := fun hnil ↦ h.ne_empty (String.toList_eq_nil_iff.mp hnil)
  rw [String.toList_append, List.head?_append_of_ne_nil _ hne]

theorem extractHost_literal (h : ']' ∉ host.toList) (rest : String) :
    extractHost ("[" ++ host ++ "]" ++ rest) = .ok host := by
  have hcut : splitOnce ("[" ++ host ++ "]" ++ rest) ']' = some ("[" ++ host, rest) := by
    refine splitOnce_append rfl ?_
    rw [String.toList_append, List.mem_append]
    exact fun hmem ↦ hmem.elim (by decide) h
  have hstart : startsWith ("[" ++ host ++ "]" ++ rest) "[" = true := by
    rw [String.append_assoc]
    exact startsWith_bracket_append host _
  rw [extractHost, if_pos hstart, hcut]
  simp

/-- A host from within brackets. -/
theorem eq_of_extractHost_bracket (hstart : startsWith authority "[" = true)
    (h : extractHost authority = .ok host) :
    ']' ∉ host.toList ∧ ∃ rest, authority = "[" ++ host ++ "]" ++ rest := by
  rw [extractHost, if_pos hstart] at h
  rcases hcut : splitOnce authority ']' with _ | ⟨front, rest⟩
  · rw [hcut] at h
    cases h
  rw [hcut] at h
  obtain rfl := Except.ok.inj h
  obtain ⟨hauthority, hfront⟩ := splitOnce_eq_some_iff.mp hcut
  rw [startsWith_bracket_iff, hauthority] at hstart
  obtain ⟨cs, hcs⟩ : ∃ cs, front.toList = '[' :: cs := by
    rcases hfront' : front.toList with _ | ⟨c, cs⟩
    · rw [hfront'] at hstart
      simp at hstart
    · rw [hfront'] at hstart
      exact ⟨cs, by rw [Option.some.inj hstart]⟩
  rw [hcs] at hfront hauthority
  rw [hcs, List.drop_one, List.tail_cons, String.toList_ofList]
  refine ⟨fun hmem ↦ hfront (List.mem_cons_of_mem _ hmem), rest, ?_⟩
  rw [← String.toList_inj, hauthority]
  simp

/-! ## Endpoints are read as they stand -/

theorem authorityPortCandidate_endpoint (h : IsEndpoint authority host) :
    ∃ port, IsPort port ∧ authorityPortCandidate authority = some port := by
  obtain ⟨hname, hport⟩ | ⟨hliteral, hport⟩ := h
  · exact ⟨_, hport,
      authorityPortCandidate_append hname.bracket (hport.not_mem (by decide) rfl)⟩
  · exact ⟨_, hport, authorityPortCandidate_brackets (hport.not_mem (by decide) rfl)⟩

/-- A host without a port gets the default one. -/
theorem normalizeAuthority_default (h : authorityPortCandidate raw = none) :
    normalizeAuthority raw = .ok (raw ++ ":" ++ defaultTlsPort) := by
  simp [normalizeAuthority, hasExplicitPort, looksLikeMalformedPort, h]

/-- And an authority with a port keeps it. -/
theorem normalizeAuthority_explicit (h : authorityPortCandidate raw = some port)
    (hport : IsPort port) : normalizeAuthority raw = .ok raw := by
  have hexplicit : hasExplicitPort raw = true := by
    rw [hasExplicitPort, h]
    exact hport
  rw [normalizeAuthority, if_pos hexplicit]

theorem normalizeAuthority_endpoint (h : IsEndpoint authority host) :
    normalizeAuthority authority = .ok authority := by
  obtain ⟨port, hport, hcandidate⟩ := authorityPortCandidate_endpoint h
  exact normalizeAuthority_explicit hcandidate hport

theorem extractHost_endpoint (h : IsEndpoint authority host) :
    extractHost authority = .ok host := by
  obtain ⟨hname, hport⟩ | ⟨hliteral, hport⟩ := h
  · rename_i port
    have hcut : rsplitOnce (host ++ ":" ++ port) ':' = some (host, port) :=
      rsplitOnce_append rfl (hport.not_mem (by decide) rfl)
    rw [extractHost, startsWith_append_colon hname.bracket, if_neg Bool.false_ne_true, hcut]
    exact if_neg hname.ne_empty
  · rename_i port
    have hshape : "[" ++ host ++ "]:" ++ port = "[" ++ host ++ "]" ++ (":" ++ port) := by
      rw [← String.toList_inj]
      simp
    rw [hshape]
    exact extractHost_literal hliteral.bracket _

theorem trim_endpoint (h : IsEndpoint authority host) : trim authority = authority := by
  have hlast : ∀ {front port : String}, IsPort port →
      ∀ c ∈ (front ++ port).toList.getLast?, isWhitespace c = false := by
    intro front port hport c hc
    rw [String.toList_append, List.getLast?_append_of_ne_nil _ hport.ne_nil] at hc
    exact hport.isWhitespace (List.mem_of_getLast? hc)
  rw [trim_eq_self_iff]
  obtain ⟨hname, hport⟩ | ⟨hliteral, hport⟩ := h
  · refine ⟨fun c hc ↦ hname.space c ?_, hlast hport⟩
    rwa [String.append_assoc, hname.head?_append] at hc
  · refine ⟨fun c hc ↦ ?_, hlast hport⟩
    simp only [String.append_assoc, String.toList_append, String.reduceToList,
      List.cons_append, List.head?_cons, Option.mem_some_iff] at hc
    rw [← hc]
    rfl

/-- **An endpoint is its own authority**, with its host. -/
theorem parseServer_endpoint (h : IsEndpoint authority host) (hslash : '/' ∉ authority.toList) :
    parseServer authority = .ok (authority, host) := by
  have hne : authority ≠ "" := by
    obtain _ | _ := h <;> simp
  rw [parseServer_eq_ok_iff, trim_endpoint h]
  exact ⟨hne, authority, authorityRaw_of_not_mem hslash, hne, normalizeAuthority_endpoint h,
    extractHost_endpoint h⟩

theorem normalizeAuthority_address (h : IsAddress raw) :
    ∃ authority host, normalizeAuthority raw = .ok authority ∧ IsEndpoint authority host := by
  obtain hname | hliteral | hendpoint := h
  · exact ⟨_, raw,
      normalizeAuthority_default (authorityPortCandidate_of_not_mem hname.bracket hname.colon),
      .name hname isPort_defaultTlsPort⟩
  · rename_i ip
    refine ⟨"[" ++ ip ++ "]:" ++ defaultTlsPort, ip, ?_, .literal hliteral isPort_defaultTlsPort⟩
    rw [normalizeAuthority_default (authorityPortCandidate_literal hliteral.bracket)]
    simp [String.append_assoc]
  · exact ⟨raw, _, normalizeAuthority_endpoint hendpoint, hendpoint⟩

/-- Only a host with or without a port becomes an endpoint. -/
theorem isAddress_of_normalizeAuthority (h : IsEndpoint authority host)
    (hraw : normalizeAuthority raw = .ok authority) : IsAddress raw := by
  rcases eq_or_eq_of_normalizeAuthority hraw with rfl | heq
  · exact .endpoint h
  · have hdefault : ':' ∉ defaultTlsPort.toList := by decide
    obtain ⟨hname, hport⟩ | ⟨hliteral, hport⟩ := h
    · have hcolon := hport.not_mem (by decide : ':' ≠ '+') rfl
      exact (append_inj_of_not_mem rfl hcolon hdefault heq).1 ▸ .name hname
    · rename_i port
      have hcolon := hport.not_mem (by decide : ':' ≠ '+') rfl
      have hshape : "[" ++ host ++ "]:" ++ port = "[" ++ host ++ "]" ++ ":" ++ port := by
        simp [String.append_assoc]
      rw [hshape] at heq
      exact (append_inj_of_not_mem rfl hcolon hdefault heq).1 ▸ .literal hliteral

/-! ## The parts belong together -/

/-- The authority is the host with a port, and reading it again changes nothing. -/
structure SplitsBack (authority host : String) : Prop where
  ne_empty : host ≠ ""
  parts : (∃ port, IsPort port ∧ ':' ∉ host.toList ∧ authority = host ++ ":" ++ port)
    ∨ ∃ port, IsPort port ∧ authority = "[" ++ host ++ "]:" ++ port
  slash : '/' ∉ authority.toList
  again : parseServer authority = .ok (authority, host)

/-- Reading an authority again drops white space in front of it. -/
theorem SplitsBack.space (h : SplitsBack authority host) :
    ∀ c ∈ authority.toList.head?, isWhitespace c = false := by
  obtain ⟨htrim, raw, hraw, -, hnormalize, -⟩ := parseServer_eq_ok_iff.mp h.again
  have hslash : '/' ∉ (trim authority).toList := by
    intro hmem
    rw [toList_trim] at hmem
    exact h.slash ((List.dropWhile_suffix _).subset ((List.rdropWhile_prefix _ _).subset hmem))
  rw [authorityRaw_of_not_mem hslash, Option.some.injEq] at hraw
  subst hraw
  have hhead : authority.toList.head? = (trim authority).toList.head? := by
    have hne : (trim authority).toList ≠ [] :=
      fun hnil ↦ htrim (String.toList_eq_nil_iff.mp hnil)
    rcases eq_or_eq_of_normalizeAuthority hnormalize with heq | heq
    · exact congrArg (·.toList.head?) heq
    · rw [String.append_assoc] at heq
      rw [congrArg String.toList heq, String.toList_append, List.head?_append_of_ne_nil _ hne]
  rw [hhead]
  exact (trim_eq_self_iff.mp (trim_trim authority)).1

theorem SplitsBack.isEndpoint (h : SplitsBack authority host) : IsEndpoint authority host := by
  obtain ⟨-, raw, -, -, -, hhost⟩ := parseServer_eq_ok_iff.mp h.again
  have hspace := h.space
  obtain ⟨port, hport, hcolon, rfl⟩ | ⟨port, hport, rfl⟩ := h.parts
  · have hne : host.toList ≠ [] := fun hnil ↦ h.ne_empty (String.toList_eq_nil_iff.mp hnil)
    have hhead : (host ++ ":" ++ port).toList.head? = host.toList.head? := by
      rw [String.append_assoc, String.toList_append, List.head?_append_of_ne_nil _ hne]
    refine .name ⟨h.ne_empty, hcolon, fun hbracket ↦ ?_, fun c hc ↦ hspace c (hhead ▸ hc)⟩ hport
    -- a host from within brackets does not stand at the front
    obtain ⟨-, rest, hrest⟩ :=
      eq_of_extractHost_bracket (startsWith_bracket_iff.mpr (hhead.trans hbracket)) hhost
    have hlists : ('[' :: host.toList) ++ ']' :: rest.toList
        = (host.toList ++ [':']) ++ port.toList := by
      simpa using congrArg String.toList hrest.symm
    have hfront := (List.append_inj hlists (by simp)).1
    have hmem : ':' ∈ '[' :: host.toList := by
      rw [hfront]
      exact List.mem_append_right _ (List.mem_singleton.mpr rfl)
    rw [List.mem_cons] at hmem
    exact hmem.elim (by decide) hcolon
  · have hstart : startsWith ("[" ++ host ++ "]:" ++ port) "[" = true := by
      rw [String.append_assoc]
      exact startsWith_bracket_append host _
    exact .literal ⟨h.ne_empty, (eq_of_extractHost_bracket hstart hhost).1⟩ hport

theorem IsEndpoint.splitsBack (h : IsEndpoint authority host) (hslash : '/' ∉ authority.toList) :
    SplitsBack authority host := by
  have hparse := parseServer_endpoint h hslash
  obtain ⟨hname, hport⟩ | ⟨hliteral, hport⟩ := h
  · exact ⟨hname.ne_empty, .inl ⟨_, hport, hname.colon, rfl⟩, hslash, hparse⟩
  · exact ⟨hliteral.ne_empty, .inr ⟨_, hport, rfl⟩, hslash, hparse⟩

/-- **When the authority and the host belong together**: exactly if the text between the scheme and
the path is a host, or a host with a port, in one of the two notations. -/
theorem parseServer_splitsBack_iff (h : parseServer server = .ok (authority, host)) :
    SplitsBack authority host
      ↔ ∃ raw, authorityRaw (trim server) = some raw ∧ IsAddress raw := by
  obtain ⟨-, raw, hraw, -, hnormalize, hhost⟩ := parseServer_eq_ok_iff.mp h
  constructor
  · intro hback
    exact ⟨raw, hraw, isAddress_of_normalizeAuthority hback.isEndpoint hnormalize⟩
  · rintro ⟨raw', hraw', haddress⟩
    obtain rfl : raw = raw' := Option.some.inj (hraw.symm.trans hraw')
    obtain ⟨authority', host', hnormalize', hendpoint⟩ := normalizeAuthority_address haddress
    obtain rfl : authority = authority' := Except.ok.inj (hnormalize.symm.trans hnormalize')
    obtain rfl : host = host' :=
      Except.ok.inj (hhost.symm.trans (extractHost_endpoint hendpoint))
    refine hendpoint.splitsBack ?_
    have hslash := slash_not_mem_authorityRaw hraw
    rcases eq_or_eq_of_normalizeAuthority hnormalize with rfl | rfl
    · exact hslash
    · simp only [String.toList_append, List.mem_append, not_or]
      exact ⟨⟨hslash, by decide⟩, by decide⟩

end

/-- A colon at the end stays in the host, and another one is put behind it. -/
theorem parseServer_trailing_colon :
    parseServer "vpn.example.com:" = .ok ("vpn.example.com::443", "vpn.example.com:")
      ∧ ¬SplitsBack "vpn.example.com::443" "vpn.example.com:" := by
  refine ⟨by decide +kernel, fun h ↦ ?_⟩
  obtain ⟨port, -, hcolon, -⟩ | ⟨port, -, hport⟩ := h.parts
  · exact absurd hcolon (by decide)
  · have hhead := congrArg (·.toList.head?) hport
    simp at hhead

theorem parseServer_splitsBack_literal : SplitsBack "[2001:db8::1]:8443" "2001:db8::1" := by
  have hparse : parseServer " https://[2001:db8::1]:8443/por"
      = .ok ("[2001:db8::1]:8443", "2001:db8::1") := by decide +kernel
  have hraw : authorityRaw (trim " https://[2001:db8::1]:8443/por")
      = some "[2001:db8::1]:8443" := by decide +kernel
  have hliteral : IsLiteral "2001:db8::1" := ⟨by decide, by decide⟩
  have hport : IsPort "8443" := by decide
  exact (parseServer_splitsBack_iff hparse).mpr ⟨_, hraw, .endpoint (.literal hliteral hport)⟩

end ShiepPipeline
