import ShiepPipeline.Text.SocketText

/-!
# Hosts and URLs

The same host can be named in a URL and in the text that a socket is connected to. Both are cut into
a host and a port here, each by its own rules: a URL has user information in front of the host, a
path behind the port and characters that are skipped, and the port may be left out; the other text
has its port behind the last colon.

How a URL library reads the text of a host is left to the library. `UrlReader` says what all of
them do around it.
-/

open Str

namespace Net

/-! ## Hosts -/

/-- A host: an address, or a name, in lower case. -/
inductive Host
  | ip (ip : IpAddr)
  | name (text : String)
deriving DecidableEq, Repr

/-- The text within a pair of brackets. -/
def inBrackets (text : String) : Option String :=
  (stripPrefix text "[").bind fun rest ↦
    if rest.toList.getLast? = some ']' then some (String.ofList rest.toList.dropLast) else none

/-- The host that a text spells out: an address, which stands in brackets for IPv6, or a name. -/
def Host.spelled (text : String) : Host :=
  match Ipv4Addr.fromStr text, (inBrackets text).bind Ipv6Addr.fromStr with
  | some x, _ => .ip (.v4 x)
  | none, some x => .ip (.v6 x)
  | none, none => .name (toAsciiLowercase text)

/-- Where `TcpStream::connect` goes: to a socket address, or to the host whose name stands in front
of the last colon. -/
def connectTarget (text : String) : Option (Host × ℕ) :=
  match SocketAddr.fromStr text with
  | some (.v4 addr) => some (.ip (.v4 addr.ip), addr.port.toNat)
  | some (.v6 addr) => some (.ip (.v6 addr.ip), addr.port.toNat)
  | none => (rsplitOnce text ':').bind fun (name, port) ↦
      (parseUnsigned 65535 port).map fun port ↦ (.name (toAsciiLowercase name), port)

/-! ## URLs -/

/-- Where a request for an HTTP URL goes, and what it asks for. -/
structure HttpUrl where
  host : Host
  port : ℕ
  /-- Path, query and fragment, as they are written. -/
  rest : String
deriving DecidableEq, Repr

def isControlOrSpace (c : Char) : Bool := decide (c.toNat ≤ 0x20)

/-- A character that is skipped wherever it stands. -/
def isSkipped (c : Char) : Bool := c == '\t' || c == '\n' || c == '\r'

def isSlash (c : Char) : Bool := c == '/' || c == '\\'

/-- A character behind the host and the port. -/
def endsAuthority (c : Char) : Bool := isSlash c || c == '?' || c == '#'

/-- A character that the name of a host cannot have. -/
def isForbidden (c : Char) : Bool :=
  isControlOrSpace c || c.toNat == 0x7F || endsAuthority c
    || ['%', ':', '<', '>', '@', '[', ']', '^', '|'].contains c

/-- The text in front of the first colon outside of brackets, and the rest. -/
def cutHost (inside : Bool) : List Char → List Char × List Char
  | [] => ([], [])
  | c :: cs =>
    if c = ':' ∧ inside = false then ([], c :: cs)
    else
      let (host, port) := cutHost ((inside || c == '[') && c != ']') cs
      (c :: host, port)

/-- The port, with the colon in front of it. It may be left out, also behind a colon. -/
def readUrlPort (defaultPort : ℕ) : List Char → Option ℕ
  | [] | [_] => some defaultPort
  | _ :: digits =>
    if digits.all Char.isDigit ∧ Nat.ofDigitChars 10 digits 0 ≤ 65535 then
      some (Nat.ofDigitChars 10 digits 0)
    else none

def readHostPort (hostOf : String → Option Host) (defaultPort : ℕ) (l : List Char) :
    Option (Host × ℕ) :=
  let (host, port) := cutHost false l
  if host = [] then none
  else do return (← hostOf (String.ofList host), ← readUrlPort defaultPort port)

/-- A text without what is not looked at. -/
def tidy (text : String) : String :=
  String.ofList ((text.toList.rdropWhile isControlOrSpace).filter (!isSkipped ·))

/-- What stands behind `https://` or `http://`. The host comes after the last `@` of the
authority. -/
def readBehindScheme (hostOf : String → Option Host) (defaultPort : ℕ) (text : String) :
    Option HttpUrl :=
  let l := (tidy text).toList.dropWhile isSlash
  let hostPort := (l.takeWhile (!endsAuthority ·)).rtakeWhile (· != '@')
  (readHostPort hostOf defaultPort hostPort).map fun (host, port) ↦
    ⟨host, port, String.ofList (l.dropWhile (!endsAuthority ·))⟩

/-- A library that reads URLs, with a way of its own to read a host. -/
structure UrlReader where
  hostOf : String → Option Host
  read : String → Option HttpUrl
  read_https : ∀ text, read ("https://" ++ text) = readBehindScheme hostOf 443 text
  read_http : ∀ text, read ("http://" ++ text) = readBehindScheme hostOf 80 text
  isForbidden_of_name : ∀ {text name}, hostOf text = some (.name name) →
    ∀ c ∈ name.toList, isForbidden c = false
  /-- An IPv6 address has no scope. -/
  percent_of_brackets : ∀ {inside host}, hostOf ("[" ++ inside ++ "]") = some host →
    '%' ∉ inside.toList

/-! ## The text of a host -/

/-- A text without a place to cut it. -/
inductive IsHostText : String → Prop
  | name {text : String} (h : ∀ c ∈ text.toList, isForbidden c = false) : IsHostText text
  | literal {inside : String} (h : ∀ c ∈ inside.toList, isAddressChar c = true ∨ c = '%') :
      IsHostText ("[" ++ inside ++ "]")

section

variable {text inside a b digits : String} {host : Host} {port : ℕ}

theorem inBrackets_eq_some_iff : inBrackets text = some inside ↔ text = "[" ++ inside ++ "]" := by
  rw [inBrackets, Option.bind_eq_some_iff]
  constructor
  · rintro ⟨rest, hrest, h⟩
    split_ifs at h with hlast
    obtain rfl := Option.some.inj h
    obtain rfl := stripPrefix_eq_some_iff.mp hrest
    have hsplit := List.dropLast_append_getLast? _ hlast
    rw [← String.toList_inj]
    simp [hsplit]
  · rintro rfl
    refine ⟨inside ++ "]", stripPrefix_eq_some_iff.mpr (String.append_assoc ..), ?_⟩
    simp

theorem Host.spelled_v4 (x : Ipv4Addr) : Host.spelled x.display = .ip (.v4 x) := by
  rw [Host.spelled, Ipv4Addr.fromStr_display]

theorem Host.spelled_v6 {x : Ipv6Addr} (h : Ipv6Addr.fromStr inside = some x) :
    Host.spelled ("[" ++ inside ++ "]") = .ip (.v6 x) := by
  have hv4 : Ipv4Addr.fromStr ("[" ++ inside ++ "]") = none := by
    rw [Option.eq_none_iff_forall_ne_some]
    intro y hy
    have hmem : '[' ∈ y.display.toList := by
      rw [← Ipv4Addr.fromStr_eq_some_iff.mp hy]
      simp
    exact Ipv4Addr.not_mem_display rfl (by decide) hmem
  rw [Host.spelled, hv4, inBrackets_eq_some_iff.mpr rfl, Option.bind_some, h]

theorem Host.spelled_cases (text : String) :
    (∃ x : Ipv4Addr, text = x.display)
      ∨ (∃ inside x, text = "[" ++ inside ++ "]" ∧ Ipv6Addr.fromStr inside = some x)
      ∨ Host.spelled text = .name (toAsciiLowercase text) := by
  rcases hv4 : Ipv4Addr.fromStr text with _ | x
  · rcases hv6 : (inBrackets text).bind Ipv6Addr.fromStr with _ | x
    · exact .inr (.inr (by rw [Host.spelled, hv4, hv6]))
    · obtain ⟨inside, hinside, hx⟩ := Option.bind_eq_some_iff.mp hv6
      exact .inr (.inl ⟨inside, x, inBrackets_eq_some_iff.mp hinside, hx⟩)
  · exact .inl ⟨x, Ipv4Addr.fromStr_eq_some_iff.mp hv4⟩

/-- What holds of all ASCII characters. -/
private theorem of_ascii {p : Char → Prop} {c : Char} (hc : c.toNat < 128)
    (h : ∀ n < 128, p (Char.ofNat n)) : p c := by
  rw [← Char.ofNat_toNat c]
  exact h _ hc

theorem toNat_lt_of_isForbidden {c : Char} (h : isForbidden c = true) : c.toNat < 128 := by
  simp only [isForbidden, isControlOrSpace, endsAuthority, isSlash, Bool.or_eq_true,
    decide_eq_true_eq, beq_iff_eq, List.contains_iff_mem, List.mem_cons, List.not_mem_nil,
    or_false] at h
  rcases h with (((h | h) | h) | h)
  · omega
  · omega
  · rcases h with ((rfl | rfl) | rfl) | rfl <;> decide
  · rcases h with rfl | rfl | rfl | rfl | rfl | rfl | rfl | rfl | rfl <;> decide

theorem toNat_lt_of_isAddressChar {c : Char} (h : isAddressChar c = true) : c.toNat < 128 := by
  simp only [isAddressChar, Bool.or_eq_true, beq_iff_eq] at h
  rcases h with (h | rfl) | rfl
  · have hrange := range_of_toDigit h
    omega
  · decide
  · decide

theorem toLower_of_isForbidden {c : Char} (h : isForbidden c = true) : c.toLower = c :=
  of_ascii (p := fun c ↦ isForbidden c = true → c.toLower = c) (toNat_lt_of_isForbidden h)
    (by decide) h

theorem isForbidden_of_isDigit {c : Char} (h : c.isDigit = true) : isForbidden c = false := by
  have hrange : 48 ≤ c.toNat ∧ c.toNat ≤ 57 := by
    simpa [Char.isDigit, UInt32.le_iff_toNat_le] using h
  exact of_ascii (p := fun c ↦ c.isDigit = true → isForbidden c = false) (by omega) (by decide) h

theorem eq_colon_of_isAddressChar {c : Char} (h : isAddressChar c = true)
    (hforbidden : isForbidden c = true) : c = ':' :=
  of_ascii (p := fun c ↦ isAddressChar c = true → isForbidden c = true → c = ':')
    (toNat_lt_of_isAddressChar h) (by decide) h hforbidden

/-- Case does not matter for what is forbidden. -/
theorem isForbidden_of_toAsciiLowercase
    (h : ∀ c ∈ (toAsciiLowercase text).toList, isForbidden c = false) :
    ∀ c ∈ text.toList, isForbidden c = false := by
  intro c hc
  by_contra hforbidden
  rw [Bool.not_eq_false] at hforbidden
  have hmem : c ∈ (toAsciiLowercase text).toList := by
    rw [toAsciiLowercase, String.toList_ofList, List.mem_map]
    exact ⟨c, hc, toLower_of_isForbidden hforbidden⟩
  rw [h c hmem] at hforbidden
  cases hforbidden

theorem isHostText_display (x : Ipv4Addr) : IsHostText x.display := by
  refine .name fun c hc ↦ ?_
  rcases Ipv4Addr.mem_display hc with h | rfl
  · exact isForbidden_of_isDigit h
  · decide

theorem isAddressChar_of_fromStr {x : Ipv6Addr} (h : Ipv6Addr.fromStr inside = some x) {c : Char}
    (hc : c ∈ inside.toList) : isAddressChar c = true := by
  have hread : readIpv6Addr (inside.toList ++ []) = some (x, []) := by
    rw [List.append_nil]
    exact parseWith_eq_some_iff.mp h
  exact within_readIpv6Addr.isAddressChar_of_mem hread hc

/-- A library that takes a text for the host it spells out cuts it nowhere. -/
theorem UrlReader.isHostText (url : UrlReader) (h : url.hostOf text = some (Host.spelled text)) :
    IsHostText text := by
  rcases Host.spelled_cases text with ⟨x, rfl⟩ | ⟨inside, x, rfl, hx⟩ | hname
  · exact isHostText_display x
  · exact .literal fun c hc ↦ .inl (isAddressChar_of_fromStr hx hc)
  · rw [hname] at h
    exact .name (isForbidden_of_toAsciiLowercase (url.isForbidden_of_name h))

theorem UrlReader.percent (url : UrlReader) (hhost : url.hostOf text = some host)
    (h : IsHostText text) : '%' ∉ text.toList := by
  obtain h | h := h
  · intro hmem
    exact absurd (h '%' hmem) (by decide)
  · have hinside := url.percent_of_brackets hhost
    simpa using hinside

/-! ## Both ways to cut a text -/

theorem parseUnsigned_of_isPortText (h : IsPortText digits port) :
    parseUnsigned 65535 digits = some port := by
  have hdigits : unsignedDigits digits = digits.toList := by
    rw [unsignedDigits]
    split
    · rename_i rest hplus
      have := h.isDigit '+' (by rw [hplus]; exact List.mem_cons_self)
      cases this
    · rfl
  rw [parseUnsigned, hdigits, h.value, if_pos ⟨h.ne_nil, List.all_eq_true.mpr h.isDigit, h.le⟩]

/-- **A host with a port** is what is connected to, as it is spelled out. -/
theorem connectTarget_append (hpercent : '%' ∉ text.toList) (hport : IsPortText digits port) :
    connectTarget (text ++ ":" ++ digits) = some (Host.spelled text, port) := by
  have hcolon : ':' ∉ digits.toList := hport.not_mem rfl
  rw [connectTarget]
  rcases hsocket : SocketAddr.fromStr (text ++ ":" ++ digits) with _ | addr | addr
  · dsimp only
    rw [rsplitOnce_append rfl hcolon, Option.bind_some, parseUnsigned_of_isPortText hport,
      Option.map_some]
    -- a text that spells an address would have been read as a socket address
    rcases Host.spelled_cases text with ⟨x, rfl⟩ | ⟨inside, x, rfl, hx⟩ | hname
    · have hv4 : SocketAddr.fromStr (x.display ++ ":" ++ digits)
          = some (.v4 ⟨x, .ofNat port⟩) :=
        SocketAddr.fromStr_v4_iff.mpr ⟨digits, by rwa [hport.toNat_ofNat], rfl⟩
      rw [hsocket] at hv4
      cases hv4
    · have hv6 := SocketAddr.fromStr_v6 hx hport
      have hshape : "[" ++ inside ++ "]:" ++ digits = "[" ++ inside ++ "]" ++ ":" ++ digits := by
        simp [String.append_assoc]
      rw [hshape, hsocket] at hv6
      cases hv6
    · rw [hname]
  · obtain ⟨digits', hdigits', heq⟩ := SocketAddr.fromStr_v4_iff.mp hsocket
    obtain ⟨rfl, rfl⟩ := append_inj_of_not_mem rfl hcolon (hdigits'.not_mem rfl) heq
    rw [Host.spelled_v4, hport.unique hdigits']
  · obtain ⟨inside, digits', heq, hdigits', -, hip⟩ := SocketAddr.eq_of_fromStr_v6 hsocket
    have hshape : "[" ++ inside ++ "]:" ++ digits' = "[" ++ inside ++ "]" ++ ":" ++ digits' := by
      simp [String.append_assoc]
    rw [hshape] at heq
    obtain ⟨rfl, rfl⟩ := append_inj_of_not_mem rfl hcolon (hdigits'.not_mem rfl) heq
    have hinside : '%' ∉ inside.toList := by simpa using hpercent
    rw [Host.spelled_v6 (hip hinside), hport.unique hdigits']

/-- Whatever is connected to has a host and a port, with a colon between them. -/
theorem exists_of_connectTarget (h : connectTarget text = some (host, port))
    (hname : ∀ name, host = .name name → ∀ c ∈ name.toList, isForbidden c = false) :
    ∃ front digits, text = front ++ ":" ++ digits ∧ (parseUnsigned 65535 digits).isSome
      ∧ IsHostText front := by
  rw [connectTarget] at h
  rcases hsocket : SocketAddr.fromStr text with _ | addr | addr
  · rw [hsocket] at h
    obtain ⟨⟨front, digits⟩, hcut, h⟩ := Option.bind_eq_some_iff.mp h
    obtain ⟨port', hport, heq⟩ := Option.map_eq_some_iff.mp h
    obtain ⟨rfl, rfl⟩ := Prod.mk.inj heq
    refine ⟨front, digits, ?_, by rw [hport]; rfl, ?_⟩
    · rw [← String.toList_inj, (rsplitOnce_eq_some_iff.mp hcut).1]
      simp
    · exact .name (isForbidden_of_toAsciiLowercase (hname _ rfl))
  · obtain ⟨digits, hdigits, rfl⟩ := SocketAddr.fromStr_v4_iff.mp hsocket
    refine ⟨_, digits, rfl, ?_, isHostText_display addr.ip⟩
    rw [parseUnsigned_of_isPortText hdigits]
    rfl
  · obtain ⟨inside, digits, rfl, hdigits, hinside, -⟩ := SocketAddr.eq_of_fromStr_v6 hsocket
    refine ⟨"[" ++ inside ++ "]", digits, by simp [String.append_assoc], ?_, .literal hinside⟩
    rw [parseUnsigned_of_isPortText hdigits]
    rfl

/-! ## The parts of a URL -/

/-- A character that can stand in front of the host's end, and only means itself there. -/
def isPlain (c : Char) : Bool := !isControlOrSpace c && !endsAuthority c && c != '@'

theorem isPlain_of_isForbidden {c : Char} (h : isForbidden c = false) : isPlain c = true := by
  simp only [isForbidden, Bool.or_eq_false_iff, List.contains_eq_mem, decide_eq_false_iff_not,
    List.mem_cons, not_or] at h
  obtain ⟨⟨⟨hcontrol, -⟩, hends⟩, hlist⟩ := h
  rw [isPlain, hcontrol, hends]
  simpa using hlist.2.2.2.2.1

theorem isPlain_of_isAddressChar {c : Char} (h : isAddressChar c = true) : isPlain c = true := by
  by_cases hforbidden : isForbidden c = true
  · rw [eq_colon_of_isAddressChar h hforbidden]
    decide
  · exact isPlain_of_isForbidden (Bool.not_eq_true _ ▸ hforbidden)

theorem IsHostText.isPlain_of_mem (h : IsHostText text) : ∀ c ∈ text.toList, isPlain c = true := by
  obtain h | h := h
  · exact fun c hc ↦ isPlain_of_isForbidden (h c hc)
  · intro c hc
    simp only [String.toList_append, List.mem_append] at hc
    rcases hc with (hc | hc) | hc
    · obtain rfl := List.mem_singleton.mp hc
      decide
    · rcases h c hc with hc | rfl
      · exact isPlain_of_isAddressChar hc
      · decide
    · obtain rfl := List.mem_singleton.mp hc
      decide

theorem cutHost_append_outside {l rest : List Char}
    (h : ∀ c ∈ l, c ≠ ':' ∧ c ≠ '[') :
    cutHost false (l ++ rest) = (l ++ (cutHost false rest).1, (cutHost false rest).2) := by
  induction l with
  | nil => rfl
  | cons c l ih =>
    obtain ⟨hcolon, hopen⟩ := h c List.mem_cons_self
    have hinside : ((false || c == '[') && c != ']') = false := by
      rw [Bool.false_or, beq_false_of_ne hopen, Bool.false_and]
    rw [List.cons_append, cutHost, if_neg fun hc ↦ hcolon hc.1, hinside,
      ih fun x hx ↦ h x (List.mem_cons_of_mem _ hx)]
    rfl

theorem cutHost_append_inside {l rest : List Char} (h : ∀ c ∈ l, c ≠ ']') :
    cutHost true (l ++ rest) = (l ++ (cutHost true rest).1, (cutHost true rest).2) := by
  induction l with
  | nil => rfl
  | cons c l ih =>
    have hinside : ((true || c == '[') && c != ']') = true := by
      rw [Bool.true_or, Bool.true_and, bne_iff_ne]
      exact h c List.mem_cons_self
    rw [List.cons_append, cutHost, if_neg fun hc ↦ nomatch hc.2]
    rw [hinside]
    rw [ih fun x hx ↦ h x (List.mem_cons_of_mem _ hx)]
    rfl

/-- **The text of a host** is cut off where it ends. -/
theorem IsHostText.cutHost_append (h : IsHostText text) {rest : List Char}
    (hrest : ∀ c ∈ rest.head?, c = ':') :
    cutHost false (text.toList ++ rest) = (text.toList, rest) := by
  have hend : cutHost false rest = ([], rest) := by
    rcases rest with _ | ⟨c, rest⟩
    · rfl
    · obtain rfl := hrest c rfl
      rfl
  obtain h | h := h
  · have hchars : ∀ c ∈ text.toList, c ≠ ':' ∧ c ≠ '[' := by
      intro c hc
      constructor
      · rintro rfl
        exact absurd (h _ hc) (by decide)
      · rintro rfl
        exact absurd (h _ hc) (by decide)
    rw [cutHost_append_outside hchars, hend, List.append_nil]
  · rename_i inside
    have hchars : ∀ c ∈ inside.toList, c ≠ ']' := by
      rintro c hc rfl
      exact absurd (h _ hc) (by decide)
    have hshape : ("[" ++ inside ++ "]").toList ++ rest
        = '[' :: (inside.toList ++ ']' :: rest) := by simp
    have hclose : cutHost true (']' :: rest) = (']' :: (cutHost false rest).1,
        (cutHost false rest).2) := rfl
    have hopen : cutHost false ('[' :: (inside.toList ++ ']' :: rest))
        = ('[' :: (cutHost true (inside.toList ++ ']' :: rest)).1,
          (cutHost true (inside.toList ++ ']' :: rest)).2) := rfl
    rw [hshape, hopen, cutHost_append_inside hchars, hclose, hend]
    simp

theorem IsHostText.readHostPort_append (h : IsHostText text) (hne : text ≠ "")
    (hostOf : String → Option Host) (defaultPort : ℕ) (rest : List Char)
    (hrest : ∀ c ∈ rest.head?, c = ':') :
    readHostPort hostOf defaultPort (text.toList ++ rest)
      = (hostOf text).bind fun host ↦
        (readUrlPort defaultPort rest).map fun port ↦ (host, port) := by
  have hnil : text.toList ≠ [] := fun hnil ↦ hne (String.toList_eq_nil_iff.mp hnil)
  rw [readHostPort, h.cutHost_append hrest]
  dsimp only
  rw [if_neg hnil, String.ofList_toList]
  rcases hostOf text with _ | host
  · rfl
  · rcases readUrlPort defaultPort rest with _ | port
    · rfl
    · rfl

theorem readUrlPort_iff {defaultPort : ℕ} (hne : digits.toList ≠ []) :
    readUrlPort defaultPort (':' :: digits.toList) = some port ↔ IsPortText digits port := by
  rw [readUrlPort, Option.ite_none_right_eq_some, Option.some.injEq]
  · constructor
    · rintro ⟨⟨hdigits, hle⟩, hvalue⟩
      exact ⟨hne, List.all_eq_true.mp hdigits, hvalue, hvalue ▸ hle⟩
    · rintro ⟨-, hdigits, hvalue, hle⟩
      exact ⟨⟨List.all_eq_true.mpr hdigits, hvalue ▸ hle⟩, hvalue⟩
  · exact hne

section HostPort

variable {hostOf : String → Option Host} {defaultPort : ℕ}

/-- A host without a port has the default one. -/
theorem IsHostText.readHostPort_iff (h : IsHostText text) (hne : text ≠ "") :
    readHostPort hostOf defaultPort text.toList = some (host, port)
      ↔ hostOf text = some host ∧ defaultPort = port := by
  have hread := h.readHostPort_append hne hostOf defaultPort [] fun c hc ↦ nomatch hc
  rw [List.append_nil] at hread
  rw [hread]
  rcases hostOf text with _ | x <;> simp [readUrlPort]

theorem IsHostText.readHostPort_append_iff (h : IsHostText text) (hne : text ≠ "")
    (hdigits : digits.toList ≠ []) :
    readHostPort hostOf defaultPort (text ++ ":" ++ digits).toList = some (host, port)
      ↔ hostOf text = some host ∧ IsPortText digits port := by
  have hread := h.readHostPort_append hne hostOf defaultPort (':' :: digits.toList)
    fun c hc ↦ (Option.some.inj hc).symm
  have hlist : (text ++ ":" ++ digits).toList = text.toList ++ ':' :: digits.toList := by simp
  rw [hlist, hread, ← readUrlPort_iff hdigits]
  rcases hostOf text with _ | x
  · simp
  · rcases readUrlPort defaultPort (':' :: digits.toList) with _ | y <;> simp

end HostPort

theorem isSkipped_of_isControlOrSpace {c : Char} (h : isControlOrSpace c = false) :
    isSkipped c = false := by
  by_contra hskipped
  rw [Bool.not_eq_false] at hskipped
  simp only [isSkipped, Bool.or_eq_true, beq_iff_eq] at hskipped
  rcases hskipped with (rfl | rfl) | rfl <;> cases h

theorem tidy_append (ha : ∀ c ∈ a.toList, isControlOrSpace c = false)
    (hb : ∀ c ∈ b.toList.head?, isControlOrSpace c = false) : tidy (a ++ b) = a ++ tidy b := by
  have hend : (a ++ b).toList.rdropWhile isControlOrSpace
      = a.toList ++ b.toList.rdropWhile isControlOrSpace := by
    rw [String.toList_append]
    rcases hlist : b.toList with _ | ⟨c, cs⟩
    · rw [List.append_nil, List.rdropWhile_nil, List.append_nil, List.rdropWhile_eq_self_iff]
      intro hl
      rw [ha _ (List.getLast_mem hl)]
      exact Bool.false_ne_true
    · have hc : isControlOrSpace c = false := hb c (by rw [hlist]; rfl)
      have hcons := rdropWhile_append_cons hc [] cs
      rw [List.nil_append, List.nil_append] at hcons
      rw [rdropWhile_append_cons hc, hcons]
  have hskip : a.toList.filter (!isSkipped ·) = a.toList := by
    rw [List.filter_eq_self]
    intro c hc
    rw [isSkipped_of_isControlOrSpace (ha c hc)]
    rfl
  rw [tidy, hend, List.filter_append, hskip, String.ofList_append, String.ofList_toList, tidy]

theorem head?_tidy (hb : ∀ c ∈ b.toList.head?, isControlOrSpace c = false) :
    (tidy b).toList.head? = b.toList.head? := by
  rw [tidy, String.toList_ofList]
  rcases hlist : b.toList with _ | ⟨c, cs⟩
  · rfl
  · have hc : isControlOrSpace c = false := hb c (by rw [hlist]; rfl)
    have hcons := rdropWhile_append_cons hc [] cs
    rw [List.nil_append, List.nil_append] at hcons
    rw [hcons, List.filter_cons, isSkipped_of_isControlOrSpace hc]
    rfl

/-- **An authority without user information** is read up to the path. -/
theorem readBehindScheme_append (hostOf : String → Option Host) (defaultPort : ℕ) (hne : a ≠ "")
    (ha : ∀ c ∈ a.toList, isPlain c = true) (hb : ∀ c ∈ b.toList.head?, c = '/') :
    readBehindScheme hostOf defaultPort (a ++ b)
      = (readHostPort hostOf defaultPort a.toList).map fun (host, port) ↦
        ⟨host, port, tidy b⟩ := by
  have hchars : ∀ c ∈ a.toList, isControlOrSpace c = false ∧ endsAuthority c = false
      ∧ (c != '@') = true := by
    intro c hc
    have hplain := ha c hc
    rw [isPlain, Bool.and_eq_true, Bool.and_eq_true, Bool.not_eq_true', Bool.not_eq_true'] at hplain
    exact ⟨hplain.1.1, hplain.1.2, hplain.2⟩
  have hb' : ∀ c ∈ b.toList.head?, isControlOrSpace c = false := by
    intro c hc
    rw [hb c hc]
    decide
  have hslash : (a ++ tidy b).toList.dropWhile isSlash = a.toList ++ (tidy b).toList := by
    rw [String.toList_append]
    rcases hlist : a.toList with _ | ⟨c, cs⟩
    · exact absurd (String.toList_eq_nil_iff.mp hlist) hne
    · have hc : endsAuthority c = false := (hchars c (hlist ▸ List.mem_cons_self)).2.1
      simp only [endsAuthority, Bool.or_eq_false_iff] at hc
      rw [List.cons_append, List.dropWhile_cons, hc.1.1, if_neg Bool.false_ne_true]
  have hall : ∀ c ∈ a.toList, (!endsAuthority c) = true := by
    intro c hc
    rw [(hchars c hc).2.1]
    rfl
  -- the path, if there is one, begins with a slash
  have hpath : (tidy b).toList.takeWhile (!endsAuthority ·) = []
      ∧ (tidy b).toList.dropWhile (!endsAuthority ·) = (tidy b).toList := by
    have hhead := head?_tidy hb'
    rcases hlist : (tidy b).toList with _ | ⟨c, cs⟩
    · simp
    · rw [hlist] at hhead
      obtain rfl := hb c hhead.symm
      exact ⟨rfl, rfl⟩
  have huser : a.toList.rtakeWhile (· != '@') = a.toList :=
    List.rtakeWhile_eq_self_iff.mpr fun c hc ↦ (hchars c hc).2.2
  rw [readBehindScheme, tidy_append (fun c hc ↦ (hchars c hc).1) hb', hslash,
    List.takeWhile_append_of_pos hall, List.dropWhile_append_of_pos hall, hpath.1, hpath.2,
    List.append_nil, huser, String.ofList_toList]

/-- The host of a URL has been read from some text. -/
theorem exists_hostOf_of_readBehindScheme {hostOf : String → Option Host} {defaultPort : ℕ}
    {u : HttpUrl} (h : readBehindScheme hostOf defaultPort text = some u) :
    ∃ hostText, hostOf hostText = some u.host := by
  rw [readBehindScheme] at h
  obtain ⟨⟨host, port⟩, hread, rfl⟩ := Option.map_eq_some_iff.mp h
  rw [readHostPort] at hread
  dsimp only at hread
  split_ifs at hread
  obtain ⟨host', hhost, hread⟩ := Option.bind_eq_some_iff.mp hread
  obtain ⟨port', -, heq⟩ := Option.bind_eq_some_iff.mp hread
  obtain ⟨rfl, rfl⟩ := Prod.mk.inj (Option.some.inj heq)
  exact ⟨_, hhost⟩

theorem tidy_eq_self (h : ∀ c ∈ text.toList, isControlOrSpace c = false) : tidy text = text := by
  have hempty := tidy_append (b := "") h fun c hc ↦ nomatch hc
  have htidy : tidy "" = "" := rfl
  rwa [String.append_empty, htidy, String.append_empty] at hempty

/-! ## A library that adds nothing -/

/-- A text for the host it spells out, and for no other one. -/
def spelledHost (text : String) : Option Host :=
  match Host.spelled text with
  | .ip ip => some (.ip ip)
  | .name name => if name.toList.all (!isForbidden ·) then some (.name name) else none

theorem isForbidden_of_spelledHost {name : String} (h : spelledHost text = some (.name name)) :
    ∀ c ∈ name.toList, isForbidden c = false := by
  rw [spelledHost] at h
  rcases hspelled : Host.spelled text with ip | name'
  · rw [hspelled] at h
    cases h
  · rw [hspelled] at h
    dsimp only at h
    split_ifs at h with hall
    obtain rfl := Host.name.inj (Option.some.inj h)
    exact fun c hc ↦ by simpa using List.all_eq_true.mp hall c hc

theorem percent_of_spelledHost (h : spelledHost ("[" ++ inside ++ "]") = some host) :
    '%' ∉ inside.toList := by
  rcases Host.spelled_cases ("[" ++ inside ++ "]") with ⟨x, hx⟩ | ⟨inside', x, heq, hx⟩ | hname
  · have hmem : '[' ∈ x.display.toList := by
      rw [← hx]
      simp
    exact absurd hmem (Ipv4Addr.not_mem_display rfl (by decide))
  · rw [← inBrackets_eq_some_iff, inBrackets_eq_some_iff.mpr rfl, Option.some.injEq] at heq
    rw [heq]
    exact fun hmem ↦ absurd (isAddressChar_of_fromStr hx hmem) (by decide)
  · -- a name has no brackets
    rw [spelledHost, hname] at h
    dsimp only at h
    split_ifs at h with hall
    have hforbidden := isForbidden_of_toAsciiLowercase
      (fun c hc ↦ by simpa using List.all_eq_true.mp hall c hc) '[' (by simp)
    cases hforbidden

/-- Neither scheme is the beginning of the other. -/
theorem startsWith_schemes (rest : String) : startsWith ("https://" ++ rest) "http://" = false
    ∧ startsWith ("http://" ++ rest) "https://" = false := by
  simp [startsWith, List.cons_prefix_cons]

/-- A URL library with these hosts. -/
def spellingReader : UrlReader where
  hostOf := spelledHost
  read text :=
    match stripPrefix text "https://", stripPrefix text "http://" with
    | some rest, _ => readBehindScheme spelledHost 443 rest
    | none, some rest => readBehindScheme spelledHost 80 rest
    | none, none => none
  read_https rest := by rw [stripPrefix_eq_some_iff.mpr rfl]
  read_http rest := by
    rw [startsWith_eq_false_iff.mp (startsWith_schemes rest).2, stripPrefix_eq_some_iff.mpr rfl]
  isForbidden_of_name := isForbidden_of_spelledHost
  percent_of_brackets := percent_of_spelledHost

end

end Net
