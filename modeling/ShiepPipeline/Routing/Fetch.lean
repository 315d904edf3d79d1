import ShiepPipeline.Endpoint
import ShiepPipeline.Routing.Literal
import ShiepPipeline.Routing.Router
import ShiepPipeline.Routing.Table
import ShiepPipeline.Text.Utf8
import ShiepPipeline.Tunnel.Reading

/-!
# Fetching the route table

The table is the answer to a request, and is read until the server closes the connection, a read
times out, or eight seconds have passed. The router gets the table, or goes into tunnel mode if
there is none.

A response that has been cut off between two elements parses like a complete one.
`parseRouteTableXml_cut_iff` says for which documents the elements that stay open at the end are
not overlooked: only for those that are refused for another reason.
-/

open Net Str Utf8

namespace ShiepPipeline

/-! ## The response -/

/-- `ROUTE_TABLE_RESPONSE_TIMEOUT`, eight seconds, in nanoseconds. -/
def routeTableResponseTimeout : ℕ := 8 * 10 ^ 9

/-- The loop of `fetch_route_table` with the bytes that it has collected. A read fills a buffer of
4096 bytes at most. -/
def readResponseLoop (deadline : ℕ) :
    List Delivery → ℕ → List UInt8 → Option (Except EcError (List UInt8))
  | incoming, clock, raw =>
    if clock < deadline then
      match incoming with
      | [] => none
      | d :: incoming =>
        match d.result with
        | .ok [] => some (.ok raw)
        | .ok (byte :: bytes) =>
          readResponseLoop deadline incoming (max clock d.time) (raw ++ byte :: bytes)
        | .error e =>
          if isWouldblockOrTimeout e.kind then some (.ok raw)
          else some (.error (.runtime s!"rclist response read failed: {e.text}"))
    else some (.ok raw)

def readResponse (stream : TlsStream) : Option (Except EcError (List UInt8)) :=
  readResponseLoop (stream.clock + routeTableResponseTimeout) stream.incoming stream.clock []

/-- `str::find`, as the text that begins where `p` is found first. -/
def findFrom (p : List Char) : List Char → Option (List Char)
  | [] => if p = [] then some [] else none
  | c :: cs => if p <+: c :: cs then some (c :: cs) else findFrom p cs

def extractXmlPayload (responseText : String) : Except EcError String :=
  match (findFrom "<?xml".toList responseText.toList).or
      (findFrom "<Resource>".toList responseText.toList) with
  | some payload => .ok (String.ofList payload)
  | none => .error (.runtime "rclist response does not contain XML payload")

/-! ## The table -/

section Fetch

variable (connectTls : String → String → Except EcError TlsStream)
  (readEvents : String → List XmlEvent)

def rclistRequest (authority twfId : String) : String :=
  s!"GET /por/rclist.csp HTTP/1.1\r\nHost: {authority}\r\nCookie: TWFID={twfId}\r\n"
    ++ "Connection: close\r\n\r\n"

/-- The part of `fetch_route_table` behind its loop. -/
def parseResponse (raw : List UInt8) : Except EcError RouteTable :=
  if raw = [] then .error (.runtime "rclist response is empty or timed out")
  else do
    let xmlPayload ← extractXmlPayload (fromUtf8Lossy raw)
    parseRouteTableXml (readEvents xmlPayload)

/-- `fetch_route_table`, with the connection and the events of the XML reader as parameters. -/
def fetchRouteTable (server twfId : String) : Option (Except EcError RouteTable) :=
  match parseServer server with
  | .error e => some (.error e)
  | .ok (authority, host) =>
    match connectTls authority host with
    | .error e => some (.error e)
    | .ok stream =>
      match stream.write (asBytes (rclistRequest authority twfId)) with
      | .error e => some (.error (.runtime s!"rclist request write failed: {e}"))
      | .ok () => (readResponse stream).map fun response ↦ response >>= parseResponse readEvents

/-- What `try_install_route_table` asks of the router. -/
def tryInstallRouteTable (server twfId : String) (extraIps : List String) : Option RouterRequest :=
  (fetchRouteTable connectTls readEvents server twfId).map fun
    | .ok table => .installRouteTable table extraIps
    | .error _ => .installTunnelFallback

end Fetch

/-! ## Responses that are cut off -/

/-- The server sends the bytes `raw` and then nothing more before a read times out or the deadline
has passed. -/
inductive CutOff (deadline : ℕ) : List Delivery → ℕ → List UInt8 → Prop
  | timeout {d : Delivery} {e : ReadError} {clock : ℕ} (h : clock < deadline)
      (hd : d.result = .error e) (he : isWouldblockOrTimeout e.kind = true)
      (incoming : List Delivery) : CutOff deadline (d :: incoming) clock []
  | late {clock : ℕ} (h : deadline ≤ clock) (incoming : List Delivery) :
      CutOff deadline incoming clock []
  | chunk {d : Delivery} {bytes raw : List UInt8} {clock : ℕ} {incoming : List Delivery}
      (h : clock < deadline) (hd : d.result = .ok bytes) (hne : bytes ≠ [])
      (hrest : CutOff deadline incoming (max clock d.time) raw) :
      CutOff deadline (d :: incoming) clock (bytes ++ raw)

/-- **A response that is cut off is taken for a complete one.** -/
theorem readResponseLoop_of_cutOff {deadline clock : ℕ} {incoming : List Delivery}
    {raw : List UInt8} (h : CutOff deadline incoming clock raw) (buf : List UInt8) :
    readResponseLoop deadline incoming clock buf = some (.ok (buf ++ raw)) := by
  induction h generalizing buf with
  | timeout h hd he incoming =>
    rw [readResponseLoop, if_pos h, hd, List.append_nil]
    exact if_pos he
  | late h incoming =>
    rw [List.append_nil]
    rcases incoming with _ | ⟨d, incoming⟩ <;> rw [readResponseLoop, if_neg (not_lt.mpr h)]
  | chunk h hd hne _ ih =>
    obtain ⟨byte, bytes, rfl⟩ := List.exists_cons_of_ne_nil hne
    rw [readResponseLoop, if_pos h, hd]
    dsimp only
    rw [ih, List.append_assoc]

theorem extractXmlPayload_ne_nil {raw : List UInt8} {xml : String}
    (h : extractXmlPayload (fromUtf8Lossy raw) = .ok xml) : raw ≠ [] := by
  rintro rfl
  have hempty : fromUtf8Lossy [] = "" := by
    rw [fromUtf8Lossy]
    rfl
  rw [hempty] at h
  cases h

/-- A response with a document in it is parsed, cut off or not. -/
theorem fetchRouteTable_of_cutOff {connectTls : String → String → Except EcError TlsStream}
    {readEvents : String → List XmlEvent} {server twfId authority host : String}
    {stream : TlsStream} {raw : List UInt8} {xml : String}
    (hserver : parseServer server = .ok (authority, host))
    (hconnect : connectTls authority host = .ok stream)
    (hwrite : stream.write (asBytes (rclistRequest authority twfId)) = .ok ())
    (hcut : CutOff (stream.clock + routeTableResponseTimeout) stream.incoming stream.clock raw)
    (hxml : extractXmlPayload (fromUtf8Lossy raw) = .ok xml) :
    fetchRouteTable connectTls readEvents server twfId
      = some (parseRouteTableXml (readEvents xml)) := by
  have hread : readResponse stream = some (.ok raw) := readResponseLoop_of_cutOff hcut []
  rw [fetchRouteTable, hserver]
  dsimp only
  rw [hconnect]
  dsimp only
  rw [hwrite, hread]
  dsimp only [Option.map_some]
  refine congrArg some ?_
  change parseResponse readEvents raw = _
  rw [parseResponse, if_neg (extractXmlPayload_ne_nil hxml), hxml]
  rfl

/-! ## Documents that are refused -/

/-- The elements that have been started and not ended, the last one first. -/
def openElements (events : List XmlEvent) : List String :=
  events.foldl (fun names event ↦
    match event with
    | .start name _ => name :: names
    | .stop _ => names.tail
    | _ => names) []

/-- An attribute that the reader cannot give a value for. -/
def XmlAttribute.IsBad (attr : XmlAttribute) : Prop := ∃ e, decodeAttribute attr = .error e

/-- A resource with its three attributes whose number is not one. -/
def IsMisnumbered (attrs : List XmlAttribute) : Prop :=
  ∃ a, readRcAttributes attrs = .ok a ∧ a.hostRaw.isSome ∧ a.portRaw.isSome
    ∧ ∃ idRaw e, a.idRaw = some idRaw ∧ parseI32 idRaw = .error e

def IsFaultyElement (name : String) (attrs : List XmlAttribute) : Prop :=
  (name = "Rc" ∨ name = "Dns") ∧ (∃ attr ∈ attrs, attr.IsBad) ∨ name = "Rc" ∧ IsMisnumbered attrs

/-- An element for which a whole document is refused. -/
def XmlEvent.IsFaulty : XmlEvent → Prop
  | .start name attrs | .empty name attrs => IsFaultyElement name attrs
  | _ => False

/-- A computation fails. -/
def Fails {α : Type} (x : Except EcError α) : Prop := ∃ e, x = .error e

theorem fails_error {α : Type} (e : EcError) : Fails (.error e : Except EcError α) := ⟨e, rfl⟩

theorem not_fails_ok {α : Type} (a : α) : ¬Fails (.ok a : Except EcError α) :=
  fun ⟨_, h⟩ ↦ nomatch h

theorem fails_bind_iff {α β : Type} {x : Except EcError α} {f : α → Except EcError β} :
    Fails (x >>= f) ↔ Fails x ∨ ∃ a, x = .ok a ∧ Fails (f a) := by
  obtain e | a := x
  · exact iff_of_true (fails_error e) (.inl (fails_error e))
  · constructor
    · intro h
      exact .inr ⟨a, rfl, h⟩
    · rintro (h | ⟨b, hb, h⟩)
      · exact absurd h (not_fails_ok a)
      · exact Except.ok.inj hb ▸ h

/-- A loop over the attributes fails at the first bad one, and there only. -/
theorem fails_foldlM_iff {α : Type} (assign : α → String → String → α) (attrs : List XmlAttribute)
    (a : α) :
    Fails (attrs.foldlM (fun a attr ↦ do
        let (key, value) ← decodeAttribute attr
        return assign a key value) a) ↔ ∃ attr ∈ attrs, attr.IsBad := by
  induction attrs generalizing a with
  | nil => exact iff_of_false (not_fails_ok a) (by simp)
  | cons attr attrs ih =>
    rw [List.foldlM_cons, fails_bind_iff, List.exists_mem_cons_iff]
    rcases hattr : decodeAttribute attr with e | ⟨key, value⟩
    · exact iff_of_true (.inl (fails_error e)) (.inl ⟨e, hattr⟩)
    · have hgood : ¬attr.IsBad := fun ⟨_, h⟩ ↦ nomatch hattr.symm.trans h
      rw [or_iff_right hgood, ← ih (assign a key value)]
      constructor
      · rintro (h | ⟨_, h, hrest⟩)
        · exact absurd h (not_fails_ok _)
        · exact Except.ok.inj h ▸ hrest
      · intro hrest
        exact .inr ⟨_, rfl, hrest⟩

theorem fails_emit_iff {a : RcAttributes} :
    Fails a.emit ↔ a.hostRaw.isSome ∧ a.portRaw.isSome
      ∧ ∃ idRaw e, a.idRaw = some idRaw ∧ parseI32 idRaw = .error e := by
  obtain ⟨idRaw, protoRaw, svc, hostRaw, portRaw, name⟩ := a
  rw [RcAttributes.emit]
  rcases idRaw with _ | idRaw <;> rcases hostRaw with _ | hostRaw <;>
    rcases portRaw with _ | portRaw
  case some.some.some =>
    dsimp only
    rcases hid : parseI32 idRaw with e | rcId <;> simp [Fails, hid]
  all_goals exact iff_of_false (not_fails_ok _) (by simp)

theorem fails_parseRc_iff {attrs : List XmlAttribute} {rules : List RouteRule} :
    Fails (parseRc attrs rules) ↔ (∃ attr ∈ attrs, attr.IsBad) ∨ IsMisnumbered attrs := by
  have hread : Fails (readRcAttributes attrs) ↔ ∃ attr ∈ attrs, attr.IsBad :=
    fails_foldlM_iff RcAttributes.assign attrs {}
  have hemit : (∃ a, readRcAttributes attrs = .ok a ∧ Fails a.emit) ↔ IsMisnumbered attrs := by
    simp only [fails_emit_iff, IsMisnumbered]
  rw [parseRc_eq, fails_bind_iff, emittedRules, fails_bind_iff, hread, hemit]
  refine or_iff_left ?_
  rintro ⟨emitted, -, h⟩
  exact not_fails_ok _ h

theorem fails_parseDns_iff {attrs : List XmlAttribute} {dnsServers : List String}
    {dnsRecords : List DnsRecord} :
    Fails (parseDns attrs dnsServers dnsRecords) ↔ ∃ attr ∈ attrs, attr.IsBad := by
  rw [parseDns, fails_bind_iff]
  refine Iff.trans (or_iff_left ?_) (fails_foldlM_iff DnsAttributes.assign attrs {})
  rintro ⟨a, -, h⟩
  exact not_fails_ok _ h

/-- Whether an element is refused does not depend on what has been read before it. -/
theorem fails_readElement_iff {t : RouteTable} {name : String} {attrs : List XmlAttribute} :
    Fails (readElement t name attrs) ↔ IsFaultyElement name attrs := by
  have hok : ∀ {α : Type} {x : Except EcError α} {f : α → RouteTable},
      Fails (x >>= fun a ↦ (.ok (f a) : Except EcError RouteTable)) ↔ Fails x := by
    intro α x f
    rw [fails_bind_iff]
    exact or_iff_left fun ⟨a, _, h⟩ ↦ not_fails_ok _ h
  rw [readElement, IsFaultyElement]
  split_ifs with hrc hdns
  · exact hok.trans (fails_parseRc_iff.trans (by simp [hrc]))
  · exact hok.trans (fails_parseDns_iff.trans (by simp [hdns]))
  · exact iff_of_false (not_fails_ok t) (by simp [hrc, hdns])

/-- A document that is read up to its end is refused for the elements in it. -/
theorem fails_parseEvents_iff {body : List XmlEvent}
    (hbody : ∀ event ∈ body, event ≠ .eof ∧ ∀ e, event ≠ .failure e) (rest : List XmlEvent)
    (t : RouteTable) :
    Fails (parseEvents (body ++ .eof :: rest) t) ↔ ∃ event ∈ body, event.IsFaulty := by
  induction body generalizing t with
  | nil => exact iff_of_false (not_fails_ok t) (by simp)
  | cons event body ih =>
    obtain ⟨⟨heof, hfailure⟩, hbody'⟩ := List.forall_mem_cons.mp hbody
    have helement : ∀ name attrs,
        Fails (readElement t name attrs >>= fun t' ↦ parseEvents (body ++ .eof :: rest) t')
          ↔ IsFaultyElement name attrs ∨ ∃ event ∈ body, event.IsFaulty := by
      intro name attrs
      rw [fails_bind_iff, ← fails_readElement_iff (t := t)]
      rcases readElement t name attrs with e | t'
      · exact iff_of_true (.inl (fails_error e)) (.inl (fails_error e))
      · simp [ih hbody']
    rw [List.exists_mem_cons_iff, List.cons_append]
    rcases event with ⟨name, attrs⟩ | ⟨name, attrs⟩ | name | _ | _ | e
    · exact helement name attrs
    · exact helement name attrs
    · exact (ih hbody' t).trans (by simp [XmlEvent.IsFaulty])
    · exact (ih hbody' t).trans (by simp [XmlEvent.IsFaulty])
    · exact absurd rfl heof
    · exact absurd rfl (hfailure e)

/-- **When a document with open elements is refused**, and the router goes into tunnel mode: exactly
if there is a faulty element in it. That elements are open is what a cut leaves behind, and it plays
no part: the same holds of a document in which all are ended. -/
theorem parseRouteTableXml_cut_iff {body : List XmlEvent}
    (hbody : ∀ event ∈ body, event ≠ .eof ∧ ∀ e, event ≠ .failure e)
    (_hopen : openElements body ≠ []) (rest : List XmlEvent) :
    (Fails (parseRouteTableXml (body ++ .eof :: rest)) ↔ ∃ event ∈ body, event.IsFaulty)
    ∧ ∀ (connectTls : String → String → Except EcError TlsStream)
      (readEvents : String → List XmlEvent) (server twfId authority host : String)
      (stream : TlsStream) (raw : List UInt8) (xml : String) (extraIps : List String),
      parseServer server = .ok (authority, host) → connectTls authority host = .ok stream →
      stream.write (asBytes (rclistRequest authority twfId)) = .ok () →
      CutOff (stream.clock + routeTableResponseTimeout) stream.incoming stream.clock raw →
      extractXmlPayload (fromUtf8Lossy raw) = .ok xml → readEvents xml = body ++ .eof :: rest →
      (tryInstallRouteTable connectTls readEvents server twfId extraIps
          = some .installTunnelFallback
        ↔ ∃ event ∈ body, event.IsFaulty) := by
  have hparse : Fails (parseRouteTableXml (body ++ .eof :: rest))
      ↔ ∃ event ∈ body, event.IsFaulty :=
    fails_parseEvents_iff hbody rest _
  refine ⟨hparse, ?_⟩
  intro connectTls readEvents server twfId authority host stream raw xml extraIps hserver hconnect
    hwrite hcut hxml hevents
  rw [← hparse, tryInstallRouteTable, fetchRouteTable_of_cutOff hserver hconnect hwrite hcut hxml,
    hevents, Option.map_some, Option.some.injEq]
  rcases parseRouteTableXml (body ++ .eof :: rest) with e | table
  · exact iff_of_true rfl (fails_error e)
  · exact iff_of_false (nomatch ·) (not_fails_ok table)

/-- A table with two resources, of which only one has arrived. -/
def cutDocument : List XmlEvent :=
  [.start "Resource" [], .start "Rcs" [],
    .empty "Rc" [.value "id" "205", .value "name" "IDS", .value "host" "10.1.2.3",
      .value "port" "443"]]

def cutTable : RouteTable := ⟨[⟨205, 0, "", "IDS", "10.1.2.3", ⟨443, 443⟩⟩], [], []⟩

def cutResponse : String :=
  "HTTP/1.1 200 OK\r\n\r\n<Resource><Rcs>"
    ++ "<Rc id=\"205\" name=\"IDS\" host=\"10.1.2.3\" port=\"443\" />"

def cutStream : TlsStream :=
  ⟨0, fun _ ↦ .ok (), [⟨1, .ok (asBytes cutResponse)⟩, ⟨2, .error ⟨.timedOut, "timed out"⟩⟩]⟩

/-- **A table that has been cut off is installed**, and the addresses of the resources that are
missing go to the fallback. In tunnel mode they would not. -/
theorem tryInstallRouteTable_cut :
    openElements cutDocument = ["Rcs", "Resource"]
      ∧ parseRouteTableXml (cutDocument ++ [.eof]) = .ok cutTable
      ∧ tryInstallRouteTable (fun _ _ ↦ .ok cutStream) (fun _ ↦ cutDocument ++ [.eof])
          "vpn.example.com" "TWFID" [] = some (.installRouteTable cutTable [])
      ∧ (DnsEnv.offline fun _ ↦ none).run ((RouteMatcher.fromTable cutTable []).plan "10.1.2.4" 443
          .tcp) .initial = (.fallback "10.1.2.4:443" "no whitelist rule matched", .initial)
      ∧ planFromMode .tunnelFallback "10.1.2.4" 443 .tcp
        = pure (.ok (.remote "10.1.2.4:443" 0 "route-table-unavailable"
          .routeTableUnavailable)) := by
  have hparse : parseRouteTableXml (cutDocument ++ [.eof]) = .ok cutTable := by decide +kernel
  have hserver : parseServer "vpn.example.com"
      = .ok ("vpn.example.com:443", "vpn.example.com") := by decide +kernel
  have hxml : extractXmlPayload (fromUtf8Lossy (asBytes cutResponse)) = .ok ("<Resource><Rcs>"
      ++ "<Rc id=\"205\" name=\"IDS\" host=\"10.1.2.3\" port=\"443\" />") := by
    decide +kernel
  have hcut : CutOff (cutStream.clock + routeTableResponseTimeout) cutStream.incoming
      cutStream.clock (asBytes cutResponse ++ []) :=
    .chunk (by decide) rfl (by decide +kernel) (.timeout (by decide) rfl rfl [])
  rw [List.append_nil] at hcut
  have hhost : Ipv4Addr.fromStr (trim "10.1.2.4") = some ⟨10, 1, 2, 4⟩ := by decide
  have hplan : referencePlan cutTable [] "10.1.2.4" 443 .tcp ⟨10, 1, 2, 4⟩
      = .fallback "10.1.2.4:443" "no whitelist rule matched" := by decide +kernel
  refine ⟨rfl, hparse, ?_, ?_, ?_⟩
  · rw [tryInstallRouteTable, fetchRouteTable_of_cutOff hserver rfl rfl hcut hxml, hparse]
    rfl
  · rw [RouteMatcher.plan_literal hhost, hplan]
  · have htarget : hostPort "10.1.2.4" 443 = "10.1.2.4:443" := by decide
    rw [planFromMode, htarget]

/-- A document that is cut off behind a resource without a number. -/
theorem parseRouteTableXml_cut_iff_misnumbered :
    Fails (parseRouteTableXml ([.start "Resource" [],
      .empty "Rc" [.value "id" "none", .value "host" "a", .value "port" "80"], .eof])) := by
  refine (@parseRouteTableXml_cut_iff [.start "Resource" [],
    .empty "Rc" [.value "id" "none", .value "host" "a", .value "port" "80"]] ?_ ?_ []).1.mpr ?_
  · simp
  · decide
  · refine ⟨_, List.mem_cons_of_mem _ (List.mem_singleton.mpr rfl), .inr ⟨rfl, ?_⟩⟩
    exact ⟨{ idRaw := some "none", hostRaw := some "a", portRaw := some "80" }, by decide +kernel,
      rfl, rfl, "none", "invalid digit found in string", rfl, by decide +kernel⟩

end ShiepPipeline
