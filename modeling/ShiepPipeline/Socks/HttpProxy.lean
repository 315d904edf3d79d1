import Mathlib.Algebra.GroupWithZero.Nat
import ShiepPipeline.Socks.Proxy

/-!
# The fallback proxy over HTTP

What is written to the proxy, for every name of a target, and what is taken of the proxy's answer,
for every stream it may be.
-/

open Net Program Str Utf8
open Program.Fallible (attempt)

namespace ShiepPipeline.Socks

/-! ## The request -/

def crlf : List UInt8 := [0x0d, 0x0a]

/-- What varies in the lines of a `CONNECT` request. -/
structure ConnectLines where
  target : List UInt8
  host : List UInt8
  connection : List UInt8
  proxyConnection : List UInt8

namespace ConnectLines

def lines (c : ConnectLines) : List (List UInt8) :=
  [asBytes "CONNECT " ++ c.target ++ asBytes " HTTP/1.1", asBytes "Host: " ++ c.host,
    asBytes "Connection: " ++ c.connection, asBytes "Proxy-Connection: " ++ c.proxyConnection]

/-- The lines with their ends, and an empty line. -/
def bytes (c : ConnectLines) : List UInt8 := c.lines.flatMap (· ++ crlf) ++ crlf

/-- No line has an end in it, and the target is a single token. -/
structure Clean (c : ConnectLines) : Prop where
  noReturn : ∀ line ∈ c.lines, 0x0d ∉ line
  noFeed : ∀ line ∈ c.lines, 0x0a ∉ line
  noSpace : 0x20 ∉ c.target

end ConnectLines

/-- One head of four lines. -/
def IsConnectHead (bytes : List UInt8) : Prop := ∃ c : ConnectLines, bytes = c.bytes ∧ c.Clean

/-- The request for an authority. -/
def requestLines (authority : List UInt8) : ConnectLines :=
  ⟨authority, authority, asBytes "keep-alive", asBytes "keep-alive"⟩

theorem asBytes_httpConnectRequest (host : String) (port : UInt16) :
    asBytes (httpConnectRequest host port)
      = (requestLines (asBytes (formatSocketTarget host (decimal port.toNat)))).bytes := by
  have hhost : asBytes " HTTP/1.1\r\nHost: " = asBytes " HTTP/1.1" ++ crlf ++ asBytes "Host: " := by
    decide
  have hrest : asBytes "\r\nConnection: keep-alive\r\nProxy-Connection: keep-alive\r\n\r\n"
      = crlf ++ asBytes "Connection: " ++ asBytes "keep-alive" ++ crlf
        ++ asBytes "Proxy-Connection: " ++ asBytes "keep-alive" ++ crlf ++ crlf := by
    decide
  rw [httpConnectRequest]
  simp only [asBytes_append, hhost, hrest, requestLines, ConnectLines.bytes, ConnectLines.lines,
    List.flatMap_cons, List.flatMap_nil, List.append_assoc, List.append_nil]

/-- Apart from the line ends themselves, each of the two bytes is counted in the lines. -/
theorem ConnectLines.count_bytes (c : ConnectLines) {b : UInt8} (hb : crlf.count b = 1) :
    c.bytes.count b = (c.lines.map (List.count b)).sum + 5 := by
  simp only [bytes, lines, List.flatMap_cons, List.flatMap_nil, List.count_append, hb,
    List.map_cons, List.map_nil, List.sum_cons, List.sum_nil, List.count_nil]
  omega

/-- The first line, up to its end. -/
theorem ConnectLines.takeWhile_bytes (c : ConnectLines) (h : 0x0d ∉ c.target) :
    c.bytes.takeWhile (· ≠ 0x0d) = asBytes "CONNECT " ++ c.target ++ asBytes " HTTP/1.1" := by
  have hfront : ∀ b ∈ asBytes "CONNECT ", decide (b ≠ 0x0d) = true :=
    List.all_eq_true.mp (by decide)
  have hback : ∀ b ∈ asBytes " HTTP/1.1", decide (b ≠ 0x0d) = true :=
    List.all_eq_true.mp (by decide)
  have hline : ∀ b ∈ asBytes "CONNECT " ++ c.target ++ asBytes " HTTP/1.1",
      decide (b ≠ 0x0d) = true := by
    intro b hb
    rw [List.mem_append, List.mem_append] at hb
    obtain (hb | hb) | hb := hb
    · exact hfront b hb
    · exact decide_eq_true (ne_of_mem_of_not_mem hb h)
    · exact hback b hb
  rw [bytes, lines, List.flatMap_cons, crlf, List.append_assoc, List.append_assoc,
    List.takeWhile_append_of_pos hline, List.cons_append, List.takeWhile_cons_of_neg (by decide),
    List.append_nil]

/-- A line end in the authority would be one more than there are lines. -/
theorem not_mem_of_count {authority : List UInt8} {c : ConnectLines}
    (hbytes : (requestLines authority).bytes = c.bytes) {b : UInt8} (hb : crlf.count b = 1)
    (hlines : ∀ line ∈ c.lines, b ∉ line) : b ∉ authority := by
  have hnone : (c.lines.map (List.count b)).sum = 0 := by
    rw [List.sum_eq_zero_iff_forall_eq_nat]
    intro n hn
    obtain ⟨line, hline, rfl⟩ := List.mem_map.mp hn
    exact List.count_eq_zero.mpr (hlines line hline)
  have hcount := congrArg (List.count b) hbytes
  rw [ConnectLines.count_bytes _ hb, ConnectLines.count_bytes _ hb, hnone] at hcount
  rw [← List.count_eq_zero]
  simp only [requestLines, ConnectLines.lines, List.map_cons, List.sum_cons, List.count_append]
    at hcount
  omega

theorem isConnectHead_requestLines_iff {authority : List UInt8} :
    IsConnectHead (requestLines authority).bytes
      ↔ 0x0d ∉ authority ∧ 0x0a ∉ authority ∧ 0x20 ∉ authority := by
  constructor
  · rintro ⟨c, hbytes, hclean⟩
    have hreturn : 0x0d ∉ authority := not_mem_of_count hbytes rfl hclean.noReturn
    refine ⟨hreturn, not_mem_of_count hbytes rfl hclean.noFeed, ?_⟩
    -- the first lines are the same, and with them the targets
    have htarget : 0x0d ∉ c.target := by
      intro hmem
      refine hclean.noReturn _ (List.mem_cons_self ..) ?_
      rw [List.mem_append, List.mem_append]
      exact .inl (.inr hmem)
    have hfirst := congrArg (List.takeWhile (· ≠ 0x0d)) hbytes
    rw [ConnectLines.takeWhile_bytes _ hreturn, ConnectLines.takeWhile_bytes _ htarget,
      List.append_left_inj, List.append_right_inj] at hfirst
    rw [show authority = c.target from hfirst]
    exact hclean.noSpace
  · rintro ⟨hreturn, hfeed, hspace⟩
    have hlines : ∀ b, b ∉ authority → (∀ text ∈ ["CONNECT ", " HTTP/1.1", "Host: ", "Connection: ",
        "Proxy-Connection: ", "keep-alive"], b ∉ asBytes text) →
        ∀ line ∈ (requestLines authority).lines, b ∉ line := by
      intro b hb htexts
      simp only [List.forall_mem_cons] at htexts
      simp [requestLines, ConnectLines.lines, hb, htexts]
    exact ⟨_, rfl, hlines 0x0d hreturn (by decide), hlines 0x0a hfeed (by decide), hspace⟩

/-! ## Which names split the request -/

/-- The authority around the name adds none of the three characters. -/
theorem mem_formatSocketTarget_iff {a : Char} (ha : a = '\r' ∨ a = '\n' ∨ a = ' ') (host : String)
    (port : UInt16) :
    a ∈ (formatSocketTarget host (decimal port.toNat)).toList ↔ a ∈ (trim host).toList := by
  have hdigits : a ∉ Nat.toDigits 10 port.toNat := by
    intro hmem
    have hdigit := Nat.isDigit_of_mem_toDigits (by decide) (by decide) hmem
    obtain rfl | rfl | rfl := ha <;> exact absurd hdigit (by decide)
  have hmarks : a ≠ '[' ∧ a ≠ ']' ∧ a ≠ ':' := by
    obtain rfl | rfl | rfl := ha <;> decide
  rw [formatSocketTarget]
  split_ifs <;> simp [toString, hdigits, hmarks]

/-- **The request is not split exactly if the trimmed name has no line end and no space in it.** -/
theorem httpConnectRequest_isConnectHead_iff (host : String) (port : UInt16) :
    IsConnectHead (asBytes (httpConnectRequest host port))
      ↔ '\r' ∉ (trim host).toList ∧ '\n' ∉ (trim host).toList ∧ ' ' ∉ (trim host).toList := by
  have hbyte : ∀ a : Char, a = '\r' ∨ a = '\n' ∨ a = ' ' →
      (UInt8.ofNat a.toNat ∈ asBytes (formatSocketTarget host (decimal port.toNat))
        ↔ a ∈ (trim host).toList) := by
    intro a ha
    have hascii : a.toNat < 0x80 := by
      obtain rfl | rfl | rfl := ha <;> decide
    rw [mem_asBytes_iff hascii, mem_formatSocketTarget_iff ha]
  rw [asBytes_httpConnectRequest, isConnectHead_requestLines_iff, ← hbyte '\r' (.inl rfl),
    ← hbyte '\n' (.inr (.inl rfl)), ← hbyte ' ' (.inr (.inr rfl))]
  rfl

/-- Nothing is written while the head is read. -/
theorem read_of_runs_readHeadFrom {buf : List UInt8} {t : ProxyTrace} {r : Except EcError String}
    (h : Runs (readHeadFrom buf).run t r) : ∀ e ∈ t, e.1 = .read := by
  induction hleft : httpProxyHeadMaxSize + 1 - buf.length using Nat.strong_induction_on
    generalizing buf t with
  | _ left ih =>
    rw [readHeadFrom, Fallible.runs_attempt_bind_iff] at h
    obtain ⟨e, hread, -⟩ | ⟨t₁, one, t₂, hread, hrest, rfl⟩ := h
    · rw [runs_perform_iff.mp hread]
      simp
    have hsilent : ∀ e ∈ t₂, e.1 = .read := by
      obtain _ | b := one
      · obtain ⟨rfl, -⟩ := Fallible.runs_throw_iff.mp hrest
        simp
      dsimp only at hrest
      split_ifs at hrest with hends hlarge
      · obtain ⟨rfl, -⟩ := Fallible.runs_pure_iff.mp hrest
        simp
      · obtain ⟨rfl, -⟩ := Fallible.runs_throw_iff.mp hrest
        simp
      · rw [List.length_append, List.length_singleton] at hlarge
        refine ih _ ?_ hrest rfl
        rw [List.length_append, List.length_singleton]
        omega
    rw [runs_perform_iff.mp hread]
    simpa using hsilent

theorem runs_check_iff {α : Type} {x : Except EcError α} {t : ProxyTrace} {r : Except EcError α} :
    Runs (check x).run t r ↔ t = [] ∧ r = x := by
  cases x with
  | ok a => exact Fallible.runs_pure_iff
  | error e => exact Fallible.runs_throw_iff

/-- The calls of a connection through the proxy. -/
theorem calls_of_runs {proxyAddr host : String} {port : UInt16} {t : ProxyTrace}
    {r : Except EcError Unit} (h : Runs (connectViaHttpConnectProxy proxyAddr host port).run t r) :
    ∀ e ∈ t, e.1 = .connect proxyAddr ∨ e.1 = .writeAll (asBytes (httpConnectRequest host port))
      ∨ e.1 = .read := by
  rw [connectViaHttpConnectProxy, connectTcpStream, Fallible.runs_attempt_bind_iff] at h
  obtain ⟨e, hconnect, -⟩ | ⟨t₁, _, t', hconnect, h, rfl⟩ := h
  · rw [runs_perform_iff.mp hconnect]
    simp
  rw [Fallible.runs_attempt_bind_iff] at h
  have hrest : ∀ e ∈ t', e.1 = .writeAll (asBytes (httpConnectRequest host port))
      ∨ e.1 = .read := by
    obtain ⟨e, hwrite, -⟩ | ⟨t₂, _, t₃, hwrite, h, rfl⟩ := h
    · rw [runs_perform_iff.mp hwrite]
      simp
    have hhead : ∀ e ∈ t₃, e.1 = .read := by
      obtain ⟨e, hread, -⟩ | ⟨t₄, head, t₅, hread, hcheck, rfl⟩ := Fallible.runs_bind_iff.mp h
      · exact read_of_runs_readHeadFrom hread
      · rw [(runs_check_iff.mp hcheck).1, List.append_nil]
        exact read_of_runs_readHeadFrom hread
    rw [runs_perform_iff.mp hwrite]
    simpa using fun e he ↦ .inr (hhead e he)
  rw [runs_perform_iff.mp hconnect]
  simpa using fun e he ↦ .inr (hrest e he)

/-- What is written is the request. -/
theorem written_of_runs {proxyAddr host : String} {port : UInt16} {t : ProxyTrace}
    {r : Except EcError Unit} (h : Runs (connectViaHttpConnectProxy proxyAddr host port).run t r)
    {bytes : List UInt8} {ans : ProxyAns (.writeAll bytes)} (hmem : ⟨.writeAll bytes, ans⟩ ∈ t) :
    bytes = asBytes (httpConnectRequest host port) := by
  obtain hcall | hcall | hcall := calls_of_runs h _ hmem
  · cases hcall
  · exact ProxyOp.writeAll.inj hcall
  · cases hcall

/-- The request is written, although the proxy may not get it. -/
theorem exists_written (proxyAddr host : String) (port : UInt16) :
    ∃ t r ans, Runs (connectViaHttpConnectProxy proxyAddr host port).run t r
      ∧ ⟨.writeAll (asBytes (httpConnectRequest host port)), ans⟩ ∈ t := by
  refine ⟨[⟨.connect proxyAddr, .ok ()⟩,
    ⟨.writeAll (asBytes (httpConnectRequest host port)), .error "broken pipe"⟩],
    .error (.runtime "http proxy connect request write failed: broken pipe"), .error "broken pipe",
    ?_, List.mem_cons_of_mem _ (List.mem_cons_self ..)⟩
  rw [connectViaHttpConnectProxy, connectTcpStream, Fallible.runs_attempt_bind_iff]
  refine .inr ⟨_, (), _, runs_perform_iff.mpr rfl, ?_, rfl⟩
  rw [Fallible.runs_attempt_bind_iff]
  exact .inl ⟨"broken pipe", runs_perform_iff.mpr rfl, rfl⟩

/-- **What is written to the proxy is one head exactly if the trimmed name has no line end and no
space in it.** -/
theorem connectViaHttpConnectProxy_head_iff (proxyAddr host : String) (port : UInt16) :
    (∀ t r, Runs (connectViaHttpConnectProxy proxyAddr host port).run t r →
      ∀ bytes ans, ⟨.writeAll bytes, ans⟩ ∈ t → IsConnectHead bytes)
      ↔ '\r' ∉ (trim host).toList ∧ '\n' ∉ (trim host).toList ∧ ' ' ∉ (trim host).toList := by
  rw [← httpConnectRequest_isConnectHead_iff host port]
  constructor
  · intro h
    obtain ⟨t, r, ans, hrun, hmem⟩ := exists_written proxyAddr host port
    exact h t r hrun _ ans hmem
  · intro h t r hrun bytes ans hmem
    rwa [written_of_runs hrun hmem]

/-- A name with a line of its own in it. -/
def splittingHost : String := "example.com HTTP/1.1\r\nX-Injected: 1\r\nX-Rest: a"

/-- **A name that splits the request.** A client may submit it, and it is written as it is. -/
theorem splittingHost_splits_request :
    (asBytes splittingHost).length ≤ 255
      ∧ ∃ t r, Runs (connectViaHttpConnectProxy "127.0.0.1:8080" splittingHost 443).run t r
        ∧ ∃ bytes ans, ⟨.writeAll bytes, ans⟩ ∈ t ∧ ¬ IsConnectHead bytes := by
  obtain ⟨t, r, ans, hrun, hmem⟩ := exists_written "127.0.0.1:8080" splittingHost 443
  refine ⟨by decide, t, r, hrun, _, ans, hmem, ?_⟩
  rw [httpConnectRequest_isConnectHead_iff, toList_trim]
  decide

/-! ## Reading the head of the answer -/

/-- A stream of bytes, by what each read of one byte comes to. The state is the number of reads. -/
def proxyStream (reads : ℕ → Except String (Option UInt8)) (other : Handler ProxyOp ProxyAns ℕ) :
    Handler ProxyOp ProxyAns ℕ
  | .read, n => (reads n, n + 1)
  | op, n => other op n

/-- The stream begins with these bytes. -/
def Delivers (reads : ℕ → Except String (Option UInt8)) (p : List UInt8) : Prop :=
  ∀ i b, p[i]? = some b → reads i = .ok (some b)

def EndsHead (p : List UInt8) : Prop := headEnd <:+ p

instance (p : List UInt8) : Decidable (EndsHead p) := inferInstanceAs (Decidable (headEnd <:+ p))

/-- The head of the answer, if there is one. -/
structure ShortestHead (reads : ℕ → Except String (Option UInt8)) (p : List UInt8) : Prop where
  delivers : Delivers reads p
  ends : EndsHead p
  shortest : ∀ q, q <+: p → EndsHead q → q = p

theorem endsHead_iff (p : List UInt8) :
    4 ≤ p.length ∧ p.drop (p.length - 4) = headEnd ↔ EndsHead p := by
  rw [EndsHead, List.suffix_iff_eq_drop, eq_comm]
  constructor
  · exact fun h ↦ h.2
  · intro h
    have hlen := congrArg List.length h
    rw [List.length_drop] at hlen
    change 4 = _ at hlen
    exact ⟨by omega, h⟩

section Reads

variable {reads : ℕ → Except String (Option UInt8)} {p q : List UInt8}

/-- Two beginnings of one stream. -/
theorem Delivers.prefix_of_le (hp : Delivers reads p) (hq : Delivers reads q)
    (hle : p.length ≤ q.length) : p <+: q := by
  rw [List.prefix_iff_getElem?]
  intro i hi
  obtain ⟨b, hb⟩ : ∃ b, q[i]? = some b := ⟨_, List.getElem?_eq_getElem (hi.trans_le hle)⟩
  have hread := hp i _ (List.getElem?_eq_getElem hi)
  rw [hq i b hb] at hread
  rw [hb, Option.some.inj (Except.ok.inj hread)]

theorem Delivers.of_prefix (hq : Delivers reads q) (h : p <+: q) : Delivers reads p := by
  obtain ⟨rest, rfl⟩ := h
  intro i b hb
  have hi : i < p.length := (List.getElem?_eq_some_iff.mp hb).1
  refine hq i b ?_
  rw [List.getElem?_append_left hi, hb]

theorem Delivers.concat (hp : Delivers reads p) {b : UInt8} (hb : reads p.length = .ok (some b)) :
    Delivers reads (p ++ [b]) := by
  intro i c hc
  rcases Nat.lt_trichotomy i p.length with hi | rfl | hi
  · rw [List.getElem?_append_left hi] at hc
    exact hp i c hc
  · rw [List.getElem?_concat_length] at hc
    rw [hb, Option.some.inj hc]
  · rw [List.getElem?_eq_none (by simp; omega)] at hc
    exact absurd hc (Option.some_ne_none c).symm

/-- If there is a head, there is a shortest one. -/
theorem Delivers.exists_shortestHead (hp : Delivers reads p) (hends : EndsHead p) :
    ∃ q, q <+: p ∧ ShortestHead reads q := by
  induction hlen : p.length using Nat.strong_induction_on generalizing p with
  | _ k ih =>
    by_cases hleast : ∀ q, q <+: p → EndsHead q → q = p
    · exact ⟨p, List.prefix_rfl, hp, hends, hleast⟩
    -- a head that is shorter
    push Not at hleast
    obtain ⟨q, hfront, hq, hne⟩ := hleast
    have hlt : q.length < k := by
      rw [← hlen]
      exact lt_of_le_of_ne hfront.length_le fun heq ↦ hne (hfront.eq_of_length heq)
    obtain ⟨q', hfront', hq'⟩ := ih q.length hlt (hp.of_prefix hfront) hq rfl
    exact ⟨q', hfront'.trans hfront, hq'⟩

theorem ShortestHead.unique (hp : ShortestHead reads p) (hq : ShortestHead reads q) : p = q := by
  rcases Nat.le_total p.length q.length with hle | hle
  · exact hq.shortest p (hp.delivers.prefix_of_le hq.delivers hle) hp.ends
  · exact (hp.shortest q (hq.delivers.prefix_of_le hp.delivers hle) hq.ends).symm

end Reads

section Run

variable {reads : ℕ → Except String (Option UInt8)} (other : Handler ProxyOp ProxyAns ℕ)
  (buf : List UInt8) {n : ℕ}

/-- One turn of the loop. -/
theorem run_readHeadFrom_byte {b : UInt8} (hb : reads n = .ok (some b)) :
    (readHeadFrom buf).run.run (proxyStream reads other) n
      = if EndsHead (buf ++ [b]) then (.ok (fromUtf8Lossy (buf ++ [b])), n + 1)
        else if httpProxyHeadMaxSize < (buf ++ [b]).length then
          (.error (.runtime "http proxy connect reply header is too large"), n + 1)
        else (readHeadFrom (buf ++ [b])).run.run (proxyStream reads other) (n + 1) := by
  have hread : (perform ProxyOp.read : Program ProxyOp ProxyAns _).run (proxyStream reads other) n
      = (.ok (some b), n + 1) := congrArg (·, n + 1) hb
  rw [readHeadFrom, Fallible.run_bind_ok (Fallible.run_attempt_ok hread)]
  dsimp only
  simp only [endsHead_iff]
  split_ifs
  · rfl
  · rfl
  · rfl

/-- The stream ends or fails. -/
theorem run_readHeadFrom_end (hend : ∀ b, reads n ≠ .ok (some b)) :
    ∃ e, (readHeadFrom buf).run.run (proxyStream reads other) n = (.error e, n + 1) := by
  rcases hread : reads n with e | _ | b
  · have hcall : (perform ProxyOp.read : Program ProxyOp ProxyAns _).run (proxyStream reads other) n
        = (.error e, n + 1) := congrArg (·, n + 1) hread
    refine ⟨.runtime s!"http proxy connect reply read failed: {e}", ?_⟩
    rw [readHeadFrom, Fallible.run_bind_error (Fallible.run_attempt_error hcall)]
  · have hcall : (perform ProxyOp.read : Program ProxyOp ProxyAns _).run (proxyStream reads other) n
        = (.ok none, n + 1) := congrArg (·, n + 1) hread
    refine ⟨.runtime "http proxy connect reply is empty", ?_⟩
    rw [readHeadFrom, Fallible.run_bind_ok (Fallible.run_attempt_ok hcall)]
    rfl
  · exact absurd hread (hend b)

/-- None of the beginnings of `q` is a head. -/
def Headless (q : List UInt8) : Prop := ∀ p, p <+: q → ¬ EndsHead p

theorem Headless.concat {q : List UInt8} {b : UInt8} (hq : Headless q)
    (hends : ¬ EndsHead (q ++ [b])) : Headless (q ++ [b]) := by
  intro p hp
  rcases List.prefix_concat_iff.mp hp with rfl | hp
  · exact hends
  · exact hq p hp

/-- What reading comes to: the shortest head, or the end of the stream, or too many bytes. -/
inductive HeadRead (reads : ℕ → Except String (Option UInt8)) : Except EcError String × ℕ → Prop
  | head {p : List UInt8} (hp : ShortestHead reads p) (hlen : p.length ≤ httpProxyHeadMaxSize + 1) :
    HeadRead reads (.ok (fromUtf8Lossy p), p.length)
  | broken {q : List UInt8} (hq : Delivers reads q) (hnone : Headless q)
    (hlen : q.length ≤ httpProxyHeadMaxSize) (hend : ∀ b, reads q.length ≠ .ok (some b))
    (e : EcError) : HeadRead reads (.error e, q.length + 1)
  | tooLarge {q : List UInt8} (hq : Delivers reads q) (hnone : Headless q)
    (hlen : q.length = httpProxyHeadMaxSize + 1) (e : EcError) : HeadRead reads (.error e, q.length)

/-- What the loop comes to when it has found nothing so far. -/
theorem headRead_readHeadFrom {buf : List UInt8} (hbuf : Delivers reads buf)
    (hnone : Headless buf) (hlen : buf.length ≤ httpProxyHeadMaxSize) :
    HeadRead reads ((readHeadFrom buf).run.run (proxyStream reads other) buf.length) := by
  -- by the number of bytes that may still be read
  induction hleft : httpProxyHeadMaxSize - buf.length using Nat.strong_induction_on
    generalizing buf with
  | _ left ih =>
    by_cases hend : ∀ b, reads buf.length ≠ .ok (some b)
    · obtain ⟨e, he⟩ := run_readHeadFrom_end other buf hend
      rw [he]
      exact .broken hbuf hnone hlen hend e
    obtain ⟨b, hb⟩ := not_forall_not.mp hend
    have hbuf' : Delivers reads (buf ++ [b]) := hbuf.concat hb
    have hlength : (buf ++ [b]).length = buf.length + 1 := List.length_append
    rw [run_readHeadFrom_byte other buf hb, ← hlength]
    split_ifs with hends hlarge
    · refine .head ⟨hbuf', hends, fun q hq hqends ↦ ?_⟩ (by omega)
      exact (List.prefix_concat_iff.mp hq).resolve_right fun h ↦ hnone q h hqends
    · exact .tooLarge hbuf' (hnone.concat hends) (by omega) _
    · exact ih _ (by omega) hbuf' (hnone.concat hends) (by omega) rfl

/-- What reading the head comes to. -/
theorem headRead_readHttpProxyHead :
    HeadRead reads (readHttpProxyHead.run.run (proxyStream reads other) 0) := by
  refine @headRead_readHeadFrom reads other [] ?_ ?_ (Nat.zero_le _)
  · intro i b hb
    rw [List.getElem?_nil] at hb
    exact absurd hb (Option.some_ne_none b).symm
  · intro p hp hends
    rw [List.prefix_nil.mp hp] at hends
    exact absurd hends (by decide)

end Run

/-! ## The limit -/

/-- Reading takes the head and nothing else: it succeeds if there is a head within the limit, it has
then taken the shortest one, and otherwise it stops at the end of the stream, at an error, or when
the limit is exceeded. -/
structure TakesHead (reads : ℕ → Except String (Option UInt8)) (r : Except EcError String)
    (n : ℕ) : Prop where
  ok_iff : (∃ text, r = .ok text)
    ↔ ∃ p, Delivers reads p ∧ EndsHead p ∧ p.length ≤ httpProxyHeadMaxSize
  taken : ∀ text, r = .ok text → ∃ p, ShortestHead reads p ∧ n = p.length ∧ text = fromUtf8Lossy p
  stopped : ∀ e, r = .error e → n = httpProxyHeadMaxSize + 1
    ∨ n ≤ httpProxyHeadMaxSize + 1 ∧ ∃ k, n = k + 1 ∧ ∀ b, reads k ≠ .ok (some b)

section Takes

variable {reads : ℕ → Except String (Option UInt8)} {p q : List UInt8}

/-- A head is longer than bytes without one. -/
theorem Headless.lt_length (hnone : Headless q) (hq : Delivers reads q) (hp : Delivers reads p)
    (hends : EndsHead p) : q.length < p.length := by
  by_contra hle
  exact hnone p (hp.prefix_of_le hq (not_lt.mp hle)) hends

/-- Nothing comes after the end of the stream. -/
theorem Delivers.length_le (hp : Delivers reads p) {n : ℕ} (hend : ∀ b, reads n ≠ .ok (some b)) :
    p.length ≤ n := by
  by_contra hlt
  exact hend _ (hp n _ (List.getElem?_eq_getElem (not_le.mp hlt)))

theorem takesHead_head_iff (hp : ShortestHead reads p)
    (hlen : p.length ≤ httpProxyHeadMaxSize + 1) :
    TakesHead reads (.ok (fromUtf8Lossy p)) p.length ↔ p.length ≠ httpProxyHeadMaxSize + 1 := by
  constructor
  · intro h
    obtain ⟨q, hq, hends, hle⟩ := h.ok_iff.mp ⟨_, rfl⟩
    obtain ⟨q', hfront, hq'⟩ := hq.exists_shortestHead hends
    have := hfront.length_le
    rw [← hp.unique hq'] at this
    omega
  · intro hne
    refine ⟨⟨fun _ ↦ ⟨p, hp.delivers, hp.ends, by omega⟩, fun _ ↦ ⟨_, rfl⟩⟩, ?_, ?_⟩
    · intro text htext
      exact ⟨p, hp, rfl, (Except.ok.inj htext).symm⟩
    · intro e he
      cases he

theorem takesHead_error {e : EcError} {n : ℕ}
    (hnone : ∀ p, Delivers reads p → EndsHead p → httpProxyHeadMaxSize < p.length)
    (hstopped : n = httpProxyHeadMaxSize + 1
      ∨ n ≤ httpProxyHeadMaxSize + 1 ∧ ∃ k, n = k + 1 ∧ ∀ b, reads k ≠ .ok (some b)) :
    TakesHead reads (.error e) n := by
  refine ⟨⟨?_, ?_⟩, ?_, fun _ _ ↦ hstopped⟩
  · rintro ⟨text, htext⟩
    cases htext
  · rintro ⟨p, hp, hends, hle⟩
    exact absurd (hnone p hp hends) (not_lt.mpr hle)
  · intro text htext
    cases htext

end Takes

/-- **Reading takes the head and nothing else** unless the head is one byte longer than the
limit. -/
theorem readHttpProxyHead_takesHead_iff (reads : ℕ → Except String (Option UInt8))
    (other : Handler ProxyOp ProxyAns ℕ) :
    TakesHead reads (readHttpProxyHead.run.run (proxyStream reads other) 0).1
        (readHttpProxyHead.run.run (proxyStream reads other) 0).2
      ↔ ∀ p, ShortestHead reads p → p.length ≠ httpProxyHeadMaxSize + 1 := by
  have hread := @headRead_readHttpProxyHead reads other
  generalize readHttpProxyHead.run.run (proxyStream reads other) 0 = result at hread
  cases hread with
  | @head p hp hlen =>
    rw [takesHead_head_iff hp hlen]
    constructor
    · intro hne q hq
      rwa [← hp.unique hq]
    · intro h
      exact h p hp
  | @broken q hq hnone hlen hend e =>
    -- there is no head at all
    have hless : ∀ p, Delivers reads p → ¬ EndsHead p := by
      intro p hp hends
      have := hnone.lt_length hq hp hends
      have := hp.length_le hend
      omega
    refine iff_of_true (takesHead_error ?_ ?_) fun p hp ↦ absurd hp.ends (hless p hp.delivers)
    · intro p hp hends
      exact absurd hends (hless p hp)
    · exact .inr ⟨by omega, q.length, rfl, hend⟩
  | @tooLarge q hq hnone hlen e =>
    have hlonger : ∀ p, Delivers reads p → EndsHead p → httpProxyHeadMaxSize + 1 < p.length := by
      intro p hp hends
      have := hnone.lt_length hq hp hends
      omega
    refine iff_of_true (takesHead_error ?_ (.inl hlen)) ?_
    · intro p hp hends
      exact Nat.lt_of_succ_lt (hlonger p hp hends)
    · intro p hp
      exact (hlonger p hp.delivers hp.ends).ne'

/-- A head within reach of the loop is read, whatever the limit says. -/
theorem run_readHttpProxyHead {reads : ℕ → Except String (Option UInt8)} {p : List UInt8}
    (hp : ShortestHead reads p) (hlen : p.length ≤ httpProxyHeadMaxSize + 1)
    (other : Handler ProxyOp ProxyAns ℕ) :
    readHttpProxyHead.run.run (proxyStream reads other) 0 = (.ok (fromUtf8Lossy p), p.length) := by
  have hread := @headRead_readHttpProxyHead reads other
  generalize readHttpProxyHead.run.run (proxyStream reads other) 0 = result at hread
  cases hread with
  | @head q hq =>
    rw [hq.unique hp]
  | @broken q hq hnone _ hend =>
    have := hnone.lt_length hq hp.delivers hp.ends
    have := hp.delivers.length_le hend
    omega
  | @tooLarge q hq hnone hq' =>
    have := hnone.lt_length hq hp.delivers hp.ends
    omega

/-- Bytes that are no head, and a head's end behind them. -/
def paddedHead (n : ℕ) : List UInt8 := List.replicate n 0x61 ++ headEnd

/-- The stream of these bytes. -/
def paddedStream (n : ℕ) : ℕ → Except String (Option UInt8) := fun i ↦ .ok (paddedHead n)[i]?

theorem shortestHead_padded (n : ℕ) : ShortestHead (paddedStream n) (paddedHead n) := by
  refine ⟨fun i b hb ↦ congrArg Except.ok hb, List.suffix_append _ _, fun q hq hends ↦ ?_⟩
  by_contra hne
  -- without the last byte there is a single line feed
  have hcount : q.count 0x0a ≤ 1 := by
    have hsplit : paddedHead n = (List.replicate n 0x61 ++ [0x0d, 0x0a, 0x0d]) ++ [0x0a] := by
      rw [paddedHead, headEnd, List.append_assoc]
      rfl
    rw [hsplit, List.prefix_concat_iff, ← hsplit] at hq
    refine ((hq.resolve_left hne).sublist.count_le 0x0a).trans ?_
    rw [List.count_append, List.count_replicate, if_neg (by decide), Nat.zero_add]
    decide
  have htwo : headEnd.count 0x0a ≤ q.count 0x0a := hends.sublist.count_le 0x0a
  exact absurd (htwo.trans hcount) (by decide)

/-- **A head of 16385 bytes is accepted**, and the stream has no shorter one. -/
theorem head_over_limit_accepted :
    (¬ ∃ p, Delivers (paddedStream 16381) p ∧ EndsHead p ∧ p.length ≤ httpProxyHeadMaxSize)
      ∧ ∀ other, ∃ text,
        (readHttpProxyHead.run.run (proxyStream (paddedStream 16381) other) 0).1 = .ok text := by
  have hp := shortestHead_padded 16381
  have hlen : (paddedHead 16381).length = httpProxyHeadMaxSize + 1 := by
    rw [paddedHead, List.length_append, List.length_replicate]
    rfl
  constructor
  · rintro ⟨q, hq, hends, hle⟩
    obtain ⟨q', hfront, hq'⟩ := hq.exists_shortestHead hends
    have := hfront.length_le
    rw [hq'.unique hp] at this
    omega
  · intro other
    exact ⟨_, by rw [run_readHttpProxyHead hp hlen.le]⟩

end ShiepPipeline.Socks
