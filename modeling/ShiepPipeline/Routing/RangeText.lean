import ShiepPipeline.Collections.OneApart
import ShiepPipeline.Routing.Literal
import ShiepPipeline.Routing.Table

/-!
# Ranges written the other way round

A range is written `a~b`: as a host of a resource, as a port of it, or as an extra. Each of the
three has a parser of its own. For hosts and extras the smaller bound comes first after parsing,
however the range was written. A range of ports keeps the order it was written in.

The lists of hosts and ports of a resource are compared item by item, and so are the rules that
come out of them.
-/

open Net Str

namespace ShiepPipeline

/-! ## Ranges written the other way round -/

/-- The text of a bound, with white space around it perhaps. -/
structure IsBound (s : String) : Prop where
  tilde : '~' ∉ s.toList
  slash : '/' ∉ s.toList
  semicolon : ';' ∉ s.toList

/-- The same range, written the other way round. -/
inductive SwapsBounds : String → String → Prop
  | swap {a b : String} (ha : IsBound a) (hb : IsBound b) :
      SwapsBounds (a ++ "~" ++ b) (b ++ "~" ++ a)

/-- What may stand in front of a host. -/
def IsLead (lead : String) : Prop :=
  lead = "" ∨ ∃ space : String, (∀ c ∈ space.toList, isWhitespace c = true)
    ∧ (lead = space ++ "http://" ∨ lead = space ++ "https://")

/-- What may stand behind a host. -/
def IsTrail (trail : String) : Prop := trail = "" ∨ ∃ path, trail = "/" ++ path

/-- A host of the list, which may be written as a URL. -/
inductive SwapsHost : String → String → Prop
  | swap {lead trail s s' : String} (hlead : IsLead lead) (htrail : IsTrail trail)
      (h : SwapsBounds s s') : SwapsHost (lead ++ s ++ trail) (lead ++ s' ++ trail)

/-- A list of texts in which one is exchanged. -/
inductive SwapsItem (r : String → String → Prop) : String → String → Prop
  | swap {items items' : List String} (h : OneApart r items items')
      (hsep : ∀ item ∈ items, ';' ∉ item.toList) (hsep' : ∀ item ∈ items', ';' ∉ item.toList) :
      SwapsItem r (";".intercalate items) (";".intercalate items')

inductive SwapsAttribute (key : String) (r : String → String → Prop) :
    XmlAttribute → XmlAttribute → Prop
  | swap {raw raw' : String} (h : r raw raw') :
      SwapsAttribute key r (.value key raw) (.value key raw')

/-- A resource in which the value of one attribute is exchanged. -/
inductive SwapsResource (key : String) (r : String → String → Prop) : XmlEvent → XmlEvent → Prop
  | start {attrs attrs' : List XmlAttribute} (h : OneApart (SwapsAttribute key r) attrs attrs') :
      SwapsResource key r (.start "Rc" attrs) (.start "Rc" attrs')
  | empty {attrs attrs' : List XmlAttribute} (h : OneApart (SwapsAttribute key r) attrs attrs') :
      SwapsResource key r (.empty "Rc" attrs) (.empty "Rc" attrs')

/-! ## The three parsers -/

theorem orderedRange_comm (x y : Ipv4Addr) : orderedRange x y = orderedRange y x := by
  rw [orderedRange, orderedRange]
  split_ifs with hxy hyx hyx
  · rw [UInt32.le_antisymm hxy hyx]
  · rfl
  · rfl
  · exact absurd (UInt32.le_total x.toU32 y.toU32) (not_or.mpr ⟨hxy, hyx⟩)

/-- What the two texts around a `~` denote together. -/
def rangeMatcher (a b : String) : Option HostMatcher := do
  let x ← Ipv4Addr.fromStr (trim a)
  let y ← Ipv4Addr.fromStr (trim b)
  some (orderedRange x y)

theorem rangeMatcher_comm (a b : String) : rangeMatcher a b = rangeMatcher b a := by
  rw [rangeMatcher, rangeMatcher]
  rcases Ipv4Addr.fromStr (trim a) with _ | x <;> rcases Ipv4Addr.fromStr (trim b) with _ | y
  · rfl
  · rfl
  · rfl
  · exact congrArg some (orderedRange_comm x y)

section Parsers

variable {a b : String}

theorem toList_tilde : "~".toList = ['~'] := rfl

theorem tilde_mem_trim (a b : String) : '~' ∈ (trim (a ++ "~" ++ b)).toList := by
  rw [toList_trim_append toList_tilde rfl]
  exact List.mem_append_right _ List.mem_cons_self

theorem trim_range_ne_empty (a b : String) : trim (a ++ "~" ++ b) ≠ "" := by
  intro h
  have := tilde_mem_trim a b
  rw [h] at this
  exact absurd this (by decide)

theorem splitOnce_trim_range (ha : '~' ∉ a.toList) (b : String) :
    ∃ a' b', splitOnce (trim (a ++ "~" ++ b)) '~' = some (a', b')
      ∧ trim a' = trim a ∧ trim b' = trim b :=
  exists_splitOnce_trim toList_tilde rfl ha

theorem compileHost_range (ha : '~' ∉ a.toList) :
    compileHost (trim (a ++ "~" ++ b)) = rangeMatcher a b := by
  obtain ⟨a', b', hcut, ha', hb'⟩ := splitOnce_trim_range ha b
  have hcontains : contains (trim (a ++ "~" ++ b)) '~' = true := by
    rw [contains, List.contains_eq_mem, decide_eq_true_iff]
    exact tilde_mem_trim a b
  rw [compileHost, if_pos hcontains, hcut, Option.bind_eq_bind, Option.bind_some]
  dsimp only
  rw [ha', hb', rangeMatcher]

theorem parseExtraIp_range (ha : IsBound a) (hb : IsBound b) :
    parseExtraIp (a ++ "~" ++ b) = rangeMatcher a b := by
  obtain ⟨a', b', hcut, ha', hb'⟩ := splitOnce_trim_range ha.tilde b
  have hslash : splitOnce (trim (a ++ "~" ++ b)) '/' = none := by
    rw [splitOnce_eq_none_iff, contains, List.contains_eq_mem, decide_eq_false_iff_not,
      toList_trim_append toList_tilde rfl, List.mem_append, List.mem_cons]
    rintro (h | h | h)
    · exact ha.slash ((List.dropWhile_suffix _).subset h)
    · exact absurd h (by decide)
    · exact hb.slash ((List.rdropWhile_prefix _ _).subset h)
  rw [parseExtraIp]
  dsimp only
  rw [if_neg (trim_range_ne_empty a b), hslash, hcut]
  dsimp only
  rw [ha', hb', rangeMatcher]

theorem parsePortToken_range (ha : '~' ∉ a.toList) :
    parsePortToken (a ++ "~" ++ b) = do
      let start ← parsePort (trim a)
      let stop ← parsePort (trim b)
      return ⟨start, stop⟩ := by
  obtain ⟨a', b', hcut, ha', hb'⟩ := splitOnce_trim_range ha b
  rw [parsePortToken, if_neg (trim_range_ne_empty a b), hcut]
  dsimp only
  rw [ha', hb']

/-- What is left of a trail, and of white space, when a host has been cut off in front of it. -/
theorem takeWhile_trail {trail : String} (hb : '/' ∉ b.toList) (htrail : IsTrail trail) :
    (((b ++ trail).toList.rdropWhile isWhitespace).takeWhile (· != '/')).rdropWhile isWhitespace
      = b.toList.rdropWhile isWhitespace := by
  have hall : ∀ l : List Char, '/' ∉ l → ∀ c ∈ l, (c != '/') = true :=
    fun l hl c hc ↦ bne_iff_ne.mpr fun h ↦ hl (h ▸ hc)
  obtain rfl | ⟨path, rfl⟩ := htrail
  · have hb' : '/' ∉ b.toList.rdropWhile isWhitespace :=
      fun hmem ↦ hb ((List.rdropWhile_prefix _ _).subset hmem)
    rw [String.append_empty, List.takeWhile_eq_self_iff.mpr (hall _ hb'),
      List.rdropWhile_idempotent]
  · have hpath : (b ++ ("/" ++ path)).toList = b.toList ++ '/' :: path.toList := by simp
    rw [hpath, rdropWhile_append_cons rfl, List.takeWhile_append_of_pos (hall _ hb)]
    simp

/-- The last two steps of `normalizeHostToken`, for a token that is a range with a trail. -/
theorem trim_head?_split {x trail token : String} (hb : '/' ∉ b.toList) (htrail : IsTrail trail)
    (hx : '/' ∉ x.toList ∧ x.toList.dropWhile isWhitespace = a.toList.dropWhile isWhitespace)
    (htoken : token.toList
      = x.toList ++ '~' :: (b ++ trail).toList.rdropWhile isWhitespace) :
    trim ((split token '/').head?.getD "") = trim (a ++ "~" ++ b) := by
  have hne : ∀ c ∈ x.toList, (c != '/') = true :=
    fun c hc ↦ bne_iff_ne.mpr fun h ↦ hx.1 (h ▸ hc)
  have hcut : token.toList.takeWhile (· != '/') = x.toList ++ '~' ::
      ((b ++ trail).toList.rdropWhile isWhitespace).takeWhile (· != '/') := by
    rw [htoken, List.takeWhile_append_of_pos hne, List.takeWhile_cons_of_pos (by decide)]
  rw [head?_split, Option.getD_some, hcut, ← String.toList_inj, toList_trim_append toList_tilde rfl,
    toList_trim, String.toList_ofList, dropWhile_append_cons rfl, rdropWhile_append_cons rfl,
    takeWhile_trail hb htrail, hx.2]

/-- The scheme of a URL is cut off. -/
theorem strip_scheme {scheme : String} (hscheme : scheme = "http://" ∨ scheme = "https://")
    (rest : String) :
    ((stripPrefix (scheme ++ rest) "http://").or (stripPrefix (scheme ++ rest) "https://")).getD
      (scheme ++ rest) = rest := by
  obtain rfl | rfl := hscheme
  · rw [stripPrefix_eq_some_iff.mpr rfl, Option.some_or, Option.getD_some]
  · have hnone : stripPrefix ("https://" ++ rest) "http://" = none := by
      rw [stripPrefix, if_neg]
      simp [List.cons_prefix_cons]
    rw [hnone, Option.none_or, stripPrefix_eq_some_iff.mpr rfl, Option.getD_some]

/-- **A host is found inside of a URL**: the scheme, the path and white space are cut off. -/
theorem normalizeHostToken_range {lead trail : String} (hlead : IsLead lead)
    (htrail : IsTrail trail) (ha : IsBound a) (hb : IsBound b) :
    normalizeHostToken (lead ++ (a ++ "~" ++ b) ++ trail) = trim (a ++ "~" ++ b) := by
  have hassoc : lead ++ (a ++ "~" ++ b) ++ trail = lead ++ a ++ "~" ++ (b ++ trail) := by
    simp [String.append_assoc]
  have htrim := toList_trim_append (a := lead ++ a) (b := b ++ trail) toList_tilde
    (by decide : isWhitespace '~' = false)
  rw [normalizeHostToken, hassoc]
  obtain rfl | ⟨space, hspace, hurl⟩ := hlead
  · -- no scheme has been written, and the range does not look like one
    rw [String.empty_append] at htrim ⊢
    have hnone : ∀ p : String, '~' ∉ p.toList → '/' ∈ p.toList →
        stripPrefix (trim (a ++ "~" ++ (b ++ trail))) p = none := by
      intro p htilde hslash
      rw [stripPrefix, if_neg]
      rw [htrim]
      intro hprefix
      have hsub := (prefix_of_prefix_append_cons hprefix htilde).subset hslash
      exact ha.slash ((List.dropWhile_suffix _).subset hsub)
    rw [hnone "http://" (by decide) (by decide), hnone "https://" (by decide) (by decide)]
    refine trim_head?_split hb.slash htrail
      (x := String.ofList (a.toList.dropWhile isWhitespace)) ⟨?_, ?_⟩ ?_
    · rw [String.toList_ofList]
      exact fun hmem ↦ ha.slash ((List.dropWhile_suffix _).subset hmem)
    · rw [String.toList_ofList, List.dropWhile_idempotent]
    · rw [String.toList_ofList]
      exact htrim
  · obtain ⟨scheme, rfl, hscheme⟩ : ∃ scheme, lead = space ++ scheme
        ∧ (scheme = "http://" ∨ scheme = "https://") := by
      obtain rfl | rfl := hurl
      · exact ⟨_, rfl, .inl rfl⟩
      · exact ⟨_, rfl, .inr rfl⟩
    have hfront : (space ++ scheme ++ a).toList.dropWhile isWhitespace
        = scheme.toList ++ a.toList := by
      rw [String.append_assoc, String.toList_append, List.dropWhile_append_of_pos hspace,
        String.toList_append]
      obtain rfl | rfl := hscheme
      · exact List.dropWhile_cons_of_neg (by decide)
      · exact List.dropWhile_cons_of_neg (by decide)
    have hstripped : trim (space ++ scheme ++ a ++ "~" ++ (b ++ trail)) = scheme ++
        (a ++ "~" ++ String.ofList ((b ++ trail).toList.rdropWhile isWhitespace)) := by
      rw [← String.toList_inj, htrim, hfront]
      simp
    rw [hstripped, strip_scheme hscheme]
    refine trim_head?_split hb.slash htrail ⟨ha.slash, rfl⟩ ?_
    simp

end Parsers

/-! ## Lists of hosts and ports -/

def PortRange.swap (range : PortRange) : PortRange := ⟨range.stop, range.start⟩

def RouteRule.swapPort (rule : RouteRule) : RouteRule := { rule with port := rule.port.swap }

/-- Rules with the same compiled forms. -/
def CompileAlike (rules rules' : List RouteRule) : Prop :=
  rules.map compileRule = rules'.map compileRule

/-- The same rules, or rules that differ in the order of one range of ports. -/
def PortSwapped (rules rules' : List RouteRule) : Prop :=
  rules = rules' ∨ OneApart (fun rule rule' ↦ rule' = rule.swapPort) rules rules'

section Lists

variable {token token' raw raw' : String} {r : String → String → Prop}

theorem compileHost_swap (h : SwapsHost token token') :
    ∃ host host', readHostToken token = some host ∧ readHostToken token' = some host'
      ∧ compileHost host = compileHost host' := by
  obtain ⟨hlead, htrail, ⟨ha, hb⟩⟩ := h
  rename_i a b
  have hread := normalizeHostToken_range hlead htrail ha hb
  have hread' := normalizeHostToken_range hlead htrail hb ha
  refine ⟨trim (a ++ "~" ++ b), trim (b ++ "~" ++ a), ?_, ?_, ?_⟩
  · rw [readHostToken, hread, if_neg (trim_range_ne_empty a b)]
  · rw [readHostToken, hread', if_neg (trim_range_ne_empty b a)]
  · rw [compileHost_range ha.tilde, compileHost_range hb.tilde, rangeMatcher_comm]

theorem parseExtraIp_swap (h : SwapsBounds token token') :
    parseExtraIp token = parseExtraIp token' := by
  obtain ⟨ha, hb⟩ := h
  rw [parseExtraIp_range ha hb, parseExtraIp_range hb ha, rangeMatcher_comm]

/-- A range of ports that can be read keeps the order of its bounds. -/
theorem parsePortToken_swap (h : SwapsBounds token token') :
    parsePortToken token = parsePortToken token'
      ∨ ∃ range range', parsePortToken token = some range ∧ parsePortToken token' = some range'
        ∧ range' = range.swap := by
  obtain ⟨ha, hb⟩ := h
  rename_i a b
  rw [parsePortToken_range ha.tilde, parsePortToken_range hb.tilde]
  rcases parsePort (trim a) with _ | x <;> rcases parsePort (trim b) with _ | y
  · exact .inl rfl
  · exact .inl rfl
  · exact .inl rfl
  · exact .inr ⟨⟨x, y⟩, ⟨y, x⟩, rfl, rfl, rfl⟩

theorem SwapsItem.split (h : SwapsItem r raw raw') :
    OneApart r (split raw ';') (split raw' ';') := by
  obtain ⟨h, hsep, hsep'⟩ := h
  rename_i items items'
  have hne : items ≠ [] ∧ items' ≠ [] := by
    obtain _ | _ := h <;> exact ⟨List.cons_ne_nil _ _, List.cons_ne_nil _ _⟩
  rwa [split_intercalate rfl hne.1 hsep, split_intercalate rfl hne.2 hsep']

theorem map_compileHost_splitHosts (h : SwapsItem SwapsHost raw raw') :
    (splitHosts raw).map compileHost = (splitHosts raw').map compileHost := by
  rw [splitHosts_eq_filterMap, splitHosts_eq_filterMap]
  obtain heq | hapart := h.split.filterMap fun _ _ h ↦ .inr (compileHost_swap h)
  · rw [heq]
  · exact hapart.map_eq fun _ _ h ↦ h

theorem splitPorts_swap (h : SwapsItem SwapsBounds raw raw') :
    splitPorts raw = splitPorts raw'
      ∨ OneApart (fun range range' ↦ range' = range.swap) (splitPorts raw) (splitPorts raw') :=
  h.split.filterMap fun _ _ h ↦ parsePortToken_swap h

end Lists

section Emit

variable {rcId proto : ℤ} {svc name : String} {hosts hosts' : List String}
  {ports ports' : List PortRange}

theorem compileAlike_emitRules (h : hosts.map compileHost = hosts'.map compileHost) :
    CompileAlike (emitRules rcId proto svc name hosts ports)
      (emitRules rcId proto svc name hosts' ports) := by
  have hlen : hosts.length = hosts'.length := by
    simpa using congrArg List.length h
  have hempty : hosts.isEmpty = hosts'.isEmpty := by
    rw [Bool.eq_iff_iff, List.isEmpty_iff_length_eq_zero, List.isEmpty_iff_length_eq_zero, hlen]
  have hzip : ∀ l : List String, (l.zip ports).map (fun p ↦ compileRule
      { rcId, proto, svc, name, host := p.1, port := p.2 })
      = ((l.map compileHost).zip ports).map fun p ↦ p.1.map fun matcher ↦
        { rcId, rcName := name, proto, svc, matcher, port := p.2 } := by
    intro l
    rw [List.zip_map_left, List.map_map]
    refine List.map_congr_left fun p _ ↦ ?_
    rw [compileRule, Function.comp_apply, Prod.map_fst, Prod.map_snd, id]
  rw [CompileAlike, emitRules, emitRules, hempty, hlen]
  split_ifs
  · rfl
  · rfl
  · rw [List.map_map, List.map_map]
    refine (hzip hosts).trans (Eq.trans ?_ (hzip hosts').symm)
    rw [h]

theorem portSwapped_emitRules
    (h : OneApart (fun range range' ↦ range' = PortRange.swap range) ports ports') :
    PortSwapped (emitRules rcId proto svc name hosts ports)
      (emitRules rcId proto svc name hosts ports') := by
  have hlen := h.length_eq
  have hempty : ports.isEmpty = ports'.isEmpty := by
    rw [Bool.eq_iff_iff, List.isEmpty_iff_length_eq_zero, List.isEmpty_iff_length_eq_zero, hlen]
  rw [PortSwapped, emitRules, emitRules, hempty, hlen]
  split_ifs
  · exact .inl rfl
  · exact .inl rfl
  · obtain heq | hapart := h.zip_left hosts
    · exact .inl (by rw [heq])
    · refine .inr (hapart.map ?_)
      rintro ⟨host, range⟩ ⟨host', range'⟩ ⟨rfl, rfl⟩
      rfl

end Emit

end ShiepPipeline
