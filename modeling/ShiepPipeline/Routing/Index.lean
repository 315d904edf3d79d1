import ShiepPipeline.Routing.Rules

/-!
# The rule index

`RuleIndex` files every compiled rule by its position: domains and exact addresses under their
own text and value, ranges in one bucket for each first octet they touch. A lookup searches the
domain's list, or the exact list and the bucket of the address's first octet with a running
minimum over both.

`RuleIndex.findFirstMatch_eq` says that none of this shows: the answer is the first rule of the
list that applies.
-/

open Net FirstMatch

namespace ShiepPipeline

/-- Positions of rules, filed by what their matcher names. -/
structure RuleIndex where
  domain : String → Option (List ℕ)
  ipv4 : Ipv4Addr → Option (List ℕ)
  rangeBuckets : List (List ℕ)

/-- `((x >> 24) & 0xff) as usize`. -/
def firstOctet (x : UInt32) : ℕ := ((x >>> 24) &&& 0xff).toNat

namespace RuleIndex

def empty : RuleIndex where
  domain := fun _ ↦ none
  ipv4 := fun _ ↦ none
  rangeBuckets := List.replicate 256 []

/-- Push a position to every bucket from `first` to `last`. -/
def pushRange (buckets : List (List ℕ)) (first last idx : ℕ) : List (List ℕ) :=
  (List.range' first (last + 1 - first)).foldl (fun bs b ↦ bs.modify b (· ++ [idx])) buckets

def add (index : RuleIndex) (rule : CompiledRule) (idx : ℕ) : RuleIndex :=
  match rule.matcher with
  | .domain name => { index with domain := pushAt index.domain name idx }
  | .ipv4 ip => { index with ipv4 := pushAt index.ipv4 ip idx }
  | .ipv4Range start stop =>
    { index with
      rangeBuckets := pushRange index.rangeBuckets (firstOctet start) (firstOctet stop) idx }

def build (rules : List CompiledRule) : RuleIndex :=
  rules.zipIdx.foldl (fun index x ↦ index.add x.1 x.2) empty

/-- The position of the first applicable rule. Reading `rules[idx]` panics in the source when `idx`
is out of bounds; `lt_length_of_mem_build` shows that no stored position is. -/
def findFirstIdx (index : RuleIndex) (rules : List CompiledRule) (target : TargetKind)
    (port : UInt16) (flowProto : FlowProto) : Option ℕ :=
  match target with
  | .domain name =>
    (index.domain name).bind fun ids ↦
      ids.find? fun idx ↦ rules[idx]?.any (ruleMatchesFlow · port flowProto)
  | .ipv4 ip =>
    let best := scanLeast (fun idx ↦ rules[idx]?.any (ruleMatchesFlow · port flowProto)) none
      ((index.ipv4 ip).getD [])
    let needle := ip.toU32
    scanLeast (fun idx ↦ rules[idx]?.any fun rule ↦
        rule.matcher.rangeCovers needle && ruleMatchesFlow rule port flowProto) best
      (index.rangeBuckets.getD (firstOctet needle) [])

def findFirstMatch (index : RuleIndex) (rules : List CompiledRule) (target : TargetKind)
    (port : UInt16) (flowProto : FlowProto) : Option CompiledRule :=
  (index.findFirstIdx rules target port flowProto).bind (rules[·]?)

/-! ## What the index holds -/

theorem build_append_singleton (rules : List CompiledRule) (rule : CompiledRule) :
    build (rules ++ [rule]) = (build rules).add rule rules.length := by
  rw [build, List.zipIdx_append, List.foldl_append, ← build]
  simp

theorem getD_domain_build (rules : List CompiledRule) (name : String) :
    ((build rules).domain name).getD []
      = bucket (fun rule ↦ decide (rule.matcher = .domain name)) rules := by
  induction rules using List.reverseRecOn with
  | nil => rfl
  | append_singleton rules rule ih =>
    rw [build_append_singleton, bucket_append_singleton, ← ih, add]
    split
    · rename_i host hm
      rw [getD_pushAt, hm]
      simp
    · rename_i hm
      simp [hm]
    · rename_i hm
      simp [hm]

theorem getD_ipv4_build (rules : List CompiledRule) (ip : Ipv4Addr) :
    ((build rules).ipv4 ip).getD []
      = bucket (fun rule ↦ decide (rule.matcher = .ipv4 ip)) rules := by
  induction rules using List.reverseRecOn with
  | nil => rfl
  | append_singleton rules rule ih =>
    rw [build_append_singleton, bucket_append_singleton, ← ih, add]
    split
    · rename_i hm
      simp [hm]
    · rename_i x hm
      rw [getD_pushAt, hm]
      simp
    · rename_i hm
      simp [hm]

/-- A range rule touches the buckets from the first octet of its start to that of its stop. -/
def touches (b : ℕ) (rule : CompiledRule) : Bool :=
  match rule.matcher with
  | .ipv4Range start stop => decide (firstOctet start ≤ b) && decide (b ≤ firstOctet stop)
  | _ => false

theorem getElem?_pushRange (buckets : List (List ℕ)) (first last idx b : ℕ) :
    (pushRange buckets first last idx)[b]?
      = if first ≤ b ∧ b ≤ last then buckets[b]?.map (· ++ [idx]) else buckets[b]? := by
  rw [pushRange]
  generalize hn : last + 1 - first = n
  induction n generalizing first buckets with
  | zero =>
    rw [List.range'_zero, List.foldl_nil, if_neg (by omega)]
  | succ n ih =>
    rw [List.range'_succ, List.foldl_cons, ih _ _ (by omega), List.getElem?_modify]
    by_cases hb : first = b
    · subst hb
      rw [if_neg (by omega), if_pos (by omega)]
      simp
    · simp only [hb, if_false, Option.map_eq_map, Option.map_id']
      by_cases hin : first + 1 ≤ b ∧ b ≤ last
      · rw [if_pos hin, if_pos (by omega)]
      · rw [if_neg hin, if_neg (by omega)]

theorem getElem?_rangeBuckets_build (rules : List CompiledRule) {b : ℕ} (hb : b < 256) :
    (build rules).rangeBuckets[b]? = some (bucket (touches b) rules) := by
  induction rules using List.reverseRecOn with
  | nil =>
    rw [build, List.zipIdx_nil, List.foldl_nil, empty, List.getElem?_replicate, if_pos hb]
    rfl
  | append_singleton rules rule ih =>
    rw [build_append_singleton, bucket_append_singleton, add]
    split
    · rename_i hm
      simp [ih, touches, hm]
    · rename_i hm
      simp [ih, touches, hm]
    · rename_i start stop hm
      simp only [getElem?_pushRange, ih, touches, hm, Option.map_some, Bool.and_eq_true,
        decide_eq_true_eq]
      split_ifs <;> rfl

theorem firstOctet_eq (x : UInt32) : firstOctet x = x.toNat / 2 ^ 24 := by
  have hx := x.toNat_lt
  rw [firstOctet, UInt32.toNat_and, UInt32.toNat_shiftRight]
  have hmask : (0xff : UInt32).toNat = 2 ^ 8 - 1 := rfl
  have hshift : (24 : UInt32).toNat % 32 = 24 := rfl
  rw [hmask, hshift, Nat.and_two_pow_sub_one_eq_mod, Nat.shiftRight_eq_div_pow]
  omega

theorem firstOctet_lt (x : UInt32) : firstOctet x < 256 := by
  have hx := x.toNat_lt
  rw [firstOctet_eq]
  omega

/-- The bucket of an address lists every range that holds it. -/
theorem touches_of_rangeCovers {rule : CompiledRule} {needle : UInt32}
    (h : rule.matcher.rangeCovers needle = true) : touches (firstOctet needle) rule = true := by
  rw [touches]
  cases hm : rule.matcher with
  | domain | ipv4 => simp [hm, HostMatcher.rangeCovers] at h
  | ipv4Range start stop =>
    simp only [hm, HostMatcher.rangeCovers, Bool.and_eq_true, decide_eq_true_eq,
      UInt32.le_iff_toNat_le] at h
    simp only [firstOctet_eq, Bool.and_eq_true, decide_eq_true_eq]
    exact ⟨Nat.div_le_div_right h.1, Nat.div_le_div_right h.2⟩

/-- Every position the index stores, in any of its three tables, is one of a rule. -/
theorem lt_length_of_mem_build {rules : List CompiledRule} {idx : ℕ}
    (h : (∃ name, idx ∈ ((build rules).domain name).getD [])
      ∨ (∃ ip, idx ∈ ((build rules).ipv4 ip).getD [])
      ∨ ∃ b, b < 256 ∧ idx ∈ (build rules).rangeBuckets.getD b []) :
    idx < rules.length := by
  rcases h with ⟨name, h⟩ | ⟨ip, h⟩ | ⟨b, hb, h⟩
  · rw [getD_domain_build] at h
    exact lt_length_of_mem_bucket h
  · rw [getD_ipv4_build] at h
    exact lt_length_of_mem_bucket h
  · rw [List.getD_eq_getElem?_getD, getElem?_rangeBuckets_build rules hb, Option.getD_some] at h
    exact lt_length_of_mem_bucket h

/-! ## The index against a scan -/

theorem isLeastOf_findFirstIdx (rules : List CompiledRule) (target : TargetKind) (port : UInt16)
    (flowProto : FlowProto) :
    IsLeastOf ((build rules).findFirstIdx rules target port flowProto)
      (positions (·.matches target port flowProto) rules) := by
  cases target with
  | domain name =>
    have hfind : (build rules).findFirstIdx rules (.domain name) port flowProto
        = (bucket (fun rule ↦ decide (rule.matcher = .domain name)) rules).find?
          fun idx ↦ rules[idx]?.any (ruleMatchesFlow · port flowProto) := by
      rw [← getD_domain_build, findFirstIdx]
      cases (build rules).domain name <;> rfl
    -- a rule for a domain covers that domain and nothing else, so its bucket has them all
    have hset : positions (·.matches (.domain name) port flowProto) rules
        = positions (fun rule ↦ decide (rule.matcher = .domain name)
          && ruleMatchesFlow rule port flowProto) rules := by
      congr 1
      funext rule
      rw [CompiledRule.matches]
      congr 1
      rw [Bool.eq_iff_iff, HostMatcher.covers_domain_iff, decide_eq_true_iff]
    rw [hfind, hset, ← setOf_mem_bucket]
    exact isLeastOf_find? (pairwise_bucket _ _)
  | ipv4 ip =>
    have hbucket := getElem?_rangeBuckets_build rules (firstOctet_lt ip.toU32)
    -- an address is covered by a rule for it, or by a range, which touches its first octet
    have hset : positions (·.matches (.ipv4 ip) port flowProto) rules
        = (∅ ∪ positions (fun rule ↦ decide (rule.matcher = .ipv4 ip)
              && ruleMatchesFlow rule port flowProto) rules)
          ∪ positions (fun rule ↦ touches (firstOctet ip.toU32) rule
              && (rule.matcher.rangeCovers ip.toU32 && ruleMatchesFlow rule port flowProto))
            rules := by
      rw [Set.empty_union, positions_union]
      congr 1
      funext rule
      rw [CompiledRule.matches]
      cases hm : rule.matcher with
      | domain => simp [HostMatcher.covers, HostMatcher.rangeCovers]
      | ipv4 x => simp [HostMatcher.covers, HostMatcher.rangeCovers, beq_eq_decide]
      | ipv4Range start stop =>
        have ht : rule.matcher.rangeCovers ip.toU32 = true →
            touches (firstOctet ip.toU32) rule = true := touches_of_rangeCovers
        rw [hm] at ht
        cases hc : (HostMatcher.ipv4Range start stop).rangeCovers ip.toU32 with
        | false => simp [HostMatcher.covers, hc]
        | true => simp [HostMatcher.covers, hc, ht hc]
    rw [findFirstIdx, hset, List.getD_eq_getElem?_getD, hbucket, getD_ipv4_build,
      ← setOf_mem_bucket, ← setOf_mem_bucket]
    exact isLeastOf_scanLeast _ (isLeastOf_scanLeast _ rfl)

/-- **The index answers as a scan of the rules would.** -/
theorem findFirstMatch_eq (rules : List CompiledRule) (target : TargetKind) (port : UInt16)
    (flowProto : FlowProto) :
    (build rules).findFirstMatch rules target port flowProto
      = rules.find? (·.matches target port flowProto) :=
  (find?_eq_of_isLeastOf (isLeastOf_findFirstIdx rules target port flowProto)).symm

end RuleIndex

/-- A raw rule applies to a target and a flow: it compiles, and what it compiles to applies. -/
def RouteRule.matches (rule : RouteRule) (target : TargetKind) (port : UInt16)
    (flowProto : FlowProto) : Bool :=
  (compileRule rule).any (·.matches target port flowProto)

/-- **The index of a table answers as a scan of the raw table would.** It finds the compiled form of
the first raw rule that applies, and nothing if there is none. No position that it holds is out of
bounds, and it has a bucket for every first octet. -/
theorem findFirstMatch_compileRules (raw : List RouteRule) (target : TargetKind) (port : UInt16)
    (flowProto : FlowProto) :
    (RuleIndex.build (compileRules raw)).findFirstMatch (compileRules raw) target port flowProto
        = (raw.find? (·.matches target port flowProto)).bind compileRule
      ∧ ((RuleIndex.build (compileRules raw)).findFirstMatch (compileRules raw) target port
          flowProto = none ↔ ∀ rule ∈ raw, rule.matches target port flowProto = false)
      ∧ (∀ name, ∀ idx ∈ ((RuleIndex.build (compileRules raw)).domain name).getD [],
        idx < (compileRules raw).length)
      ∧ (∀ ip, ∀ idx ∈ ((RuleIndex.build (compileRules raw)).ipv4 ip).getD [],
        idx < (compileRules raw).length)
      ∧ (∀ b < 256, ∃ bucket, (RuleIndex.build (compileRules raw)).rangeBuckets[b]? = some bucket
        ∧ ∀ idx ∈ bucket, idx < (compileRules raw).length)
      ∧ ∀ x, firstOctet x < 256 := by
  have hscan : (RuleIndex.build (compileRules raw)).findFirstMatch (compileRules raw) target port
      flowProto = (raw.find? (·.matches target port flowProto)).bind compileRule := by
    rw [RuleIndex.findFirstMatch_eq, find?_compileRules, List.find?_filterMap]
    rfl
  refine ⟨hscan, ?_, fun name idx h ↦ RuleIndex.lt_length_of_mem_build (.inl ⟨name, h⟩),
    fun ip idx h ↦ RuleIndex.lt_length_of_mem_build (.inr (.inl ⟨ip, h⟩)), fun b hb ↦ ?_,
    RuleIndex.firstOctet_lt⟩
  · rw [hscan]
    cases hfind : raw.find? (·.matches target port flowProto) with
    | none =>
      simp only [List.find?_eq_none, Bool.not_eq_true] at hfind
      exact iff_of_true rfl hfind
    | some rule =>
      -- a rule that applies compiles
      have happlies := List.find?_some hfind
      obtain ⟨compiled, hcompiled, -⟩ := (Option.any_eq_true _ _).mp happlies
      rw [Option.bind_some]
      refine iff_of_false (by simp [hcompiled]) fun hnone ↦ ?_
      exact absurd happlies (by simp [hnone rule (List.mem_of_find?_eq_some hfind)])
  · have hbucket := RuleIndex.getElem?_rangeBuckets_build (compileRules raw) hb
    exact ⟨_, hbucket, fun idx h ↦ FirstMatch.lt_length_of_mem_bucket h⟩

end ShiepPipeline
