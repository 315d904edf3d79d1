import ShiepPipeline.Collections.Filing
import ShiepPipeline.Routing.Matcher

/-!
# The DNS records of the table

`buildDnsIndexes` files the addresses of the DNS records twice in one pass: by resource and host,
and by host alone. A record that has been seen is passed over for both, though the second index has
a filter of its own.

`buildDnsIndexes_keeps` says that nothing gets lost on the way. Both indexes hold the addresses in
the order of their first occurrence, so that the first one, which is dialled, is the one that the
table names first.
-/

open Net Str Filing

namespace ShiepPipeline

/-- The address that a record gives for a host. -/
def DnsRecord.ipFor (record : DnsRecord) (host : String) : Option Ipv4Addr :=
  if normalizeDomain record.host = host ∧ host ≠ "" then Ipv4Addr.fromStr (trim record.ip)
  else none

/-- What the valid records say: a resource, a host and an address. -/
def validRecords (records : List DnsRecord) : List (ℤ × String × Ipv4Addr) :=
  records.filterMap fun record ↦ record.entry.map (record.rcId, ·)

theorem validRecords_append (records records' : List DnsRecord) :
    validRecords (records ++ records') = validRecords records ++ validRecords records' :=
  List.filterMap_append

namespace DnsIndexState

/-- The state of the loop after records that say `l`. -/
structure Fits (s : DnsIndexState) (l : List (ℤ × String × Ipv4Addr)) : Prop where
  scopedIndex : ∀ rcId, s.scopedIndex rcId
    = if valuesAt l rcId = [] then none else some (filed (valuesAt l rcId))
  exactIndex : s.exactIndex = filed (l.map Prod.snd)
  seenDns : ∀ x, x ∈ s.seenDns ↔ x ∈ l
  nodup : s.seenDns.Nodup
  seenExact : ∀ x, x ∈ s.seenExact ↔ x ∈ l.map Prod.snd

theorem fits_empty : empty.Fits [] where
  scopedIndex _ := rfl
  exactIndex := rfl
  seenDns _ := Iff.rfl
  nodup := List.nodup_nil
  seenExact _ := Iff.rfl

variable {s : DnsIndexState} {l : List (ℤ × String × Ipv4Addr)} {rcId : ℤ} {host : String}
  {ip : Ipv4Addr}

theorem Fits.getD_scoped (h : s.Fits l) (rcId : ℤ) :
    (s.scopedIndex rcId).getD (fun _ ↦ none) = filed (valuesAt l rcId) := by
  rw [h.scopedIndex]
  split_ifs with hnone
  · rw [hnone]
    rfl
  · rfl

/-- The scoped index after a record that is new to it. -/
theorem Fits.scoped_update (h : s.Fits l) (hnew : (rcId, host, ip) ∉ l) (rcId' : ℤ) :
    Function.update s.scopedIndex rcId (some (FirstMatch.pushAt
        ((s.scopedIndex rcId).getD fun _ ↦ none) host ip)) rcId'
      = if valuesAt (l ++ [(rcId, host, ip)]) rcId' = [] then none
        else some (filed (valuesAt (l ++ [(rcId, host, ip)]) rcId')) := by
  by_cases hrc : rcId = rcId'
  · subst hrc
    rw [Function.update_self, h.getD_scoped, valuesAt_append_self,
      if_neg (List.append_ne_nil_of_right_ne_nil _ (List.cons_ne_nil _ _)),
      filed_append_of_not_mem fun hmem ↦ hnew (mem_valuesAt.mp hmem)]
  · rw [Function.update_of_ne (Ne.symm hrc), valuesAt_append_of_ne hrc, h.scopedIndex]

theorem Fits.add_of_mem (h : s.Fits l) (hmem : (rcId, host, ip) ∈ l) :
    (s.add rcId host ip).Fits (l ++ [(rcId, host, ip)]) := by
  have hsnd : (host, ip) ∈ l.map Prod.snd := List.mem_map_of_mem hmem
  rw [add, if_pos ((h.seenDns _).mpr hmem)]
  refine ⟨fun rcId' ↦ ?_, ?_, fun x ↦ ?_, h.nodup, fun x ↦ ?_⟩
  · rw [h.scopedIndex]
    by_cases hrc : rcId = rcId'
    · subst hrc
      have hfiled : (host, ip) ∈ valuesAt l rcId := mem_valuesAt.mpr hmem
      rw [valuesAt_append_self, filed_append_of_mem hfiled, if_neg (List.ne_nil_of_mem hfiled),
        if_neg (List.append_ne_nil_of_right_ne_nil _ (List.cons_ne_nil _ _))]
    · rw [valuesAt_append_of_ne hrc]
  · rw [h.exactIndex, List.map_append, List.map_singleton, filed_append_of_mem hsnd]
  · rw [h.seenDns, List.mem_append, List.mem_singleton, or_iff_left_of_imp]
    rintro rfl
    exact hmem
  · rw [h.seenExact, List.map_append, List.mem_append, List.map_singleton, List.mem_singleton,
      or_iff_left_of_imp]
    rintro rfl
    exact hsnd

theorem Fits.add_of_not_mem (h : s.Fits l) (hnew : (rcId, host, ip) ∉ l) :
    (s.add rcId host ip).Fits (l ++ [(rcId, host, ip)]) := by
  have hseen : (rcId, host, ip) ∉ s.seenDns := fun hmem ↦ hnew ((h.seenDns _).mp hmem)
  have hcons : ∀ x, x ∈ (rcId, host, ip) :: s.seenDns ↔ x ∈ l ++ [(rcId, host, ip)] := by
    intro x
    rw [List.mem_cons, h.seenDns, List.mem_append, List.mem_singleton, or_comm]
  rw [add, if_neg hseen]
  by_cases hexact : (host, ip) ∈ s.seenExact
  · -- another resource has given the same address for the host
    have hsnd : (host, ip) ∈ l.map Prod.snd := (h.seenExact _).mp hexact
    rw [if_pos hexact]
    refine ⟨h.scoped_update hnew, ?_, hcons, h.nodup.cons hseen, fun x ↦ ?_⟩
    · refine h.exactIndex.trans ?_
      rw [List.map_append, List.map_singleton, filed_append_of_mem hsnd]
    · refine (h.seenExact x).trans ?_
      rw [List.map_append, List.mem_append, List.map_singleton, List.mem_singleton,
        or_iff_left_of_imp]
      rintro rfl
      exact hsnd
  · have hsnd : (host, ip) ∉ l.map Prod.snd := fun hmem ↦ hexact ((h.seenExact _).mpr hmem)
    rw [if_neg hexact]
    refine ⟨h.scoped_update hnew, ?_, hcons, h.nodup.cons hseen, fun x ↦ ?_⟩
    · rw [List.map_append, List.map_singleton, filed_append_of_not_mem hsnd, ← h.exactIndex]
    · rw [List.mem_cons, h.seenExact, List.map_append, List.mem_append, List.map_singleton,
        List.mem_singleton, or_comm]

/-- What one record does to the indexes. -/
theorem Fits.addRecord (h : s.Fits l) (record : DnsRecord) :
    (s.addRecord record).Fits (l ++ validRecords [record]) := by
  rw [DnsIndexState.addRecord, validRecords, List.filterMap_cons, List.filterMap_nil]
  cases record.entry with
  | none =>
    rw [Option.map_none, List.append_nil]
    exact h
  | some x =>
    rw [Option.map_some]
    by_cases hmem : (record.rcId, x) ∈ l
    · exact h.add_of_mem hmem
    · exact h.add_of_not_mem hmem

/-- What the whole loop does to them. -/
theorem fits_foldl (records : List DnsRecord) :
    (records.foldl DnsIndexState.addRecord empty).Fits (validRecords records) := by
  induction records using List.reverseRecOn with
  | nil => exact fits_empty
  | append_singleton records record ih =>
    rw [List.foldl_append, List.foldl_cons, List.foldl_nil, validRecords_append]
    exact ih.addRecord record

end DnsIndexState

/-! ## The indexes in terms of the records -/

theorem DnsRecord.entry_eq_some_iff {record : DnsRecord} {host : String} {ip : Ipv4Addr} :
    record.entry = some (host, ip) ↔ record.ipFor host = some ip := by
  rw [entry, ipFor]
  by_cases hempty : normalizeDomain record.host = ""
  · rw [if_pos hempty, hempty, if_neg fun h ↦ h.2 h.1.symm]
    simp
  · rw [if_neg hempty]
    by_cases hhost : normalizeDomain record.host = host
    · rw [if_pos ⟨hhost, hhost ▸ hempty⟩, hhost]
      cases Ipv4Addr.fromStr (trim record.ip) <;> simp
    · rw [if_neg fun h ↦ hhost h.1]
      cases Ipv4Addr.fromStr (trim record.ip) <;> simp [hhost]

theorem DnsRecord.ipFor_eq (record : DnsRecord) (host : String) :
    record.ipFor host = record.entry.bind fun x ↦ if x.1 = host then some x.2 else none := by
  ext ip
  rw [← entry_eq_some_iff]
  cases record.entry with
  | none => simp
  | some x =>
    obtain ⟨host', ip'⟩ := x
    by_cases hhost : host' = host <;> simp [hhost]

theorem valuesAt_validRecords (records : List DnsRecord) (rcId : ℤ) (host : String) :
    valuesAt (valuesAt (validRecords records) rcId) host
      = (records.filter fun record ↦ record.rcId = rcId).filterMap (·.ipFor host) := by
  rw [valuesAt, valuesAt, validRecords, List.filterMap_filterMap, List.filterMap_filterMap,
    List.filterMap_filter]
  refine List.filterMap_congr fun record _ ↦ ?_
  rw [record.ipFor_eq]
  cases record.entry with
  | none => by_cases hrc : record.rcId = rcId <;> simp [hrc]
  | some x => by_cases hrc : record.rcId = rcId <;> simp [hrc]

theorem valuesAt_map_snd_validRecords (records : List DnsRecord) (host : String) :
    valuesAt ((validRecords records).map Prod.snd) host = records.filterMap (·.ipFor host) := by
  rw [valuesAt, validRecords, List.map_filterMap, List.filterMap_filterMap]
  refine List.filterMap_congr fun record _ ↦ ?_
  rw [record.ipFor_eq]
  cases record.entry <;> rfl

theorem mem_validRecords {records : List DnsRecord} {rcId : ℤ} {host : String} {ip : Ipv4Addr} :
    (rcId, host, ip) ∈ validRecords records
      ↔ ∃ record ∈ records, record.rcId = rcId ∧ record.ipFor host = some ip := by
  rw [validRecords, List.mem_filterMap]
  simp only [← DnsRecord.entry_eq_some_iff, Option.map_eq_some_iff, Prod.mk.injEq]
  constructor
  · rintro ⟨record, hmem, x, hentry, hrc, rfl⟩
    exact ⟨record, hmem, hrc, hentry⟩
  · rintro ⟨record, hmem, hrc, hentry⟩
    exact ⟨record, hmem, _, hentry, hrc, rfl⟩

/-- **The indexes keep every record once and in order.** -/
theorem buildDnsIndexes_keeps (records : List DnsRecord) :
    (∀ rcId host ips,
      ((buildDnsIndexes records).scopedIndex rcId).bind (· host) = some ips
        ↔ ips = ((records.filter fun record ↦ record.rcId = rcId).filterMap
            (·.ipFor host)).eraseDups
          ∧ ips ≠ [])
      ∧ (∀ host ips, (buildDnsIndexes records).exactIndex host = some ips
        ↔ ips = (records.filterMap (·.ipFor host)).eraseDups ∧ ips ≠ [])
      ∧ (∀ rcId, (buildDnsIndexes records).scopedIndex rcId ≠ none
        ↔ ∃ record ∈ records, ∃ host ip, record.rcId = rcId ∧ record.ipFor host = some ip)
      ∧ (buildDnsIndexes records).recordCount = (validRecords records).toFinset.card
      ∧ (buildDnsIndexes records).recordCount
        = ∑ key ∈ ((validRecords records).map fun x ↦ (x.1, x.2.1)).toFinset,
            ((((buildDnsIndexes records).scopedIndex key.1).bind (· key.2)).getD []).length := by
  have hfits := DnsIndexState.fits_foldl records
  rw [buildDnsIndexes]
  generalize records.foldl DnsIndexState.addRecord .empty = state at hfits
  dsimp only
  have hscoped : ∀ rcId host, (state.scopedIndex rcId).bind (· host)
      = filed (valuesAt (validRecords records) rcId) host := by
    intro rcId host
    rw [← hfits.getD_scoped]
    cases state.scopedIndex rcId <;> rfl
  have hcount : state.seenDns.length = (validRecords records).toFinset.card := by
    rw [← List.toFinset_card_of_nodup hfits.nodup]
    congr 1
    ext x
    rw [List.mem_toFinset, List.mem_toFinset, hfits.seenDns]
  refine ⟨fun rcId host ips ↦ ?_, fun host ips ↦ ?_, fun rcId ↦ ?_, hcount, ?_⟩
  · rw [hscoped, filed_eq_some_iff, valuesAt_validRecords]
  · rw [hfits.exactIndex, filed_eq_some_iff, valuesAt_map_snd_validRecords]
  · have hiff : state.scopedIndex rcId ≠ none ↔ ∃ x, x ∈ valuesAt (validRecords records) rcId := by
      rw [hfits.scopedIndex]
      split_ifs with hnone
      · rw [hnone]
        refine iff_of_false (not_not_intro rfl) ?_
        rintro ⟨x, hx⟩
        exact List.not_mem_nil hx
      · exact iff_of_true (Option.some_ne_none _) (List.exists_mem_of_ne_nil _ hnone)
    rw [hiff]
    simp only [mem_valuesAt, Prod.exists, mem_validRecords]
    constructor
    · rintro ⟨host, ip, record, hmem, hrc, hip⟩
      exact ⟨record, hmem, host, ip, hrc, hip⟩
    · rintro ⟨record, hmem, host, ip, hrc, hip⟩
      exact ⟨host, ip, record, hmem, hrc, hip⟩
  · simp only [hscoped]
    rw [hcount, card_toFinset_eq_sum]

end ShiepPipeline
