import Mathlib.Data.List.Count
import ShiepPipeline.Routing.Table

/-!
# The list of DNS records

The `data` attribute of a DNS element is a list of items `id:host:ip`. An item is cut at its first
and at its last colon, so a host may hold colons of its own, and an item that cannot be read is
passed over.

`parseDns_listing` says that the list decodes to what was written into it: blank and malformed items
anywhere in it have no effect on the others.
-/

open Str

namespace ShiepPipeline

namespace DnsRecord

/-- A record as an item of the list. -/
def item (record : DnsRecord) : String :=
  toString record.rcId ++ ":" ++ record.host ++ ":" ++ record.ip

/-- A record that can be written into a list: its number is an `i32`, and its texts do not look like
anything else there. -/
structure Writable (record : DnsRecord) : Prop where
  rcId_low : -2 ^ 31 ≤ record.rcId
  rcId_high : record.rcId < 2 ^ 31
  host_ne : record.host ≠ ""
  host_trim : trim record.host = record.host
  host_chars : ';' ∉ record.host.toList ∧ '/' ∉ record.host.toList
  ip_ne : record.ip ≠ ""
  ip_trim : trim record.ip = record.ip
  ip_chars : ':' ∉ record.ip.toList ∧ ';' ∉ record.ip.toList

end DnsRecord

/-- An item that is none: it has too few colons, or no number in front, or one of its texts is empty
when it has been normalised. -/
inductive MalformedItem (item : String) : Prop
  | colons (h : item.toList.count ':' < 2)
  | number {idRaw rest e : String} (h : item = idRaw ++ ":" ++ rest) (hid : ':' ∉ idRaw.toList)
      (hbad : parseI32 idRaw = .error e)
  | text {idRaw hostRaw ipRaw : String} (h : item = idRaw ++ ":" ++ hostRaw ++ ":" ++ ipRaw)
      (hid : ':' ∉ idRaw.toList) (hip : ':' ∉ ipRaw.toList)
      (hempty : normalizeHostToken hostRaw = "" ∨ trim ipRaw = "")

/-- The items of a list into which records have been written, with others in between. -/
inductive DnsListing : List String → List DnsRecord → Prop
  | nil : DnsListing [] []
  | record {items : List String} {records : List DnsRecord} {record : DnsRecord}
      (hrecord : record.Writable) (h : DnsListing items records) :
      DnsListing (record.item :: items) (record :: records)
  | noise {items : List String} {records : List DnsRecord} {token : String}
      (hsep : ';' ∉ token.toList) (hbad : trim token = "" ∨ MalformedItem (trim token))
      (h : DnsListing items records) : DnsListing (token :: items) records

/-! ## Records are read back -/

/-- A host that is written as it is normalised. -/
theorem normalizeHostToken_eq_self {host : String} (htrim : trim host = host)
    (hslash : '/' ∉ host.toList) : normalizeHostToken host = host := by
  have hslash' : '/' ∈ "http://".toList ∧ '/' ∈ "https://".toList := by decide
  rw [normalizeHostToken, htrim, stripPrefix_eq_none hslash'.1 hslash,
    stripPrefix_eq_none hslash'.2 hslash]
  simp [split_of_not_mem hslash, htrim]

/-- The text of a number is a digit or a sign at every place. -/
theorem mem_toString_int {n : ℤ} {c : Char} (h : c ∈ (toString n).toList) :
    c = '-' ∨ c.isDigit = true := by
  rw [toList_toString_int, List.mem_append] at h
  rcases h with h | h
  · split_ifs at h
    · exact .inl (List.mem_singleton.mp h)
    · exact absurd h List.not_mem_nil
  · exact .inr (Nat.isDigit_of_mem_toDigits (by decide) (by decide) h)

theorem not_mem_toString_int {n : ℤ} {c : Char} (hsign : c ≠ '-') (hdigit : c.isDigit = false) :
    c ∉ (toString n).toList := by
  intro h
  rcases mem_toString_int h with h | h
  · exact hsign h
  · rw [hdigit] at h
    exact Bool.false_ne_true h

theorem isWhitespace_of_mem_toString_int {n : ℤ} {c : Char} (h : c ∈ (toString n).toList) :
    isWhitespace c = false := by
  rcases mem_toString_int h with rfl | h
  · rfl
  · exact isWhitespace_of_isDigit h

theorem toString_int_ne_nil (n : ℤ) : (toString n).toList ≠ [] := by
  rw [toList_toString_int]
  exact List.append_ne_nil_of_right_ne_nil _ Nat.toDigits_ne_nil

namespace DnsRecord

variable {record : DnsRecord}

theorem toList_item (record : DnsRecord) : record.item.toList
    = (toString record.rcId).toList ++ ':' :: (record.host.toList ++ ':' :: record.ip.toList) := by
  simp [item]

theorem Writable.semicolon_not_mem_item (h : record.Writable) : ';' ∉ record.item.toList := by
  simp only [toList_item, List.mem_append, List.mem_cons, not_or]
  exact ⟨not_mem_toString_int (by decide) rfl, by decide, h.host_chars.1, by decide, h.ip_chars.2⟩

/-- An item begins with its number and ends with its address, so there is nothing to trim. -/
theorem Writable.trim_item (h : record.Writable) : trim record.item = record.item := by
  have hip : record.ip.toList ≠ [] := by
    rw [← String.toList_empty, ne_eq, String.toList_inj]
    exact h.ip_ne
  have hlast : record.item.toList.getLast? = record.ip.toList.getLast? := by
    rw [toList_item, List.getLast?_append_of_ne_nil _ (List.cons_ne_nil _ _), ← List.cons_append,
      List.getLast?_append_of_ne_nil _ (List.cons_ne_nil _ _), ← List.singleton_append,
      List.getLast?_append_of_ne_nil _ hip]
  have hhead : ∀ c ∈ record.item.toList.head?, c ∈ (toString record.rcId).toList := by
    intro c hc
    obtain ⟨x, rest, hx⟩ := List.exists_cons_of_ne_nil (toString_int_ne_nil record.rcId)
    rw [toList_item, hx] at hc
    obtain rfl : x = c := Option.some.inj hc
    rw [hx]
    exact List.mem_cons_self
  rw [trim_eq_self_iff, hlast]
  exact ⟨fun c hc ↦ isWhitespace_of_mem_toString_int (hhead c hc),
    (trim_eq_self_iff.mp h.ip_trim).2⟩

theorem Writable.parse_item (h : record.Writable) :
    parseDnsRecordItem record.item = some record := by
  have hid : splitOnce record.item ':'
      = some (toString record.rcId, record.host ++ ":" ++ record.ip) := by
    rw [splitOnce_eq_some_iff, toList_item]
    exact ⟨by simp, not_mem_toString_int (by decide) rfl⟩
  have hip : rsplitOnce (record.host ++ ":" ++ record.ip) ':' = some (record.host, record.ip) := by
    rw [rsplitOnce_eq_some_iff]
    exact ⟨by simp, h.ip_chars.1⟩
  simp only [parseDnsRecordItem, hid, hip, Option.bind_eq_bind, Option.bind_some]
  rw [parseI32_toString h.rcId_low h.rcId_high, normalizeHostToken_eq_self h.host_trim
    h.host_chars.2, h.ip_trim]
  exact if_neg (not_or.mpr ⟨h.host_ne, h.ip_ne⟩)

end DnsRecord

/-! ## Other items are passed over -/

theorem MalformedItem.parse_item {item : String} (h : MalformedItem item) :
    parseDnsRecordItem item = none := by
  cases h with
  | colons h =>
    rcases hid : splitOnce item ':' with _ | ⟨idRaw, rest⟩
    · simp [parseDnsRecordItem, hid]
    · -- there is no second colon
      have hrest : ':' ∉ rest.toList := by
        rw [(splitOnce_eq_some_iff.mp hid).1, List.count_append, List.count_cons_self] at h
        exact List.count_eq_zero.mp (by omega)
      simp [parseDnsRecordItem, hid, rsplitOnce_eq_none_iff.mpr hrest]
  | @number idRaw rest e h hid hbad =>
    have hsplit : splitOnce item ':' = some (idRaw, rest) := h ▸ splitOnce_append rfl hid
    simp only [parseDnsRecordItem, hsplit, Option.bind_eq_bind, Option.bind_some, hbad]
    rcases rsplitOnce rest ':' with _ | ⟨hostRaw, ipRaw⟩ <;> rfl
  | @text idRaw hostRaw ipRaw h hid hip hempty =>
    have hsplit : splitOnce item ':' = some (idRaw, hostRaw ++ ":" ++ ipRaw) := by
      rw [splitOnce_eq_some_iff, h]
      exact ⟨by simp, hid⟩
    have hrsplit : rsplitOnce (hostRaw ++ ":" ++ ipRaw) ':' = some (hostRaw, ipRaw) := by
      rw [rsplitOnce_eq_some_iff]
      exact ⟨by simp, hip⟩
    simp only [parseDnsRecordItem, hsplit, hrsplit, Option.bind_eq_bind, Option.bind_some,
      if_pos hempty]
    cases (parseI32 idRaw).toOption <;> rfl

namespace DnsListing

variable {items : List String} {records : List DnsRecord}

theorem semicolon_not_mem (h : DnsListing items records) : ∀ item ∈ items, ';' ∉ item.toList := by
  induction h with
  | nil => exact fun item hitem ↦ absurd hitem List.not_mem_nil
  | record hrecord _ ih => exact List.forall_mem_cons.mpr ⟨hrecord.semicolon_not_mem_item, ih⟩
  | noise hsep _ _ ih => exact List.forall_mem_cons.mpr ⟨hsep, ih⟩

/-- What the loop makes of the items. -/
theorem filterMap_items (h : DnsListing items records) :
    (items.filterMap fun token ↦ if trim token = "" then none else parseDnsRecordItem (trim token))
      = records := by
  induction h with
  | nil => rfl
  | @record items records record hrecord _ ih =>
    have hitem : record.item ≠ "" := by
      rw [ne_eq, ← String.toList_inj, DnsRecord.toList_item]
      simp
    rw [List.filterMap_cons, hrecord.trim_item, if_neg hitem, hrecord.parse_item, ih]
  | @noise items records token _ hbad _ ih =>
    rw [List.filterMap_cons, ih]
    split_ifs with hblank
    · rfl
    · rw [(hbad.resolve_left hblank).parse_item]

/-- The items joined with semicolons are cut into the same items. -/
theorem parseDnsItems_intercalate (h : DnsListing items records) :
    parseDnsItems (";".intercalate items) = records := by
  by_cases hnil : items = []
  · subst hnil
    obtain _ | _ := h
    decide
  · rw [parseDnsItems, split_intercalate rfl hnil h.semicolon_not_mem]
    exact h.filterMap_items

end DnsListing

/-- **The list decodes to the records written into it**, in order. What is in between is passed
over, and the element is read all the same. -/
theorem parseDns_listing {items : List String} {records : List DnsRecord}
    (h : DnsListing items records) {attrs : List XmlAttribute} {a : DnsAttributes}
    (ha : readDnsAttributes attrs = .ok a) (hdata : a.data = some (";".intercalate items))
    (dnsServers : List String) (dnsRecords : List DnsRecord) :
    ∃ dnsServers',
      parseDns attrs dnsServers dnsRecords = .ok (dnsServers', dnsRecords ++ records) := by
  have hitems : a.data.elim [] parseDnsItems = records := by
    rw [hdata, Option.elim_some, h.parseDnsItems_intercalate]
  refine ⟨a.servers.elim dnsServers (pushDnsServers dnsServers), ?_⟩
  rw [parseDns, ha, ← hitems]
  rfl

/-- A record whose host has colons. -/
def colonRecord : DnsRecord := ⟨205, "[2001:db8::1]", "10.166.35.11"⟩

theorem colonRecord_writable : colonRecord.Writable where
  rcId_low := by decide
  rcId_high := by decide
  host_ne := by decide
  host_trim := by decide +kernel
  host_chars := by decide
  ip_ne := by decide
  ip_trim := by decide +kernel
  ip_chars := by decide

/-- A blank item, the record, an item with too few colons and one without a number. -/
def noisyItems : List String := [" ", colonRecord.item, "bad", "x:a.example:10.0.0.1"]

theorem parseDns_listing_noisy :
    ∃ dnsServers', parseDns [.value "data" (";".intercalate noisyItems)] [] []
      = .ok (dnsServers', [] ++ [colonRecord]) := by
  have hbad : MalformedItem (trim "bad") := .colons (by decide +kernel)
  have hnumber : MalformedItem (trim "x:a.example:10.0.0.1") :=
    @MalformedItem.number _ "x" "a.example:10.0.0.1" "invalid digit found in string"
      (by decide +kernel) (by decide) rfl
  have hlisting : DnsListing noisyItems [colonRecord] :=
    .noise (by decide) (.inl (by decide +kernel)) (.record colonRecord_writable
      (.noise (by decide) (.inr hbad) (.noise (by decide) (.inr hnumber) .nil)))
  exact parseDns_listing hlisting (a := ⟨none, some (";".intercalate noisyItems)⟩) rfl rfl [] []

end ShiepPipeline
