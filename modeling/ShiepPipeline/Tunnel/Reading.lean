import Mathlib.Data.List.Basic
import ShiepPipeline.Error

/-!
# Reading from a stream with a deadline

What a stream does is known in advance here: it holds the outcomes of its reads in order, each with
the instant at which the read returns. A read that has nothing to return ever leaves the reader
waiting, so what reads is a partial function of the stream.

`readAtLeast` collects bytes until there are enough of them. `takesShortest_of_arrives` says how
many it takes when everything arrives in time: those of the shortest sequence of reads that is
enough.
-/

namespace ShiepPipeline

/-- `ErrorKind`, as far as the loops look at it. -/
inductive ErrorKind
  | wouldBlock
  | timedOut
  | other
deriving DecidableEq, Repr

def isWouldblockOrTimeout (e : ErrorKind) : Bool := e = .wouldBlock ∨ e = .timedOut

structure ReadError where
  kind : ErrorKind
  text : String
deriving DecidableEq, Repr

/-- What a read comes to, and when it returns. No bytes are the end of the stream. -/
structure Delivery where
  time : ℕ
  result : Except ReadError (List UInt8)

/-- The instant, what `write_all` answers to a message, and what is still to be read. -/
structure TlsStream where
  clock : ℕ
  write : List UInt8 → Except String Unit
  incoming : List Delivery

/-- The loop of `read_at_least` with the bytes that it has collected. -/
def readAtLeastLoop (minLen bufLen deadline : ℕ) : List Delivery → ℕ → List UInt8 →
    Option (Except EcError (List UInt8) × ℕ × List Delivery)
  | incoming, clock, buf =>
    if buf.length < minLen ∧ buf.length < bufLen ∧ clock < deadline then
      match incoming with
      | [] => none
      | d :: incoming =>
        match d.result with
        | .ok [] => some (.ok buf, max clock d.time, incoming)
        | .ok (byte :: bytes) =>
          if (byte :: bytes).length ≤ bufLen - buf.length then
            readAtLeastLoop minLen bufLen deadline incoming (max clock d.time)
              (buf ++ byte :: bytes)
          else
            -- the buffer is full, and what it did not hold is returned by the next read
            some (.ok (buf ++ (byte :: bytes).take (bufLen - buf.length)), max clock d.time,
              ⟨d.time, .ok ((byte :: bytes).drop (bufLen - buf.length))⟩ :: incoming)
        | .error e =>
          if isWouldblockOrTimeout e.kind then
            readAtLeastLoop minLen bufLen deadline incoming (max clock d.time) buf
          else
            some (.error (.runtime s!"stream read failed: {e.text}"), max clock d.time, incoming)
    else some (.ok buf, clock, incoming)

/-- `read_at_least`, with a buffer of `bufLen` bytes. -/
def readAtLeast (minLen bufLen timeout : ℕ) (s : TlsStream) :
    Option (Except EcError (List UInt8) × TlsStream) :=
  (readAtLeastLoop minLen bufLen (s.clock + timeout) s.incoming s.clock []).map fun r ↦
    (r.1, { s with clock := r.2.1, incoming := r.2.2 })

/-! ## Everything arrives in time -/

/-- The bytes of the reads that return any. -/
def chunks (ds : List Delivery) : List (List UInt8) := ds.filterMap fun d ↦ d.result.toOption

def unread (ds : List Delivery) : List UInt8 := (chunks ds).flatten

/-- Each read returns bytes before the deadline, or says that there are none yet. -/
def ArrivesBy (deadline : ℕ) (d : Delivery) : Prop :=
  d.time < deadline ∧ ((∃ bytes, d.result = .ok bytes ∧ bytes ≠ [])
    ∨ ∃ e, d.result = .error e ∧ isWouldblockOrTimeout e.kind = true)

@[simp] theorem chunks_append (ds ds' : List Delivery) :
    chunks (ds ++ ds') = chunks ds ++ chunks ds' :=
  List.filterMap_append

@[simp] theorem unread_append (ds ds' : List Delivery) :
    unread (ds ++ ds') = unread ds ++ unread ds' := by
  rw [unread, chunks_append, List.flatten_append, unread, unread]

theorem chunks_cons_ok {d : Delivery} {bytes : List UInt8} (h : d.result = .ok bytes)
    (ds : List Delivery) : chunks (d :: ds) = bytes :: chunks ds := by
  rw [chunks, List.filterMap_cons, h]
  rfl

theorem chunks_cons_error {d : Delivery} {e : ReadError} (h : d.result = .error e)
    (ds : List Delivery) : chunks (d :: ds) = chunks ds := by
  rw [chunks, List.filterMap_cons, h]
  rfl

section Loop

variable {minLen bufLen deadline clock : ℕ} {buf : List UInt8}

/-- One turn of the loop that collects bytes. -/
theorem readAtLeastLoop_ok {d : Delivery} {bytes : List UInt8} (hd : d.result = .ok bytes)
    (hne : bytes ≠ []) (hloop : buf.length < minLen ∧ buf.length < bufLen ∧ clock < deadline)
    (hfits : (buf ++ bytes).length ≤ bufLen) (incoming : List Delivery) :
    readAtLeastLoop minLen bufLen deadline (d :: incoming) clock buf
      = readAtLeastLoop minLen bufLen deadline incoming (max clock d.time) (buf ++ bytes) := by
  obtain ⟨byte, bytes, rfl⟩ := List.exists_cons_of_ne_nil hne
  rw [List.length_append] at hfits
  rw [readAtLeastLoop, if_pos hloop, hd]
  exact if_pos (by omega)

/-- One turn of the loop in which there is nothing to read. -/
theorem readAtLeastLoop_wouldBlock {d : Delivery} {e : ReadError} (hd : d.result = .error e)
    (he : isWouldblockOrTimeout e.kind = true)
    (hloop : buf.length < minLen ∧ buf.length < bufLen ∧ clock < deadline)
    (incoming : List Delivery) :
    readAtLeastLoop minLen bufLen deadline (d :: incoming) clock buf
      = readAtLeastLoop minLen bufLen deadline incoming (max clock d.time) buf := by
  rw [readAtLeastLoop, if_pos hloop, hd]
  exact if_pos he

theorem readAtLeastLoop_enough (h : minLen ≤ buf.length) (incoming : List Delivery) :
    readAtLeastLoop minLen bufLen deadline incoming clock buf
      = some (.ok buf, clock, incoming) := by
  obtain _ | ⟨d, incoming⟩ := incoming <;> rw [readAtLeastLoop, if_neg (by omega)]

/-- What is taken of the reads `ds`, when others come after them. -/
def TakesShortest (minLen bufLen deadline : ℕ) (ds rest : List Delivery) (clock : ℕ)
    (buf : List UInt8) : Prop :=
  ∃ ds₁ ds₂ clock', ds = ds₁ ++ ds₂
    ∧ readAtLeastLoop minLen bufLen deadline (ds ++ rest) clock buf
      = some (.ok (buf ++ unread ds₁), clock', ds₂ ++ rest)
    ∧ minLen ≤ (buf ++ unread ds₁).length
    ∧ ∀ taken, taken <+: chunks ds → minLen ≤ (buf ++ taken.flatten).length
      → (unread ds₁).length ≤ taken.flatten.length

theorem takesShortest_of_enough (h : minLen ≤ buf.length) (ds rest : List Delivery) :
    TakesShortest minLen bufLen deadline ds rest clock buf := by
  refine ⟨[], ds, clock, rfl, ?_, ?_, fun _ _ _ ↦ Nat.zero_le _⟩
  · rw [readAtLeastLoop_enough h]
    simp [unread, chunks]
  · simpa [unread, chunks] using h

theorem takesShortest_cons_ok {d : Delivery} {bytes : List UInt8} (hd : d.result = .ok bytes)
    (hne : bytes ≠ []) (hloop : buf.length < minLen ∧ buf.length < bufLen ∧ clock < deadline)
    (hfits : (buf ++ bytes).length ≤ bufLen) {ds rest : List Delivery}
    (h : TakesShortest minLen bufLen deadline ds rest (max clock d.time) (buf ++ bytes)) :
    TakesShortest minLen bufLen deadline (d :: ds) rest clock buf := by
  obtain ⟨ds₁, ds₂, clock', rfl, hread, henough, hleast⟩ := h
  have hunread : unread (d :: ds₁) = bytes ++ unread ds₁ := by
    rw [unread, chunks_cons_ok hd, List.flatten_cons, unread]
  refine ⟨d :: ds₁, ds₂, clock', rfl, ?_, ?_, ?_⟩
  · rw [List.cons_append, readAtLeastLoop_ok hd hne hloop hfits, hread, hunread,
      List.append_assoc]
  · rwa [hunread, ← List.append_assoc]
  · intro taken hprefix htaken
    rw [chunks_cons_ok hd] at hprefix
    obtain _ | ⟨chunk, taken⟩ := taken
    · rw [List.flatten_nil, List.append_nil] at htaken
      omega
    · obtain ⟨rfl, hrest⟩ := List.cons_prefix_cons.mp hprefix
      rw [List.flatten_cons, ← List.append_assoc] at htaken
      have := hleast taken hrest htaken
      rw [hunread, List.flatten_cons, List.length_append, List.length_append]
      omega

theorem takesShortest_cons_error {d : Delivery} {e : ReadError} (hd : d.result = .error e)
    (he : isWouldblockOrTimeout e.kind = true)
    (hloop : buf.length < minLen ∧ buf.length < bufLen ∧ clock < deadline)
    {ds rest : List Delivery}
    (h : TakesShortest minLen bufLen deadline ds rest (max clock d.time) buf) :
    TakesShortest minLen bufLen deadline (d :: ds) rest clock buf := by
  obtain ⟨ds₁, ds₂, clock', rfl, hread, henough, hleast⟩ := h
  have hunread : unread (d :: ds₁) = unread ds₁ := by
    rw [unread, chunks_cons_error hd, unread]
  refine ⟨d :: ds₁, ds₂, clock', rfl, ?_, ?_, ?_⟩
  · rw [List.cons_append, readAtLeastLoop_wouldBlock hd he hloop, hread, hunread]
  · rwa [hunread]
  · rw [hunread, chunks_cons_error hd]
    exact hleast

/-- **The reads that are taken** are a beginning of those that arrive. Their bytes are enough, and
no beginning with fewer bytes is enough. -/
theorem takesShortest_of_arrives {ds : List Delivery} (hds : ∀ d ∈ ds, ArrivesBy deadline d)
    (rest : List Delivery) (hclock : clock < deadline)
    (henough : minLen ≤ (buf ++ unread ds).length) (hfits : (buf ++ unread ds).length ≤ bufLen) :
    TakesShortest minLen bufLen deadline ds rest clock buf := by
  induction ds generalizing clock buf with
  | nil =>
    rw [unread, chunks, List.filterMap_nil, List.flatten_nil, List.append_nil] at henough
    exact takesShortest_of_enough henough [] rest
  | cons d ds ih =>
    -- either there is enough already, or the loop reads once more, before its deadline
    by_cases hdone : minLen ≤ buf.length
    · exact takesShortest_of_enough hdone (d :: ds) rest
    obtain ⟨⟨htime, hresult⟩, hds⟩ := List.forall_mem_cons.mp hds
    have hroom : buf.length < bufLen := by
      rw [List.length_append] at henough hfits
      omega
    have hloop : buf.length < minLen ∧ buf.length < bufLen ∧ clock < deadline := by omega
    have hclock' : max clock d.time < deadline := by omega
    obtain ⟨bytes, hok, hne⟩ | ⟨e, herror, hkind⟩ := hresult
    · have hunread : buf ++ unread (d :: ds) = buf ++ bytes ++ unread ds := by
        rw [unread, chunks_cons_ok hok, List.flatten_cons, List.append_assoc, unread]
      rw [hunread] at henough hfits
      have hfits' : (buf ++ bytes).length ≤ bufLen := by
        rw [List.length_append] at hfits
        omega
      exact takesShortest_cons_ok hok hne hloop hfits' (ih hds hclock' henough hfits)
    · have hunread : unread (d :: ds) = unread ds := by
        rw [unread, chunks_cons_error herror, unread]
      rw [hunread] at henough hfits
      exact takesShortest_cons_error herror hkind hloop (ih hds hclock' henough hfits)

end Loop

end ShiepPipeline
