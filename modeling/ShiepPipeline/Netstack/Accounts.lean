import Mathlib.Algebra.Group.Nat.Defs
import ShiepPipeline.Netstack.Connection

/-!
# Ids and sockets

Ids come from one counter that the two tables share, and sockets from a set that reuses its handles.
`consistent_of_registered_lt` says that the tables and the set always agree: an id is in one table
at most, and every socket belongs to exactly one entry, so none is left behind.

This is so as long as the counter has not wrapped around. It starts at one, so it does with the
last of `2 ^ 64 - 1` flows, and then it is not above the ids in the tables any more.
-/

open Net Sweeper

namespace ShiepPipeline

variable {T : TcpSockets} {U : UdpSockets}

/-! ## What is counted -/

/-- A flow of either kind was registered. -/
def Event.registers : Event T → Bool
  | .handled _ (some (.ok _)) => true
  | _ => false

/-- How many flows have been registered. -/
def registered (journal : List (Event T)) : ℕ := journal.countP Event.registers

theorem registered_cons (e : Event T) (journal : List (Event T)) :
    registered (e :: journal) = registered journal + if e.registers then 1 else 0 :=
  List.countP_cons

theorem openCount_cons (e : Event T) (journal : List (Event T)) :
    openCount (e :: journal) = openCount journal + if e.isOpen then 1 else 0 :=
  List.countP_cons

/-- What a pass writes into the journal is not about messages. -/
theorem countP_append_passEvents {p : Event T → Bool}
    (hp : ∀ id socket conn,
      p (.closing id socket conn) = false ∧ p (.removed id socket conn) = false)
    (n : Netstack T U) (order : List UInt64) (journal : List (Event T)) :
    ((n.passEvents order).reverse ++ journal).countP p = journal.countP p := by
  have hnone : (n.passEvents order).reverse.countP p = 0 := by
    rw [List.countP_eq_zero]
    intro e he
    obtain ⟨id, conn, s, hheld, hvisit⟩ :=
      Netstack.exists_of_mem_passEvents (List.mem_reverse.mp he)
    obtain ⟨-, rfl⟩ | ⟨-, rfl⟩ := (Netstack.mem_visitEvents hheld).mp hvisit
    · simp [hp]
    · simp [hp]
  rw [List.countP_append, hnone, Nat.zero_add]

/-- The port that is handed out after `count` others. -/
def localPort (count : ℕ) : UInt16 := UInt16.ofNat (40000 + count % 20001)

theorem toNat_localPort (count : ℕ) : (localPort count).toNat = 40000 + count % 20001 := by
  have hlt : count % 20001 < 20001 := Nat.mod_lt _ (by decide)
  rw [localPort, UInt16.toNat_ofNat']
  exact Nat.mod_eq_of_lt (by omega)

theorem localPort_ne_zero (count : ℕ) : localPort count ≠ 0 := by
  intro hzero
  have htoNat := congrArg UInt16.toNat hzero
  rw [toNat_localPort] at htoNat
  change 40000 + count % 20001 = 0 at htoNat
  omega

/-- **The ports go round in a cycle.** -/
theorem allocLocalPort_localPort (count : ℕ) :
    Netstack.allocLocalPort (localPort count) = (localPort count, localPort (count + 1)) := by
  have hlt : count % 20001 < 20001 := Nat.mod_lt _ (by decide)
  have hnext : (localPort (count + 1)).toNat = _ := toNat_localPort (count + 1)
  have hle : (60000 : UInt16) ≤ localPort count ↔ 60000 ≤ 40000 + count % 20001 := by
    rw [UInt16.le_iff_toNat_le, toNat_localPort]
    rfl
  rw [Netstack.allocLocalPort]
  congr 1
  apply UInt16.toNat_inj.mp
  rw [hnext]
  split_ifs with hwrap
  · rw [hle] at hwrap
    change 40000 = _
    omega
  · rw [hle] at hwrap
    rw [UInt16.toNat_add, toNat_localPort]
    change (40000 + count % 20001 + 1) % 65536 = _
    omega

/-! ## The invariant -/

namespace Netstack

/-- The tables and the sockets agree. -/
structure Consistent (n : Netstack T U) : Prop where
  disjoint : ∀ id, n.connections id = none ∨ n.udpAssociations id = none
  lt_nextConnId : ∀ id, n.connections id ≠ none ∨ n.udpAssociations id ≠ none → id < n.nextConnId
  tcp : ∀ id conn, n.connections id = some conn →
    ∃ socket, n.sockets conn.handle = some (.tcp socket)
  udp : ∀ id assoc, n.udpAssociations id = some assoc →
    ∃ socket, n.sockets assoc.handle = some (.udp socket)
  tcp_inj : ∀ id id' conn conn', n.connections id = some conn → n.connections id' = some conn' →
    conn.handle = conn'.handle → id = id'
  udp_inj : ∀ id id' assoc assoc', n.udpAssociations id = some assoc →
    n.udpAssociations id' = some assoc' → assoc.handle = assoc'.handle → id = id'
  handle_ne : ∀ id id' conn assoc, n.connections id = some conn →
    n.udpAssociations id' = some assoc → conn.handle ≠ assoc.handle
  owner : ∀ h, n.sockets h ≠ none →
    (∃ id conn, n.connections id = some conn ∧ conn.handle = h)
      ∨ ∃ id assoc, n.udpAssociations id = some assoc ∧ assoc.handle = h

/-- After `count` registrations the counter is above all ids, and no socket is without an entry. -/
structure Accounted (n : Netstack T U) (count : ℕ) : Prop where
  next : n.nextConnId.toNat = count + 1
  keys : ∀ id, n.connections id ≠ none ∨ n.udpAssociations id ≠ none → id < n.nextConnId
  disjoint : ∀ id, n.connections id = none ∨ n.udpAssociations id = none
  named : ∀ h, n.sockets h ≠ none →
    connectionSweeper.Names n.tcpTable h ∨ udpSweeper.Names n.udpTable h

variable {n n' : Netstack T U} {count : ℕ}

/-- Entries may go and change, as long as those that have a socket keep it. -/
theorem Accounted.congr (h : n.Accounted count) (hnext : n'.nextConnId = n.nextConnId)
    (hconn : ∀ id, n.connections id = none → n'.connections id = none)
    (hassoc : ∀ id, n.udpAssociations id = none → n'.udpAssociations id = none)
    (hnamed : ∀ h, n'.sockets h ≠ none →
      connectionSweeper.Names n'.tcpTable h ∨ udpSweeper.Names n'.udpTable h) :
    n'.Accounted count where
  next := hnext ▸ h.next
  keys id hid := hnext ▸ h.keys id (hid.imp (mt (hconn id)) (mt (hassoc id)))
  disjoint id := (h.disjoint id).imp (hconn id) (hassoc id)
  named := hnamed

theorem Accounted.absent (h : n.Accounted count) :
    n.connections n.nextConnId = none ∧ n.udpAssociations n.nextConnId = none := by
  by_contra habsent
  exact absurd (h.keys n.nextConnId (not_and_or.mp habsent)) (UInt64.lt_irrefl _)

theorem map_update_eq_none {ε : Type} {entries : UInt64 → Option ε} (f : ε → ε) (id : UInt64)
    {k : UInt64} (hnone : entries k = none) :
    Function.update entries id ((entries id).map f) k = none := by
  by_cases hk : k = id
  · subst hk
    rw [Function.update_self, hnone, Option.map_none]
  · rw [Function.update_of_ne hk, hnone]

theorem Accounted.modifyConnection (h : n.Accounted count) (id : UInt64)
    {f : ConnectionState → ConnectionState} (hf : ∀ conn, (f conn).handle = conn.handle) :
    (n.modifyConnection id f).Accounted count :=
  h.congr rfl (fun _ ↦ map_update_eq_none f id) (fun _ hnone ↦ hnone)
    fun h' hne ↦ (h.named h' hne).imp_left fun hnames ↦ hnames.modify hf

theorem Accounted.modifyUdpAssociation (h : n.Accounted count) (id : UInt64)
    {f : UdpAssociationState → UdpAssociationState}
    (hf : ∀ assoc, (f assoc).handle = assoc.handle) :
    (n.modifyUdpAssociation id f).Accounted count :=
  h.congr rfl (fun _ hnone ↦ hnone) (fun _ ↦ map_update_eq_none f id)
    fun h' hne ↦ (h.named h' hne).imp_right fun hnames ↦ hnames.modify hf

/-- An entry is registered under the counter. -/
theorem Accounted.register (h : n.Accounted count) (hfew : count + 2 < 2 ^ 64)
    (hnext : n'.nextConnId = n.nextConnId + 1)
    (hconn : ∀ id ≠ n.nextConnId, n'.connections id = n.connections id)
    (hassoc : ∀ id ≠ n.nextConnId, n'.udpAssociations id = n.udpAssociations id)
    (hnew : n'.connections n.nextConnId = none ∨ n'.udpAssociations n.nextConnId = none)
    (hnamed : ∀ h, n'.sockets h ≠ none →
      connectionSweeper.Names n'.tcpTable h ∨ udpSweeper.Names n'.udpTable h) :
    n'.Accounted (count + 1) := by
  have hafter : n'.nextConnId.toNat = count + 2 := by
    rw [hnext, UInt64.toNat_add, h.next]
    exact Nat.mod_eq_of_lt hfew
  refine ⟨hafter, fun id hid ↦ ?_, fun id ↦ ?_, hnamed⟩
  · rw [UInt64.lt_iff_toNat_lt, hafter]
    by_cases hk : id = n.nextConnId
    · rw [hk, h.next]
      omega
    · rw [hconn id hk, hassoc id hk] at hid
      have hlt := UInt64.lt_iff_toNat_lt.mp (h.keys id hid)
      rw [h.next] at hlt
      omega
  · by_cases hk : id = n.nextConnId
    · rwa [hk]
    · rw [hconn id hk, hassoc id hk]
      exact h.disjoint id

/-- Either an open fails and the books are as before, or it registers a flow. -/
theorem Accounted.openConnection (h : n.Accounted count) (handle : SocketHandle)
    (target : SocketAddrV4) :
    (∃ err, (n.openConnection handle target).1 = .error err
        ∧ (n.openConnection handle target).2.Accounted count)
      ∨ ∃ id, (n.openConnection handle target).1 = .ok id
        ∧ (count + 2 < 2 ^ 64 → (n.openConnection handle target).2.Accounted (count + 1)) := by
  rcases n.openConnection_cases handle target with ⟨socket, -, hopen⟩ | ⟨err, hopen⟩
  · rw [hopen]
    refine .inr ⟨_, rfl, fun hfew ↦ h.register hfew rfl (fun id hk ↦ Function.update_of_ne hk _ _)
      (fun _ _ ↦ rfl) (.inr h.absent.2) fun h' hne ↦ ?_⟩
    by_cases hh : h' = handle
    · exact .inl ⟨n.nextConnId, _, Function.update_self .., hh.symm⟩
    · dsimp only at hne
      rw [Function.update_of_ne hh] at hne
      exact (h.named h' hne).imp_left (Names.insert h.absent.1)
  -- a socket that was taken back is not in the set
  · rw [hopen]
    refine .inl ⟨err, rfl, h.congr rfl (fun _ hnone ↦ hnone) (fun _ hnone ↦ hnone) fun h' hne ↦ ?_⟩
    refine h.named h' fun hnone ↦ hne ?_
    dsimp only
    rw [Function.update_apply, hnone, ite_self]

theorem Accounted.openUdpAssociationInner (h : n.Accounted count) (handle : SocketHandle) :
    (∃ err, (n.openUdpAssociationInner handle).1 = .error err
        ∧ (n.openUdpAssociationInner handle).2.Accounted count)
      ∨ ∃ id, (n.openUdpAssociationInner handle).1 = .ok id
        ∧ (count + 2 < 2 ^ 64 → (n.openUdpAssociationInner handle).2.Accounted (count + 1)) := by
  rcases n.openUdpAssociationInner_cases handle with ⟨socket, -, hopen⟩ | ⟨err, hopen⟩
  · rw [hopen]
    refine .inr ⟨_, rfl, fun hfew ↦ h.register hfew rfl (fun _ _ ↦ rfl)
      (fun id hk ↦ Function.update_of_ne hk _ _) (.inl h.absent.1) fun h' hne ↦ ?_⟩
    by_cases hh : h' = handle
    · exact .inr ⟨n.nextConnId, _, Function.update_self .., hh.symm⟩
    · dsimp only at hne
      rw [Function.update_of_ne hh] at hne
      exact (h.named h' hne).imp_right (Names.insert h.absent.2)
  · rw [hopen]
    exact .inl ⟨err, rfl, h.congr rfl (fun _ hnone ↦ hnone) (fun _ hnone ↦ hnone) h.named⟩

theorem Accounted.driveConnections (h : n.Accounted count) (howned : n.Owned)
    {order : List UInt64} (horder : Enumerates order n.connections)
    (hdrive : n.driveConnections order = some n') : n'.Accounted count := by
  obtain ⟨connections, sockets, hspec, hswept⟩ := driveConnections_spec howned horder
  obtain rfl := Option.some.inj (hspec.symm.trans hdrive)
  refine h.congr rfl (fun id ↦ hswept.absent) (fun _ hnone ↦ hnone) fun h' hne ↦ ?_
  obtain ⟨o, ho⟩ := Option.ne_none_iff_exists'.mp hne
  exact (h.named h' (hswept.objects_ne_none howned.tcp hne)).imp_left (hswept.names howned.tcp ho)

theorem Accounted.driveUdpAssociations (h : n.Accounted count) (howned : n.Owned)
    {order : List UInt64} (horder : Enumerates order n.udpAssociations)
    (hdrive : n.driveUdpAssociations order = some n') : n'.Accounted count := by
  obtain ⟨udpAssociations, sockets, hspec, hswept⟩ := driveUdpAssociations_spec howned horder
  obtain rfl := Option.some.inj (hspec.symm.trans hdrive)
  refine h.congr rfl (fun _ hnone ↦ hnone) (fun id ↦ hswept.absent) fun h' hne ↦ ?_
  obtain ⟨o, ho⟩ := Option.ne_none_iff_exists'.mp hne
  exact (h.named h' (hswept.objects_ne_none howned.udp hne)).imp_right (hswept.names howned.udp ho)

/-- The two results together are what the tables and the sockets should look like. -/
theorem Accounted.consistent (h : n.Accounted count) (howned : n.Owned) : n.Consistent where
  disjoint := h.disjoint
  lt_nextConnId := h.keys
  tcp _ _ hconn := (howned.holds hconn).imp fun _ hheld ↦ hheld.2
  udp _ _ hassoc := (howned.holdsUdp hassoc).imp fun _ hheld ↦ hheld.2
  tcp_inj _ _ _ _ hconn hconn' := howned.tcp.inj hconn hconn'
  udp_inj _ _ _ _ hassoc hassoc' := howned.udp.inj hassoc hassoc'
  handle_ne _ _ _ _ := howned.handle_ne
  owner := h.named

end Netstack

/-! ## The loop -/

theorem Step.registered_le {s s' : LoopState T U} (h : Step s s') :
    registered s.journal ≤ registered s'.journal := by
  cases h with
  | receive => exact (registered_cons ..).symm ▸ Nat.le_add_right ..
  | drive => exact (countP_append_passEvents (fun _ _ _ ↦ ⟨rfl, rfl⟩) ..).ge
  | _ => exact le_rfl

/-- One step keeps the books, as long as the counter does not wrap around. -/
theorem Step.accounted {s s' : LoopState T U} (h : Step s s') (howned : s.net.Owned)
    (haccounted : s.net.Accounted (registered s.journal))
    (hfew : registered s'.journal + 1 < 2 ^ 64) : s'.net.Accounted (registered s'.journal) := by
  cases h with
  | @receive n phase phase' journal message handle hphase hfree =>
    dsimp only at haccounted hfew ⊢
    rw [registered_cons] at hfew ⊢
    cases message with
    | tunnelPacket packet => exact haccounted.congr rfl (fun _ ↦ id) (fun _ ↦ id) haccounted.named
    | openTcp target =>
      rw [Netstack.handleControlMessage] at hfew ⊢
      rcases haccounted.openConnection _ target with ⟨err, hreply, h⟩ | ⟨id, hreply, h⟩
      · rw [hreply]
        exact h
      · rw [hreply] at hfew ⊢
        exact h hfew
    | openUdp =>
      rw [Netstack.handleControlMessage] at hfew ⊢
      rcases haccounted.openUdpAssociationInner handle with ⟨err, hreply, h⟩ | ⟨id, hreply, h⟩
      · rw [hreply]
        exact h
      · rw [hreply] at hfew ⊢
        exact h hfew
    | send id data => exact haccounted.modifyConnection id fun _ ↦ rfl
    | sendUdp id target data => exact haccounted.modifyUdpAssociation id fun _ ↦ rfl
    | close id => exact haccounted.modifyConnection id fun _ ↦ rfl
    | closeUdp id => exact haccounted.modifyUdpAssociation id fun _ ↦ rfl
  | endBatch | disconnect => exact haccounted
  | @poll n journal taken iface sockets hsockets =>
    refine haccounted.congr rfl (fun _ ↦ id) (fun _ ↦ id) fun h hne ↦
      haccounted.named h fun hnone ↦ hne ?_
    have hpolled := hsockets h
    rw [hnone] at hpolled
    generalize hafter : sockets h = o at hpolled
    cases hpolled
    exact hafter
  | drive horder hdrive =>
    dsimp only
    rw [registered, countP_append_passEvents fun _ _ _ ↦ ⟨rfl, rfl⟩]
    exact haccounted.driveConnections howned horder hdrive
  | driveUdp horder hdrive => exact haccounted.driveUdpAssociations howned horder hdrive
  | dropReceiver id _ _ left => exact haccounted.modifyConnection id fun _ ↦ rfl
  | dropUdpReceiver id _ _ left => exact haccounted.modifyUdpAssociation id fun _ ↦ rfl

theorem Reachable.accounted {s : LoopState T U} (hs : Reachable s)
    (hfew : registered s.journal + 1 < 2 ^ 64) : s.net.Accounted (registered s.journal) := by
  revert hfew
  refine Reachable.induct (motive := fun s ↦ registered s.journal + 1 < 2 ^ 64 →
    s.net.Accounted (registered s.journal)) (fun iface _ ↦ ?_) (fun s s' hs h ih hfew ↦ ?_) hs
  · exact ⟨rfl, by simp [LoopState.initial, Netstack.initial], fun _ ↦ .inl rfl, fun _ hne ↦
      absurd rfl hne⟩
  · exact h.accounted hs.owned (ih (by have := h.registered_le; omega)) hfew

/-! ## Messages about a flow -/

namespace Netstack

/-- Nothing but one connection may have changed, and nothing at all if the id is unknown. -/
def ChangesOnlyConnection (id : UInt64) (n n' : Netstack T U) : Prop :=
  (∃ conn, n' = { n with connections := Function.update n.connections id conn })
    ∧ (n.connections id = none → n' = n)

def ChangesOnlyUdpAssociation (id : UInt64) (n n' : Netstack T U) : Prop :=
  (∃ assoc, n' = { n with udpAssociations := Function.update n.udpAssociations id assoc })
    ∧ (n.udpAssociations id = none → n' = n)

/-- What a message about a flow may change. -/
def RespectsOthers (n : Netstack T U) (handle : SocketHandle) : ControlMessage → Prop
  | .send id data => n.ChangesOnlyConnection id (n.handleControlMessage handle (.send id data)).2
  | .close id => n.ChangesOnlyConnection id (n.handleControlMessage handle (.close id)).2
  | .sendUdp id target data =>
    n.ChangesOnlyUdpAssociation id (n.handleControlMessage handle (.sendUdp id target data)).2
  | .closeUdp id => n.ChangesOnlyUdpAssociation id (n.handleControlMessage handle (.closeUdp id)).2
  | _ => True

theorem changesOnlyConnection_modifyConnection (n : Netstack T U) (id : UInt64)
    (f : ConnectionState → ConnectionState) :
    n.ChangesOnlyConnection id (n.modifyConnection id f) := by
  refine ⟨⟨_, rfl⟩, fun hnone ↦ ?_⟩
  rw [modifyConnection, hnone, Option.map_none, ← hnone, Function.update_eq_self]

theorem changesOnlyUdpAssociation_modifyUdpAssociation (n : Netstack T U) (id : UInt64)
    (f : UdpAssociationState → UdpAssociationState) :
    n.ChangesOnlyUdpAssociation id (n.modifyUdpAssociation id f) := by
  refine ⟨⟨_, rfl⟩, fun hnone ↦ ?_⟩
  rw [modifyUdpAssociation, hnone, Option.map_none, ← hnone, Function.update_eq_self]

theorem respectsOthers (n : Netstack T U) (handle : SocketHandle) (message : ControlMessage) :
    n.RespectsOthers handle message := by
  cases message with
  | send id | close id => exact n.changesOnlyConnection_modifyConnection id _
  | sendUdp id | closeUdp id => exact n.changesOnlyUdpAssociation_modifyUdpAssociation id _
  | _ => trivial

end Netstack

/-- **The tables and the sockets agree.** In every state of a run with fewer than `2 ^ 64 - 1` flows
the ids and the sockets are in order, no typed access of a pass panics, and a message about a flow
changes nothing else. -/
theorem consistent_of_registered_lt {s : LoopState T U} (hs : Reachable s)
    (hfew : registered s.journal < 2 ^ 64 - 1) :
    s.net.Consistent
      ∧ (∀ order, Enumerates order s.net.connections → s.net.driveConnections order ≠ none)
      ∧ (∀ order, Enumerates order s.net.udpAssociations → s.net.driveUdpAssociations order ≠ none)
      ∧ ∀ handle message, s.net.RespectsOthers handle message := by
  refine ⟨(hs.accounted (by omega)).consistent hs.owned, fun order horder ↦ ?_,
    fun order horder ↦ ?_, s.net.respectsOthers⟩
  · obtain ⟨connections, sockets, hspec, -⟩ := Netstack.driveConnections_spec hs.owned horder
    simp [hspec]
  · obtain ⟨udpAssociations, sockets, hspec, -⟩ :=
      Netstack.driveUdpAssociations_spec hs.owned horder
    simp [hspec]

/-! ## The last id -/

/-- Nothing is open. -/
def Netstack.idle (nextConnId : UInt64) (nextLocalPort : UInt16) : Netstack .plain .plain where
  rxQueue := []
  iface := ()
  sockets := fun _ ↦ none
  connections := fun _ ↦ none
  udpAssociations := fun _ ↦ none
  nextConnId
  nextLocalPort

/-- An association has been opened. -/
def Netstack.associated (nextConnId : UInt64) (nextLocalPort : UInt16) (closeRequested : Bool) :
    Netstack .plain .plain where
  rxQueue := []
  iface := ()
  sockets := Function.update (fun _ ↦ none) 0 (some (.udp ⟨true, some nextLocalPort⟩))
  connections := fun _ ↦ none
  udpAssociations :=
    Function.update (fun _ ↦ none) nextConnId (some ⟨0, .fresh, [], closeRequested⟩)
  nextConnId := nextConnId + 1
  nextLocalPort := (allocLocalPort nextLocalPort).2

namespace Netstack

theorem driveUdpAssociations_of_dead {n : Netstack T U} {id : UInt64} {assoc : UdpAssociationState}
    {s : U.Socket} (hheld : n.HoldsUdp id assoc s)
    (hdead : (U.driveUdpAssociation s assoc).dead = true) :
    n.driveUdpAssociations [id] = some
      { n with
        udpAssociations := Function.update n.udpAssociations id none
        sockets := Function.update n.sockets assoc.handle none } := by
  rw [driveUdpAssociations, sweep_singleton (holdsUdp_iff.mpr hheld), Option.map_some]
  simp only [udpSweeper, hdead]
  rfl

end Netstack

section Idle

open Netstack

variable {id : UInt64} {port : UInt16} {journal : List (Event .plain)}

theorem bind_plain (hport : port ≠ 0) :
    UdpSockets.plain.bind (UdpSockets.plain.new udpPacketCapacity udpBufferCapacity) port
      = (.ok (), (⟨true, some port⟩ : PlainUdp)) := by
  simp [UdpSockets.plain, PlainUdp.bind, hport]

theorem Reachable.openUdp (hs : Reachable ⟨idle id port, .waiting, journal⟩) (hport : port ≠ 0) :
    Reachable ⟨associated id port false, .batch 63,
      .handled .openUdp (some (.ok id)) :: journal⟩ := by
  have hopened := hs.receive .openUdp 0 rfl rfl
  have hopen : (idle id port).openUdpAssociationInner 0 = _ :=
    openUdpAssociationInner_of_bind (bind_plain hport)
  rw [handleControlMessage, hopen] at hopened
  exact hopened

/-- The visit of an association that has nothing to do. -/
theorem driveUdpAssociation_plain (s : UdpSockets.plain.Socket) (handle : SocketHandle)
    (closeRequested : Bool) :
    UdpSockets.plain.driveUdpAssociation s ⟨handle, .fresh, [], closeRequested⟩
      = ⟨if closeRequested then UdpSockets.plain.close s else s,
        ⟨handle, .fresh, [], closeRequested⟩,
        !UdpSockets.plain.isOpen (if closeRequested then UdpSockets.plain.close s else s)⟩ := by
  have hsent : UdpSockets.plain.pumpPendingUdpSends s ⟨handle, .fresh, [], closeRequested⟩
      = (s, ⟨handle, .fresh, [], closeRequested⟩) := by
    simp [UdpSockets.pumpPendingUdpSends, UdpSockets.sendDatagrams]
  have hreceived : UdpSockets.plain.pumpUdpReads s ⟨handle, .fresh, [], closeRequested⟩
      = (s, ⟨handle, .fresh, [], closeRequested⟩) := by
    rw [UdpSockets.pumpUdpReads]
    exact dif_neg Bool.false_ne_true
  simp only [UdpSockets.driveUdpAssociation, hsent, hreceived]

/-- The rest of the loop, when there are no connections and the poll brings nothing. -/
theorem Reachable.lap {n n' : Netstack .plain .plain} {phase : Phase}
    (hs : Reachable ⟨n, phase, journal⟩) (hphase : phase = .waiting ∨ ∃ left, phase = .batch left)
    (hconn : n.connections = fun _ ↦ none) {order : List UInt64}
    (horder : Enumerates order n.udpAssociations)
    (hdrive : n.driveUdpAssociations order = some n') :
    Reachable ⟨n', .waiting, journal⟩ := by
  have hpolled : ∀ h, Socket.Polled (n.sockets h) (n.sockets h) := by
    intro h
    rcases n.sockets h with _ | s | s
    · exact .free
    · exact .tcp ⟨[], by simp [Traffic.receive]⟩
    · exact .udp rfl
  have hempty : Enumerates [] n.connections := ⟨List.nodup_nil, by simp [hconn]⟩
  have hnothing : n.driveConnections [] = some n := rfl
  exact (((hs.tail (.endBatch hphase)).tail (.poll 0 n.iface hpolled)).tail
    (.drive hempty hnothing)).tail (.driveUdp horder hdrive)

/-- An association is opened, closed, and gone. -/
theorem Reachable.openCloseUdp (hs : Reachable ⟨idle id port, .waiting, journal⟩)
    (hport : port ≠ 0) :
    Reachable ⟨idle (id + 1) (allocLocalPort port).2, .waiting,
      .handled (.closeUdp id) none :: .handled .openUdp (some (.ok id)) :: journal⟩ := by
  have hclosing := (hs.openUdp hport).receive (.closeUdp id) 1 rfl rfl
  have hclosed : (associated id port false).modifyUdpAssociation id
      (fun assoc ↦ { assoc with closeRequested := true }) = associated id port true := by
    simp [modifyUdpAssociation, associated]
  rw [handleControlMessage, hclosed] at hclosing
  have hassoc : (associated id port true).udpAssociations id = some ⟨0, .fresh, [], true⟩ := by
    simp [associated]
  have hheld : (associated id port true).HoldsUdp id _ _ := ⟨hassoc, rfl⟩
  have hdead := congrArg Visit.dead
    (driveUdpAssociation_plain (⟨true, some port⟩ : PlainUdp) 0 true)
  have hdrive : (associated id port true).driveUdpAssociations [id]
      = some (idle (id + 1) (allocLocalPort port).2) := by
    rw [driveUdpAssociations_of_dead hheld hdead]
    simp [associated, idle]
  exact hclosing.lap (.inr ⟨_, rfl⟩) rfl (enumerates_single id _) hdrive

/-- Any number of associations can have been opened and closed. -/
theorem exists_reachable_idle (count : ℕ) :
    ∃ journal : List (Event .plain), openCount journal = count
      ∧ Reachable ⟨idle (UInt64.ofNat (count + 1)) (localPort count), .waiting, journal⟩ := by
  induction count with
  | zero => exact ⟨[], rfl, (), .refl⟩
  | succ count ih =>
    obtain ⟨journal, hcount, hs⟩ := ih
    have hnext := hs.openCloseUdp (localPort_ne_zero count)
    rw [allocLocalPort_localPort, ← UInt64.ofNat_one, ← UInt64.ofNat_add] at hnext
    refine ⟨_, ?_, hnext⟩
    rw [openCount_cons, openCount_cons, hcount]
    rfl

end Idle

/-- The last of `2 ^ 64 - 1` flows takes the counter back to zero. -/
theorem nextConnId_wraps_around :
    ∃ s : LoopState .plain .plain, Reachable s ∧ openCount s.journal < 2 ^ 64
      ∧ ∃ id, s.net.udpAssociations id ≠ none ∧ ¬ id < s.net.nextConnId := by
  obtain ⟨journal, hcount, hs⟩ := exists_reachable_idle (2 ^ 64 - 2)
  refine ⟨_, hs.openUdp (localPort_ne_zero _), ?_, UInt64.ofNat (2 ^ 64 - 2 + 1), ?_, ?_⟩
  · rw [openCount_cons, hcount]
    decide
  · dsimp only [Netstack.associated]
    rw [Function.update_self]
    simp
  · have hlast : ¬ UInt64.ofNat (2 ^ 64 - 2 + 1) < UInt64.ofNat (2 ^ 64 - 2 + 1) + 1 := by decide
    exact hlast

/-- With one flow open, the tables and the sockets agree. -/
theorem consistent_of_registered_lt_one :
    ∃ s : LoopState .plain .plain, Reachable s ∧ s.net.connections 1 ≠ none ∧ s.net.Consistent :=
  ⟨justOpened, reachable_justOpened, by simp [justOpened],
    (consistent_of_registered_lt reachable_justOpened (by decide)).1⟩

end ShiepPipeline
