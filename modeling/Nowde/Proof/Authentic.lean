import Nowde.Proof.Mesh
import Nowde.Spec.Tools

/-!
# Relayed frames are authentic

A `0x05` frame wraps the bytes a master minted, under the master's MAC and the packet's number, and
its hop count is the number of transmissions that led to it. The trail the mesh records of a frame
is that chain.

* `Carries`: a transmission carries a packet along a trail.
* `relayed_authentic`: from a mesh with no relay frame pending or on the air, every `0x05` frame
  ever transmitted is authentic.
-/

namespace Nowde

/-! ## Frames of a packet -/

/-- The `0x05` frame of a packet after so many hops. -/
def relayFrame (origin : Mac) (p : MediaSyncPacket) (hop : ℕ) : List UInt8 :=
  MeshRelayHeader.toFrame ⟨origin, p.seq, UInt8.ofNat hop⟩ ++ p.toFrame

/-- A pending slot holds a packet of a master. -/
structure PendingRelay.Wraps (q : PendingRelay) (master : Mac) (p : MediaSyncPacket) : Prop where
  origin : q.origin = master
  payload : q.payload.bytes = p.toFrame
  payloadLen : q.payloadLen = UInt8.ofNat mediaSyncSize

/-- A pending slot holds the forward of a packet after so many hops. -/
structure PendingRelay.Forwards (q : PendingRelay) (master : Mac) (p : MediaSyncPacket) (hops : ℕ) : Prop
    extends q.Wraps master p where
  seq : q.seq = p.seq
  hop : q.hop = UInt8.ofNat hops

/-- A copy is one of a packet after so many hops. -/
structure FloodCandidate.Copies (c : FloodCandidate) (master : Mac) (p : MediaSyncPacket) (hops : ℕ) : Prop where
  origin : c.origin = master
  seq : c.seq = p.seq
  hop : c.hop = UInt8.ofNat hops
  inner : c.inner = p.toFrame
  isRelay : c.isRelay = true ↔ hops ≠ 0

section Frames

variable {origin : Mac} {p : MediaSyncPacket} {hop : ℕ}

theorem PendingRelay.Wraps.frame {q : PendingRelay} (h : q.Wraps origin p) :
    q.frame = MeshRelayHeader.toFrame ⟨origin, q.seq, q.hop⟩ ++ p.toFrame := by
  have hlen : p.toFrame.take (UInt8.ofNat mediaSyncSize).toNat = p.toFrame := by
    apply List.take_of_length_le
    rw [MediaSyncPacket.length_toFrame]
    decide
  unfold PendingRelay.frame
  rw [h.origin, h.payload, h.payloadLen, hlen]

theorem PendingRelay.Forwards.frame {q : PendingRelay} (h : q.Forwards origin p hop) :
    q.frame = relayFrame origin p hop := by
  rw [h.toWraps.frame, h.seq, h.hop]
  rfl

/-- **The copy is kept byte by byte**, whatever the slot held before. -/
theorem FloodCandidate.forward_wraps {c : FloodCandidate} (horigin : c.origin = origin) (hinner : c.inner = p.toFrame)
    (env : Env) (old : PendingRelay) : (c.forward env old).Wraps origin p := by
  have hlen : p.toFrame.length = mediaSyncSize := p.length_toFrame
  have htake : c.inner.take mediaSyncSize = p.toFrame := by
    rw [hinner, ← hlen, List.take_length]
  constructor
  · exact horigin
  · change (old.payload.blit (c.inner.take mediaSyncSize)).bytes = _
    have hold : old.payload.bytes.length = 31 := old.payload.size
    rw [htake]
    unfold CharBuf.blit
    dsimp only
    rw [hlen, List.drop_eq_nil_of_le (by rw [hold]; decide), List.append_nil]
    apply List.take_of_length_le
    rw [hlen]
    decide
  · change UInt8.ofNat (c.inner.take mediaSyncSize).length = _
    rw [htake, hlen]

theorem FloodCandidate.Copies.forward {c : FloodCandidate} (h : c.Copies origin p hop) (env : Env)
    (old : PendingRelay) : (c.forward env old).Forwards origin p (hop + 1) where
  toWraps := FloodCandidate.forward_wraps h.origin h.inner env old
  seq := h.seq
  hop := by
    change c.hop + 1 = _
    rw [h.hop, UInt8.ofNat_add]
    rfl

theorem floodCandidate_toFrame (src : Mac) (p : MediaSyncPacket) :
    floodCandidate src p.toFrame = some ⟨src, p.seq, 0, p.toFrame, false⟩ := by
  have hlen : p.toFrame.length = 31 := p.length_toFrame
  have hclock : ¬isMeshClockPacket p.toFrame = true := by
    simp [isMeshClockPacket, hlen]
  rw [floodCandidate_mediaSync hclock (by omega) rfl, if_pos (by rw [hlen]; decide), p.ofFrame_self]

/-- A packet in a relay header is a copy of it under the number and the origin of the header. -/
theorem floodCandidate_wrapped (src : Mac) (header : MeshRelayHeader) (p : MediaSyncPacket) :
    floodCandidate src (header.toFrame ++ p.toFrame) =
      some ⟨header.origin, header.seq, header.hop, p.toFrame, true⟩ := by
  have hlen : (header.toFrame ++ p.toFrame).length = 41 := by
    rw [List.length_append, MeshRelayHeader.length_toFrame, MediaSyncPacket.length_toFrame]
    rfl
  have hclock : ¬isMeshClockPacket (header.toFrame ++ p.toFrame) = true := by
    simp [isMeshClockPacket, hlen]
  rw [floodCandidate_meshRelay hclock (by omega) rfl, if_neg (by rw [hlen]; decide)]
  rw [MeshRelayHeader.ofFrame_toFrame]
  congr 2

theorem floodCandidate_relayFrame (src origin : Mac) (p : MediaSyncPacket) (hop : ℕ) :
    floodCandidate src (relayFrame origin p hop) = some ⟨origin, p.seq, UInt8.ofNat hop, p.toFrame, true⟩ :=
  floodCandidate_wrapped src ⟨origin, p.seq, UInt8.ofNat hop⟩ p

/-- A copy is in a `0x03` or a `0x05` frame. -/
theorem isMedia_or_isRelay_of_floodCandidate {src : Mac} {data : List UInt8} {c : FloodCandidate}
    (h : floodCandidate src data = some c) :
    byteAt data 0 = espnowMsgMediaSync ∨ byteAt data 0 = espnowMsgMeshRelay := by
  by_contra hother
  rw [not_or] at hother
  rw [floodCandidate_none (Or.inr (Or.inr hother))] at h
  cases h

end Frames

/-! ## The chain behind a transmission -/

namespace Mesh

variable {ι : Type*}

/-- Transmission `k` carries packet `p` of master `a` along a trail. With no trail it is the `0x03` frame
of the master itself. With one, its sender is another node, which heard an earlier transmission that
carries the packet along the rest of the trail and forwarded it one hop further. -/
def Carries (s : Mesh ι) (a : ι) (p : MediaSyncPacket) : ℕ → List ℕ → Prop
  | k, [] => ∃ tx, s.air[k]? = some tx ∧ tx.sender = a ∧ tx.trail = [] ∧ tx.frame = p.toFrame
  | k, j :: trail =>
    (∃ tx, s.air[k]? = some tx ∧ s.mac tx.sender ≠ s.mac a ∧ tx.trail = j :: trail ∧
      tx.frame = relayFrame (s.mac a) p (trail.length + 1) ∧ j < k ∧ (j, tx.sender) ∈ s.heard) ∧
    s.Carries a p j trail

/-- A pending slot of `b` holds the forward of packet `p` of master `a`, along the trail of the slot. -/
structure Holds (s : Mesh ι) (b : ι) (i : Fin maxPendingRelays) (a : ι) (p : MediaSyncPacket) (j : ℕ)
    (rest : List ℕ) : Prop where
  trail : s.trail b i = j :: rest
  minted : (a, p) ∈ s.minted
  carries : s.Carries a p j rest
  heard : (j, b) ∈ s.heard
  hops : rest.length + 1 ≤ maxHops.toNat
  other : s.mac b ≠ s.mac a
  forwards : (s.pending b i).Forwards (s.mac a) p (rest.length + 1)

/-- Every forward, pending or transmitted, is of a packet minted by the master it names. -/
structure Authentic (s : Mesh ι) : Prop extends s.Sources where
  pending : ∀ b i, (s.pending b i).active = true → ∃ a p j trail, s.Holds b i a p j trail
  relayed : ∀ k tx, s.air[k]? = some tx → tx.isRelay = true →
    ∃ a p, (a, p) ∈ s.minted ∧ tx.trail ≠ [] ∧ tx.trail.length ≤ maxHops.toNat ∧ s.Carries a p k tx.trail

/-- No forward is pending, and none is on the air. -/
structure Silent (s : Mesh ι) : Prop extends s.Sources where
  idle : ∀ b i, (s.pending b i).active = false
  noRelay : ∀ tx ∈ s.air, tx.isRelay = false

theorem Silent.authentic {s : Mesh ι} (h : s.Silent) : s.Authentic where
  toSources := h.toSources
  pending b i hi := by
    rw [h.idle b i] at hi
    cases hi
  relayed k tx hk hrelay := by
    rw [h.noRelay tx (List.mem_of_getElem? hk)] at hrelay
    cases hrelay

section Chain

variable {s t : Mesh ι} {a : ι} {p : MediaSyncPacket}

theorem Carries.mono (hext : s.Extends t) {k : ℕ} {trail : List ℕ} (h : s.Carries a p k trail) :
    t.Carries a p k trail := by
  induction trail generalizing k with
  | nil =>
    obtain ⟨tx, hk, hrest⟩ := h
    exact ⟨tx, hext.sent hk, hrest⟩
  | cons j trail ih =>
    -- a forward names its origin by MAC, and the MACs stay
    obtain ⟨⟨tx, hk, hother, htrail, hframe, hlt, hheard⟩, hprev⟩ := h
    refine ⟨⟨tx, hext.sent hk, ?_, htrail, ?_, hlt, hext.heard hheard⟩, ih hprev⟩
    · rw [hext.mac, hext.mac]
      exact hother
    · rw [hext.mac]
      exact hframe

/-- A transmission that carries a packet is on the air. -/
theorem Carries.lt_length {k : ℕ} {trail : List ℕ} (h : s.Carries a p k trail) : k < s.air.length := by
  cases trail with
  | nil =>
    obtain ⟨tx, hk, -⟩ := h
    exact (List.getElem?_eq_some_iff.1 hk).1
  | cons j trail =>
    obtain ⟨⟨tx, hk, -⟩, -⟩ := h
    exact (List.getElem?_eq_some_iff.1 hk).1

/-- What a forward carries, it wraps, one hop further than what its sender heard before. -/
theorem Carries.forward {k j : ℕ} {rest : List ℕ} (h : s.Carries a p k (j :: rest)) {tx : Transmission ι}
    (hk : s.air[k]? = some tx) :
    s.mac tx.sender ≠ s.mac a ∧ tx.frame = relayFrame (s.mac a) p (rest.length + 1) ∧ j < k ∧
      (j, tx.sender) ∈ s.heard := by
  obtain ⟨⟨tx', hk', hother, -, hframe, hlt, hheard⟩, -⟩ := h
  have htx : tx' = tx := by
    rw [hk] at hk'
    exact (Option.some.inj hk').symm
  rw [htx] at hother hframe hheard
  exact ⟨hother, hframe, hlt, hheard⟩

/-- **What is copied off the air** is a packet minted by the master it is taken to come from. -/
theorem Authentic.copy (h : s.Authentic) {k : ℕ} {tx : Transmission ι} (hk : s.air[k]? = some tx)
    {c : FloodCandidate} (hc : floodCandidate (s.mac tx.sender) tx.frame = some c) :
    ∃ a p, (a, p) ∈ s.minted ∧ s.Carries a p k tx.trail ∧ tx.trail.length ≤ maxHops.toNat ∧
      c.Copies (s.mac a) p tx.trail.length := by
  rcases isMedia_or_isRelay_of_floodCandidate hc with hthree | hfive
  · -- a master's own frame: the source is the master
    have hmedia : tx.isMedia = true := by simpa [Transmission.isMedia] using hthree
    have htrail := h.plain tx (List.mem_of_getElem? hk) (Transmission.isRelay_of_isMedia hmedia)
    obtain ⟨p, hp, hframe⟩ := h.media tx (List.mem_of_getElem? hk) hmedia
    rw [hframe, floodCandidate_toFrame] at hc
    cases hc
    rw [htrail]
    exact ⟨tx.sender, p, hp, ⟨tx, hk, rfl, htrail, hframe⟩, Nat.zero_le _, ⟨rfl, rfl, rfl, rfl, by simp⟩⟩
  · -- a forward: the source is in the relay header, whoever sent it
    obtain ⟨a, p, hp, hne, hlen, hcarries⟩ := h.relayed k tx hk (by simpa [Transmission.isRelay] using hfive)
    obtain ⟨j, rest, htrail⟩ := List.exists_cons_of_ne_nil hne
    rw [htrail] at hcarries hlen ⊢
    obtain ⟨-, hframe, -⟩ := hcarries.forward hk
    rw [hframe, floodCandidate_relayFrame] at hc
    cases hc
    exact ⟨a, p, hp, hcarries, hlen, ⟨rfl, rfl, rfl, rfl, by simp⟩⟩

theorem Holds.mono (hext : s.Extends t) {b : ι} {i : Fin maxPendingRelays} {j : ℕ} {trail : List ℕ}
    (h : s.Holds b i a p j trail) (hpending : t.pending b i = s.pending b i) (htrail : t.trail b i = s.trail b i) :
    t.Holds b i a p j trail where
  trail := htrail.trans h.trail
  minted := hext.minted h.minted
  carries := h.carries.mono hext
  heard := hext.heard h.heard
  hops := h.hops
  other := by
    rw [hext.mac, hext.mac]
    exact h.other
  forwards := by
    rw [hext.mac, hpending]
    exact h.forwards

end Chain

section Handle

variable [DecidableEq ι] {lib : UpdateLib} {build : Build} {s : Mesh ι} {b : ι} {te : TaskEvent} {trail : List ℕ}

/-- A radio event is the delivery of a transmission, and the trail is the way it came. -/
def Delivers (s : Mesh ι) (te : TaskEvent) (trail : List ℕ) : Prop :=
  ∀ e src data, te = .receive e src data →
    ∃ k tx, s.air[k]? = some tx ∧ src = s.mac tx.sender ∧ data = tx.frame ∧ trail = k :: tx.trail

theorem Authentic.handle_pending (h : s.Authentic) (hdelivers : s.Delivers te trail) (b' : ι) (i : Fin maxPendingRelays)
    (hi : ((s.handle lib build b te trail).1.pending b' i).active = true) :
    ∃ a p j rest, (s.handle lib build b te trail).1.Holds b' i a p j rest := by
  have hext : s.Extends (s.handle lib build b te trail).1 := h.extends_handle b te trail
  rcases handle_slot lib build s b te trail (h.delays b) hi with
    ⟨hpending, htrail⟩ | ⟨rfl, e, src, data, c, old, hte, hc, hself, hhop, hfill, htrail, -⟩
  · rw [hpending] at hi
    obtain ⟨a, p, j, rest, hholds⟩ := h.pending b' i hi
    exact ⟨a, p, j, rest, hholds.mono hext hpending htrail⟩
  · -- the slot just filled: the copy came along the trail
    obtain ⟨k, tx, hk, rfl, rfl, rfl⟩ := hdelivers e src data hte
    obtain ⟨a, p, hp, hcarries, hlen, hcopies⟩ := h.copy hk hc
    refine ⟨a, p, k, tx.trail, htrail, hext.minted hp, hcarries.mono hext, ?_, ?_, ?_, ?_⟩
    · exact List.mem_append_right _ (List.mem_singleton_self _)
    · rw [hcopies.hop] at hhop
      have hle := UInt8.le_iff_toNat_le.1 hhop
      have hadd : (UInt8.ofNat tx.trail.length + 1).toNat = tx.trail.length + 1 := by
        have hthree : maxHops.toNat = 3 := rfl
        rw [UInt8.toNat_add, UInt8.toNat_ofNat']
        have hone : (1 : UInt8).toNat = 1 := rfl
        rw [hone]
        omega
      rw [hadd] at hle
      exact hle
    · rw [hext.mac, hext.mac, ← hcopies.origin]
      exact fun hmac => hself hmac.symm
    · rw [hext.mac, hfill]
      exact hcopies.forward _ old

/-- **An event keeps forwards authentic.** -/
theorem Authentic.handle (h : s.Authentic) (hdelivers : s.Delivers te trail) :
    (s.handle lib build b te trail).1.Authentic where
  toSources := h.toSources.handle b te trail
  pending := h.handle_pending hdelivers
  relayed k tx hk hrelay := by
    have hext : s.Extends (s.handle lib build b te trail).1 := h.extends_handle b te trail
    have hair : (s.handle lib build b te trail).1.air = s.air ++ (s.handle lib build b te trail).2 := rfl
    by_cases hlt : k < s.air.length
    · rw [hair, List.getElem?_append_left hlt] at hk
      obtain ⟨a, p, hp, hne, hlen, hcarries⟩ := h.relayed k tx hk hrelay
      exact ⟨a, p, hext.minted hp, hne, hlen, hcarries.mono hext⟩
    · -- a forward just fired
      have hnew : tx ∈ (s.handle lib build b te trail).2 := by
        rw [hair, List.getElem?_append_right (by omega)] at hk
        exact List.mem_of_getElem? hk
      obtain ⟨i, hi, rfl, -⟩ := (handle_turn lib build s b te trail (h.delays b)).relay hnew hrelay
      obtain ⟨a, p, j, rest, hholds⟩ := h.pending b i hi
      have hj : j < s.air.length := hholds.carries.lt_length
      refine ⟨a, p, hext.minted hholds.minted, ?_, ?_, ?_⟩
      · change s.trail b i ≠ []
        rw [hholds.trail]
        simp
      · change (s.trail b i).length ≤ _
        rw [hholds.trail]
        exact hholds.hops
      · change (s.handle lib build b te trail).1.Carries a p k (s.trail b i)
        rw [hholds.trail]
        refine ⟨⟨_, hk, ?_, hholds.trail, ?_, by omega, hext.heard hholds.heard⟩, hholds.carries.mono hext⟩
        · rw [hext.mac, hext.mac]
          exact hholds.other
        · rw [hext.mac]
          exact hholds.forwards.frame

omit [DecidableEq ι] in
theorem event_delivers {me : MeshEvent ι} (h : s.event me = some (b, te, trail)) : s.Delivers te trail := by
  intro e src data he
  rcases event_cases h with ⟨k, env, tx, -, hk, rfl, rfl⟩ | ⟨hnone, -⟩
  · cases he
    exact ⟨k, tx, hk, rfl, rfl, rfl⟩
  · exact absurd he (hnone e src data)

/-- The step keeps forwards authentic, whatever happens. -/
theorem Authentic.step (h : s.Authentic) (me : MeshEvent ι) : (s.step lib build me).1.Authentic := by
  apply step_ind h
  intro b te trail hevent
  exact h.handle (event_delivers hevent)

/-- **Relayed frames are authentic.** Let nodes run on one channel, from a mesh with no relay frame
pending or on the air, whatever is heard by whom, when and how often. Then every `0x05` frame ever
transmitted wraps a packet its origin has minted, byte by byte, under the packet's number, with a hop
count from 1 to `MAX_HOPS`; its sender is not the origin; and the trail behind it is a chain of that many
earlier transmissions of the packet, from the origin's own `0x03` frame on. -/
theorem relayed_authentic (h : s.Silent) (events : List (MeshEvent ι)) :
    let t := (Mealy.run (step lib build) s events).1
    ∀ k tx, t.air[k]? = some tx → byteAt tx.frame 0 = espnowMsgMeshRelay →
      ∃ a p, (a, p) ∈ t.minted ∧
        (MeshRelayHeader.ofFrame tx.frame).origin = t.mac a ∧
        (MeshRelayHeader.ofFrame tx.frame).seq = p.seq ∧
        tx.frame.drop meshRelayHeaderSize = p.toFrame ∧
        1 ≤ (MeshRelayHeader.ofFrame tx.frame).hop ∧ (MeshRelayHeader.ofFrame tx.frame).hop ≤ maxHops ∧
        t.mac tx.sender ≠ (MeshRelayHeader.ofFrame tx.frame).origin ∧
        tx.trail.length = (MeshRelayHeader.ofFrame tx.frame).hop.toNat ∧ t.Carries a p k tx.trail := by
  intro t k tx hk hfive
  have hauthentic : t.Authentic :=
    Mealy.inv_run Authentic (fun s me hs _ => hs.step me) h.authentic (Mealy.guarded_of_forall (fun _ _ => trivial) s events)
  obtain ⟨a, p, hp, hne, hlen, hcarries⟩ := hauthentic.relayed k tx hk (by simpa [Transmission.isRelay] using hfive)
  obtain ⟨j, rest, htrail⟩ := List.exists_cons_of_ne_nil hne
  rw [htrail] at hcarries hlen ⊢
  obtain ⟨hother, hframe, -⟩ := hcarries.forward hk
  have hheader : MeshRelayHeader.ofFrame tx.frame = ⟨t.mac a, p.seq, UInt8.ofNat (rest.length + 1)⟩ := by
    rw [hframe]
    unfold relayFrame
    rw [MeshRelayHeader.ofFrame_toFrame]
  have hthree : maxHops.toNat = 3 := rfl
  rw [List.length_cons, hthree] at hlen
  have hhop : (UInt8.ofNat (rest.length + 1)).toNat = rest.length + 1 := by
    rw [UInt8.toNat_ofNat']
    omega
  refine ⟨a, p, hp, ?_, ?_, ?_, ?_, ?_, ?_, ?_, hcarries⟩
  · rw [hheader]
  · rw [hheader]
  · rw [hframe]
    unfold relayFrame
    rw [List.drop_left' (MeshRelayHeader.length_toFrame _)]
  · rw [hheader, UInt8.le_iff_toNat_le]
    change 1 ≤ (UInt8.ofNat (rest.length + 1)).toNat
    omega
  · rw [hheader, UInt8.le_iff_toNat_le, hthree]
    change (UInt8.ofNat (rest.length + 1)).toNat ≤ 3
    omega
  · rw [hheader]
    exact hother
  · rw [hheader]
    exact hhop.symm

end Handle

/-! ## A line of nodes -/

/-- Booted nodes, before anything is heard. -/
def booted (build : Build) (nvs : ι → Nvs) (boardId : ι → UInt8) (mac : ι → Mac) : Mesh ι where
  node b := { node := boot build (nvs b) (boardId b) (mac b) }

theorem booted_silent (build : Build) (nvs : ι → Nvs) (boardId : ι → UInt8) (mac : ι → Mac) :
    (booted build nvs boardId mac).Silent where
  delayed b i hi := by
    simp only [booted, boot_delayedPackets] at hi
    cases hi
  media tx htx := by cases htx
  plain tx htx := by cases htx
  idle b i := by
    simp only [booted, Mesh.pending, boot_relay]
  noRelay tx htx := by cases htx

/-- Booted nodes of which the first is a master. -/
def oneMaster (n : ℕ) : Mesh (Fin n) :=
  booted plainBuild (fun b => { role := some (if b.val = 0 then nowdeRoleMaster else nowdeRoleSlave) })
    (fun _ => 0) fun b => ⟨0x24, 0x6F, 0x28, 0, 0, UInt8.ofNat (b.val + 1)⟩

/-- The host of a node has it mint a packet. -/
def mint (b : ι) : List (MeshEvent ι) :=
  (Host.sysexPackets ([sysexStart, sysexManufacturerId, sysexCmdMediaSync] ++ List.replicate 16 0x61 ++
    [5, 0, 0, 0, 0, 0, 1, sysexEnd])).map fun packet => .usb b { millis := 0 } packet

/-- The task of a slave goes round after some time. -/
def roundAfter (b : ι) (ms : ℕ) : List (MeshEvent ι) :=
  .pass b ms :: List.replicate (maxSenders + 6) (.task b { millis := 0 })

/-- A packet goes down a line of three nodes. -/
def downTheLine : List (MeshEvent (Fin 3)) :=
  mint 0 ++ .deliver 0 1 { millis := 0 } :: roundAfter 1 30 ++ .deliver 1 2 { millis := 0 } :: roundAfter 2 30

/-- The same, and everything is heard. -/
def allHeard : List (MeshEvent (Fin 3)) := downTheLine ++ [.deliver 1 0 { millis := 0 }, .deliver 2 1 { millis := 0 }]

theorem downTheLine_authentic :
    let t := (Mealy.run (step noUpdate plainBuild) (oneMaster 3) downTheLine).1
    t.air.map (·.trail) = [[], [0], [1, 0]] ∧
      ∀ k tx, t.air[k]? = some tx → byteAt tx.frame 0 = espnowMsgMeshRelay →
        ∃ a p, (a, p) ∈ t.minted ∧
          (MeshRelayHeader.ofFrame tx.frame).origin = t.mac a ∧
          (MeshRelayHeader.ofFrame tx.frame).seq = p.seq ∧
          tx.frame.drop meshRelayHeaderSize = p.toFrame ∧
          1 ≤ (MeshRelayHeader.ofFrame tx.frame).hop ∧ (MeshRelayHeader.ofFrame tx.frame).hop ≤ maxHops ∧
          t.mac tx.sender ≠ (MeshRelayHeader.ofFrame tx.frame).origin ∧
          tx.trail.length = (MeshRelayHeader.ofFrame tx.frame).hop.toNat ∧ t.Carries a p k tx.trail :=
  ⟨by decide +kernel, relayed_authentic (booted_silent _ _ _ _) downTheLine⟩

end Mesh

end Nowde
