import Nowde.Proof.NewestFrame
import Nowde.Proof.Commands
import Nowde.Lib.LossCount

/-!
# The delivery counter

A master mints one `seq` for the frames of all layers; a slave counts the gaps between the frames
it accepts. Between the two, frames are lost, delayed, doubled and relayed.

* `Link.step`: master, slave and the frames on the way.
* `link_inv`: the slave's counter charges what `LossCount` charges.
* `syncGaps_le_missed`: so no more than was missed, if frames are counted in mint order and a
  charged gap skips no frame that was heard.
* `phantomLoss_charged`: without that, a run without any loss is charged one.
-/

namespace Nowde

/-! ## A master and a slave -/

/-- A master, a slave, the frames the master has minted since the run began, and which of them the
slave's radio has really heard and counted. -/
structure Link where
  master : Node
  slave : Node
  minted : List MediaSyncPacket := []
  tally : LossCount.Tally := {}

/-- What can happen: the host sends `MEDIA_SYNC` to the master, a copy of a minted frame or another
frame reaches the slave, or the slave's task loop goes round. -/
inductive LinkEvent
  | host (env : Env) (data : List UInt8) (length : ℕ)
  | copy (env : Env) (frame : ℕ) (via : Option (Mac × UInt8))
  | other (env : Env) (src : Mac) (data : List UInt8)
  | task (env : Env)

/-- The packet a `MEDIA_SYNC` frame of the host has a node mint, if it mints one. -/
def mintedBy (env : Env) (n : Node) (data : List UInt8) (length : ℕ) : List MediaSyncPacket :=
  if n.senderModeEnabled ∧ length ≥ 27 then [mintPacket env n.mediaSyncSeq data length] else []

namespace Link

variable (lib : UpdateLib) (s : Link)

/-- The origin the master's frames carry. -/
def origin : Mac := s.master.relay.myMacAddress

/-- The slave's followed state. -/
def followed : MediaSyncState := s.slave.receiver.mediaSyncState

/-- The slave takes frame `k` for its own and counts it, or only hears it. -/
def tallyCopy (env : Env) (k : ℕ) (p : MediaSyncPacket) : LossCount.Tally :=
  if Accepts env s.slave.receiver s.origin p.toFrame then s.tally.count (2 ^ 16) mediasyncMaxGap.toNat k
  else s.tally.hear k

/-- One event. A copy of a frame that was not minted yet is none. -/
def step : LinkEvent → Link × List Out
  | .host env data length =>
    let r := mediaSync env s.master data length
    ({ s with master := r.1, minted := s.minted ++ mintedBy env s.master data length }, r.2)
  | .copy env k via =>
    match s.minted[k]? with
    | none => (s, [])
    | some p =>
      let r := onDataRecv lib env s.slave (wire s.origin p via).1 (wire s.origin p via).2
      ({ s with slave := r.1, tally := s.tallyCopy env k p }, r.2)
  | .other env src data =>
    let r := onDataRecv lib env s.slave src data
    ({ s with slave := r.1 }, r.2)
  | .task env =>
    let r := espnowTask env s.slave
    ({ s with slave := r.1 }, r.2)

/-- The frames minted since the first one counted of which no copy was heard. -/
def missed : Finset ℕ := s.tally.missed s.minted.length

end Link

/-! ## Gaps and losses -/

/-- The slave stays what it is: no other frame is accepted or runs a command, and it does not reboot. -/
def Undisturbed (s : Link) : LinkEvent → Prop
  | .other env src data => ¬isSysexFrame data ∧ acceptedFrame s.slave env src data = none
  | .task env => reboots (espnowTask env s.slave).2 = false
  | _ => True

/-- Frames are counted in mint order, no charged gap skips a frame that was heard, and no frame is
heard that a charged gap has skipped. -/
def InMintOrder (s : Link) : LinkEvent → Prop
  | .copy env k _ =>
    ∀ p ∈ s.minted[k]?,
      if Accepts env s.slave.receiver s.origin p.toFrame then s.tally.Orderly (2 ^ 16) mediasyncMaxGap.toNat k
      else k ∉ s.tally.skipped
  | _ => True

instance (s : Link) : ∀ e, Decidable (Undisturbed s e)
  | .host .. | .copy .. => isTrue trivial
  | .other .. => inferInstanceAs (Decidable (_ ∧ _))
  | .task _ => inferInstanceAs (Decidable (_ = _))

instance (s : Link) : ∀ e, Decidable (InMintOrder s e)
  | .host .. | .other .. | .task _ => isTrue trivial
  | .copy .. => inferInstanceAs (Decidable (∀ p ∈ _, _))

/-- The slave follows some master, and has not begun to count this one. -/
structure Link.Fresh (s : Link) : Prop where
  follows : s.slave.follows
  lock : s.slave.receiver.originLock.valid = true → s.slave.receiver.originLock.mac = s.origin →
    s.followed.haveSeq = false
  minted : s.minted = []
  tally : s.tally = {}

/-! ## The invariant -/

/-- The slave's counter is the tally's, the numbers on the air are those of the stream from `base` on. -/
structure LinkInv (base : UInt16) (gaps : ℕ) (s : Link) : Prop where
  follows : s.slave.follows
  held : s.tally.last.isSome = true →
    s.slave.receiver.originLock.valid = true ∧ s.slave.receiver.originLock.mac = s.origin
  haveSeq : s.slave.receiver.originLock.valid = true → s.slave.receiver.originLock.mac = s.origin →
    s.followed.haveSeq = s.tally.last.isSome
  lastSeq : ∀ l ∈ s.tally.last, l < s.minted.length ∧ s.followed.lastSeq = base + UInt16.ofNat l
  seq : ∀ k, ∀ p ∈ s.minted[k]?, p.seq = base + UInt16.ofNat k
  counter : s.master.mediaSyncSeq + 1 = base + UInt16.ofNat s.minted.length
  sound : s.tally.Sound
  charged : gaps ≤ s.followed.syncGaps.toNat ∧ s.followed.syncGaps.toNat ≤ gaps + s.tally.charged

theorem Link.Fresh.inv {s : Link} (h : s.Fresh) :
    LinkInv (s.master.mediaSyncSeq + 1) s.followed.syncGaps.toNat s where
  follows := h.follows
  held hl := by
    rw [h.tally] at hl
    cases hl
  haveSeq hv hm := by
    rw [h.lock hv hm, h.tally]
    rfl
  lastSeq l hl := by
    rw [h.tally] at hl
    cases hl
  seq k p hp := by
    rw [h.minted] at hp
    cases hp
  counter := by
    rw [h.minted]
    simp
  sound := by
    rw [h.tally]
    exact LossCount.sound_empty
  charged := ⟨le_refl _, Nat.le_add_right _ _⟩

section Counter

variable {ms : MediaSyncState} {p : MediaSyncPacket}

/-- The gap between two numbers of the stream. -/
theorem gap_toNat (base : UInt16) (l k : ℕ) :
    (base + UInt16.ofNat k - (base + UInt16.ofNat l) - 1).toNat = WrapClock.wrapDiff (2 ^ 16) k (l + 1) := by
  have hgap : base + UInt16.ofNat k - (base + UInt16.ofNat l) - 1 = UInt16.ofNat k - UInt16.ofNat (l + 1) := by
    rw [show UInt16.ofNat (l + 1) = UInt16.ofNat l + 1 from by simp]
    grind
  rw [hgap, UInt16.toNat_sub, UInt16.toNat_ofNat', UInt16.toNat_ofNat']
  rfl

/-- The first frame of a stream is not charged. -/
theorem countGap_first (h : ms.haveSeq = false) :
    countGap mediaSyncSize p ms = { ms with lastSeq := p.seq, haveSeq := true } := by
  unfold countGap
  simp [h]

/-- `total`, capped. -/
theorem saturated_toNat (a b : UInt16) :
    (if a.toUInt32 + b.toUInt32 > 0xFFFF then 0xFFFF else (a.toUInt32 + b.toUInt32).toUInt16 : UInt16).toNat =
      min 0xFFFF (a.toNat + b.toNat) := by
  have ha := a.toNat_lt
  have hb := b.toNat_lt
  have htotal : (a.toUInt32 + b.toUInt32).toNat = a.toNat + b.toNat := by
    rw [UInt32.toNat_add, UInt16.toNat_toUInt32, UInt16.toNat_toUInt32, Nat.mod_eq_of_lt (by omega)]
  have hcap : (0xFFFF : UInt32).toNat = 0xFFFF := by decide
  by_cases hover : a.toUInt32 + b.toUInt32 > 0xFFFF
  · rw [if_pos hover]
    rw [gt_iff_lt, UInt32.lt_iff_toNat_lt, htotal, hcap] at hover
    show 0xFFFF = _
    omega
  · rw [if_neg hover, UInt32.toNat_toUInt16, htotal]
    rw [gt_iff_lt, UInt32.lt_iff_toNat_lt, htotal, hcap] at hover
    omega

/-- A later one is charged its gap, up to saturation. -/
theorem countGap_next {base : UInt16} {l k : ℕ} (h : ms.haveSeq = true)
    (hl : ms.lastSeq = base + UInt16.ofNat l) (hk : p.seq = base + UInt16.ofNat k) :
    ms.syncGaps.toNat ≤ (countGap mediaSyncSize p ms).syncGaps.toNat ∧
      (countGap mediaSyncSize p ms).syncGaps.toNat ≤
        ms.syncGaps.toNat + LossCount.charge (2 ^ 16) mediasyncMaxGap.toNat l k := by
  have hgap : (p.seq - ms.lastSeq - 1).toNat = WrapClock.wrapDiff (2 ^ 16) k (l + 1) := by
    rw [hl, hk]
    exact gap_toNat base l k
  have hmax := ms.syncGaps.toNat_lt
  unfold countGap LossCount.charge
  rw [if_neg (by omega), ← hgap]
  dsimp only
  have hpos : (p.seq - ms.lastSeq - 1 > 0) ↔ 0 < (p.seq - ms.lastSeq - 1).toNat := UInt16.lt_iff_toNat_lt
  have hle : (p.seq - ms.lastSeq - 1 ≤ mediasyncMaxGap) ↔
      (p.seq - ms.lastSeq - 1).toNat ≤ mediasyncMaxGap.toNat := UInt16.le_iff_toNat_le
  by_cases hc : 0 < (p.seq - ms.lastSeq - 1).toNat ∧ (p.seq - ms.lastSeq - 1).toNat ≤ mediasyncMaxGap.toNat
  · rw [if_pos ⟨h, hpos.2 hc.1, hle.2 hc.2⟩, if_pos hc, saturated_toNat]
    omega
  · have hnot : ¬(ms.haveSeq = true ∧ p.seq - ms.lastSeq - 1 > 0 ∧ p.seq - ms.lastSeq - 1 ≤ mediasyncMaxGap) :=
      fun hall => hc ⟨hpos.1 hall.2.1, hle.1 hall.2.2⟩
    rw [if_neg hnot, if_neg hc]
    omega

theorem countGap_anchor (p : MediaSyncPacket) (ms : MediaSyncState) :
    (countGap mediaSyncSize p ms).lastSeq = p.seq ∧
    (countGap mediaSyncSize p ms).haveSeq = true := by
  unfold countGap
  rw [if_neg (by omega)]
  exact ⟨rfl, rfl⟩

end Counter

/-! ## One event -/

section Step

variable {lib : UpdateLib} {base : UInt16} {gaps : ℕ} {s : Link}

/-- What matters of a receiver to the counter. -/
structure SameCounter (r r' : Receiver) : Prop where
  lock : r'.originLock = r.originLock
  syncGaps : r'.mediaSyncState.syncGaps = r.mediaSyncState.syncGaps
  lastSeq : r'.mediaSyncState.lastSeq = r.mediaSyncState.lastSeq
  haveSeq : r'.mediaSyncState.haveSeq = r.mediaSyncState.haveSeq

/-- A slave whose counter did not move, and a tally that only heard something. -/
theorem LinkInv.same (h : LinkInv base gaps s) {n : Node} (hfol : n.follows)
    (hsame : SameCounter s.slave.receiver n.receiver) {t : LossCount.Tally} (hlast : t.last = s.tally.last)
    (hcharged : t.charged = s.tally.charged) (hsound : t.Sound) :
    LinkInv base gaps { s with slave := n, tally := t } where
  follows := hfol
  held hl := by
    dsimp only at hl ⊢
    rw [hsame.lock]
    rw [hlast] at hl
    exact h.held hl
  haveSeq hv hm := by
    dsimp only at hv hm ⊢
    rw [hsame.lock] at hv hm
    rw [hlast]
    exact hsame.haveSeq.trans (h.haveSeq hv hm)
  lastSeq l hl := by
    dsimp only at hl
    rw [hlast] at hl
    obtain ⟨hlen, hseq⟩ := h.lastSeq l hl
    exact ⟨hlen, hsame.lastSeq.trans hseq⟩
  seq := h.seq
  counter := h.counter
  sound := hsound
  charged := by
    have hs : ({ s with slave := n, tally := t } : Link).followed.syncGaps = s.followed.syncGaps := hsame.syncGaps
    rw [hs]
    dsimp only
    rw [hcharged]
    exact h.charged

/-- `MEDIA_SYNC` mints one packet at most, with the next number. -/
theorem mediaSync_mints (env : Env) (n : Node) (data : List UInt8) (length : ℕ) :
    (mediaSync env n data length).1.relay = n.relay ∧
      (mediaSync env n data length).1.mediaSyncSeq =
        n.mediaSyncSeq + UInt16.ofNat (mintedBy env n data length).length ∧
      (mintedBy env n data length).length ≤ 1 ∧
      ∀ p ∈ mintedBy env n data length, p.seq = n.mediaSyncSeq + 1 := by
  unfold mediaSync mintedBy
  by_cases hmint : n.senderModeEnabled = true ∧ length ≥ 27
  · simp only [if_pos hmint]
    refine ⟨by split <;> rfl, by split <;> rfl, by simp, ?_⟩
    intro p hp
    rw [List.mem_singleton.1 hp]
    rfl
  · simp only [if_neg hmint]
    exact ⟨trivial, by simp, by simp, by simp⟩

/-- The master mints the next number of the stream. -/
theorem host_inv (h : LinkInv base gaps s) (env : Env) (data : List UInt8) (length : ℕ) :
    LinkInv base gaps (s.step lib (.host env data length)).1 := by
  obtain ⟨hrelay, hcounter, hone, hnext⟩ := mediaSync_mints env s.master data length
  have horigin : (s.step lib (.host env data length)).1.origin = s.origin := by
    simp only [Link.origin, Link.step, hrelay]
  refine
    { h with
      held := fun hl => horigin.symm ▸ h.held hl
      haveSeq := fun hv hm => h.haveSeq hv (horigin ▸ hm)
      lastSeq := ?_
      seq := ?_
      counter := ?_ }
  · intro l hl
    obtain ⟨hlen, hseq⟩ := h.lastSeq l hl
    simp only [Link.step, List.length_append]
    exact ⟨by omega, hseq⟩
  · intro k p hp
    simp only [Link.step] at hp
    rcases Nat.lt_or_ge k s.minted.length with hk | hk
    · rw [List.getElem?_append_left hk] at hp
      exact h.seq k p hp
    · -- the packet just minted
      rw [List.getElem?_append_right hk] at hp
      have hlt := (List.getElem?_eq_some_iff.1 hp).1
      have hkeq : k = s.minted.length := by omega
      rw [hnext p (List.mem_of_getElem? hp), h.counter, hkeq]
  · simp only [Link.step, List.length_append, hcounter, UInt16.ofNat_add]
    have hold := h.counter
    grind

/-- Following a packet leaves the counter alone. -/
theorem followPacket_counter (env : Env) (hasVolume : Bool) (p : MediaSyncPacket) (ms : MediaSyncState) :
    (followPacket env hasVolume p ms).1.syncGaps = ms.syncGaps ∧
      (followPacket env hasVolume p ms).1.lastSeq = ms.lastSeq ∧
      (followPacket env hasVolume p ms).1.haveSeq = ms.haveSeq := by
  obtain ⟨i, t, v, w, u, hf⟩ := followPacket_eq env hasVolume p ms
  rw [hf]
  exact ⟨rfl, rfl, rfl⟩

/-- An accepted packet is counted after its origin has the lock. -/
theorem counter_of_accepts {env : Env} {r : Receiver} {origin : Mac} {p : MediaSyncPacket}
    (h : Accepts env r origin p.toFrame) :
    let r' := (processMediaSyncPacket env r origin p.toFrame).1
    let ms := countGap mediaSyncSize p (originAccepts env.millis r origin).1.mediaSyncState
    r'.originLock.valid = true ∧ r'.originLock.mac = origin ∧ r'.mediaSyncState.syncGaps = ms.syncGaps ∧
      r'.mediaSyncState.lastSeq = ms.lastSeq ∧ r'.mediaSyncState.haveSeq = ms.haveSeq := by
  have hof := p.ofFrame_self
  obtain ⟨hv, hm, -⟩ := originAccepts_spec (originAccepts_iff.2 h.2.2)
  rw [processMediaSyncPacket_of_accepts h, hof, MediaSyncPacket.length_toFrame]
  dsimp only
  obtain ⟨hg, hl, hs⟩ := followPacket_counter env (mediaSyncSize ≥ mediaSyncVolumeLen : Bool) p
    (countGap mediaSyncSize p (originAccepts env.millis r origin).1.mediaSyncState)
  exact ⟨hv, hm, hg, hl, hs⟩

/-- Before a stream is counted for the first time, or after the lock moved, there is no anchor. -/
theorem originAccepts_haveSeq {now : UInt32} {r : Receiver} {origin : Mac}
    (h : (originAccepts now r origin).2 = true)
    (hfresh : r.originLock.valid = true → r.originLock.mac = origin → r.mediaSyncState.haveSeq = false) :
    (originAccepts now r origin).1.mediaSyncState.haveSeq = false ∧
      (originAccepts now r origin).1.mediaSyncState.syncGaps = r.mediaSyncState.syncGaps := by
  obtain ⟨-, -, -, -, -, ⟨hms, hv, hm⟩ | hms⟩ := originAccepts_spec h
  · rw [hms]
    exact ⟨hfresh hv hm, rfl⟩
  · rw [hms]
    exact ⟨rfl, rfl⟩

/-- The counter after an accepted frame. -/
theorem charged_of_accepts (h : LinkInv base gaps s) {env : Env} {k : ℕ} {p : MediaSyncPacket}
    (hacc : Accepts env s.slave.receiver s.origin p.toFrame) (hp : p.seq = base + UInt16.ofNat k) :
    let ms := countGap mediaSyncSize p (originAccepts env.millis s.slave.receiver s.origin).1.mediaSyncState
    gaps ≤ ms.syncGaps.toNat ∧
      ms.syncGaps.toNat ≤ gaps + (s.tally.count (2 ^ 16) mediasyncMaxGap.toNat k).charged := by
  obtain ⟨hge, hle⟩ := h.charged
  unfold LossCount.Tally.count
  cases hlast : s.tally.last with
  | none =>
    -- the first packet of the stream sets the anchor
    obtain ⟨hhave, hgaps⟩ := originAccepts_haveSeq (originAccepts_iff.2 hacc.2.2)
      (fun hv hm => (h.haveSeq hv hm).trans (by rw [hlast]; rfl))
    rw [countGap_first hhave]
    dsimp only
    rw [hgaps]
    exact ⟨hge, hle⟩
  | some l =>
    -- the lock is held, so the anchor is packet `l`
    obtain ⟨hv, hm⟩ := h.held (by rw [hlast]; rfl)
    have hhave : s.followed.haveSeq = true := (h.haveSeq hv hm).trans (by rw [hlast]; rfl)
    obtain ⟨-, hanchor⟩ := h.lastSeq l hlast
    rw [originAccepts_self hv hm]
    obtain ⟨hmono, hgap⟩ := countGap_next (p := p) hhave hanchor hp
    dsimp only [Link.followed] at hge hle hmono hgap ⊢
    exact ⟨by omega, by omega⟩

theorem step_copy_of_none {env : Env} {k : ℕ} {via : Option (Mac × UInt8)} (hp : s.minted[k]? = none) :
    s.step lib (.copy env k via) = (s, []) := by
  simp only [Link.step, hp]

theorem step_copy {env : Env} {k : ℕ} {via : Option (Mac × UInt8)} {p : MediaSyncPacket}
    (hp : s.minted[k]? = some p) : (s.step lib (.copy env k via)).1 =
      { s with
        slave := (onDataRecv lib env s.slave (wire s.origin p via).1 (wire s.origin p via).2).1
        tally := s.tallyCopy env k p } := by
  simp only [Link.step, hp]

/-- **A copy** is counted as the tally counts it. -/
theorem copy_inv (h : LinkInv base gaps s) {env : Env} {k : ℕ} {via : Option (Mac × UInt8)}
    (hg : InMintOrder s (.copy env k via)) : LinkInv base gaps (s.step lib (.copy env k via)).1 := by
  cases hp : s.minted[k]? with
  | none =>
    rw [step_copy_of_none hp]
    exact h
  | some p =>
    have hfol := onDataRecv_wire_follows lib env s.slave s.origin p via h.follows
    have hrec := onDataRecv_wire_receiver lib env s.slave s.origin p via h.follows
    have hguard := hg p hp
    rw [step_copy hp, Link.tallyCopy]
    set n := (onDataRecv lib env s.slave (wire s.origin p via).1 (wire s.origin p via).2).1
    by_cases hacc : Accepts env s.slave.receiver s.origin p.toFrame
    · rw [if_pos hacc] at hguard ⊢
      obtain ⟨hv, hm, hgaps, hlast, hhave⟩ := counter_of_accepts hacc
      obtain ⟨hanchor, hset⟩ :=
        countGap_anchor p (originAccepts env.millis s.slave.receiver s.origin).1.mediaSyncState
      have hcount : (s.tally.count (2 ^ 16) mediasyncMaxGap.toNat k).last = some k := by
        unfold LossCount.Tally.count
        split <;> rfl
      exact
        { follows := hfol
          held := fun _ => hrec ▸ ⟨hv, hm⟩
          haveSeq := fun _ _ => by
            show n.receiver.mediaSyncState.haveSeq = _
            rw [hrec, hhave, hset, hcount]
            rfl
          lastSeq := by
            intro l hl
            rw [hcount] at hl
            cases hl
            refine ⟨(List.getElem?_eq_some_iff.1 hp).1, ?_⟩
            show n.receiver.mediaSyncState.lastSeq = _
            rw [hrec, hlast, hanchor, h.seq k p hp]
          seq := h.seq
          counter := h.counter
          sound := h.sound.count (by decide) (by decide) hguard
          charged := by
            show gaps ≤ n.receiver.mediaSyncState.syncGaps.toNat ∧ n.receiver.mediaSyncState.syncGaps.toNat ≤ _
            rw [hrec, hgaps]
            exact charged_of_accepts h hacc (h.seq k p hp) }
    · -- a frame of a layer that is not followed is only heard
      rw [if_neg hacc] at hguard ⊢
      rw [processMediaSyncPacket_of_not_accepts hacc] at hrec
      refine h.same hfol ⟨?_, ?_, ?_, ?_⟩ rfl rfl (h.sound.hear hguard)
      · rw [hrec]
      · rw [hrec]
      · rw [hrec]
      · rw [hrec]

/-- A frame that is no copy leaves the counter alone. -/
theorem other_inv (h : LinkInv base gaps s) {env : Env} {src : Mac} {data : List UInt8}
    (hu : Undisturbed s (.other env src data)) : LinkInv base gaps (s.step lib (.other env src data)).1 := by
  obtain ⟨hsysex, hnone⟩ := hu
  have hkept : (onDataRecv lib env s.slave src data).1.receiver = s.slave.receiver ∧
      (onDataRecv lib env s.slave src data).1.follows := by
    rcases onDataRecv_cases lib env s.slave src data with
      ⟨-, -, -, hrecv⟩ | ⟨-, -, -, hrecv⟩ | ⟨-, -, -, hs, -⟩ | ⟨-, -, relay, hrecv⟩
    · rw [hrecv]
      exact ⟨rfl, h.follows⟩
    · rw [hrecv]
      exact ⟨rfl, h.follows⟩
    · exact absurd hs hsysex
    · -- a media frame of another master or layer
      rw [hrecv, mediaEffect_of_not_accepted hnone]
      exact ⟨rfl, h.follows⟩
  obtain ⟨hrec, hfol⟩ := hkept
  refine h.same hfol ⟨?_, ?_, ?_, ?_⟩ rfl rfl h.sound
  · rw [hrec]
  · rw [hrec]
  · rw [hrec]
  · rw [hrec]

theorem receiverTick_counter (now : UInt32) (r : Receiver) : SameCounter r (receiverTick now r).1 := by
  have hlink : ∀ ms, (checkLinkLost now ms).1.syncGaps = ms.syncGaps ∧
      (checkLinkLost now ms).1.lastSeq = ms.lastSeq ∧ (checkLinkLost now ms).1.haveSeq = ms.haveSeq := by
    intro ms
    unfold checkLinkLost
    split_ifs <;> exact ⟨rfl, rfl, rfl⟩
  have hmtc : ∀ ms, (generateMtc now ms).1.syncGaps = ms.syncGaps ∧
      (generateMtc now ms).1.lastSeq = ms.lastSeq ∧ (generateMtc now ms).1.haveSeq = ms.haveSeq := by
    intro ms
    unfold generateMtc
    split_ifs <;> exact ⟨rfl, rfl, rfl⟩
  obtain ⟨hg, hl, hh⟩ := hlink r.mediaSyncState
  obtain ⟨hg', hl', hh'⟩ := hmtc (checkLinkLost now r.mediaSyncState).1
  exact ⟨rfl, hg'.trans hg, hl'.trans hl, hh'.trans hh⟩

/-- The task loop leaves the counter alone. -/
theorem loop_inv (h : LinkInv base gaps s) (env : Env) : LinkInv base gaps (s.step lib (.task env)).1 := by
  have hgate := espnowTask_gate env s.slave
  simp only [Node.gate, Prod.mk.injEq] at hgate
  obtain ⟨hreceiver, hsender, -, -⟩ := hgate
  have hfol : (espnowTask env s.slave).1.follows := ⟨hreceiver.trans h.follows.1, hsender.trans h.follows.2⟩
  have hrec := (espnowTask_spec env s.slave).1
  rw [if_pos h.follows.1] at hrec
  exact h.same hfol (hrec ▸ receiverTick_counter env.millis s.slave.receiver) rfl rfl h.sound

/-- **The counter charges what the tally charges**, along every run. -/
theorem link_inv (h : LinkInv base gaps s) {e : LinkEvent} (hu : Undisturbed s e) (hg : InMintOrder s e) :
    LinkInv base gaps (s.step lib e).1 := by
  cases e with
  | host env data length => exact host_inv h env data length
  | copy env k via => exact copy_inv h hg
  | other env src data => exact other_inv h hu
  | task env => exact loop_inv h env

end Step

/-! ## Runs -/

/-- **No loss is charged that did not happen**, while frames are counted in mint order and no
charged gap skips a frame that is heard: the slave's counter never goes back, and in all adds no
more than the frames of which no copy was heard. -/
theorem syncGaps_le_missed (lib : UpdateLib) {s : Link} (h : s.Fresh) {es : List LinkEvent}
    (hu : Mealy.Guarded (Link.step lib) Undisturbed s es)
    (hg : Mealy.Guarded (Link.step lib) InMintOrder s es) :
    let t := (Mealy.run (Link.step lib) s es).1
    s.followed.syncGaps.toNat ≤ t.followed.syncGaps.toNat ∧
      t.followed.syncGaps.toNat ≤ s.followed.syncGaps.toNat + t.missed.card := by
  have hinv := Mealy.inv_run (LinkInv (s.master.mediaSyncSeq + 1) s.followed.syncGaps.toNat)
    (fun t e ht he => link_inv ht he.1 he.2) h.inv (Mealy.guarded_and.2 ⟨hu, hg⟩)
  obtain ⟨hge, hle⟩ := hinv.charged
  have hmissed := hinv.sound.charged_le_missed (fun l hl => (hinv.lastSeq l hl).1)
  exact ⟨hge, le_trans hle (Nat.add_le_add_left hmissed _)⟩

/-! ## A master with two layers -/

/-- `masterA`, and a slave that follows layer `a` and no master yet. -/
def onePair : Link where
  master :=
    { senderModeEnabled := true
      receiver := lockedSlave.receiver
      relay := { myMacAddress := masterA } }
  slave :=
    { receiverModeEnabled := true
      receiver :=
        { subscribedLayer := CharBuf.strncpy 16 [0x61]
          mediaSyncState := { stopOnLinkLost := true }
          originLock := {} }
      relay := { myMacAddress := slaveMac } }

theorem onePair_fresh : onePair.Fresh where
  follows := ⟨rfl, rfl⟩
  lock _ _ := rfl
  minted := rfl
  tally := rfl

/-- The host has the master play clip 1 on a layer of one letter. -/
def hostPlays (layer : UInt8) : LinkEvent :=
  .host { millis := 0 } ([0xF0, 0x7D, 0x10, layer] ++ List.replicate 15 0 ++ [1, 0, 0, 0, 0, 0, 1, 0xF7]) 27

/-- A copy of frame `k` straight from the master. -/
def hears (k : ℕ) : LinkEvent := .copy { millis := 0 } k none

/-- Three frames on the slave's layer, of which the second is lost. -/
def lostFrame : List LinkEvent := [hostPlays 0x61, hostPlays 0x61, hostPlays 0x61, hears 0, hears 2]

/-- A frame on layer `b` between two on the slave's own; all are heard. -/
def otherLayerBetween : List LinkEvent :=
  [hostPlays 0x61, hears 0, hostPlays 0x62, hears 1, hostPlays 0x61, hears 2]

/-- Three frames, all heard, the first once more through a relaying node. -/
def lateCopyBetween : List LinkEvent :=
  [hostPlays 0x61, hears 0, hostPlays 0x61, hears 1, .copy { millis := 0 } 0 (some (relayerMac, 1)),
    hostPlays 0x61, hears 2]

theorem lostFrame_counted :
    let t := (Mealy.run (Link.step noUpdate) onePair lostFrame).1
    onePair.followed.syncGaps.toNat ≤ t.followed.syncGaps.toNat ∧
      t.followed.syncGaps.toNat ≤ onePair.followed.syncGaps.toNat + t.missed.card :=
  syncGaps_le_missed noUpdate onePair_fresh (by decide +kernel) (by decide +kernel)

/-- **A loss is charged that did not happen**: two runs in which every frame is heard. -/
theorem phantomLoss_charged :
    onePair.Fresh ∧
      (∀ es, es = otherLayerBetween ∨ es = lateCopyBetween →
        Mealy.Guarded (Link.step noUpdate) Undisturbed onePair es ∧
          (Mealy.run (Link.step noUpdate) onePair es).1.missed = ∅ ∧
          onePair.followed.syncGaps = 0 ∧
          (Mealy.run (Link.step noUpdate) onePair es).1.followed.syncGaps = 1) := by
  refine ⟨onePair_fresh, ?_⟩
  rintro es (rfl | rfl)
  · decide +kernel
  · decide +kernel

end Nowde
