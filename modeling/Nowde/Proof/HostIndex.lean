import Nowde.Proof.Commands
import Nowde.Lib.Run

/-!
# Which index the host was last told

CC#100 leaves the node from four places: an index change, a stop edge or first contact, the
repeat while playing, and link loss. `lastSentIndex` is meant to remember the last value sent.

* `followPacket_cc100`, `followPacket_lastSentIndex`: what one packet sends and remembers.
* `hostShown_iff`: along a run from boot, the host's last index is the master's (0 when stopped)
  **exactly** when no stopped packet with an index arrives while the slave is not playing.
* `stoppedOnClip_startsClip`: such a packet as the very first one starts the clip on the host.
-/

namespace Nowde

/-! ## One packet -/

section Packet

variable (env : Env) (hasVolume : Bool) (p : MediaSyncPacket) (ms : MediaSyncState)

/-- The last CC#100 among messages for the host. -/
def hostCc100 (msgs : List HostMsg) : Option UInt8 := lastCc100 (msgs.map .host)

theorem hostCc100_append (a b : List HostMsg) : hostCc100 (a ++ b) = (hostCc100 b).or (hostCc100 a) := by
  unfold hostCc100
  rw [List.map_append, lastCc100_append]

/-- A stop edge, or the first contact with a stopped master. -/
def toStopped (p : MediaSyncPacket) (ms : MediaSyncState) : Bool :=
  (ms.currentState = 1 ∧ p.state = 0 : Bool) || (ms.lastSentIndex = 255 ∧ p.state = 0 ∧ p.mediaIndex = 0 : Bool)

theorem toStopped_state (h : toStopped p ms = true) : p.state = 0 := by
  unfold toStopped at h
  simp only [Bool.or_eq_true, decide_eq_true_eq] at h
  rcases h with h | h
  · exact h.2
  · exact h.2.1

theorem sendVolume_cc100 : hostCc100 (sendVolume env hasVolume p ms).2 = none ∧
    (sendVolume env hasVolume p ms).1.lastSentIndex = ms.lastSentIndex := by
  obtain ⟨v, w, t, h⟩ := sendVolume_eq env hasVolume p ms
  refine ⟨?_, by rw [h]⟩
  unfold sendVolume
  dsimp only
  split_ifs <;> rfl

/-- What a packet remembers as sent. -/
theorem followPacket_lastSentIndex : (followPacket env hasVolume p ms).1.lastSentIndex =
    if toStopped p ms then 0 else if p.mediaIndex ≠ 0 then p.mediaIndex else ms.lastSentIndex := by
  have hidx : (sendIndexChange env p (updateSyncState env p ms)).1.lastSentIndex =
      if p.mediaIndex ≠ 0 then p.mediaIndex else ms.lastSentIndex := by
    unfold sendIndexChange
    by_cases h0 : p.mediaIndex = 0
    · simp [h0, updateSyncState]
    · by_cases hne : ms.lastSentIndex = p.mediaIndex
      · simp [h0, updateSyncState, hne]
      · simp [h0, updateSyncState, hne]
  -- between the index change and the transition only the volume is sent
  have hvol := (sendVolume_cc100 env hasVolume p (sendIndexChange env p (updateSyncState env p ms)).1).2
  unfold followPacket
  dsimp only
  rw [← hidx, ← hvol]
  unfold sendTransition
  split
  · next hplay =>
    have hst : ¬toStopped p ms = true := by
      intro hs
      have h0 := toStopped_state p ms hs
      simp only [decide_eq_true_eq] at hplay
      rw [hplay.2] at h0
      exact absurd h0 (by decide)
    rw [if_neg hst]
  · split
    · next hs => rw [if_pos (show toStopped p ms = true from hs)]
    · next hs =>
      rw [if_neg (show ¬toStopped p ms = true from hs)]
      split <;> rfl

theorem sendIndexChange_cc100 : hostCc100 (sendIndexChange env p ms).2 =
    if ms.lastSentIndex ≠ p.mediaIndex ∧ p.mediaIndex ≠ 0 then some (p.mediaIndex &&& 0x7F) else none := by
  unfold sendIndexChange
  split <;> rfl

theorem sendTransition_cc100 (toPlaying stopping : Bool) (hs : ms.currentState = p.state)
    (hi : ms.currentIndex = p.mediaIndex) :
    let c := hostCc100 (sendTransition env p toPlaying stopping ms).2
    (stopping = true → toPlaying = false → c = some 0) ∧
      (stopping = false → c = none ∨ (p.mediaIndex ≠ 0 ∧ c = some (p.mediaIndex &&& 0x7F))) := by
  intro c
  refine ⟨?_, ?_⟩
  · intro h1 h2
    subst h1 h2
    rfl
  · intro h1
    subst h1
    cases toPlaying with
    | true => left; rfl
    | false =>
      show hostCc100 (sendTransition env p false false ms).2 = none ∨
        (_ ∧ hostCc100 (sendTransition env p false false ms).2 = _)
      unfold sendTransition
      simp only [Bool.false_eq_true, if_false, hs, hi]
      split
      · next hrep =>
        right
        refine ⟨?_, rfl⟩
        intro h0
        rw [h0] at hrep
        exact absurd hrep.2.1 (by decide)
      · left; rfl

/-- **Sent is remembered.** A packet either sends no CC#100 and leaves `lastSentIndex`, or the
last one it sends is the `lastSentIndex` it leaves: 0 or the packet's index. -/
theorem followPacket_cc100 : let f := followPacket env hasVolume p ms
    (hostCc100 f.2 = none ∧ f.1.lastSentIndex = ms.lastSentIndex) ∨
      (hostCc100 f.2 = some (f.1.lastSentIndex &&& 0x7F) ∧
        (f.1.lastSentIndex = 0 ∨ f.1.lastSentIndex = p.mediaIndex)) := by
  intro f
  set ms₂ := (sendIndexChange env p (updateSyncState env p ms)).1 with hms₂
  set ms₃ := (sendVolume env hasVolume p ms₂).1 with hms₃
  obtain ⟨i, u, hi⟩ := sendIndexChange_eq env p (updateSyncState env p ms)
  obtain ⟨v, w, t, hv⟩ := sendVolume_eq env hasVolume p ms₂
  have hcs : ms₃.currentState = p.state := by rw [hms₃, hv, hms₂, hi]; rfl
  have hci : ms₃.currentIndex = p.mediaIndex := by rw [hms₃, hv, hms₂, hi]; rfl
  obtain ⟨hstop, hrun⟩ := sendTransition_cc100 env p ms₃ (ms.currentState = 0 ∧ p.state = 1 : Bool)
    (toStopped p ms) hcs hci
  have hchange := sendIndexChange_cc100 env p (updateSyncState env p ms)
  rw [show (updateSyncState env p ms).lastSentIndex = ms.lastSentIndex from rfl] at hchange
  -- the last CC#100 comes from the transition, else from the index change
  have hall : hostCc100 f.2 = (hostCc100 (sendTransition env p (ms.currentState = 0 ∧ p.state = 1 : Bool)
      (toStopped p ms) ms₃).2).or (hostCc100 (sendIndexChange env p (updateSyncState env p ms)).2) := by
    have hjump : hostCc100 (if jumped env p ms then [.fullFrame (compensatedPositionMs env p)] else []) = none := by
      split <;> rfl
    show hostCc100 (followPacket env hasVolume p ms).2 = _
    unfold followPacket
    dsimp only
    rw [hostCc100_append, hostCc100_append, hostCc100_append, hjump,
      (sendVolume_cc100 env hasVolume p _).1, Option.none_or, Option.none_or]
    rfl
  rw [hall, hchange, show f.1.lastSentIndex = _ from followPacket_lastSentIndex env hasVolume p ms]
  by_cases hs : toStopped p ms = true
  · have hnotplay : (ms.currentState = 0 ∧ p.state = 1 : Bool) = false := by
      simp [toStopped_state p ms hs]
    right
    rw [hstop hs hnotplay, if_pos hs]
    exact ⟨rfl, Or.inl rfl⟩
  · rw [if_neg hs]
    rcases hrun (by simpa using hs) with hr | ⟨h0, hr⟩
    · rw [hr, Option.none_or]
      by_cases h0 : p.mediaIndex = 0
      · left
        simp [h0]
      · by_cases hsame : ms.lastSentIndex = p.mediaIndex
        · left; simp [hsame]
        · right; simp [h0, hsame]
    · right
      rw [hr, if_pos h0]
      exact ⟨rfl, Or.inr rfl⟩

end Packet

/-! ## What an observer knows -/

/-- The packet a node accepts in an event, if it accepts one. -/
def acceptedPacket (n : Node) : Event → Option MediaSyncPacket
  | .radio env src data => (acceptedFrame n env src data).map fun f => MediaSyncPacket.ofFrame f.2
  | _ => none

/-- What is known of a node since boot: the last packet it accepted, whether link loss has
stopped its clock since, and the last CC#100 it sent. -/
structure Watch where
  accepted : Option MediaSyncPacket := none
  stopped : Bool := false
  cc100 : Option UInt8 := none

/-- The clock stops without a packet saying so. -/
def clockStopped (n n' : Node) : Bool :=
  n.receiver.mediaSyncState.currentState = 1 ∧ n'.receiver.mediaSyncState.currentState ≠ 1

/-- The watch after an event that took `n` to `n'` and sent `out`. -/
def Watch.next (w : Watch) (n n' : Node) (e : Event) (out : List Out) : Watch :=
  if reboots out then {}
  else
    match acceptedPacket n e with
    | some p => { accepted := some p, stopped := false, cc100 := (lastCc100 out).or w.cc100 }
    | none => { w with stopped := w.stopped || clockStopped n n', cc100 := (lastCc100 out).or w.cc100 }

/-- The node as a machine, with its watch. -/
def observe (lib : UpdateLib) (build : Build) (s : Node × Watch) (e : Event) : (Node × Watch) × List Out :=
  let r := s.1.step lib build e
  ((r.1, s.2.next s.1 r.1 e r.2), r.2)

/-- **The host shows what the master plays**, once it was sent any index: 0 after a stopped
packet and after a stop by link loss, the index after a playing packet that has one. -/
def HostShown (s : Node × Watch) : Prop :=
  ∀ v, s.2.cc100 = some v →
    ((∃ p, s.2.accepted = some p ∧ p.state = 0) ∨ s.2.stopped = true → v = 0) ∧
    (∀ p, s.2.accepted = some p → p.state = 1 → p.mediaIndex > 0 → s.2.stopped = false → v = p.mediaIndex)

/-- Accepted packets have an index of 7 bits and are stopped or playing. -/
def InRange (s : Node × Watch) (e : Event) : Prop :=
  ∀ p ∈ acceptedPacket s.1 e, p.mediaIndex ≤ 127 ∧ (p.state = 0 ∨ p.state = 1)

instance (s : Node × Watch) (e : Event) : Decidable (InRange s e) :=
  inferInstanceAs (Decidable (∀ p ∈ acceptedPacket s.1 e, _))

/-- No stopped packet that carries an index is accepted while the node is not playing. -/
def CleanStop (s : Node × Watch) (e : Event) : Prop :=
  ∀ p ∈ acceptedPacket s.1 e, p.state = 0 → p.mediaIndex ≠ 0 →
    s.1.receiver.mediaSyncState.currentState = 1

instance (s : Node × Watch) (e : Event) : Decidable (CleanStop s e) :=
  inferInstanceAs (Decidable (∀ p ∈ acceptedPacket s.1 e, _ → _ → _))

/-! ## The invariant -/

/-- `lastSentIndex` is the last CC#100, 255 while there was none; it is 0 or 255 unless playing,
and the accepted index while playing one. -/
structure HostInv (s : Node × Watch) : Prop where
  sent : (s.2.cc100 = none ∧ s.1.core.lastSentIndex = 255) ∨
    (s.2.cc100 = some s.1.core.lastSentIndex ∧ s.1.core.lastSentIndex ≤ 127)
  idle : s.1.core.currentState ≠ 1 → s.1.core.lastSentIndex = 0 ∨ s.1.core.lastSentIndex = 255
  stopped : s.2.stopped = true → s.1.core.currentState ≠ 1
  follows : ∀ p, s.2.accepted = some p → s.2.stopped = false →
    s.1.core.currentState = p.state ∧ (p.state = 0 ∨ p.state = 1)
  playing : ∀ p, s.2.accepted = some p → s.1.core.currentState = 1 → p.mediaIndex ≠ 0 →
    s.1.core.lastSentIndex = p.mediaIndex

theorem HostInv.hostShown {s : Node × Watch} (h : HostInv s) : HostShown s := by
  intro v hv
  obtain ⟨hv', hle⟩ : s.1.core.lastSentIndex = v ∧ s.1.core.lastSentIndex ≤ 127 := by
    rcases h.sent with ⟨hn, -⟩ | ⟨hs, hle⟩
    · rw [hn] at hv; cases hv
    · rw [hs] at hv; cases hv; exact ⟨rfl, hle⟩
  -- a node that does not play has sent 0 last, if anything
  have hidle : s.1.core.currentState ≠ 1 → v = 0 := by
    intro hne
    rcases h.idle hne with h0 | h255
    · rw [← hv', h0]
    · rw [h255] at hle; exact absurd hle (by decide)
  refine ⟨?_, ?_⟩
  · intro hstop
    by_cases hst : s.2.stopped = true
    · exact hidle (h.stopped hst)
    · rcases hstop with ⟨p, hp, h0⟩ | hst'
      · apply hidle
        rw [(h.follows p hp (by simpa using hst)).1, h0]
        decide
      · exact absurd hst' hst
  · intro p hp h1 hpos hst
    have hne : p.mediaIndex ≠ 0 := by
      intro h0; rw [h0] at hpos; exact absurd hpos (by decide)
    have hcs : s.1.core.currentState = 1 := by rw [(h.follows p hp hst).1, h1]
    rw [← hv', h.playing p hp hcs hne]

/-- A node that has just booted. -/
theorem HostInv.boot (build : Build) (nvs : Nvs) (boardId : UInt8) (mac : Mac) :
    HostInv (boot build nvs boardId mac, {}) := by
  have hr : (Nowde.boot build nvs boardId mac).core =
      { stopOnLinkLost := true, lastSentIndex := 255 } := boot_core build nvs boardId mac
  refine ⟨Or.inl ⟨rfl, by rw [hr]⟩, fun _ => Or.inr (by rw [hr]), ?_, ?_, ?_⟩
  · intro h; cases h
  · intro p h; cases h
  · intro p h; cases h

section Step

variable {lib : UpdateLib} {build : Build} {n n' : Node} {w : Watch} {e : Event} {out : List Out}

/-- An event that accepts nothing, moves neither state nor memory and sends no CC#100. -/
theorem HostInv.of_quiet (h : HostInv (n, w)) (hcs : n'.core.currentState = n.core.currentState)
    (hlsi : n'.core.lastSentIndex = n.core.lastSentIndex) (hcc : lastCc100 out = none)
    (hacc : acceptedPacket n e = none) (hre : reboots out = false) :
    HostInv (n', w.next n n' e out) := by
  have hsame : n'.receiver.mediaSyncState.currentState = n.receiver.mediaSyncState.currentState := hcs
  have hnext : w.next n n' e out = w := by
    unfold Watch.next clockStopped
    rw [hre, hacc, hcc, hsame]
    simp
  rw [hnext]
  obtain ⟨h1, h2, h3, h4, h5⟩ := h
  simp only [← hcs, ← hlsi] at h1 h2 h3 h4 h5
  exact ⟨h1, h2, h3, h4, h5⟩

/-- Link loss stops the clock and sends CC#100 = 0. -/
theorem HostInv.of_linkLost (hplay : n.core.currentState = 1) (hcs : n'.core.currentState = 0)
    (hlsi : n'.core.lastSentIndex = 0) (hcc : lastCc100 out = some 0)
    (hacc : acceptedPacket n e = none) (hre : reboots out = false) :
    HostInv (n', w.next n n' e out) := by
  have hstop : clockStopped n n' = true := by
    have h1 : n.receiver.mediaSyncState.currentState = 1 := hplay
    have h2 : n'.receiver.mediaSyncState.currentState = 0 := hcs
    simp [clockStopped, h1, h2]
  have hnext : w.next n n' e out = { w with stopped := true, cc100 := some 0 } := by
    unfold Watch.next
    rw [hre, hacc, hcc, hstop]
    simp
  rw [hnext]
  refine ⟨Or.inr ⟨by rw [hlsi], by rw [hlsi]; decide⟩, fun _ => Or.inl hlsi, ?_, ?_, ?_⟩
  · intro _; rw [hcs]; decide
  · intro p _ h; cases h
  · intro p _ h; rw [hcs] at h; exact absurd h (by decide)

/-- The state and the messages of an accepted packet `p`: it is followed from a state that shows
what the node showed. -/
structure Followed (n n' : Node) (out : List Out) (p : MediaSyncPacket) (env : Env) (hasVolume : Bool)
    (base : MediaSyncState) : Prop where
  state : base.currentState = n.core.currentState
  sent : base.lastSentIndex = n.core.lastSentIndex
  after : n'.receiver.mediaSyncState = (followPacket env hasVolume p base).1
  out : out = (followPacket env hasVolume p base).2.map .host

variable {p : MediaSyncPacket} {env : Env} {hasVolume : Bool} {base : MediaSyncState}

theorem Followed.currentState (hf : Followed n n' out p env hasVolume base) :
    n'.core.currentState = p.state := by
  obtain ⟨i, t, v, u, w, heq⟩ := followPacket_eq env hasVolume p base
  show n'.receiver.mediaSyncState.currentState = p.state
  rw [hf.after, heq]
  rfl

theorem Followed.lastSyncTime (hf : Followed n n' out p env hasVolume base) :
    n'.core.lastSyncTime = env.millis := by
  obtain ⟨i, t, v, u, w, heq⟩ := followPacket_eq env hasVolume p base
  show n'.receiver.mediaSyncState.lastSyncTime = env.millis
  rw [hf.after, heq]
  rfl

theorem Followed.lastSentIndex (hf : Followed n n' out p env hasVolume base) :
    n'.core.lastSentIndex =
      if toStopped p base then 0 else if p.mediaIndex ≠ 0 then p.mediaIndex else n.core.lastSentIndex := by
  show n'.receiver.mediaSyncState.lastSentIndex = _
  rw [hf.after, followPacket_lastSentIndex, hf.sent]

theorem Followed.cc100 (hf : Followed n n' out p env hasVolume base) :
    (lastCc100 out = none ∧ n'.core.lastSentIndex = n.core.lastSentIndex) ∨
      (lastCc100 out = some (n'.core.lastSentIndex &&& 0x7F) ∧
        (n'.core.lastSentIndex = 0 ∨ n'.core.lastSentIndex = p.mediaIndex)) := by
  have h := followPacket_cc100 env hasVolume p base
  show (lastCc100 out = none ∧ n'.receiver.mediaSyncState.lastSentIndex = _) ∨
    (lastCc100 out = some (n'.receiver.mediaSyncState.lastSentIndex &&& 0x7F) ∧
      (n'.receiver.mediaSyncState.lastSentIndex = 0 ∨ n'.receiver.mediaSyncState.lastSentIndex = p.mediaIndex))
  rw [hf.out, hf.after, ← hf.sent]
  exact h

theorem Followed.reboots (hf : Followed n n' out p env hasVolume base) : reboots out = false := by
  rw [hf.out]
  simp [Nowde.reboots]

theorem Followed.next (hf : Followed n n' out p env hasVolume base) (hacc : acceptedPacket n e = some p) :
    w.next n n' e out = { accepted := some p, stopped := false, cc100 := (lastCc100 out).or w.cc100 } := by
  unfold Watch.next
  rw [hf.reboots, hacc]
  rfl

theorem and_0x7F_of_le {b : UInt8} (h : b ≤ 127) : b &&& 0x7F = b := by
  have key : ∀ b : Fin 256, UInt8.ofNat b ≤ 127 → UInt8.ofNat b &&& 0x7F = UInt8.ofNat b := by
    decide +kernel
  have := key ⟨b.toNat, b.toNat_lt⟩
  simp only [UInt8.ofNat_toNat] at this
  exact this h

/-- **A packet within range that stops cleanly** keeps the invariant. -/
theorem HostInv.of_packet (h : HostInv (n, w)) (hf : Followed n n' out p env hasVolume base)
    (hacc : acceptedPacket n e = some p) (hrange : p.mediaIndex ≤ 127 ∧ (p.state = 0 ∨ p.state = 1))
    (hclean : p.state = 0 → p.mediaIndex ≠ 0 → n.core.currentState = 1) :
    HostInv (n', w.next n n' e out) := by
  have hcs := hf.currentState
  have hlsi := hf.lastSentIndex
  rw [hf.next hacc]
  refine ⟨?_, ?_, ?_, ?_, ?_⟩
  · -- what was sent is what is remembered
    rcases hf.cc100 with ⟨hn, hsame⟩ | ⟨hs, hval⟩
    · simp only [hn, Option.none_or, hsame]
      exact h.sent
    · right
      have hle : n'.core.lastSentIndex ≤ 127 := by
        rcases hval with h0 | hp
        · rw [h0]; decide
        · rw [hp]; exact hrange.1
      rw [hs, and_0x7F_of_le hle]
      exact ⟨rfl, hle⟩
  · intro hne
    simp only [hcs] at hne
    have h0 : p.state = 0 := by
      rcases hrange.2 with h0 | h1
      · exact h0
      · exact absurd h1 hne
    simp only [hlsi]
    by_cases hst : toStopped p base = true
    · left; rw [if_pos hst]
    · rw [if_neg hst]
      -- not a stop edge, so the node was not playing and the packet carries no index
      have hidle : n.core.currentState ≠ 1 := by
        intro h1
        apply hst
        simp [toStopped, hf.state, h1, h0]
      by_cases hi : p.mediaIndex = 0
      · simp only [hi, ne_eq, not_true_eq_false, if_false]
        exact h.idle hidle
      · exact absurd (hclean h0 hi) hidle
  · intro hs; cases hs
  · intro q hq _
    cases hq
    exact ⟨hcs, hrange.2⟩
  · intro q hq h1 hi
    cases hq
    simp only [hcs] at h1
    have hst : ¬toStopped p base = true := by
      intro hst
      have h0 := toStopped_state p base hst
      rw [h1] at h0
      exact absurd h0 (by decide)
    simp only [hlsi, hst, Bool.false_eq_true, if_false, hi, ne_eq, not_false_eq_true, if_true]

/-- **A stopped packet with an index, accepted while not playing,** tells the host to play it. -/
theorem HostInv.not_hostShown (h : HostInv (n, w)) (hf : Followed n n' out p env hasVolume base)
    (hacc : acceptedPacket n e = some p) (hle : p.mediaIndex ≤ 127) (h0 : p.state = 0)
    (hi : p.mediaIndex ≠ 0) (hidle : n.core.currentState ≠ 1) :
    ¬HostShown (n', w.next n n' e out) := by
  have hst : ¬toStopped p base = true := by
    simp [toStopped, hf.state, hidle, hi]
  have hlsi : n'.core.lastSentIndex = p.mediaIndex := by
    rw [hf.lastSentIndex, if_neg hst, if_pos hi]
  have hsent : lastCc100 out = some p.mediaIndex := by
    rcases hf.cc100 with ⟨-, hsame⟩ | ⟨hs, -⟩
    · -- the index was not remembered already: 0 and 255 are not indexes of 7 bits
      rw [hlsi] at hsame
      rcases h.idle hidle with hz | hz
      · exact absurd (hsame.trans hz) hi
      · rw [hsame.trans hz] at hle
        exact absurd hle (by decide)
    · rw [hs, hlsi, and_0x7F_of_le hle]
  rw [hf.next hacc]
  intro hshown
  have := (hshown p.mediaIndex (by rw [hsent]; rfl)).1 (Or.inl ⟨p, rfl, h0⟩)
  exact hi this

end Step

/-! ## Every event -/

section Events

variable (lib : UpdateLib) (n : Node)

/-- An accepted packet is followed. -/
theorem followed_of_accepted {env : Env} {src : Mac} {data : List UInt8} {p : MediaSyncPacket}
    (hacc : acceptedPacket n (.radio env src data) = some p) :
    ∃ hasVolume base, Followed n (onDataRecv lib env n src data).1 (onDataRecv lib env n src data).2
      p env hasVolume base := by
  obtain ⟨f, hf, rfl⟩ := Option.map_eq_some_iff.1 hacc
  obtain ⟨hm, hfol, hacc⟩ := acceptedFrame_eq_some.1 hf
  obtain ⟨relay, hrecv⟩ := onDataRecv_media lib env n hm
  have hlock := originAccepts_spec (originAccepts_iff.2 hacc.2.2)
  obtain ⟨g, sq, b, hgap⟩ := countGap_eq (MediaSyncPacket.ofFrame f.2)
    (originAccepts env.millis n.receiver f.1).1.mediaSyncState f.2.length
  rw [hrecv, receiveMedia_of_follows hfol, processMediaSyncPacket_of_accepts hacc]
  refine ⟨_, _, ?_, ?_, rfl, rfl⟩
  · rw [hgap]
    rcases hlock.2.2.2.2.2 with ⟨hs, -, -⟩ | hs <;> simp only [hs] <;> rfl
  · rw [hgap]
    rcases hlock.2.2.2.2.2 with ⟨hs, -, -⟩ | hs <;> simp only [hs] <;> rfl

/-- A radio frame that is not accepted as a packet keeps the followed state and sends no CC#100. -/
theorem radio_of_not_accepted {env : Env} {src : Mac} {data : List UInt8}
    (hacc : acceptedPacket n (.radio env src data) = none) :
    (onDataRecv lib env n src data).1.core = n.core ∧ Quiet (onDataRecv lib env n src data).2 := by
  have hnone : acceptedFrame n env src data = none := Option.map_eq_none_iff.1 hacc
  cases hm : mediaFrame src data with
  | none => exact onDataRecv_spec lib env n data hm
  | some f =>
    obtain ⟨relay, hrecv⟩ := onDataRecv_media lib env n hm
    rw [hrecv, receiveMedia_of_not_accepted hnone hm]
    exact ⟨rfl, quiet_nil⟩

/-- The receiver part of a task iteration: nothing for the host's index, or a stop by link loss. -/
theorem receiverTick_cases (now : UInt32) (r : Receiver) :
    let t := receiverTick now r
    (t.1.mediaSyncState.core.currentState = r.mediaSyncState.core.currentState ∧
        t.1.mediaSyncState.core.lastSentIndex = r.mediaSyncState.core.lastSentIndex ∧ hostCc100 t.2 = none) ∨
      (r.mediaSyncState.core.currentState = 1 ∧ t.1.mediaSyncState.core.currentState = 0 ∧
        t.1.mediaSyncState.core.lastSentIndex = 0 ∧ hostCc100 t.2 = some 0) := by
  intro t
  have hmtc : ∀ ms, (generateMtc now ms).1.core.currentState = ms.core.currentState ∧
      (generateMtc now ms).1.core.lastSentIndex = ms.core.lastSentIndex ∧ hostCc100 (generateMtc now ms).2 = none := by
    intro ms
    unfold generateMtc
    split <;> exact ⟨rfl, rfl, rfl⟩
  -- time code is no CC#100, so the link-lost check decides
  obtain ⟨h1, h2, h3⟩ := hmtc (checkLinkLost now r.mediaSyncState).1
  have hcc : hostCc100 t.2 = hostCc100 (checkLinkLost now r.mediaSyncState).2 := by
    show hostCc100 (_ ++ _) = _
    rw [hostCc100_append, h3, Option.none_or]
  rw [hcc]
  show (_ = _ ∧ _) ∨ _
  rw [show t.1.mediaSyncState.core.currentState = _ from h1, show t.1.mediaSyncState.core.lastSentIndex = _ from h2]
  unfold checkLinkLost
  split
  · next hlost =>
    split
    · right; exact ⟨hlost.1, rfl, rfl, rfl⟩
    · -- under the free-run policy the clock runs on
      left; exact ⟨rfl, rfl, rfl⟩
  · left; exact ⟨rfl, rfl, rfl⟩

variable {lib} (build : Build) {w : Watch} {e : Event}

/-- A reboot starts over. -/
theorem HostInv.of_reboot (hre : reboots (n.handle lib e).2 = true) : HostInv (observe lib build (n, w) e).1 := by
  unfold observe
  simp only [step_of_reboots build hre, Watch.next, hre, if_true]
  exact HostInv.boot _ _ _ _

/-- Without a reboot an event is what its handler does. -/
theorem observe_of_not_reboots (hre : reboots (n.handle lib e).2 = false) :
    (observe lib build (n, w) e).1 =
      ((n.handle lib e).1, w.next n (n.handle lib e).1 e (n.handle lib e).2) := by
  unfold observe
  simp only [step_of_not_reboots build hre]

/-- **One event** within range that stops cleanly keeps the invariant. -/
theorem HostInv.step (h : HostInv (n, w)) (hrange : InRange (n, w) e) (hclean : CleanStop (n, w) e) :
    HostInv (observe lib build (n, w) e).1 := by
  cases hre : reboots (n.handle lib e).2 with
  | true => exact HostInv.of_reboot n build hre
  | false =>
    rw [observe_of_not_reboots n build hre]
    cases e with
    | radio env src data =>
      cases hacc : acceptedPacket n (.radio env src data) with
      | none =>
        obtain ⟨hcore, hq⟩ := radio_of_not_accepted lib n hacc
        exact h.of_quiet (by rw [← hcore]; rfl) (by rw [← hcore]; rfl) hq.lastCc100 hacc hre
      | some p =>
        obtain ⟨hasVolume, base, hf⟩ := followed_of_accepted lib n hacc
        exact h.of_packet hf hacc (hrange p hacc) (hclean p hacc)
    | usb env packet =>
      have hspec := midiPacket_spec lib env n packet
      exact h.of_quiet (by rw [← hspec.core]; rfl) (by rw [← hspec.core]; rfl) hspec.quiet.lastCc100 rfl hre
    | task env =>
      obtain ⟨hr, hcc⟩ := espnowTask_spec env n
      have hms : (n.handle lib (.task env)).1.core = (if n.receiverModeEnabled then
          receiverTick env.millis n.receiver else (n.receiver, [])).1.mediaSyncState.core := by
        rw [← hr]; rfl
      by_cases hmode : n.receiverModeEnabled = true
      · rw [if_pos hmode] at hcc hms
        rcases receiverTick_cases env.millis n.receiver with ⟨h1, h2, h3⟩ | ⟨h1, h2, h3, h4⟩
        · exact h.of_quiet (by rw [hms, h1]; rfl) (by rw [hms, h2]; rfl) (hcc.trans h3) rfl hre
        · exact HostInv.of_linkLost h1 (by rw [hms, h2]) (by rw [hms, h3]) (hcc.trans h4) rfl hre
      · rw [if_neg hmode] at hcc hms
        exact h.of_quiet (by rw [hms]; rfl) (by rw [hms]; rfl) (hcc.trans rfl) rfl hre

/-- **An unclean stop** is one the host is not shown. -/
theorem HostInv.not_hostShown_step (h : HostInv (n, w)) (hrange : InRange (n, w) e)
    (hclean : ¬CleanStop (n, w) e) : ¬HostShown (observe lib build (n, w) e).1 := by
  unfold CleanStop at hclean
  push Not at hclean
  obtain ⟨p, hacc, h0, hi, hidle⟩ := hclean
  cases e with
  | radio env src data =>
    obtain ⟨hasVolume, base, hf⟩ := followed_of_accepted lib n hacc
    have hre : reboots (n.handle lib (.radio env src data)).2 = false := hf.reboots
    rw [observe_of_not_reboots n build hre]
    exact h.not_hostShown hf hacc (hrange p hacc).1 h0 hi hidle
  | usb env packet => cases hacc
  | task env => cases hacc

end Events

/-! ## Runs -/

/-- **The host follows exactly the clean runs.** Along any run of radio frames, USB packets and
task iterations from boot whose accepted packets are within range, the host shows what the
master plays after every event iff every accepted stopped packet that carries an index finds
the node playing. -/
theorem hostShown_iff (lib : UpdateLib) (build : Build) (nvs : Nvs) (boardId : UInt8) (mac : Mac)
    (es : List Event) (hrange : Mealy.Guarded (observe lib build) InRange (boot build nvs boardId mac, {}) es) :
    (∀ pre post, es = pre ++ post →
        HostShown (Mealy.run (observe lib build) (boot build nvs boardId mac, {}) pre).1) ↔
      Mealy.Guarded (observe lib build) CleanStop (boot build nvs boardId mac, {}) es := by
  refine Mealy.always_iff_guarded HostInv HostShown (fun s h => h.hostShown) ?_ ?_
    (HostInv.boot build nvs boardId mac) hrange
  · intro s e h hD hG
    exact HostInv.step s.1 build h hD hG
  · intro s e h hD hG
    exact HostInv.not_hostShown_step s.1 build h hD hG

/-! ## A first contact with an index -/

/-- A build that follows every layer and stops on link loss. -/
def wildcardBuild : Build where
  defaultLayer := [0x2A]
  roleDefault := nowdeRoleAuto
  wifiLr := false
  stopOnLinkLost := true

/-- An Atom Lite fresh from boot: a slave. -/
def freshSlave : Node := boot wildcardBuild {} nowdeBoardidAtoms3Lite slaveMac

/-- The master plays clip 5, then stops it, still naming it. -/
def playThenStopClip : List Event :=
  [.radio { millis := 1000 } masterA (clip 5 1 1).toFrame,
    .radio { millis := 1100 } masterA (clip 5 0 2).toFrame]

/-- The master is stopped on clip 5 when the slave first hears it. -/
def stoppedOnClip : List Event :=
  [.radio { millis := 1000 } masterA (clip 5 0 1).toFrame]

theorem playThenStopClip_shown : (∀ pre post, playThenStopClip = pre ++ post →
      HostShown (Mealy.run (observe noUpdate wildcardBuild) (freshSlave, {}) pre).1) ↔
    Mealy.Guarded (observe noUpdate wildcardBuild) CleanStop (freshSlave, {}) playThenStopClip :=
  hostShown_iff _ wildcardBuild {} nowdeBoardidAtoms3Lite _ playThenStopClip (by decide +kernel)

/-- **A stopped master starts the clip.** The first frame a slave hears names clip 5 and says
stopped; the slave sends CC#100 = 5. -/
theorem stoppedOnClip_startsClip :
    ¬∀ (lib : UpdateLib) (build : Build) (nvs : Nvs) (boardId : UInt8) (mac : Mac) (es : List Event),
      Mealy.Guarded (observe lib build) InRange (boot build nvs boardId mac, {}) es →
        ∀ pre post, es = pre ++ post →
          HostShown (Mealy.run (observe lib build) (boot build nvs boardId mac, {}) pre).1 := by
  intro hall
  let s := (Mealy.run (observe noUpdate wildcardBuild) (freshSlave, {}) stoppedOnClip).1
  have hrange : Mealy.Guarded (observe noUpdate wildcardBuild) InRange (freshSlave, {}) stoppedOnClip := by
    decide +kernel
  have hshown : HostShown s := hall noUpdate wildcardBuild {} nowdeBoardidAtoms3Lite _ stoppedOnClip hrange
    stoppedOnClip [] (List.append_nil _).symm
  have hcc : s.2.cc100 = some 5 := by decide +kernel
  have hstate : s.2.accepted.map (·.state) = some 0 := by decide +kernel
  have hzero : ∃ p, s.2.accepted = some p ∧ p.state = 0 := by
    cases hp : s.2.accepted with
    | none => rw [hp] at hstate; cases hstate
    | some p => rw [hp] at hstate; exact ⟨p, rfl, by simpa using hstate⟩
  exact absurd ((hshown 5 hcc).1 (Or.inl hzero)) (by decide)

end Nowde
