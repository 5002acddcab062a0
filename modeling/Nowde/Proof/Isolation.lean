import Nowde.Proof.ReceivePath
import Nowde.Lib.Clock
import Nowde.Lib.Run

/-!
# Origin and layer isolation

A slave hears media frames and `SET_ORIGIN` commands at true times; its own `millis()` is the
true time modulo `2 ^ 32`.

* `Foreign`: a frame off the subscribed layer, or from an origin the lock does not hold while
  the lock is pinned or heard within the release time.
* `origin_layer_isolation`: foreign frames, inserted anywhere, change neither the followed state
  nor the lock nor what the host is sent; the origin that is followed changes only after
  silence or by `SET_ORIGIN`; a pin is only undone by `SET_ORIGIN`.
-/

namespace Nowde

/-! ## The machine -/

/-- A node with its true time: now, when the lock was last stamped, and the time and origin of
the last packet accepted since the last `SET_ORIGIN`. -/
structure Tracked where
  node : Node
  now : ℕ
  last : ℕ
  heard : Option (ℕ × Mac) := none

/-- A media frame, or a `SET_ORIGIN` frame of the host, at a true time. -/
inductive LockEvent
  | frame (time : ℕ) (env : Env) (src : Mac) (data : List UInt8)
  | setOrigin (time : ℕ) (env : Env) (data : List UInt8)

def LockEvent.time : LockEvent → ℕ
  | .frame time .. => time
  | .setOrigin time .. => time

/-- One event. -/
def track (lib : UpdateLib) (s : Tracked) : LockEvent → Tracked × List Out
  | .frame time env src data =>
    let r := onDataRecv lib (env.at time) s.node src data
    match acceptedFrame s.node (env.at time) src data with
    | some f => ({ node := r.1, now := time, last := time, heard := some (time, f.1) }, r.2)
    | none => ({ s with node := r.1, now := time }, r.2)
  | .setOrigin time env data =>
    let r := setOrigin (env.at time) s.node data data.length
    -- eleven bytes pin the lock and stamp it; four release it
    ({ node := r.1, now := time, last := if data.length ≥ 11 then time else s.last, heard := none }, r.2)

/-- Events come in time order, and the frames are of type `0x03` or `0x05`. -/
def Orderly (s : Tracked) (e : LockEvent) : Prop :=
  s.now ≤ e.time ∧ ∀ time env src data, e = .frame time env src data → isMedia data

/-- A packet the slave has no business with: off its layer, or from an origin other than the one
its lock holds while the lock is pinned or was heard within the release time. -/
def ForeignPacket (s : Tracked) (time : ℕ) (origin : Mac) (inner : List UInt8) : Prop :=
  let r := s.node.receiver
  layerMatches r.subscribedLayer.bytes (MediaSyncPacket.ofFrame inner).layer.bytes = false ∨
    (r.originLock.valid = true ∧ r.originLock.mac ≠ origin ∧
      (r.originLock.pinned = true ∨ time - s.last ≤ originLockReleaseMs.toNat))

instance (s : Tracked) (time : ℕ) (origin : Mac) (inner : List UInt8) :
    Decidable (ForeignPacket s time origin inner) :=
  inferInstanceAs (Decidable (_ ∨ _))

/-- A media frame with such a packet. -/
def Foreign (s : Tracked) (e : LockEvent) : Prop :=
  Orderly s e ∧ ∃ time env src data origin inner, e = .frame time env src data ∧
    mediaFrame src data = some (origin, inner) ∧ ForeignPacket s time origin inner

/-- An accepted packet follows one of the same origin, or more than the release time of silence
of the other one. -/
def Separated (s : Tracked) (e : LockEvent) : Prop :=
  ∀ time env src data f t₀ origin₀, e = .frame time env src data →
    acceptedFrame s.node (env.at time) src data = some f → s.heard = some (t₀, origin₀) →
    f.1 ≠ origin₀ → t₀ + originLockReleaseMs.toNat < time

/-- The lock's stamp is the true time `last`, and what was heard last holds the lock. -/
structure Tracked.Stamped (s : Tracked) : Prop where
  order : s.last ≤ s.now
  lastHeard : s.node.receiver.originLock.valid = true →
    s.node.receiver.originLock.lastHeard = UInt32.ofNat s.last
  heard : ∀ t origin, s.heard = some (t, origin) →
    s.node.receiver.originLock.valid = true ∧ s.node.receiver.originLock.mac = origin ∧ t = s.last

/-! ## What is accepted -/

section Accepted

variable {lib : UpdateLib} {s : Tracked} {time : ℕ} {env : Env} {src : Mac} {data : List UInt8}

/-- The lock measures no more than the true silence. -/
theorem lock_age_le (hs : s.Stamped) (hv : s.node.receiver.originLock.valid = true) (ht : s.now ≤ time) :
    (UInt32.ofNat time - s.node.receiver.originLock.lastHeard).toNat ≤ time - s.last := by
  rw [hs.lastHeard hv, WrapClock.toNat_ofNat_sub_ofNat]
  exact WrapClock.wrapDiff_le (by decide) (le_trans hs.order ht)

theorem not_accepts_of_foreign (hs : s.Stamped) (ht : s.now ≤ time) {origin : Mac} {inner : List UInt8}
    (h : ForeignPacket s time origin inner) : ¬Accepts (env.at time) s.node.receiver origin inner := by
  rintro ⟨-, hlayer, hlock⟩
  rcases h with hoff | ⟨hv, hne, hheld⟩
  · rw [hoff] at hlayer
    cases hlayer
  · rcases hlock with hfree | hsame | ⟨hunpinned, hsilent⟩
    · rw [hv] at hfree
      cases hfree
    · exact hne hsame
    · rcases hheld with hpin | hrecent
      · rw [hpin] at hunpinned
        cases hunpinned
      · have hage := lock_age_le hs hv ht
        have hgt : originLockReleaseMs.toNat <
            (UInt32.ofNat time - s.node.receiver.originLock.lastHeard).toNat :=
          UInt32.lt_iff_toNat_lt.1 hsilent
        omega

/-- After an accepted frame the lock holds its origin, stamped now, with the pin as before. -/
theorem lock_of_accepted {f : Mac × List UInt8} (h : acceptedFrame s.node env src data = some f) :
    let l := (mediaEffect env s.node src data).1.receiver.originLock
    l.valid = true ∧ l.mac = f.1 ∧ l.lastHeard = env.millis ∧ l.pinned = s.node.receiver.originLock.pinned := by
  obtain ⟨hm, hfol, hacc⟩ := acceptedFrame_eq_some.1 h
  obtain ⟨hv, hmac, ht, hp, -⟩ := originAccepts_spec (originAccepts_iff.2 hacc.2.2)
  unfold mediaEffect
  simp only [hm, receiveMedia_of_follows hfol, processMediaSyncPacket_of_accepts hacc]
  exact ⟨hv, hmac, ht, hp⟩

end Accepted

/-! ## One event -/

section Step

variable (lib : UpdateLib) {s : Tracked} {e : LockEvent}

/-- `SET_ORIGIN` stamps the lock when it pins it, and else frees it or leaves it. -/
theorem setOrigin_lock (env : Env) (n : Node) (data : List UInt8) :
    let l := (setOrigin env n data data.length).1.receiver.originLock
    (data.length ≥ 11 ∧ l.lastHeard = env.millis) ∨
      (¬data.length ≥ 11 ∧ (l.valid = false ∨ l = n.receiver.originLock)) := by
  unfold setOrigin
  by_cases h4 : data.length = 4
  · rw [if_pos h4]
    right
    exact ⟨by omega, Or.inl rfl⟩
  · rw [if_neg h4]
    by_cases h11 : data.length ≥ 11
    · left
      -- seven encoded bytes decode to six
      have hlong : ¬(decode7bit (slice data 3 7)).length < 6 := by
        rw [length_decode7bit, slice, List.length_take, List.length_drop]
        omega
      rw [if_pos h11]
      dsimp only
      rw [if_neg hlong]
      exact ⟨h11, rfl⟩
    · rw [if_neg h11]
      right
      exact ⟨h11, Or.inr rfl⟩

/-- **The stamps stay true.** -/
theorem track_stamped (hs : s.Stamped) (hK : Orderly s e) : (track lib s e).1.Stamped := by
  obtain ⟨htime, hmedia⟩ := hK
  cases e with
  | frame time env src data =>
    have htime : s.now ≤ time := htime
    obtain ⟨relay, hrecv⟩ := onDataRecv_isMedia lib (env.at time) s.node src (hmedia _ _ _ _ rfl)
    cases hacc : acceptedFrame s.node (env.at time) src data with
    | none =>
      simp only [track, hacc, hrecv, mediaEffect_of_not_accepted hacc]
      exact ⟨le_trans hs.order htime, hs.lastHeard, hs.heard⟩
    | some f =>
      obtain ⟨hv, hmac, hstamp, -⟩ := lock_of_accepted hacc
      simp only [track, hacc, hrecv]
      refine ⟨le_refl time, fun _ => hstamp, ?_⟩
      intro t origin heq
      cases heq
      exact ⟨hv, hmac, rfl⟩
  | setOrigin time env data =>
    have htime : s.now ≤ time := htime
    have hnone : ∀ t origin, (none : Option (ℕ × Mac)) = some (t, origin) →
        (setOrigin (env.at time) s.node data data.length).1.receiver.originLock.valid = true ∧
          (setOrigin (env.at time) s.node data data.length).1.receiver.originLock.mac = origin ∧
          t = if data.length ≥ 11 then time else s.last := by
      intro t origin h; cases h
    -- a pin stamps the lock now, a release frees it, and a frame of another length leaves it
    rcases setOrigin_lock (env.at time) s.node data with ⟨h11, hstamp⟩ | ⟨h11, hfree | hsame⟩
    · refine ⟨?_, ?_, hnone⟩
      · simp only [track, if_pos h11]
        exact le_refl time
      · intro _
        simp only [track, if_pos h11]
        exact hstamp
    · refine ⟨?_, ?_, hnone⟩
      · simp only [track, if_neg h11]
        exact le_trans hs.order htime
      · intro hv
        rw [show (track lib s (.setOrigin time env data)).1.node.receiver.originLock.valid = false from hfree] at hv
        cases hv
    · refine ⟨?_, ?_, hnone⟩
      · simp only [track, if_neg h11]
        exact le_trans hs.order htime
      · simp only [track, if_neg h11]
        rw [hsame]
        exact hs.lastHeard

/-- An accepted packet of another origin comes after the release time of silence. -/
theorem separated_of_stamped (hs : s.Stamped) (hK : Orderly s e) : Separated s e := by
  intro time env src data f t₀ origin₀ he hacc hheard hne
  subst he
  have htime : s.now ≤ time := hK.1
  obtain ⟨hv, hmac, rfl⟩ := hs.heard t₀ origin₀ hheard
  obtain ⟨-, -, hlock⟩ := acceptedFrame_eq_some.1 hacc
  rcases hlock.2.2 with hfree | hsame | ⟨-, hsilent⟩
  · rw [hv] at hfree
    cases hfree
  · exact absurd (hsame.symm.trans hmac) hne
  · have hage := lock_age_le hs hv htime
    have hgt : originLockReleaseMs.toNat <
        (UInt32.ofNat time - s.node.receiver.originLock.lastHeard).toNat :=
      UInt32.lt_iff_toNat_lt.1 hsilent
    omega

/-- A media frame leaves a pinned lock pinned to its origin. -/
theorem track_pinned {time : ℕ} {env : Env} {src : Mac} {data : List UInt8} (hmedia : isMedia data)
    (hp : s.node.receiver.originLock.pinned = true) :
    let l := (track lib s (.frame time env src data)).1.node.receiver.originLock
    l.pinned = true ∧ l.mac = s.node.receiver.originLock.mac := by
  obtain ⟨relay, hrecv⟩ := onDataRecv_isMedia lib (env.at time) s.node src hmedia
  have hv := s.node.receiver.originLock.pinned_valid hp
  cases hacc : acceptedFrame s.node (env.at time) src data with
  | none =>
    simp only [track, hacc, hrecv, mediaEffect_of_not_accepted hacc]
    exact ⟨hp, trivial⟩
  | some f =>
    obtain ⟨-, hmac, -, hpin⟩ := lock_of_accepted hacc
    obtain ⟨-, -, -, -, hlock⟩ := acceptedFrame_eq_some.1 hacc
    simp only [track, hacc, hrecv]
    refine ⟨hpin.trans hp, ?_⟩
    rcases hlock with hfree | hsame | ⟨hunpinned, -⟩
    · rw [hv] at hfree
      cases hfree
    · exact hmac.trans hsame.symm
    · -- only an unpinned lock is given to another origin
      rw [hp] at hunpinned
      cases hunpinned

end Step

/-! ## Two runs -/

/-- Two nodes alike up to what they relay, with locks stamped at the same time. -/
def Alike (s t : Tracked) : Prop :=
  s.Stamped ∧ (∃ relay, t.node = { s.node with relay := relay }) ∧ t.last = s.last

section TwoRuns

variable (lib : UpdateLib) {s t : Tracked} {e : LockEvent}

theorem mediaEffect_relay (env : Env) (n : Node) (src : Mac) (data : List UInt8) (relay : Relay) :
    mediaEffect env { n with relay := relay } src data =
      ({ (mediaEffect env n src data).1 with relay := relay }, (mediaEffect env n src data).2) := by
  unfold mediaEffect
  cases mediaFrame src data with
  | none => rfl
  | some f =>
    dsimp only
    unfold receiveMedia
    dsimp only
    split <;> rfl

theorem setOrigin_relay (env : Env) (n : Node) (data : List UInt8) (length : ℕ) (relay : Relay) :
    setOrigin env { n with relay := relay } data length =
      ({ (setOrigin env n data length).1 with relay := relay }, (setOrigin env n data length).2) := by
  unfold setOrigin
  dsimp only
  split_ifs <;> rfl

/-- A common event keeps the nodes alike and sends the same. -/
theorem track_alike (h : Alike s t) (hK : Orderly s e) :
    Alike (track lib s e).1 (track lib t e).1 ∧
      (track lib s e).2.filterMap Out.host? = (track lib t e).2.filterMap Out.host? := by
  obtain ⟨hs, ⟨relay, hnode⟩, hlast⟩ := h
  have hstamped := track_stamped lib hs hK
  cases e with
  | frame time env src data =>
    have hmedia := hK.2 _ _ _ _ rfl
    obtain ⟨relay₁, h₁⟩ := onDataRecv_isMedia lib (env.at time) s.node src hmedia
    obtain ⟨relay₂, h₂⟩ := onDataRecv_isMedia lib (env.at time) t.node src hmedia
    rw [hnode, mediaEffect_relay, ← hnode] at h₂
    -- the nodes differ in the relay only, which accepts nothing
    have hacc : acceptedFrame t.node (env.at time) src data = acceptedFrame s.node (env.at time) src data := by
      rw [hnode]
      rfl
    cases hf : acceptedFrame s.node (env.at time) src data with
    | none =>
      simp only [track, hacc, hf, h₁, h₂] at hstamped ⊢
      exact ⟨⟨hstamped, ⟨relay₂, rfl⟩, hlast⟩, trivial⟩
    | some f =>
      simp only [track, hacc, hf, h₁, h₂] at hstamped ⊢
      exact ⟨⟨hstamped, ⟨relay₂, rfl⟩, rfl⟩, trivial⟩
  | setOrigin time env data =>
    have hso := setOrigin_relay (env.at time) s.node data data.length relay
    rw [← hnode] at hso
    simp only [track, hso] at hstamped ⊢
    exact ⟨⟨hstamped, ⟨relay, rfl⟩, by rw [hlast]⟩, trivial⟩

/-- An inserted foreign frame keeps the nodes alike and sends the host nothing. -/
theorem track_foreign (h : Alike s t) (hF : Foreign s e) :
    Alike (track lib s e).1 t ∧ (track lib s e).2.filterMap Out.host? = [] := by
  obtain ⟨hs, ⟨relay, hnode⟩, hlast⟩ := h
  obtain ⟨hK, time, env, src, data, origin, inner, rfl, hm, hpacket⟩ := hF
  have hnone : acceptedFrame s.node (env.at time) src data = none := by
    cases hacc : acceptedFrame s.node (env.at time) src data with
    | none => rfl
    | some f =>
      obtain ⟨hm', -, haccepts⟩ := acceptedFrame_eq_some.1 hacc
      rw [hm] at hm'
      cases hm'
      exact absurd haccepts (not_accepts_of_foreign hs hK.1 hpacket)
  obtain ⟨relay₁, h₁⟩ := onDataRecv_isMedia lib (env.at time) s.node src (hK.2 _ _ _ _ rfl)
  rw [mediaEffect_of_not_accepted hnone] at h₁
  refine ⟨⟨track_stamped lib hs hK, ?_⟩, ?_⟩
  · simp only [track, hnone, h₁]
    exact ⟨⟨relay, hnode⟩, hlast⟩
  · simp only [track, hnone, h₁]
    rfl

end TwoRuns

/-- **Origin and layer isolation.** From any node whose lock is stamped with its true time:

* foreign frames inserted anywhere in a run of media frames and `SET_ORIGIN`s leave the followed
  state, the lock and the messages for the host as they are without them;
* two packets accepted one after the other from different origins, with no `SET_ORIGIN` between,
  are more than the release time apart;
* without a `SET_ORIGIN` a pinned lock stays pinned to its origin. -/
theorem origin_layer_isolation (lib : UpdateLib) (s : Tracked) (hs : s.Stamped) :
    (∀ l k, Mealy.Inserted (track lib) Orderly Foreign s l k →
      (Mealy.run (track lib) s l).1.node.receiver.mediaSyncState =
          (Mealy.run (track lib) s k).1.node.receiver.mediaSyncState ∧
        (Mealy.run (track lib) s l).1.node.receiver.originLock =
          (Mealy.run (track lib) s k).1.node.receiver.originLock ∧
        (Mealy.run (track lib) s l).2.filterMap Out.host? = (Mealy.run (track lib) s k).2.filterMap Out.host?) ∧
    (∀ es, Mealy.Guarded (track lib) Orderly s es → Mealy.Guarded (track lib) Separated s es) ∧
    (∀ es, Mealy.Guarded (track lib) Orderly s es →
      (∀ e ∈ es, ∃ time env src data, e = .frame time env src data) →
      s.node.receiver.originLock.pinned = true →
      (Mealy.run (track lib) s es).1.node.receiver.originLock.pinned = true ∧
        (Mealy.run (track lib) s es).1.node.receiver.originLock.mac = s.node.receiver.originLock.mac) := by
  refine ⟨?_, ?_, ?_⟩
  · intro l k hl
    obtain ⟨⟨-, ⟨relay, hnode⟩, -⟩, hout⟩ := Mealy.unwinding Alike Out.host?
      (fun s t e h hK => track_alike lib (s := s) (t := t) (e := e) h hK)
      (fun s t e h hF => track_foreign lib (s := s) (t := t) (e := e) h hF) hl
      ⟨hs, ⟨s.node.relay, rfl⟩, rfl⟩
    exact ⟨by rw [hnode], by rw [hnode], hout⟩
  · intro es hes
    exact Mealy.guarded_of_inv Tracked.Stamped (fun s e h hK => track_stamped lib (s := s) (e := e) h hK)
      (fun s e h hK => separated_of_stamped (s := s) (e := e) h hK) hs hes
  · intro es hes hframes hp
    induction es generalizing s with
    | nil => exact ⟨hp, rfl⟩
    | cons e es ih =>
      obtain ⟨time, env, src, data, rfl⟩ := hframes e (by simp)
      obtain ⟨hp', hmac⟩ := track_pinned lib (hes.1.2 _ _ _ _ rfl) hp
      obtain ⟨hp'', hmac'⟩ := ih _ (track_stamped lib hs hes.1) hes.2 (fun e he => hframes e (by simp [he])) hp'
      exact ⟨hp'', hmac'.trans hmac⟩

/-! ## A pinned slave beside a second master -/

/-- The slave, pinned to the first master. -/
def pinnedSlave : Tracked where
  node := { lockedSlave with receiver := { lockedSlave.receiver with
    originLock := { mac := masterA, valid := true, pinned := true } } }
  now := 0
  last := 0

def frameA : LockEvent := .frame 1000 { millis := 0 } masterA (clip 5 1 1).toFrame
def frameB : LockEvent := .frame 90000 { millis := 0 } masterB (clip 7 1 1).toFrame

theorem clip_orderly {s : Tracked} {time : ℕ} {env : Env} {src : Mac} {index state : UInt8} {seq : UInt16}
    (h : s.now ≤ time) : Orderly s (.frame time env src (clip index state seq).toFrame) := by
  refine ⟨h, ?_⟩
  intro _ _ _ _ heq
  cases heq
  exact ⟨by rw [MediaSyncPacket.length_toFrame]; decide, Or.inl rfl⟩

theorem pinnedSlave_isolated :
    ((Mealy.run (track noUpdate) pinnedSlave [frameA, frameB]).1.node.receiver.mediaSyncState =
          (Mealy.run (track noUpdate) pinnedSlave [frameA]).1.node.receiver.mediaSyncState ∧
        (Mealy.run (track noUpdate) pinnedSlave [frameA, frameB]).1.node.receiver.originLock =
          (Mealy.run (track noUpdate) pinnedSlave [frameA]).1.node.receiver.originLock ∧
        (Mealy.run (track noUpdate) pinnedSlave [frameA, frameB]).2.filterMap Out.host? =
          (Mealy.run (track noUpdate) pinnedSlave [frameA]).2.filterMap Out.host?) ∧
      Mealy.Guarded (track noUpdate) Separated pinnedSlave [frameA, frameB] ∧
      (Mealy.run (track noUpdate) pinnedSlave [frameA, frameB]).1.node.receiver.originLock.mac = masterA := by
  have hs : pinnedSlave.Stamped := ⟨le_refl 0, fun _ => rfl, fun _ _ h => by cases h⟩
  have hA : Orderly pinnedSlave frameA := clip_orderly (by decide)
  have hB : Orderly (track noUpdate pinnedSlave frameA).1 frameB := clip_orderly (by decide +kernel)
  have hforeign : Foreign (track noUpdate pinnedSlave frameA).1 frameB :=
    ⟨hB, _, _, _, _, masterB, (clip 7 1 1).toFrame, rfl, by decide +kernel, by decide +kernel⟩
  have hguard : Mealy.Guarded (track noUpdate) Orderly pinnedSlave [frameA, frameB] := ⟨hA, hB, trivial⟩
  obtain ⟨h1, h2, h3⟩ := origin_layer_isolation noUpdate pinnedSlave hs
  refine ⟨h1 _ _ (.keep hA (.insert hforeign (.nil _))), h2 _ hguard, (h3 _ hguard ?_ rfl).2⟩
  intro e he
  simp only [List.mem_cons, List.not_mem_nil, or_false] at he
  rcases he with rfl | rfl
  · exact ⟨_, _, _, _, rfl⟩
  · exact ⟨_, _, _, _, rfl⟩

end Nowde
