import Nowde.Lib.Mirror
import Nowde.Proof.CStrings
import Nowde.Proof.HostIndex
import Nowde.Proof.Timeouts

/-!
# The receiver table as a map of last reports

A sender keeps, for each receiver it has heard lately, what the receiver last reported. A first report
fills a free slot; a later one updates the slot, field by field, and leaves the version out.

* `reports_iff`: a cleanup leaves the table the map of last reports, at every point of a run, **exactly**
  when no receiver with a slot reports another version than the slot has.
* `reports_map`: in every other field it always does.
* `newFirmware_notShown`: a receiver comes back with new firmware within ten seconds.
-/

namespace Nowde

/-! ## The abstract map -/

/-- A `ReceiverInfo` frame, and when it was received. -/
structure Report where
  time : ℕ
  data : List UInt8
deriving DecidableEq

/-- The entry shows what the frame says; a frame too short to say it counts as unknown. -/
structure ShowsReport (e : ReceiverEntry) (data : List UInt8) : Prop where
  layer : cstr e.layer.bytes = (cstr (slice data 1 16)).take 15
  mediaIndex : e.mediaIndex = byteAt data 25
  syncQuality : e.syncQuality = if data.length ≥ 27 then byteAt data 26 else nowdeSyncUnknown
  syncGaps : e.syncGaps = if data.length ≥ 29 then le16 data 27 else 0

/-- It shows the frame's version. -/
def ShowsVersion (e : ReceiverEntry) (data : List UInt8) : Prop :=
  cstr e.version.bytes = (cstr (slice data 17 8)).take 7

/-- A sender, the time, and the last report of each MAC. -/
structure Reports where
  node : Node
  time : ℕ
  last : Mac → Option Report := fun _ => none

inductive ReportEvent
  | pass (ms : ℕ)
  | report (env : Env) (src : Mac) (data : List UInt8)
  | cleanup

namespace Reports

/-- `cleanupReceiverTable()` at the present time. -/
def cleanup (s : Reports) : Reports × List Out :=
  let t := cleanupReceiverTable (UInt32.ofNat s.time) s.node.receiverTable
  ({ s with node := { s.node with receiverTable := t.1 } }, t.2)

def step (lib : UpdateLib) (s : Reports) : ReportEvent → Reports × List Out
  | .pass ms => ({ s with time := s.time + ms }, [])
  | .report env src data =>
    let r := onDataRecv lib (env.at s.time) s.node src data
    ({ s with node := r.1, last := Function.update s.last src (some ⟨s.time, data⟩) }, r.2)
  | .cleanup => s.cleanup

end Reports

/-- **The table is the map of last reports**: one active entry for each MAC heard in the last ten
seconds, connected if it was in the last five, that shows what the MAC last reported. `versions` says
whether the version counts. -/
structure IsMap (versions : Prop) (s : Reports) : Prop where
  unique : ∀ i j, (s.node.receiverTable i).active = true → (s.node.receiverTable j).active = true →
    (s.node.receiverTable i).mac = (s.node.receiverTable j).mac → i = j
  active : ∀ mac, (∃ i, (s.node.receiverTable i).active = true ∧ (s.node.receiverTable i).mac = mac) ↔
    ∃ r, s.last mac = some r ∧ s.time - r.time ≤ 10000
  connected : ∀ mac, (∃ i, (s.node.receiverTable i).active = true ∧ (s.node.receiverTable i).connected = true ∧
      (s.node.receiverTable i).mac = mac) ↔
    ∃ r, s.last mac = some r ∧ s.time - r.time ≤ receiverTimeoutMs.toNat
  shows : ∀ i, (s.node.receiverTable i).active = true → ∃ r, s.last (s.node.receiverTable i).mac = some r ∧
    ShowsReport (s.node.receiverTable i) r.data ∧ (versions → ShowsVersion (s.node.receiverTable i) r.data)

/-- The runs the property is about: full `ReceiverInfo` frames from the MACs `macs`, within one turn of
the clock. -/
def InDomain (macs : Finset Mac) (start : ℕ) (s : Reports) : ReportEvent → Prop
  | .pass ms => s.time + ms < start + 2 ^ 32
  | .report _ src data => byteAt data 0 = espnowMsgReceiverInfo ∧ data.length ≥ receiverInfoMinLen ∧ src ∈ macs
  | .cleanup => True

instance (macs : Finset Mac) (start : ℕ) (s : Reports) : ∀ e, Decidable (InDomain macs start s e)
  | .pass _ => inferInstanceAs (Decidable (_ < _))
  | .report .. => inferInstanceAs (Decidable (_ ∧ _ ∧ _))
  | .cleanup => isTrue trivial

/-- No receiver with a slot reports another version than the slot has. -/
def SameVersion (s : Reports) : ReportEvent → Prop
  | .report _ src data => ∀ i, (s.node.receiverTable i).active = true → (s.node.receiverTable i).mac = src →
    ShowsVersion (s.node.receiverTable i) data
  | _ => True

/-! ## One entry -/

section Entry

theorem ofFrame_bytes {n offset : ℕ} {data : List UInt8} (h : offset + n ≤ data.length) :
    (CharBuf.ofFrame n data offset).bytes = slice data offset n := by
  have hlen : (slice data offset n).length = n := by
    unfold slice
    rw [List.length_take, List.length_drop]
    omega
  unfold CharBuf.ofFrame CharBuf.blit CharBuf.zero
  dsimp only
  rw [List.take_of_length_le hlen.le, List.drop_replicate, hlen, Nat.sub_self, List.replicate_zero, List.append_nil]

variable (now : UInt32) {e : ReceiverEntry} {data : List UInt8}

theorem registerReceiver_shows (src : Mac) (hlen : data.length ≥ receiverInfoMinLen) :
    ShowsReport (registerReceiver now src (rxReceiverInfo data)) data ∧
      ShowsVersion (registerReceiver now src (rxReceiverInfo data)) data := by
  have hlayer : (rxReceiverInfo data).layer.bytes = slice data 1 16 := by
    refine ofFrame_bytes ?_
    unfold receiverInfoMinLen at hlen
    omega
  have hversion : (rxReceiverInfo data).version.bytes = slice data 17 8 := by
    refine ofFrame_bytes ?_
    unfold receiverInfoMinLen at hlen
    omega
  refine ⟨⟨?_, rfl, rfl, rfl⟩, ?_⟩
  · unfold registerReceiver
    dsimp only
    rw [cstr_strncpy_terminate, hlayer]
  · unfold ShowsVersion registerReceiver
    dsimp only
    rw [cstr_strncpy_terminate, hversion]

/-- A later report is shown in all but the version, which stays. -/
theorem refreshReceiver_shows (hlen : data.length ≥ receiverInfoMinLen) (hcut : (cstr e.layer.bytes).length ≤ 15) :
    ShowsReport (refreshReceiver now (rxReceiverInfo data) e) data ∧
      (refreshReceiver now (rxReceiverInfo data) e).version = e.version := by
  have hlayer : (rxReceiverInfo data).layer.bytes = slice data 1 16 := by
    refine ofFrame_bytes ?_
    unfold receiverInfoMinLen at hlen
    omega
  refine ⟨⟨?_, rfl, rfl, rfl⟩, rfl⟩
  unfold refreshReceiver
  dsimp only
  split
  · next hsame =>
    -- equal to `strncmp`, so the same string, and the entry's is cut already
    rw [strncmpEq_iff, hlayer] at hsame
    have hslice : (cstr (slice data 1 16)).length ≤ maxLayerLength := by
      refine (cstr_length_le _).trans ?_
      unfold slice maxLayerLength
      rw [List.length_take]
      exact Nat.min_le_left _ _
    have hentry : (cstr e.layer.bytes).length ≤ maxLayerLength := hcut.trans (by decide)
    rw [List.take_of_length_le hentry, List.take_of_length_le hslice] at hsame
    rw [← hsame, List.take_of_length_le hcut]
  · rw [cstr_strncpy_terminate, hlayer]

theorem ShowsReport.layer_length (h : ShowsReport e data) : (cstr e.layer.bytes).length ≤ 15 := by
  rw [h.layer, List.length_take]
  exact Nat.min_le_left _ _

/-- A cleanup changes no more than the two flags. -/
theorem cleanupReceiverEntry_flags (now : UInt32) (e : ReceiverEntry) :
    ∃ a c, cleanupReceiverEntry now e = { e with active := a, connected := c } := by
  unfold cleanupReceiverEntry
  dsimp only
  split
  · exact ⟨false, false, by split <;> rfl⟩
  · split
    · exact ⟨e.active, false, rfl⟩
    · exact ⟨e.active, e.connected, rfl⟩

theorem cleanupReceiverEntry_notConnected (h : e.connected = false) :
    (cleanupReceiverEntry now e).connected = false := by
  unfold cleanupReceiverEntry
  dsimp only
  split
  · rfl
  · split
    · rfl
    · exact h

end Entry

/-! ## Steps -/

/-- What an entry and the last report of its MAC have in common between cleanups. -/
structure Agrees (versions : Prop) (start now : ℕ) (e : ReceiverEntry) (r : Report) : Prop where
  since : start ≤ r.time
  past : r.time ≤ now
  lastSeen : e.lastSeen = UInt32.ofNat r.time
  shows : ShowsReport e r.data
  version : versions → ShowsVersion e r.data
  connected : e.connected = true ∨ receiverTimeoutMs.toNat < now - r.time

/-- A report that is too old to have a slot. -/
def Report.Stale (now : ℕ) (r : Report) : Prop := 10000 < now - r.time

/-- The table mirrors the last reports, and these are from the MACs of the run. -/
structure MapInv (versions : Prop) (macs : Finset Mac) (start : ℕ) (s : Reports) : Prop where
  sender : s.node.senderModeEnabled = true
  mirrors : Heard.Mirrors s.node.receiverTable (·.active) (·.mac) s.last (Agrees versions start s.time)
    (Report.Stale s.time)
  macs : ∀ mac r, s.last mac = some r → mac ∈ macs
  since : start ≤ s.time
  span : s.time < start + 2 ^ 32

section Steps

variable {lib : UpdateLib} {versions : Prop} {macs : Finset Mac} {start : ℕ} {s : Reports}

/-- Age as the cleanup computes it. -/
theorem age_eq {now time : ℕ} (hpast : time ≤ now) (hspan : now < time + 2 ^ 32) :
    (UInt32.ofNat now - UInt32.ofNat time).toNat = now - time := by
  rw [WrapClock.toNat_ofNat_sub_ofNat_of_le hpast, Nat.mod_eq_of_lt (by omega)]

/-- What an active entry shows after a cleanup. -/
theorem Agrees.cleanup {now : ℕ} {e : ReceiverEntry} {r : Report} (h : Agrees versions start now e r)
    (hspan : now < start + 2 ^ 32) (hactive : e.active = true) :
    let e' := cleanupReceiverEntry (UInt32.ofNat now) e
    (e'.active = true ↔ now - r.time ≤ 10000) ∧
      (e'.active = true → (e'.connected = true ↔ now - r.time ≤ receiverTimeoutMs.toNat)) ∧
      e'.mac = e.mac ∧ e'.lastSeen = e.lastSeen ∧ ShowsReport e' r.data ∧ (versions → ShowsVersion e' r.data) := by
  have hspan' : now < r.time + 2 ^ 32 := by
    have := h.since
    omega
  have hage : (UInt32.ofNat now - e.lastSeen).toNat = now - r.time := by rw [h.lastSeen, age_eq h.past hspan']
  have hremove : (cleanupReceiverEntry (UInt32.ofNat now) e).active = false ↔ 10000 < now - r.time := by
    rw [cleanupReceiverEntry_active_iff hactive, gt_iff_lt, UInt32.lt_iff_toNat_lt, hage]
    exact Iff.rfl
  obtain ⟨a, c, heq⟩ := cleanupReceiverEntry_flags (UInt32.ofNat now) e
  refine ⟨?_, fun hkept => ?_, ?_, ?_, ?_, ?_⟩
  · rw [← Nat.not_lt, ← hremove, Bool.not_eq_false]
  · have hmissing : ∀ hc : e.connected = true,
        (cleanupReceiverEntry (UInt32.ofNat now) e).connected = false ↔ receiverTimeoutMs.toNat < now - r.time := by
      intro hc
      rw [cleanupReceiverEntry_connected_iff hactive hc, gt_iff_lt, UInt32.lt_iff_toNat_lt, hage]
    cases hc : e.connected with
    | true => rw [← Nat.not_lt, ← hmissing hc, Bool.not_eq_false]
    | false =>
      have hold : receiverTimeoutMs.toNat < now - r.time := h.connected.resolve_left (by simp [hc])
      rw [cleanupReceiverEntry_notConnected _ hc]
      exact iff_of_false Bool.false_ne_true (Nat.not_le.2 hold)
  · rw [heq]
  · rw [heq]
  · rw [heq]
    exact ⟨h.shows.layer, h.shows.mediaIndex, h.shows.syncQuality, h.shows.syncGaps⟩
  · rw [heq]
    exact h.version

/-- **A cleanup** leaves the map of last reports. -/
theorem MapInv.isMap (h : MapInv versions macs start s) : IsMap versions s.cleanup.1 := by
  have hentry : ∀ i, (s.node.receiverTable i).active = true → ∃ r, s.last (s.node.receiverTable i).mac = some r ∧
      Agrees versions start s.time (s.node.receiverTable i) r := h.mirrors.agrees
  -- who is active afterwards was active before
  have hback : ∀ i, (cleanupReceiverEntry (UInt32.ofNat s.time) (s.node.receiverTable i)).active = true →
      (s.node.receiverTable i).active = true := fun i hi => (cleanupReceiverEntry_active hi).1
  have hmac : ∀ i, (cleanupReceiverEntry (UInt32.ofNat s.time) (s.node.receiverTable i)).mac =
      (s.node.receiverTable i).mac := by
    intro i
    obtain ⟨a, c, heq⟩ := cleanupReceiverEntry_flags (UInt32.ofNat s.time) (s.node.receiverTable i)
    rw [heq]
  have hslot : ∀ mac r, s.last mac = some r → s.time - r.time ≤ 10000 →
      ∃ i, (s.node.receiverTable i).active = true ∧ (s.node.receiverTable i).mac = mac ∧
        Agrees versions start s.time (s.node.receiverTable i) r := by
    intro mac r hr hyoung
    obtain ⟨i, hi, hm⟩ := (h.mirrors.complete mac r hr).resolve_left (Nat.not_lt.2 hyoung)
    obtain ⟨r', hr', hag⟩ := hentry i hi
    rw [hm, hr] at hr'
    cases hr'
    exact ⟨i, hi, hm, hag⟩
  constructor
  · intro i j hi hj hij
    exact h.mirrors.unique i j (hback i hi) (hback j hj) ((hmac i).symm.trans (hij.trans (hmac j)))
  · intro mac
    constructor
    · rintro ⟨i, hi, rfl⟩
      obtain ⟨r, hr, hag⟩ := hentry i (hback i hi)
      exact ⟨r, (congrArg s.last (hmac i)).trans hr, (hag.cleanup h.span (hback i hi)).1.1 hi⟩
    · rintro ⟨r, hr, hyoung⟩
      obtain ⟨i, hi, hm, hag⟩ := hslot mac r hr hyoung
      exact ⟨i, (hag.cleanup h.span hi).1.2 hyoung, (hmac i).trans hm⟩
  · intro mac
    constructor
    · rintro ⟨i, hi, hc, rfl⟩
      obtain ⟨r, hr, hag⟩ := hentry i (hback i hi)
      exact ⟨r, (congrArg s.last (hmac i)).trans hr, ((hag.cleanup h.span (hback i hi)).2.1 hi).1 hc⟩
    · rintro ⟨r, hr, hyoung⟩
      have hyoung' : s.time - r.time ≤ 10000 := le_trans hyoung (by decide)
      obtain ⟨i, hi, hm, hag⟩ := hslot mac r hr hyoung'
      have hkept := (hag.cleanup h.span hi).1.2 hyoung'
      exact ⟨i, hkept, ((hag.cleanup h.span hi).2.1 hkept).2 hyoung, (hmac i).trans hm⟩
  · intro i hi
    obtain ⟨r, hr, hag⟩ := hentry i (hback i hi)
    obtain ⟨-, -, -, -, hshows, hversion⟩ := hag.cleanup h.span (hback i hi)
    exact ⟨r, (congrArg s.last (hmac i)).trans hr, hshows, hversion⟩

/-- A `ReceiverInfo` frame on a sender goes to its table. -/
theorem onDataRecv_receiverInfo (lib : UpdateLib) (env : Env) {n : Node} (src : Mac) {data : List UInt8}
    (hsender : n.senderModeEnabled = true) (htype : byteAt data 0 = espnowMsgReceiverInfo)
    (hlen : data.length ≥ receiverInfoMinLen) :
    (onDataRecv lib env n src data).1 =
      { n with
        receiverTable := Heard.note (·.active) (·.mac) src (refreshReceiver env.millis (rxReceiverInfo data))
          (registerReceiver env.millis src (rxReceiverInfo data)) n.receiverTable } := by
  have hclock : ¬isMeshClockPacket data = true := by
    unfold isMeshClockPacket receiverInfoMinLen at *
    simp only [decide_eq_true_eq]
    omega
  have hlong : ¬data.length < 1 := by
    unfold receiverInfoMinLen at hlen
    omega
  unfold onDataRecv
  rw [if_neg hlong, if_neg hclock]
  dsimp only
  rw [htype, if_neg (by decide), if_neg (by decide), if_pos rfl, if_pos hsender]
  dsimp only
  rw [handleReceiverInfo_eq _ _ hlen]

/-- **One event** keeps the mirror, with the version if the report names the slot's. -/
theorem MapInv.step (h : MapInv versions macs start s) (hcard : macs.card ≤ maxReceivers) {e : ReportEvent}
    (hdom : InDomain macs start s e) (hsame : versions → SameVersion s e) :
    MapInv versions macs start (s.step lib e).1 := by
  cases e with
  | pass ms =>
    have htime : (s.step lib (.pass ms)).1.time = s.time + ms := rfl
    refine ⟨h.sender, h.mirrors.mono ?_ ?_, h.macs, h.since.trans (Nat.le_add_right _ _), hdom⟩
    · intro e r hag
      refine ⟨hag.since, hag.past.trans (Nat.le_add_right _ _), hag.lastSeen, hag.shows, hag.version, ?_⟩
      exact hag.connected.imp_right fun hold => by omega
    · intro r hold
      unfold Report.Stale at hold ⊢
      omega
  | cleanup =>
    refine ⟨h.sender, ?_, h.macs, h.since, h.span⟩
    refine h.mirrors.expire ?_ ?_ fun e he => (cleanupReceiverEntry_active he).1
    · intro e r hactive hag hkept
      obtain ⟨-, hconnected, hmac, hseen, hshows, hversion⟩ := hag.cleanup h.span hactive
      refine ⟨hmac, hag.since, hag.past, hseen.trans hag.lastSeen, hshows, hversion, ?_⟩
      by_cases hyoung : s.time - r.time ≤ receiverTimeoutMs.toNat
      · exact Or.inl ((hconnected hkept).2 hyoung)
      · exact Or.inr (Nat.lt_of_not_le hyoung)
    · intro e r hactive hag hgone
      have hold := (hag.cleanup h.span hactive).1
      rw [hgone] at hold
      exact Nat.lt_of_not_le fun hyoung => absurd (hold.2 hyoung) (by decide)
  | report env src data =>
    obtain ⟨htype, hlen, hsrc⟩ := hdom
    have hkeys : ∀ i, (s.node.receiverTable i).active = true → (s.node.receiverTable i).mac ∈ macs := by
      intro i hi
      obtain ⟨r, hr, -⟩ := h.mirrors.agrees i hi
      exact h.macs _ r hr
    have hnode := onDataRecv_receiverInfo lib (env.at s.time) src h.sender htype hlen
    refine ⟨?_, ?_, ?_, h.since, h.span⟩
    · show (onDataRecv lib (env.at s.time) s.node src data).1.senderModeEnabled = true
      rw [hnode]
      exact h.sender
    · show Heard.Mirrors (onDataRecv lib (env.at s.time) s.node src data).1.receiverTable _ _ _ _ _
      rw [hnode]
      refine h.mirrors.note hkeys hcard hsrc ?_ ?_
      · intro i hi hm
        obtain ⟨r, hr, hag⟩ := h.mirrors.agrees i hi
        obtain ⟨hshows, hversion⟩ := refreshReceiver_shows (env.at s.time).millis
          (e := s.node.receiverTable i) hlen hag.shows.layer_length
        refine ⟨hi, hm, h.since, le_refl _, rfl, hshows, fun hv => ?_, Or.inl rfl⟩
        unfold ShowsVersion
        rw [hversion]
        exact hsame hv i hi hm
      · obtain ⟨hshows, hversion⟩ := registerReceiver_shows (env.at s.time).millis src hlen
        exact ⟨rfl, rfl, h.since, le_refl _, rfl, hshows, fun _ => hversion, Or.inl rfl⟩
    · intro mac r hr
      by_cases hm : mac = src
      · rw [hm]
        exact hsrc
      · refine h.macs mac r ?_
        exact (Function.update_of_ne hm _ _).symm.trans hr

/-- **A report with another version** than the slot has is not shown by the next cleanup. -/
theorem MapInv.not_isMap (h : MapInv versions macs start s) (hcard : macs.card ≤ maxReceivers) {e : ReportEvent}
    (hdom : InDomain macs start s e) (hother : ¬SameVersion s e) : ¬IsMap True (s.step lib e).1.cleanup.1 := by
  cases e with
  | pass ms => exact absurd trivial hother
  | cleanup => exact absurd trivial hother
  | report env src data =>
    obtain ⟨htype, hlen, hsrc⟩ := hdom
    unfold SameVersion at hother
    push Not at hother
    obtain ⟨i, hi, hm, hversion⟩ := hother
    have hnode := onDataRecv_receiverInfo lib (env.at s.time) src h.sender htype hlen
    -- the slot is found, and keeps its version
    have htable : (s.step lib (.report env src data)).1.node.receiverTable i =
        refreshReceiver (UInt32.ofNat s.time) (rxReceiverInfo data) (s.node.receiverTable i) := by
      show (onDataRecv lib (env.at s.time) s.node src data).1.receiverTable i = _
      rw [hnode]
      dsimp only
      obtain ⟨j, hj⟩ := Slots.find_isSome (t := s.node.receiverTable) (p := fun e => e.active && e.mac == src)
        (i := i) (by simp [hi, hm])
      have hfound : (s.node.receiverTable j).active = true ∧ (s.node.receiverTable j).mac = src := by
        simpa using Slots.find_eq_some hj
      have hji : j = i := h.mirrors.unique j i hfound.1 hi (hfound.2.trans hm.symm)
      unfold Heard.note
      rw [hj, hji]
      exact Function.update_self _ _ _
    intro hmap
    -- the entry has just been heard, so the cleanup keeps it
    have hbefore : MapInv False macs start s := by
      refine ⟨h.sender, h.mirrors.mono (fun e r hag => ?_) (fun _ hr => hr), h.macs, h.since, h.span⟩
      exact ⟨hag.since, hag.past, hag.lastSeen, hag.shows, False.elim, hag.connected⟩
    have hplain : MapInv False macs start (s.step lib (.report env src data)).1 :=
      hbefore.step hcard ⟨htype, hlen, hsrc⟩ False.elim
    have hactive : ((s.step lib (.report env src data)).1.node.receiverTable i).active = true := by
      rw [htable]
      exact hi
    obtain ⟨r, hr, hag⟩ := hplain.mirrors.agrees i hactive
    have hlast : (s.step lib (.report env src data)).1.last
        ((s.step lib (.report env src data)).1.node.receiverTable i).mac = some ⟨s.time, data⟩ := by
      rw [htable]
      show Function.update s.last src (some ⟨s.time, data⟩) (s.node.receiverTable i).mac = _
      rw [hm, Function.update_self]
    rw [hlast] at hr
    cases hr
    have hkept := (hag.cleanup hplain.span hactive).1.2 (by
      show s.time - s.time ≤ 10000
      omega)
    obtain ⟨r, hr, -, hshown⟩ := hmap.shows i hkept
    obtain ⟨a, c, heq⟩ := cleanupReceiverEntry_flags (UInt32.ofNat (s.step lib (.report env src data)).1.time)
      ((s.step lib (.report env src data)).1.node.receiverTable i)
    have hentry : (s.step lib (.report env src data)).1.cleanup.1.node.receiverTable i = _ := heq
    rw [hentry] at hr hshown
    have hsame : (some r : Option Report) = some ⟨s.time, data⟩ := hr.symm.trans hlast
    cases hsame
    refine hversion ?_
    have := hshown trivial
    rw [htable] at this
    exact this

end Steps

/-! ## Runs -/

/-- A sender that has heard nobody. -/
theorem idle_mapInv {macs : Finset Mac} {n : Node} (hsender : n.senderModeEnabled = true)
    (hidle : ∀ i, (n.receiverTable i).active = false) (start : ℕ) (versions : Prop) :
    MapInv versions macs start { node := n, time := start } where
  sender := hsender
  mirrors := Heard.Mirrors.of_idle hidle
  macs mac r hr := by cases hr
  since := le_refl _
  span := by
    show start < start + 2 ^ 32
    omega

section Runs

variable (lib : UpdateLib) {macs : Finset Mac} (hcard : macs.card ≤ maxReceivers) {n : Node}
  (hsender : n.senderModeEnabled = true) (hidle : ∀ i, (n.receiverTable i).active = false) {start : ℕ}
  {es : List ReportEvent} (hdom : Mealy.Guarded (Reports.step lib) (InDomain macs start) { node := n, time := start } es)
include hcard hsender hidle hdom

/-- **In all but the version** the table is the map of last reports after every cleanup. -/
theorem reports_map : ∀ pre post, es = pre ++ post →
    IsMap False (Mealy.run (Reports.step lib) { node := n, time := start } pre).1.cleanup.1 := by
  intro pre post heq
  rw [heq, Mealy.guarded_append] at hdom
  have hinv := Mealy.inv_run (MapInv False macs start) (fun s e h hd => h.step hcard hd False.elim)
    (idle_mapInv hsender hidle start False) hdom.1
  exact hinv.isMap

/-- **The table is the map of last reports** at every point of a run, once it is cleaned up, exactly
when no report names another version than its slot. -/
theorem reports_iff :
    (∀ pre post, es = pre ++ post →
        IsMap True (Mealy.run (Reports.step lib) { node := n, time := start } pre).1.cleanup.1) ↔
      Mealy.Guarded (Reports.step lib) SameVersion { node := n, time := start } es := by
  refine Mealy.always_iff_guarded (MapInv True macs start) (fun s => IsMap True s.cleanup.1) ?_ ?_ ?_
    (idle_mapInv hsender hidle start True) hdom
  · exact fun s h => h.isMap
  · exact fun s e h hd hsame => h.step hcard hd fun _ => hsame
  · exact fun s e h hd hother => h.not_isMap hcard hd hother

end Runs

/-! ## A receiver with new firmware -/

/-- A node that boots as a master. -/
def freshMaster : Node := boot wildcardBuild {} nowdeBoardidAtoms3 masterA

/-- What a receiver on layer `a` reports with firmware 2.0.x. -/
def reportOf (patch : UInt8) : List UInt8 :=
  ReceiverInfo.toFrame
    { layer := CharBuf.strncpy 16 [0x61]
      version := CharBuf.strncpy 8 [0x32, 0x2E, 0x30, 0x2E, patch]
      mediaIndex := 5
      syncQuality := nowdeSyncLocked
      syncGaps := 0 }

/-- A receiver reports, is silent for six seconds, and reports again. -/
def sameFirmware : List ReportEvent :=
  [.report { millis := 0 } slaveMac (reportOf 0x33), .pass 6000, .cleanup, .report { millis := 0 } slaveMac (reportOf 0x33)]

/-- It comes back with new firmware. -/
def newFirmware : List ReportEvent :=
  [.report { millis := 0 } slaveMac (reportOf 0x33), .pass 6000, .report { millis := 0 } slaveMac (reportOf 0x34)]

theorem sameFirmware_shown :
    (∀ pre post, sameFirmware = pre ++ post →
        IsMap True (Mealy.run (Reports.step noUpdate) { node := freshMaster, time := 1000 } pre).1.cleanup.1) ↔
      Mealy.Guarded (Reports.step noUpdate) SameVersion { node := freshMaster, time := 1000 } sameFirmware :=
  reports_iff noUpdate (show ({slaveMac} : Finset Mac).card ≤ maxReceivers by decide) (by decide +kernel) (by decide +kernel) (by decide +kernel)

/-- **The old version stays.** -/
theorem newFirmware_notShown :
    ¬∀ (lib : UpdateLib) (macs : Finset Mac) (n : Node) (start : ℕ) (es : List ReportEvent),
      macs.card ≤ maxReceivers → n.senderModeEnabled = true → (∀ i, (n.receiverTable i).active = false) →
        Mealy.Guarded (Reports.step lib) (InDomain macs start) { node := n, time := start } es →
          ∀ pre post, es = pre ++ post →
            IsMap True (Mealy.run (Reports.step lib) { node := n, time := start } pre).1.cleanup.1 := by
  intro hall
  have hmap := hall noUpdate {slaveMac} freshMaster 1000 newFirmware (by decide) (by decide +kernel)
    (by decide +kernel) (by decide +kernel) newFirmware [] (List.append_nil _).symm
  obtain ⟨r, hr, -, hversion⟩ := hmap.shows ⟨0, by decide⟩ (by decide +kernel)
  have hmac : ((Mealy.run (Reports.step noUpdate) { node := freshMaster, time := 1000 }
      newFirmware).1.cleanup.1.node.receiverTable ⟨0, by decide⟩).mac = slaveMac := by decide +kernel
  have hlast : (Mealy.run (Reports.step noUpdate) { node := freshMaster, time := 1000 } newFirmware).1.cleanup.1.last
      slaveMac = some ⟨7000, reportOf 0x34⟩ := by decide +kernel
  rw [hmac] at hr
  have hsome : some r = some (⟨7000, reportOf 0x34⟩ : Report) := hr.symm.trans hlast
  cases hsome
  have hshown := hversion trivial
  revert hshown
  unfold ShowsVersion
  decide +kernel

end Nowde
