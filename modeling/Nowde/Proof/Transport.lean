import Nowde.Proof.StopPolicy

/-!
# Start and Stop follow the transport

A slave tells its host Start and Stop on edges of the state byte, and the edges are `0 → 1` and
`1 → 0` only. Whatever else a packet says, `currentState` becomes its state byte. So the host is in
step exactly as long as no packet leaves 1 for, or enters it from, a byte that is neither, and
none repeats the Stop of a first contact.

* `follows_step_iff`: what each kind of edge does to a host in step.
* `transport_iff`: a run keeps the host in step exactly when every packet's edge is seen.
-/

namespace Nowde

/-! ## The receive path as a machine -/

/-- What a slave's receive path and clock see. -/
inductive ReceiverEvent
  | packet (env : Env) (origin : Mac) (data : List UInt8)
  | tick (now : UInt32)

/-- A packet handled, or one round of the receiver part of `espnowTask`. -/
def receiverStep (r : Receiver) : ReceiverEvent → Receiver × List HostMsg
  | .packet env origin data => processMediaSyncPacket env r origin data
  | .tick now => receiverTick now r

/-! ## A host in step -/

/-- A Start or a Stop. -/
def HostMsg.isTransport : HostMsg → Bool
  | .start => true
  | .stop => true
  | _ => false

/-- The Starts and Stops of a record. -/
def transport (log : List HostMsg) : List HostMsg := log.filter HostMsg.isTransport

/-- No Start or Stop. -/
def NoTransport (log : List HostMsg) : Prop := ∀ m ∈ log, m.isTransport = false

/-- **The host is in step**: Start and Stop alternate, the last was Start exactly while the master
plays, and each Stop came right after `CC#100 = 0`. -/
structure InStep (r : Receiver) (log : List HostMsg) : Prop where
  alternate : (transport log).IsChain (· ≠ ·)
  told : (transport log).getLast? = some .start ↔ r.mediaSyncState.currentState = 1
  cleared : ∀ before after, log = before ++ .stop :: after → before.getLast? = some (.cc 100 0)

/-- What an event does to the transport. -/
inductive Edge
  | keep
  | start
  | stop

/-- The messages of an edge. -/
def Edge.messages : Edge → List HostMsg
  | keep => []
  | start => [.start]
  | stop => [.cc 100 0, .stop]

/-- When an edge keeps a host in step, given the last Start or Stop and the state before and after. -/
def Edge.Fits (last : Option HostMsg) (before after : UInt8) : Edge → Prop
  | keep => after = 1 ↔ before = 1
  | start => last ≠ some .start ∧ after = 1
  | stop => last ≠ some .stop ∧ after ≠ 1

section Records

variable {log out : List HostMsg}

theorem transport_append (log out : List HostMsg) : transport (log ++ out) = transport log ++ transport out :=
  List.filter_append _ _

theorem NoTransport.transport (h : NoTransport log) : transport log = [] :=
  List.filter_eq_nil_iff.2 fun m hm => by simp [h m hm]

theorem NoTransport.not_stop (h : NoTransport log) : HostMsg.stop ∉ log := by
  intro hmem
  exact absurd (h _ hmem) (by decide)

theorem Edge.transport_messages (e : Edge) : Nowde.transport e.messages =
    match e with
    | .keep => []
    | .start => [.start]
    | .stop => [.stop] := by
  cases e <;> rfl

/-- Where the Stop stands in a record that grows. -/
def Cleared (log : List HostMsg) : Prop :=
  ∀ before after, log = before ++ .stop :: after → before.getLast? = some (.cc 100 0)

theorem Cleared.append_quiet (h : Cleared log) (hq : NoTransport out) : Cleared (log ++ out) := by
  intro before after heq
  rcases List.append_eq_append_iff.1 heq with ⟨mid, rfl, hmid⟩ | ⟨mid, hmid, hout⟩
  · -- the Stop would be among the quiet messages
    have hmem : HostMsg.stop ∈ out := by
      rw [hmid]
      simp
    exact absurd hmem hq.not_stop
  · rcases mid with _ | ⟨m, mid⟩
    · have hmem : HostMsg.stop ∈ out := by
        rw [List.nil_append] at hout
        rw [← hout]
        simp
      exact absurd hmem hq.not_stop
    · rw [List.cons_append] at hout
      obtain ⟨rfl, -⟩ := List.cons.inj hout
      exact h before mid hmid

theorem Cleared.append_edge (h : Cleared log) (e : Edge) : Cleared (log ++ e.messages) := by
  cases e with
  | keep => simpa [Edge.messages] using h
  | start =>
    intro before after heq
    rcases List.eq_nil_or_concat after with rfl | ⟨front, last, rfl⟩
    · have hlast : [HostMsg.start] = [HostMsg.stop] := (List.append_inj' heq rfl).2
      simp at hlast
    · have hcut : log ++ [HostMsg.start] = (before ++ .stop :: front) ++ [last] := by simpa [Edge.messages] using heq
      exact h before front (List.append_inj' hcut rfl).1
  | stop =>
    intro before after heq
    have hlong : log ++ [.cc 100 0] ++ [HostMsg.stop] = before ++ .stop :: after := by
      simpa [Edge.messages] using heq
    -- the new Stop is the last message, right behind its `CC#100 = 0`; any other is of the record
    rcases List.eq_nil_or_concat after with rfl | ⟨front, last, rfl⟩
    · rw [← (List.append_inj' hlong rfl).1]
      simp
    · have hcut : log ++ [.cc 100 0] ++ [HostMsg.stop] = (before ++ .stop :: front) ++ [last] := by
        simpa using hlong
      have hshort : Cleared (log ++ [.cc 100 0]) := h.append_quiet (by simp [NoTransport, HostMsg.isTransport])
      exact hshort before front (List.append_inj' hcut rfl).1

end Records

/-- **One event on a host in step.** -/
theorem follows_step_iff {r r' : Receiver} {log out pre post : List HostMsg} {e : Edge} (h : InStep r log)
    (hout : out = pre ++ e.messages ++ post) (hpre : NoTransport pre) (hpost : NoTransport post) :
    InStep r' (log ++ out) ↔
      e.Fits (transport log).getLast? r.mediaSyncState.currentState r'.mediaSyncState.currentState := by
  have htransport : transport (log ++ out) = transport log ++ transport e.messages := by
    rw [hout, transport_append, transport_append, transport_append, hpre.transport, hpost.transport]
    simp
  have hcleared : Cleared (log ++ out) := by
    rw [hout, ← List.append_assoc, ← List.append_assoc]
    exact ((Cleared.append_quiet h.cleared hpre).append_edge e).append_quiet hpost
  have hrest : InStep r' (log ++ out) ↔ (transport log ++ transport e.messages).IsChain (· ≠ ·) ∧
      ((transport log ++ transport e.messages).getLast? = some .start ↔ r'.mediaSyncState.currentState = 1) := by
    rw [← htransport]
    exact ⟨fun h => ⟨h.alternate, h.told⟩, fun h => ⟨h.1, h.2, hcleared⟩⟩
  rw [hrest, List.isChain_append, Edge.transport_messages]
  have htold := h.told
  have halt := h.alternate
  cases e with
  | keep =>
    simp only [Edge.Fits, List.append_nil, htold]
    simp [halt]
    exact Iff.intro Iff.symm Iff.symm
  | start =>
    have hends : ∀ last, (∀ x ∈ last, ∀ y ∈ [HostMsg.start].head?, x ≠ y) ↔ last ≠ some HostMsg.start := by
      intro last
      cases last <;> simp
    simp only [Edge.Fits, List.getLast?_concat, halt, hends]
    simp
  | stop =>
    have hends : ∀ last, (∀ x ∈ last, ∀ y ∈ [HostMsg.stop].head?, x ≠ y) ↔ last ≠ some HostMsg.stop := by
      intro last
      cases last <;> simp
    simp only [Edge.Fits, List.getLast?_concat, halt, hends]
    simp

/-! ## One event -/

section OneEvent

variable (env : Env) (hasVolume : Bool) (p : MediaSyncPacket) (ms : MediaSyncState)

/-- The edge a packet makes of the state it meets. -/
def packetEdge : Edge :=
  if ms.currentState = 0 ∧ p.state = 1 then .start else if toStopped p ms then .stop else .keep

theorem sendIndexChange_noTransport : NoTransport (sendIndexChange env p ms).2 := by
  unfold sendIndexChange
  split <;> simp [NoTransport, HostMsg.isTransport]

theorem sendVolume_noTransport : NoTransport (sendVolume env hasVolume p ms).2 := by
  unfold sendVolume
  dsimp only
  split_ifs <;> simp [NoTransport, HostMsg.isTransport]

theorem sendTransition_edge (a b : Bool) : ∃ pre post, NoTransport pre ∧ NoTransport post ∧
    (sendTransition env p a b ms).2 =
      pre ++ (if a then Edge.start else if b then Edge.stop else Edge.keep).messages ++ post := by
  unfold sendTransition
  split_ifs
  · exact ⟨[.fullFrame (compensatedPositionMs env p)], [], by simp [NoTransport, HostMsg.isTransport],
      by simp [NoTransport], rfl⟩
  · exact ⟨[], [], by simp [NoTransport], by simp [NoTransport], rfl⟩
  · exact ⟨[.cc 100 ms.currentIndex], [], by simp [NoTransport, HostMsg.isTransport], by simp [NoTransport], rfl⟩
  · exact ⟨[], [], by simp [NoTransport], by simp [NoTransport], rfl⟩

/-- **A packet followed** makes its edge, and no other Start or Stop. -/
theorem followPacket_edge : ∃ pre post, NoTransport pre ∧ NoTransport post ∧
    (followPacket env hasVolume p ms).2 = pre ++ (packetEdge p ms).messages ++ post := by
  have hjump : NoTransport (if jumped env p ms then [.fullFrame (compensatedPositionMs env p)] else []) := by
    split <;> simp [NoTransport, HostMsg.isTransport]
  have hjoin : ∀ l l' : List HostMsg, NoTransport l → NoTransport l' → NoTransport (l ++ l') := by
    intro l l' h h' m hm
    rcases List.mem_append.1 hm with hm | hm
    · exact h m hm
    · exact h' m hm
  have hindex := sendIndexChange_noTransport env p (updateSyncState env p ms)
  have hvolume := sendVolume_noTransport env hasVolume p (sendIndexChange env p (updateSyncState env p ms)).1
  have hout : (followPacket env hasVolume p ms).2 =
      (sendIndexChange env p (updateSyncState env p ms)).2 ++
        (if jumped env p ms then [.fullFrame (compensatedPositionMs env p)] else []) ++
        (sendVolume env hasVolume p (sendIndexChange env p (updateSyncState env p ms)).1).2 ++
        (sendTransition env p (ms.currentState = 0 ∧ p.state = 1 : Bool) (toStopped p ms)
          (sendVolume env hasVolume p (sendIndexChange env p (updateSyncState env p ms)).1).1).2 := rfl
  obtain ⟨pre, post, hpre, hpost, heq⟩ := sendTransition_edge env p
    (sendVolume env hasVolume p (sendIndexChange env p (updateSyncState env p ms)).1).1
    (ms.currentState = 0 ∧ p.state = 1 : Bool) (toStopped p ms)
  have hfront := hjoin _ _ (hjoin _ _ (hjoin _ _ hindex hjump) hvolume) hpre
  refine ⟨_, post, hfront, hpost, ?_⟩
  rw [hout, heq]
  simp only [packetEdge, decide_eq_true_eq, List.append_assoc]

theorem followPacket_state : (followPacket env hasVolume p ms).1.currentState = p.state := by
  obtain ⟨i, t, v, w, u, hf⟩ := followPacket_eq env hasVolume p ms
  rw [hf]
  rfl

/-- A packet's edge is one the host is told of. -/
def EdgeSeen (last : Option HostMsg) (p : MediaSyncPacket) (ms : MediaSyncState) : Prop :=
  (ms.currentState = 1 → p.state = 0 ∨ p.state = 1) ∧ (p.state = 1 → ms.currentState = 0 ∨ ms.currentState = 1) ∧
    (ms.lastSentIndex = 255 → p.state = 0 → p.mediaIndex = 0 → ms.currentState ≠ 1 → last ≠ some .stop)

theorem packetEdge_fits {last : Option HostMsg} (htold : last = some .start ↔ ms.currentState = 1) :
    (packetEdge p ms).Fits last ms.currentState p.state ↔ EdgeSeen last p ms := by
  have h01 : (0 : UInt8) ≠ 1 := by decide
  unfold packetEdge EdgeSeen toStopped
  simp only [Bool.or_eq_true, decide_eq_true_eq]
  split_ifs with hstart hstop
  · obtain ⟨hc, hp⟩ := hstart
    simp [Edge.Fits, htold, hc, hp]
  · rcases hstop with ⟨hc, hp⟩ | ⟨hl, hp, hi⟩
    · have hlast : last = some .start := htold.2 hc
      simp [Edge.Fits, hc, hp, hlast]
    · -- a first contact with a master at rest: the Stop is right unless it repeats one
      by_cases hc : ms.currentState = 1
      · have hlast : last = some .start := htold.2 hc
        simp [Edge.Fits, hc, hp, hlast]
      · simp [Edge.Fits, hc, hp, hl, hi]
  · -- no edge: the state byte must not enter or leave 1
    obtain ⟨hplaying, hfirst⟩ := not_or.1 hstop
    simp only [Edge.Fits]
    constructor
    · intro hsame
      refine ⟨fun hc => Or.inr (hsame.2 hc), fun hp => Or.inr (hsame.1 hp), ?_⟩
      exact fun hl hp hi => absurd ⟨hl, hp, hi⟩ hfirst
    · rintro ⟨hstops, hstarts, -⟩
      refine ⟨fun hp => ?_, fun hc => ?_⟩
      · exact (hstarts hp).resolve_left fun hc => hstart ⟨hc, hp⟩
      · exact (hstops hc).resolve_left fun hp => hplaying ⟨hc, hp⟩

end OneEvent

/-! ## Runs -/

/-- The edge an event makes. -/
def eventEdge (r : Receiver) : ReceiverEvent → Edge
  | .packet env origin data =>
    if Accepts env r origin data then packetEdge (MediaSyncPacket.ofFrame data) r.mediaSyncState else .keep
  | .tick now => if LinkStops now r.mediaSyncState then .stop else .keep

/-- An accepted packet makes an edge the host is told of. -/
def TransportSeen (s : Receiver × List HostMsg) : ReceiverEvent → Prop
  | .packet env origin data =>
    Accepts env s.1 origin data →
      EdgeSeen (transport s.2).getLast? (MediaSyncPacket.ofFrame data) s.1.mediaSyncState
  | .tick _ => True

/-- What the origin lock and the delivery counter leave alone. -/
theorem counted_transport {env : Env} {r : Receiver} {origin : Mac} {data : List UInt8} (p : MediaSyncPacket)
    (h : Accepts env r origin data) :
    let ms := countGap data.length p (originAccepts env.millis r origin).1.mediaSyncState
    ms.currentState = r.mediaSyncState.currentState ∧ ms.lastSentIndex = r.mediaSyncState.lastSentIndex := by
  obtain ⟨g, s, b, hcount⟩ := countGap_eq p (originAccepts env.millis r origin).1.mediaSyncState data.length
  obtain ⟨b', hlock⟩ : ∃ b', (originAccepts env.millis r origin).1.mediaSyncState =
      { r.mediaSyncState with haveSeq := b' } := by
    rcases (originAccepts_spec (originAccepts_iff.2 h.2.2)).2.2.2.2.2 with ⟨hsame, -⟩ | hfresh
    · exact ⟨r.mediaSyncState.haveSeq, hsame⟩
    · exact ⟨false, hfresh⟩
  dsimp only
  rw [hcount, hlock]
  exact ⟨rfl, rfl⟩

theorem receiverTick_edge (now : UInt32) (r : Receiver) : ∃ post, NoTransport post ∧
    (receiverTick now r).2 = (eventEdge r (.tick now)).messages ++ post ∧
    (receiverTick now r).1.mediaSyncState.currentState =
      if LinkStops now r.mediaSyncState then 0 else r.mediaSyncState.currentState := by
  obtain ⟨hstate, hout⟩ := checkLinkLost_stops now r.mediaSyncState
  refine ⟨(generateMtc now (checkLinkLost now r.mediaSyncState).1).2, ?_, ?_, ?_⟩
  · unfold generateMtc
    split <;> simp [NoTransport, HostMsg.isTransport]
  · unfold receiverTick eventEdge
    dsimp only
    rw [hout]
    split <;> rfl
  · exact (generateMtc_plays now _).1.trans hstate

/-- **One event keeps the host in step exactly when its edge is seen.** -/
theorem inStep_step_iff {r : Receiver} {log : List HostMsg} (h : InStep r log) (e : ReceiverEvent) :
    InStep (receiverStep r e).1 (log ++ (receiverStep r e).2) ↔ TransportSeen (r, log) e := by
  cases e with
  | packet env origin data =>
    unfold receiverStep TransportSeen
    dsimp only
    by_cases hacc : Accepts env r origin data
    · obtain ⟨hcur, hsent⟩ := counted_transport (MediaSyncPacket.ofFrame data) hacc
      rw [processMediaSyncPacket_of_accepts hacc]
      dsimp only at hcur hsent ⊢
      set ms := countGap data.length (MediaSyncPacket.ofFrame data)
        (originAccepts env.millis r origin).1.mediaSyncState
      obtain ⟨pre, post, hpre, hpost, heq⟩ := followPacket_edge env (data.length ≥ mediaSyncVolumeLen)
        (MediaSyncPacket.ofFrame data) ms
      rw [follows_step_iff h heq hpre hpost, followPacket_state, ← hcur,
        packetEdge_fits _ _ (by rw [hcur]; exact h.told)]
      unfold EdgeSeen
      rw [hcur, hsent]
      exact ⟨fun hseen _ => hseen, fun hseen => hseen hacc⟩
    · rw [processMediaSyncPacket_of_not_accepts hacc]
      simp [h, hacc]
  | tick now =>
    obtain ⟨post, hpost, heq, hstate⟩ := receiverTick_edge now r
    unfold receiverStep TransportSeen
    dsimp only
    have hnone : NoTransport [] := by simp [NoTransport]
    have heq' : (receiverTick now r).2 = [] ++ (eventEdge r (.tick now)).messages ++ post := heq
    rw [follows_step_iff h heq' hnone hpost, hstate]
    refine iff_true_intro ?_
    unfold eventEdge
    by_cases hstops : LinkStops now r.mediaSyncState
    · have hlast : (transport log).getLast? = some .start := h.told.2 hstops.1
      simp [hstops, Edge.Fits, hlast]
    · simp [hstops, Edge.Fits]

/-- A host that has heard nothing, of a slave fresh from boot. -/
theorem inStep_boot (build : Build) (nvs : Nvs) (boardId : UInt8) (mac : Mac) :
    InStep (boot build nvs boardId mac).receiver [] := by
  have hidle : (boot build nvs boardId mac).receiver.mediaSyncState.currentState = 0 := by
    unfold boot applyRole
    dsimp only
    split_ifs <;> rfl
  refine ⟨List.IsChain.nil, ?_, ?_⟩
  · rw [hidle]
    simp [transport]
  · intro before after heq
    simp at heq

/-- **Start and Stop follow the transport of a run exactly when every accepted packet's edge is seen.** -/
theorem transport_iff (build : Build) (nvs : Nvs) (boardId : UInt8) (mac : Mac) (es : List ReceiverEvent) :
    let r := (boot build nvs boardId mac).receiver
    (∀ pre post, es = pre ++ post →
        InStep (Mealy.run receiverStep r pre).1 (Mealy.run receiverStep r pre).2) ↔
      Mealy.Guarded (Mealy.logged receiverStep) TransportSeen (r, []) es := by
  intro r
  have hiff : (∀ pre post, es = pre ++ post →
      InStep (Mealy.run (Mealy.logged receiverStep) (r, []) pre).1.1
        (Mealy.run (Mealy.logged receiverStep) (r, []) pre).1.2) ↔
      Mealy.Guarded (Mealy.logged receiverStep) TransportSeen (r, []) es :=
    Mealy.always_iff_guarded (D := fun _ _ => True) (fun s : Receiver × List HostMsg => InStep s.1 s.2)
      (fun s => InStep s.1 s.2)
      (fun _ h => h) (fun s e h _ hg => (inStep_step_iff h e).2 hg)
      (fun s e h _ hg hs => hg ((inStep_step_iff h e).1 hs)) (inStep_boot build nvs boardId mac)
      (Mealy.guarded_of_forall (fun _ _ => trivial) _ _)
  rw [← hiff]
  simp only [Mealy.run_logged, List.nil_append]

/-! ## A master that says neither -/

/-- The master plays clip 5 and then sends the state byte 2. -/
def playThenPause : List ReceiverEvent :=
  [.packet { millis := 1000 } masterA (clip 5 1 1).toFrame, .packet { millis := 1100 } masterA (clip 5 2 2).toFrame]

/-- **The host plays on.** After `playThenPause` the slave's clock stands still, and the host was
told Start and nothing after it. -/
theorem playThenPause_playsOn :
    ¬∀ (build : Build) (nvs : Nvs) (boardId : UInt8) (mac : Mac) (es : List ReceiverEvent),
      ∀ pre post, es = pre ++ post →
        InStep (Mealy.run receiverStep (boot build nvs boardId mac).receiver pre).1
          (Mealy.run receiverStep (boot build nvs boardId mac).receiver pre).2 := by
  intro hall
  have hstep := hall wildcardBuild {} nowdeBoardidAtoms3Lite slaveMac playThenPause playThenPause [] (by simp)
  have hlast : (transport (Mealy.run receiverStep (boot wildcardBuild {} nowdeBoardidAtoms3Lite slaveMac).receiver
      playThenPause).2).getLast? = some .start := by
    decide +kernel
  have hstate : (Mealy.run receiverStep (boot wildcardBuild {} nowdeBoardidAtoms3Lite slaveMac).receiver
      playThenPause).1.mediaSyncState.currentState ≠ 1 := by
    decide +kernel
  exact hstate (hstep.told.1 hlast)

end Nowde
