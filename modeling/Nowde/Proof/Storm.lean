import Nowde.Proof.Authentic
import Nowde.Lib.Cascade

/-!
# No flooding storm

Where each node hears each transmission at most once, and not its own, a node forwards a
transmission at most once: what it heard is in one pending slot until it is sent. So a broadcast
brings about no more forwards than three hops allow, whatever the dedup tables hold.

* `Spread`: the invariant: pending slots and forwards on the air come from distinct deliveries.
* `storm_bounded`: a broadcast is forwarded at most `(N-1) + (N-1)² + (N-1)³` times in all, and a
  run has at most that many forwards for each packet minted in it or before.
-/

namespace Nowde

namespace Mesh

variable {ι : Type*}

/-- The transmissions that pass a test. -/
def those (s : Mesh ι) (test : Transmission ι → Bool) : Finset ℕ :=
  (Finset.range s.air.length).filter fun k => s.air[k]?.any test

/-- The `0x05` frames transmitted. -/
def relays (s : Mesh ι) : Finset ℕ := s.those Transmission.isRelay

/-- The `0x03` frames transmitted. -/
def broadcasts (s : Mesh ι) : Finset ℕ := s.those Transmission.isMedia

/-- The forwards brought about by a transmission, directly or through other nodes. -/
def causedBy (s : Mesh ι) (k : ℕ) : Finset ℕ := s.those fun tx => tx.isRelay && decide (k ∈ tx.trail)

/-- A node hears a transmission at most once, and not its own. -/
def HeardOnce [DecidableEq ι] (s : Mesh ι) : MeshEvent ι → Prop
  | .deliver k b _ => (k, b) ∉ s.heard ∧ ∀ tx ∈ s.air[k]?, tx.sender ≠ b
  | _ => True

instance [DecidableEq ι] (s : Mesh ι) : ∀ me, Decidable (s.HeardOnce me)
  | .deliver k b _ => inferInstanceAs (Decidable ((k, b) ∉ s.heard ∧ ∀ tx ∈ s.air[k]?, tx.sender ≠ b))
  | .pass _ _ | .usb _ _ _ | .task _ _ => inferInstanceAs (Decidable True)

theorem mem_those {s : Mesh ι} {test : Transmission ι → Bool} {k : ℕ} :
    k ∈ s.those test ↔ ∃ tx, s.air[k]? = some tx ∧ test tx = true := by
  unfold those
  rw [Finset.mem_filter, Finset.mem_range]
  constructor
  · rintro ⟨hlt, htest⟩
    exact ⟨s.air[k], List.getElem?_eq_getElem hlt, by simpa [hlt] using htest⟩
  · rintro ⟨tx, hk, htest⟩
    exact ⟨(List.getElem?_eq_some_iff.1 hk).1, by simpa [hk] using htest⟩

/-! ## Each delivery is answered once -/

/-- Pending slots and forwards on the air come from distinct deliveries, to other nodes than the sender. -/
structure Spread (s : Mesh ι) : Prop extends s.Authentic where
  slots : ∀ b i i', (s.pending b i).active = true → (s.pending b i').active = true →
    (s.trail b i).head? = (s.trail b i').head? → i = i'
  fresh : ∀ b i, (s.pending b i).active = true → ∀ tx ∈ s.air, tx.isRelay = true → tx.sender = b →
    tx.trail.head? ≠ (s.trail b i).head?
  apart : s.air.Pairwise fun x y =>
    x.isRelay = true → y.isRelay = true → x.sender = y.sender → x.trail.head? ≠ y.trail.head?
  slotOther : ∀ b i, (s.pending b i).active = true → ∀ j ∈ (s.trail b i).head?, ∀ tx ∈ s.air[j]?, tx.sender ≠ b
  relayOther : ∀ x ∈ s.air, x.isRelay = true → ∀ j ∈ x.trail.head?, ∀ tx ∈ s.air[j]?, tx.sender ≠ x.sender

theorem Silent.spread {s : Mesh ι} (h : s.Silent) : s.Spread where
  toAuthentic := h.authentic
  slots b i _ hi := by
    rw [h.idle b i] at hi
    cases hi
  fresh b i hi := by
    rw [h.idle b i] at hi
    cases hi
  apart := by
    apply List.pairwise_of_forall_mem_list
    intro x hx y _ hrelay
    rw [h.noRelay x hx] at hrelay
    cases hrelay
  slotOther b i hi := by
    rw [h.idle b i] at hi
    cases hi
  relayOther x hx hrelay := by
    rw [h.noRelay x hx] at hrelay
    cases hrelay

section Heard

variable {s : Mesh ι}

/-- What is pending comes from a delivery to the node. -/
theorem Authentic.slot_heard (h : s.Authentic) {b : ι} {i : Fin maxPendingRelays}
    (hi : (s.pending b i).active = true) :
    ∃ j, (s.trail b i).head? = some j ∧ (j, b) ∈ s.heard ∧ j < s.air.length := by
  obtain ⟨a, p, j, rest, hholds⟩ := h.pending b i hi
  refine ⟨j, ?_, hholds.heard, hholds.carries.lt_length⟩
  rw [hholds.trail, List.head?_cons]

/-- So does a forward on the air. -/
theorem Authentic.relay_heard (h : s.Authentic) {k : ℕ} {tx : Transmission ι} (hk : s.air[k]? = some tx)
    (hrelay : tx.isRelay = true) :
    ∃ j, tx.trail.head? = some j ∧ (j, tx.sender) ∈ s.heard ∧ j < k := by
  obtain ⟨a, p, -, hne, -, hcarries⟩ := h.relayed k tx hk hrelay
  obtain ⟨j, rest, htrail⟩ := List.exists_cons_of_ne_nil hne
  rw [htrail] at hcarries
  obtain ⟨-, -, hlt, hheard⟩ := hcarries.forward hk
  refine ⟨j, ?_, hheard, hlt⟩
  rw [htrail, List.head?_cons]

end Heard

section Handle

variable [DecidableEq ι] {lib : UpdateLib} {build : Build} {s : Mesh ι} {b : ι} {te : TaskEvent} {trail : List ℕ}

/-- What comes along the trail was not heard by the node before, and is not its own. -/
def Unheard (s : Mesh ι) (b : ι) (trail : List ℕ) : Prop :=
  ∀ j ∈ trail.head?, (j, b) ∉ s.heard ∧ ∀ tx ∈ s.air[j]?, tx.sender ≠ b

/-- A slot in use after an event at `b` was in use, or it is the one filled, at `b`. -/
theorem slot_cases (h : s.Authentic) (hdelivers : s.Delivers te trail) {b' : ι} {i : Fin maxPendingRelays}
    (hi : ((s.handle lib build b te trail).1.pending b' i).active = true) :
    ((s.pending b' i).active = true ∧ (s.handle lib build b te trail).1.trail b' i = s.trail b' i) ∨
      b' = b ∧ ∃ k, trail.head? = some k ∧ k < s.air.length ∧
        (s.handle lib build b te trail).1.trail b' i = trail ∧
        ∀ i', i' ≠ i → ((s.handle lib build b te trail).1.pending b i').active = true →
          (s.pending b i').active = true ∧ (s.handle lib build b te trail).1.trail b i' = s.trail b i' := by
  rcases handle_slot lib build s b te trail (h.delays b) hi with
    ⟨hpending, htrail⟩ | ⟨rfl, e, src, data, c, old, hte, -, -, -, -, htrail, hrest⟩
  · rw [hpending] at hi
    exact Or.inl ⟨hi, htrail⟩
  · obtain ⟨k, tx, hk, -, -, hroute⟩ := hdelivers e src data hte
    refine Or.inr ⟨rfl, k, ?_, (List.getElem?_eq_some_iff.1 hk).1, htrail, fun i' hne hi' => ?_⟩
    · rw [hroute, List.head?_cons]
    · obtain ⟨hpending, hkept⟩ := hrest i' hne hi'
      rw [hpending] at hi'
      exact ⟨hi', hkept⟩

/-- A forward put on the air leaves its slot idle. -/
theorem relay_cases (h : s.Authentic) {tx : Transmission ι} (htx : tx ∈ (s.handle lib build b te trail).2)
    (hrelay : tx.isRelay = true) :
    ∃ i, (s.pending b i).active = true ∧ tx = firing b (s.trail b) (s.pending b) i ∧
      ∀ i', ((s.handle lib build b te trail).1.pending b i').active = true →
        i' ≠ i ∧ (s.pending b i').active = true ∧ (s.handle lib build b te trail).1.trail b i' = s.trail b i' := by
  obtain ⟨i, hi, hfiring, hrest⟩ := (handle_turn lib build s b te trail (h.delays b)).relay htx hrelay
  refine ⟨i, hi, hfiring, fun i' hi' => ?_⟩
  obtain ⟨hne, hpending, htrail⟩ := hrest i' hi'
  rw [hpending] at hi'
  exact ⟨hne, hi', htrail⟩

/-- Each slot in use still has a delivery of its own. -/
theorem Spread.handle_slots (h : s.Spread) (hdelivers : s.Delivers te trail) (hunheard : s.Unheard b trail) {b' : ι}
    {i i' : Fin maxPendingRelays} (hi : ((s.handle lib build b te trail).1.pending b' i).active = true)
    (hi' : ((s.handle lib build b te trail).1.pending b' i').active = true)
    (heq : ((s.handle lib build b te trail).1.trail b' i).head? =
      ((s.handle lib build b te trail).1.trail b' i').head?) : i = i' := by
  rcases slot_cases h.toAuthentic hdelivers hi with ⟨hwas, htrail⟩ | ⟨rfl, k, hk, -, htrail, hrest⟩
  · rcases slot_cases h.toAuthentic hdelivers hi' with ⟨hwas', htrail'⟩ | ⟨rfl, k, hk, -, htrail', -⟩
    · rw [htrail, htrail'] at heq
      exact h.slots b' i i' hwas hwas' heq
    · -- the other slot holds what the node had heard, this one what it had not
      obtain ⟨j, hj, hheard, -⟩ := h.slot_heard hwas
      rw [htrail, htrail', hk, hj] at heq
      cases heq
      exact absurd hheard (hunheard k hk).1
  · by_cases hii : i' = i
    · exact hii.symm
    · obtain ⟨hwas', htrail'⟩ := hrest i' hii hi'
      obtain ⟨j, hj, hheard, -⟩ := h.slot_heard hwas'
      rw [htrail, htrail', hk, hj] at heq
      cases heq
      exact absurd hheard (hunheard k hk).1

/-- What is pending has not been sent. -/
theorem Spread.handle_fresh (h : s.Spread) (hdelivers : s.Delivers te trail) (hunheard : s.Unheard b trail) {b' : ι}
    {i : Fin maxPendingRelays} (hi : ((s.handle lib build b te trail).1.pending b' i).active = true)
    {tx : Transmission ι} (htx : tx ∈ (s.handle lib build b te trail).1.air) (hrelay : tx.isRelay = true)
    (hsender : tx.sender = b') : tx.trail.head? ≠ ((s.handle lib build b te trail).1.trail b' i).head? := by
  rcases List.mem_append.1 htx with hbefore | hsent
  · rcases slot_cases h.toAuthentic hdelivers hi with ⟨hwas, htrail⟩ | ⟨rfl, k, hk, -, htrail, -⟩
    · rw [htrail]
      exact h.fresh b' i hwas tx hbefore hrelay hsender
    · obtain ⟨n, hn⟩ := List.mem_iff_getElem?.1 hbefore
      obtain ⟨j, hj, hheard, -⟩ := h.relay_heard hn hrelay
      rw [htrail, hk, hj]
      intro heq
      cases heq
      rw [hsender] at hheard
      exact (hunheard k hk).1 hheard
  · -- sent just now, from a slot that is idle since
    obtain ⟨i₀, hi₀, hfiring, hrest⟩ := relay_cases h.toAuthentic hsent hrelay
    have hb : b' = b := by
      rw [← hsender, hfiring]
      rfl
    rw [hb] at hi ⊢
    obtain ⟨hne, hwas, htrail⟩ := hrest i hi
    rw [hfiring, htrail]
    intro heq
    exact hne (h.slots b i i₀ hwas hi₀ heq.symm)

/-- Forwards sent together come from slots of their own. -/
theorem Spread.sent_apart (h : s.Spread) : (s.handle lib build b te trail).2.Pairwise fun x y =>
    x.isRelay = true → y.isRelay = true → x.sender = y.sender → x.trail.head? ≠ y.trail.head? := by
  have hturn := handle_turn lib build s b te trail (h.delays b)
  generalize s.handle lib build b te trail = r at hturn
  have hnone : ∀ {out : List Out}, NoForward out → (transmissions b [] out).Pairwise fun x y =>
      x.isRelay = true → y.isRelay = true → x.sender = y.sender → x.trail.head? ≠ y.trail.head? := by
    intro out hout
    apply List.pairwise_of_forall_mem_list
    intro x hx y _ hrelay
    rw [isRelay_of_noForward hout hx] at hrelay
    cases hrelay
  cases hturn with
  | keep _ hout hsent =>
    rw [hsent]
    exact hnone hout
  | fill i old _ _ _ _ _ _ hout hsent =>
    rw [hsent]
    exact hnone hout
  | fire _ _ hsent =>
    rw [hsent, List.pairwise_map]
    have hnodup : ((s.node b).node.relay.dueSlots (millisAt (s.node b).time)).Nodup :=
      (List.nodup_finRange _).filter _
    refine hnodup.imp_of_mem ?_
    intro i i' hi hi' hne _ _ _ heq
    have hdue := (List.mem_filter.1 hi).2
    have hdue' := (List.mem_filter.1 hi').2
    exact hne (h.slots b i i' (PendingRelay.active_of_due hdue) (PendingRelay.active_of_due hdue') heq)

/-- What is pending was not heard from the node itself. -/
theorem Spread.handle_slotOther (h : s.Spread) (hdelivers : s.Delivers te trail) (hunheard : s.Unheard b trail) {b' : ι}
    {i : Fin maxPendingRelays} (hi : ((s.handle lib build b te trail).1.pending b' i).active = true) {j : ℕ}
    (hj : j ∈ ((s.handle lib build b te trail).1.trail b' i).head?) {tx : Transmission ι}
    (htx : tx ∈ (s.handle lib build b te trail).1.air[j]?) : tx.sender ≠ b' := by
  rcases slot_cases h.toAuthentic hdelivers hi with ⟨hwas, htrail⟩ | ⟨rfl, k, hk, hlt, htrail, -⟩
  · rw [htrail] at hj
    obtain ⟨j', hj', -, hlt⟩ := h.slot_heard hwas
    have hjj : j = j' := Option.some.inj (hj.symm.trans hj')
    subst hjj
    rw [handle_air_of_lt lib build s b te trail hlt] at htx
    exact h.slotOther b' i hwas j hj tx htx
  · rw [htrail] at hj
    have hjk : j = k := Option.some.inj (hj.symm.trans hk)
    subst hjk
    rw [handle_air_of_lt lib build s b' te trail hlt] at htx
    exact (hunheard j hk).2 tx htx

/-- Nor is what is forwarded. -/
theorem Spread.handle_relayOther (h : s.Spread) {x : Transmission ι} (hx : x ∈ (s.handle lib build b te trail).1.air)
    (hrelay : x.isRelay = true) {j : ℕ} (hj : j ∈ x.trail.head?) {tx : Transmission ι}
    (htx : tx ∈ (s.handle lib build b te trail).1.air[j]?) : tx.sender ≠ x.sender := by
  rcases List.mem_append.1 hx with hbefore | hnew
  · obtain ⟨n, hn⟩ := List.mem_iff_getElem?.1 hbefore
    obtain ⟨j', hj', -, hlt⟩ := h.relay_heard hn hrelay
    have hjj : j = j' := Option.some.inj (hj.symm.trans hj')
    subst hjj
    have hjlen : j < s.air.length := hlt.trans (List.getElem?_eq_some_iff.1 hn).1
    rw [handle_air_of_lt lib build s b te trail hjlen] at htx
    exact h.relayOther x hbefore hrelay j hj tx htx
  · have hsent : x ∈ (s.handle lib build b te trail).2 := hnew
    obtain ⟨i, hi, hfiring, -⟩ := relay_cases h.toAuthentic hsent hrelay
    rw [hfiring] at hj ⊢
    obtain ⟨j', hj', -, hlt⟩ := h.slot_heard hi
    have hjj : j = j' := Option.some.inj (hj.symm.trans hj')
    subst hjj
    rw [handle_air_of_lt lib build s b te trail hlt] at htx
    exact h.slotOther b i hi j hj tx htx

/-- **An event keeps forwards apart**, if it delivers nothing heard before. -/
theorem Spread.handle (h : s.Spread) (hdelivers : s.Delivers te trail) (hunheard : s.Unheard b trail) :
    (s.handle lib build b te trail).1.Spread where
  toAuthentic := h.toAuthentic.handle hdelivers
  slots _ _ _ hi hi' heq := h.handle_slots hdelivers hunheard hi hi' heq
  fresh _ _ hi _ htx hrelay hsender := h.handle_fresh hdelivers hunheard hi htx hrelay hsender
  apart := by
    have hair : (s.handle lib build b te trail).1.air = s.air ++ (s.handle lib build b te trail).2 := rfl
    rw [hair, List.pairwise_append]
    refine ⟨h.apart, h.sent_apart, ?_⟩
    intro x hx y hy hxrelay hyrelay hsender
    obtain ⟨i, hi, rfl, -⟩ := relay_cases h.toAuthentic hy hyrelay
    exact h.fresh b i hi x hx hxrelay hsender
  slotOther _ _ hi _ hj _ htx := h.handle_slotOther hdelivers hunheard hi hj htx
  relayOther _ hx hrelay _ hj _ htx := h.handle_relayOther hx hrelay hj htx

theorem unheard_of_heardOnce {me : MeshEvent ι} (hevent : s.event me = some (b, te, trail)) (honce : s.HeardOnce me) :
    s.Unheard b trail := by
  intro j hj
  rcases event_cases hevent with ⟨k, env, tx, rfl, -, -, rfl⟩ | ⟨-, rfl⟩
  · have hjk : k = j := Option.some.inj hj
    rw [← hjk]
    exact honce
  · cases hj

/-- The step keeps forwards apart. -/
theorem Spread.step (h : s.Spread) {me : MeshEvent ι} (honce : s.HeardOnce me) :
    (s.step lib build me).1.Spread := by
  apply step_ind h
  intro b te trail hevent
  exact h.handle (event_delivers hevent) (unheard_of_heardOnce hevent honce)

end Handle

/-! ## The cascade of a broadcast -/

section Count

variable {s : Mesh ι}

/-- What a forward passes on. -/
def parent (s : Mesh ι) (k : ℕ) : Option ℕ := s.air[k]?.bind fun tx => tx.trail.head?

/-- Who sent a transmission; `d` for what was never sent. -/
def actor (s : Mesh ι) (d : ι) (k : ℕ) : ι := (s.air[k]?.map Transmission.sender).getD d

/-- **The forwards are a cascade**: no node forwards a transmission twice, or its own. -/
theorem Spread.spreads (h : s.Spread) (d : ι) : Cascade.Spreads s.relays s.parent (s.actor d) := by
  constructor
  · intro x hx y hy z hpx hpy hactor
    obtain ⟨tx, hxk, hxrelay⟩ := mem_those.1 hx
    obtain ⟨ty, hyk, hyrelay⟩ := mem_those.1 hy
    obtain ⟨hxlt, rfl⟩ := List.getElem?_eq_some_iff.1 hxk
    obtain ⟨hylt, rfl⟩ := List.getElem?_eq_some_iff.1 hyk
    simp only [parent, hxk, hyk, Option.bind_some] at hpx hpy
    simp only [actor, hxk, hyk, Option.map_some, Option.getD_some] at hactor
    have hpair := List.pairwise_iff_getElem.1 h.apart
    rcases Nat.lt_trichotomy x y with hlt | heq | hlt
    · exact absurd (hpx.trans hpy.symm) (hpair x y hxlt hylt hlt hxrelay hyrelay hactor)
    · exact heq
    · exact absurd (hpy.trans hpx.symm) (hpair y x hylt hxlt hlt hyrelay hxrelay hactor.symm)
  · intro x hx z hpx
    obtain ⟨tx, hxk, hxrelay⟩ := mem_those.1 hx
    obtain ⟨j, hj, -, hlt⟩ := h.relay_heard hxk hxrelay
    simp only [parent, hxk, Option.bind_some] at hpx
    have hjz : z = j := Option.some.inj (hpx.symm.trans hj)
    subst hjz
    have hzlt : z < s.air.length := hlt.trans (List.getElem?_eq_some_iff.1 hxk).1
    have hz : s.air[z]? = some s.air[z] := List.getElem?_eq_getElem hzlt
    simp only [actor, hxk, hz, Option.map_some, Option.getD_some]
    exact (h.relayOther tx (List.mem_of_getElem? hxk) hxrelay z hj s.air[z] hz).symm

/-- A transmission on the trail of a forward is as many generations before it as it is hops. -/
theorem Carries.mem_generation {a : ι} {p : MediaSyncPacket} {k₀ k : ℕ} {trail : List ℕ}
    (h : s.Carries a p k trail) (hmem : k₀ ∈ trail) :
    ∃ g, g < trail.length ∧ k ∈ Cascade.generation s.relays s.parent k₀ (g + 1) := by
  induction trail generalizing k with
  | nil => cases hmem
  | cons j rest ih =>
    obtain ⟨⟨tx, hk, -, htrail, hframe, -, -⟩, hprev⟩ := h
    have hrelay : k ∈ s.relays := by
      refine mem_those.2 ⟨tx, hk, ?_⟩
      unfold Transmission.isRelay
      rw [hframe]
      rfl
    have hparent : s.parent k = some j := by simp [parent, hk, htrail]
    by_cases hjk : k₀ = j
    · subst hjk
      refine ⟨0, by simp, Cascade.mem_generation_succ.2 ⟨hrelay, k₀, ?_, hparent⟩⟩
      exact Finset.mem_singleton_self _
    · have hrest : k₀ ∈ rest := (List.mem_cons.1 hmem).resolve_left hjk
      obtain ⟨g, hg, hgen⟩ := ih hprev hrest
      refine ⟨g + 1, by simpa using hg, Cascade.mem_generation_succ.2 ⟨hrelay, j, hgen, hparent⟩⟩

/-- The trail of a forward starts at a broadcast. -/
theorem Carries.exists_broadcast {a : ι} {p : MediaSyncPacket} {k : ℕ} {trail : List ℕ}
    (h : s.Carries a p k trail) : ∃ k₀ ∈ s.broadcasts, k₀ = k ∨ k₀ ∈ trail := by
  induction trail generalizing k with
  | nil =>
    obtain ⟨tx, hk, -, -, hframe⟩ := h
    refine ⟨k, mem_those.2 ⟨tx, hk, ?_⟩, Or.inl rfl⟩
    unfold Transmission.isMedia
    rw [hframe]
    rfl
  | cons j rest ih =>
    obtain ⟨k₀, hk₀, hmem⟩ := ih h.2
    refine ⟨k₀, hk₀, Or.inr ?_⟩
    rcases hmem with rfl | hmem
    · exact List.mem_cons_self
    · exact List.mem_cons_of_mem _ hmem

theorem mem_causedBy {k₀ k : ℕ} :
    k ∈ s.causedBy k₀ ↔ ∃ tx, s.air[k]? = some tx ∧ tx.isRelay = true ∧ k₀ ∈ tx.trail := by
  unfold causedBy
  rw [mem_those]
  simp only [Bool.and_eq_true, decide_eq_true_eq]

/-- What a transmission brings about is within three generations. -/
theorem Authentic.causedBy_subset (h : s.Authentic) (k₀ : ℕ) :
    s.causedBy k₀ ⊆ Cascade.descendants s.relays s.parent k₀ 3 := by
  intro k hk
  obtain ⟨tx, hk, hrelay, hmem⟩ := mem_causedBy.1 hk
  obtain ⟨a, p, -, -, hlen, hcarries⟩ := h.relayed k tx hk hrelay
  have hthree : maxHops.toNat = 3 := rfl
  obtain ⟨g, hg, hgen⟩ := hcarries.mem_generation hmem
  exact Finset.mem_biUnion.2 ⟨g, Finset.mem_range.2 (by omega), hgen⟩

/-- A forward is brought about by some broadcast. -/
theorem Authentic.exists_cause (h : s.Authentic) {k : ℕ} (hk : k ∈ s.relays) :
    ∃ k₀ ∈ s.broadcasts, k ∈ s.causedBy k₀ := by
  obtain ⟨tx, hk, hrelay⟩ := mem_those.1 hk
  obtain ⟨a, p, -, -, -, hcarries⟩ := h.relayed k tx hk hrelay
  obtain ⟨k₀, hk₀, hmem⟩ := hcarries.exists_broadcast
  refine ⟨k₀, hk₀, mem_causedBy.2 ⟨tx, hk, hrelay, ?_⟩⟩
  rcases hmem with rfl | hmem
  · -- a broadcast is no forward
    obtain ⟨tx', hk', hmedia⟩ := mem_those.1 hk₀
    have htx : tx' = tx := by
      rw [hk] at hk'
      exact (Option.some.inj hk').symm
    rw [htx] at hmedia
    rw [Transmission.isRelay_of_isMedia hmedia] at hrelay
    cases hrelay
  · exact hmem

end Count

/-! ## Each packet is broadcast once -/

section Credit

variable [DecidableEq ι] [Fintype ι] {lib : UpdateLib} {build : Build} {s : Mesh ι}

/-- The packets that wait to be sent, at all nodes. -/
def waiting (s : Mesh ι) : ℕ := ∑ b, (s.node b).node.waiting

omit [DecidableEq ι] [Fintype ι] in
theorem card_those (test : Transmission ι → Bool) : (s.those test).card = s.air.countP test := by
  unfold those
  induction s.air using List.reverseRecOn with
  | nil => rfl
  | append_singleton l tx ih =>
    have hbefore : ((Finset.range l.length).filter fun k => (l ++ [tx])[k]?.any test = true) =
        (Finset.range l.length).filter fun k => l[k]?.any test = true := by
      refine Finset.filter_congr fun k hk => ?_
      rw [List.getElem?_append_left (Finset.mem_range.1 hk)]
    rw [List.length_append, List.length_singleton, Finset.range_add_one, Finset.filter_insert, hbefore,
      List.countP_append, List.countP_singleton]
    have hlast : (l ++ [tx])[l.length]?.any test = test tx := by simp
    rw [hlast]
    by_cases htest : test tx = true
    · rw [if_pos htest, if_pos htest, Finset.card_insert_of_notMem (by simp), ih]
    · rw [if_neg htest, if_neg htest, ih]
      omega

/-- What is broadcast or waits was minted, or was there before. -/
def Accounted (s t : Mesh ι) : Prop :=
  t.broadcasts.card + t.waiting + s.minted.length ≤ s.broadcasts.card + s.waiting + t.minted.length

omit [DecidableEq ι] in
theorem Accounted.trans {t u : Mesh ι} (h : s.Accounted t) (h' : t.Accounted u) : s.Accounted u := by
  unfold Accounted at h h' ⊢
  omega

theorem handle_accounted (b : ι) (te : TaskEvent) (trail : List ℕ) :
    s.Accounted (s.handle lib build b te trail).1 := by
  have hmedia := (handle_media lib (s.node b) te).count
  have hreboot := step_waiting lib build (s.node b) te
  set t := (s.handle lib build b te trail).1 with ht
  have hbroadcasts : t.broadcasts.card = s.broadcasts.card + ((s.node b).handle lib te).2.countP Out.isMedia := by
    unfold broadcasts
    have hair : t.air = s.air ++ (s.handle lib build b te trail).2 := rfl
    rw [card_those, card_those, hair, handle_sent, List.countP_append, countP_transmissions]
  have hminted : t.minted.length = s.minted.length + ((s.node b).mints te).toList.length := by
    rw [ht, Mesh.handle]
    simp
  -- only node `b` changes what waits
  have hwaiting : t.waiting + (s.node b).node.waiting = s.waiting + (t.node b).node.waiting := by
    unfold waiting
    have hothers : ∑ x ∈ Finset.univ.erase b, (t.node x).node.waiting =
        ∑ x ∈ Finset.univ.erase b, (s.node x).node.waiting := by
      refine Finset.sum_congr rfl fun x hx => ?_
      rw [ht, handle_node_of_ne lib build s b te trail (Finset.ne_of_mem_erase hx)]
    rw [← Finset.add_sum_erase _ _ (Finset.mem_univ b), ← Finset.add_sum_erase _ _ (Finset.mem_univ b), hothers]
    omega
  have hself : (t.node b).node = ((s.node b).step lib build te).1.node := by
    rw [ht, handle_node_self]
  rw [hself] at hwaiting
  dsimp only at hmedia
  unfold Accounted
  omega

theorem step_accounted (me : MeshEvent ι) : s.Accounted (s.step lib build me).1 := by
  apply step_ind (P := s.Accounted) (le_refl _)
  intro b te trail _
  exact handle_accounted b te trail

/-- **No flooding storm.** Let each node hear each transmission at most once and not its own, from a mesh
with no forward pending or on the air, whatever the dedup tables hold. Among `N` nodes, a broadcast then
brings about at most `(N-1) + (N-1)² + (N-1)³` forwards, directly and through others; each forward is
brought about by a broadcast; and a run has no more forwards than that for each packet that it mints, or
that was broadcast or waited when it began. -/
theorem storm_bounded (h : s.Silent) {events : List (MeshEvent ι)}
    (honce : Mealy.Guarded (step lib build) HeardOnce s events) :
    let t := (Mealy.run (step lib build) s events).1
    let bound := (Fintype.card ι - 1) + (Fintype.card ι - 1) ^ 2 + (Fintype.card ι - 1) ^ 3
    (∀ k, (t.causedBy k).card ≤ bound) ∧
      (∀ k ∈ t.relays, ∃ k₀ ∈ t.broadcasts, k ∈ t.causedBy k₀) ∧
      t.relays.card ≤ (s.broadcasts.card + s.waiting + (t.minted.length - s.minted.length)) * bound := by
  intro t bound
  have hspread : t.Spread :=
    Mealy.inv_run Spread (fun s me hs honce => hs.step honce) h.spread honce
  have haccounted : s.Accounted t :=
    Mealy.inv_run (fun u => s.Accounted u) (fun u me hu _ => hu.trans (step_accounted me)) (le_refl _) honce
  have hsum : ∑ g ∈ Finset.range 3, (Fintype.card ι - 1) ^ (g + 1) = bound := by
    simp [Finset.sum_range_succ, bound]
  have hcaused : ∀ k, (t.causedBy k).card ≤ bound := by
    intro k
    rcases (t.causedBy k).eq_empty_or_nonempty with hempty | ⟨x, hx⟩
    · rw [hempty]
      exact Nat.zero_le _
    · obtain ⟨tx, -⟩ := mem_causedBy.1 hx
      have hle := (hspread.spreads tx.sender).card_descendants_le k 3
      rw [hsum] at hle
      exact (Finset.card_le_card (hspread.causedBy_subset k)).trans hle
  refine ⟨hcaused, fun k hk => hspread.exists_cause hk, ?_⟩
  have hcover : t.relays ⊆ t.broadcasts.biUnion t.causedBy := by
    intro k hk
    obtain ⟨k₀, hk₀, hmem⟩ := hspread.exists_cause hk
    exact Finset.mem_biUnion.2 ⟨k₀, hk₀, hmem⟩
  have hbroadcasts : t.broadcasts.card ≤ s.broadcasts.card + s.waiting + (t.minted.length - s.minted.length) := by
    unfold Accounted at haccounted
    omega
  calc t.relays.card ≤ (t.broadcasts.biUnion t.causedBy).card := Finset.card_le_card hcover
    _ ≤ t.broadcasts.card * bound := Finset.card_biUnion_le_card_mul _ _ _ fun k _ => hcaused k
    _ ≤ _ := Nat.mul_le_mul_right _ hbroadcasts

end Credit

theorem downTheLine_bounded :
    let t := (Mealy.run (step noUpdate plainBuild) (oneMaster 3) downTheLine).1
    let bound := (Fintype.card (Fin 3) - 1) + (Fintype.card (Fin 3) - 1) ^ 2 + (Fintype.card (Fin 3) - 1) ^ 3
    (∀ k, (t.causedBy k).card ≤ bound) ∧
      (∀ k ∈ t.relays, ∃ k₀ ∈ t.broadcasts, k ∈ t.causedBy k₀) ∧
      t.relays.card ≤
        ((oneMaster 3).broadcasts.card + (oneMaster 3).waiting + (t.minted.length - (oneMaster 3).minted.length)) *
          bound :=
  storm_bounded (booted_silent _ _ _ _) (by decide +kernel)

end Mesh

end Nowde
