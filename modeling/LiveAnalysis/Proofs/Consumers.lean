import LiveAnalysis.Proofs.Arrivals
import LiveAnalysis.Proofs.Bells
import LiveAnalysis.Proofs.Work

namespace LiveAnalysis

variable {P : Type}

namespace Engine

def Owns (e : Engine P) (t : Ticket) : Prop :=
  ∃ u s c, e.activity? u = some (.analysis t s c)

structure Owned (e : Engine P) : Prop where
  owner : ∀ u t s c, e.activity? u = some (.analysis t s c) → ∃ a, e.activity? t = some a ∧ a.begins s
  sole : ∀ u u' t s s' c c', e.activity? u = some (.analysis t s c) →
    e.activity? u' = some (.analysis t s' c') → u = u'

section Owned

variable {e e' : Engine P} (h : e.Owned)

include h

theorem Owned.congr (ha : ∀ u, e'.activity? u = e.activity? u) : e'.Owned where
  owner u t s c hu := by
    rw [ha] at hu ⊢
    exact h.owner u t s c hu
  sole u u' t s s' c c' hu hu' := by
    rw [ha] at hu hu'
    exact h.sole u u' t s s' c c' hu hu'

theorem Owned.free {t : Ticket} {a : Activity P} (ht : e.activity? t = some a) (ha : a.isUnderway = false) :
    ¬ e.Owns t := by
  rintro ⟨u,s,c,hu⟩
  obtain ⟨b,hb,hs⟩ := h.owner u t s c hu
  cases ht.symm.trans hb
  cases hs <;> simp [Activity.isUnderway] at ha

theorem Owned.remove {t : Ticket} (hn : ¬ e.Owns t) : (e.remove t).Owned := by
  have hold : ∀ u a, (e.remove t).activity? u = some a → e.activity? u = some a := by
    intro u a hu
    rw [activity?_remove] at hu
    split at hu
    · simp at hu
    · exact hu
  refine ⟨fun u owner s c hu => ?_, fun u u' owner s s' c c' hu hu' => ?_⟩
  · have hu := hold _ _ hu
    have hne : owner ≠ t := fun he => hn ⟨u,s,c,he ▸ hu⟩
    rw [activity?_remove, if_neg hne]
    exact h.owner u owner s c hu
  · exact h.sole u u' owner s s' c c' (hold _ _ hu) (hold _ _ hu')

theorem Owned.set {t : Ticket} {a b : Activity P} (ht : e.activity? t = some a) (hn : ¬ e.Owns t)
    (hb : ∀ owner s c, b = .analysis owner s c → ∃ c', a = .analysis owner s c') : (e.set t b).Owned := by
  have hnew : ∀ u, (e.set t b).activity? u = if u = t then some b else e.activity? u := by
    intro u
    rw [activity?_set]
    split
    · rename_i hu
      rw [hu, ht]
      rfl
    · rfl
  have hold : ∀ u owner s c, (e.set t b).activity? u = some (.analysis owner s c) →
      ∃ c', e.activity? u = some (.analysis owner s c') := by
    intro u owner s c hu
    rw [hnew] at hu
    split at hu
    · rename_i hut
      obtain ⟨c',rfl⟩ := hb owner s c (Option.some.inj hu)
      exact ⟨c', hut ▸ ht⟩
    · exact ⟨c,hu⟩
  refine ⟨fun u owner s c hu => ?_, fun u u' owner s s' c c' hu hu' => ?_⟩
  · obtain ⟨c',hu⟩ := hold u owner s c hu
    have hne : owner ≠ t := fun he => hn ⟨u,s,c',he ▸ hu⟩
    rw [hnew, if_neg hne]
    exact h.owner u owner s c' hu
  · obtain ⟨c,hu⟩ := hold u owner s c hu
    obtain ⟨c',hu'⟩ := hold u' owner s' c' hu'
    exact h.sole u u' owner s s' c c' hu hu'

theorem Owned.start {a : Activity P}
    (ha : ∀ owner s c, a = .analysis owner s c → ¬ e.Owns owner ∧ ∃ b, e.activity? owner = some b ∧ b.begins s) :
    (e.start a).Owned := by
  have hkept : ∀ u b, e.activity? u = some b → (e.start a).activity? u = some b := by
    intro u b hu
    rw [activity?_start, hu]
    rfl
  have hold : ∀ u b, (e.start a).activity? u = some b → e.activity? u = some b ∨ u = e.tickets ∧ b = a := by
    intro u b hu
    rw [activity?_start, Option.or_eq_some_iff] at hu
    rcases hu with hu | ⟨_,hu⟩
    · exact Or.inl hu
    · split at hu
      · exact Or.inr ⟨‹_›, (Option.some.inj hu).symm⟩
      · simp at hu
  refine ⟨fun u owner s c hu => ?_, fun u u' owner s s' c c' hu hu' => ?_⟩
  · rcases hold _ _ hu with hu | ⟨_,hu⟩
    · obtain ⟨b,hb,hs⟩ := h.owner u owner s c hu
      exact ⟨b, hkept _ _ hb, hs⟩
    · obtain ⟨_,b,hb,hs⟩ := ha owner s c hu.symm
      exact ⟨b, hkept _ _ hb, hs⟩
  · rcases hold _ _ hu with ho | ⟨hut,he⟩ <;> rcases hold _ _ hu' with ho' | ⟨hut',he'⟩
    · exact h.sole u u' owner s s' c c' ho ho'
    · exact absurd ⟨u,s,c,ho⟩ (ha owner s' c' he'.symm).1
    · exact absurd ⟨u',s',c',ho'⟩ (ha owner s c he.symm).1
    · exact hut.trans hut'.symm

end Owned

def Consumes (e : Engine P) (t : Ticket) : Prop :=
  e.activity? t = some .take ∨ e.activity? t = some (.loop .idle)

/-- The one who acts is not ready any more and may not wait yet. -/
structure Awake (acting : Option Ticket) (e : Engine P) : Prop where
  queue : e.queue.Sound
  bell : e.bell.Sound
  covers : e.bell.Covers e.queue.order.length
  shut : e.queue.shutDown = true → e.bell.waiting = []
  rung : ∀ u ∈ e.bell.rung, e.Consumes u ∧ (u ∈ e.ready ∨ acting = some u)
  waiting : ∀ u ∈ e.bell.waiting, e.Consumes u
  idle : ∀ u, e.Consumes u → u ∈ e.ready ∨ u ∈ e.bell.waiting ∨ acting = some u
  owned : e.Owned

def Apart (e : Engine P) (t : Ticket) : Prop :=
  t ∉ e.bell.rung ∧ t ∉ e.bell.waiting

theorem awake_new (gate : Option Gate) : ({ gate } : Engine P).Awake none where
  queue := Queue.sound_new
  bell := ⟨List.nodup_nil, List.nodup_nil, by simp⟩
  covers h := absurd rfl h
  shut _ := rfl
  rung := by simp
  waiting := by simp
  idle := by simp [Consumes, activity?]
  owned := ⟨by simp [activity?], by simp [activity?]⟩

section Awake

variable {acting : Option Ticket} {e e' : Engine P} (h : e.Awake acting)

include h

theorem Awake.apart {t : Ticket} (ht : ¬ e.Consumes t) : e.Apart t :=
  ⟨fun hr => ht (h.rung t hr).1, fun hw => ht (h.waiting t hw)⟩

theorem Awake.act (t : Ticket) (hn : acting = none) : e.Awake (some t) where
  queue := h.queue
  bell := h.bell
  covers := h.covers
  shut := h.shut
  rung u hu := by
    obtain ⟨hc,hr | hr⟩ := h.rung u hu
    · exact ⟨hc, Or.inl hr⟩
    · simp [hn] at hr
  waiting := h.waiting
  idle u hu := by
    rcases h.idle u hu with hr | hw | hr
    · exact Or.inl hr
    · exact Or.inr (Or.inl hw)
    · simp [hn] at hr
  owned := h.owned

theorem Awake.rest {t : Ticket} (ha : acting = some t) (ht : ¬ e.Consumes t) : e.Awake none where
  queue := h.queue
  bell := h.bell
  covers := h.covers
  shut := h.shut
  rung u hu := by
    obtain ⟨hc,hr | hr⟩ := h.rung u hu
    · exact ⟨hc, Or.inl hr⟩
    · cases ha.symm.trans hr
      exact absurd hc ht
  waiting := h.waiting
  idle u hu := by
    rcases h.idle u hu with hr | hw | hr
    · exact Or.inl hr
    · exact Or.inr (Or.inl hw)
    · cases ha.symm.trans hr
      exact absurd hu ht
  owned := h.owned

theorem Awake.calm (ha : ∀ u, e'.activity? u = e.activity? u) (hq : e'.queue = e.queue)
    (hb : e'.bell = e.bell) (hr : ∀ u ∈ e.ready, u ∈ e'.ready) : e'.Awake acting := by
  have hc : ∀ u, e'.Consumes u ↔ e.Consumes u := fun u => by simp only [Consumes, ha]
  refine ⟨hq ▸ h.queue, hb ▸ h.bell, hb ▸ hq ▸ h.covers, hb ▸ hq ▸ h.shut, ?_, ?_, ?_, h.owned.congr ha⟩
  · intro u hu
    obtain ⟨hu,hr'⟩ := h.rung u (hb ▸ hu)
    exact ⟨(hc u).mpr hu, hr'.imp_left (hr u)⟩
  · exact fun u hu => (hc u).mpr (h.waiting u (hb ▸ hu))
  · intro u hu
    rw [hb]
    exact (h.idle u ((hc u).mp hu)).imp_left (hr u)

theorem Awake.keeps (k : e.Keeps e') (hq : e'.queue = e.queue) (hb : e'.bell = e.bell) : e'.Awake acting :=
  h.calm k.activity? hq hb k.ready

theorem Awake.wakeAll (ts : List Ticket) : (e.wakeAll ts).Awake acting := by
  refine h.keeps (keeps_wakeAll e ts) ?_ ?_ <;> rw [wakeAll_eq]

theorem Awake.rings {queue : Queue} (hs : queue.Sound) (hlen : queue.order.length = e.queue.order.length + 1)
    (hd : queue.shutDown = e.queue.shutDown) : ({ e with queue } : Engine P).ring.Awake acting := by
  have hr := e.bell.rings
  simp only [ring, wakeSome_eq]
  refine ⟨hs, hr.sound h.bell, ?_, ?_, ?_, ?_, ?_, h.owned.congr fun _ => rfl⟩
  · exact hlen ▸ hr.covers h.covers
  · intro hshut
    have hw := h.shut (hd ▸ hshut)
    refine List.eq_nil_iff_forall_not_mem.mpr fun u hu => ?_
    have := hr.waiting_of hu
    simp [hw] at this
  · intro u hu
    rcases hr.rung_of hu with hu | ⟨hw,ho⟩
    · obtain ⟨hc,hx⟩ := h.rung u hu
      exact ⟨hc, hx.imp_left fun hx => mem_woken.mpr (Or.inl hx)⟩
    · exact ⟨h.waiting u hw, Or.inl (mem_woken.mpr (Or.inr ho))⟩
  · exact fun u hu => h.waiting u (hr.waiting_of hu)
  · intro u hu
    rcases h.idle u hu with hx | hw | hx
    · exact Or.inl (mem_woken.mpr (Or.inl hx))
    · rcases hr.still_waits hw with hw | ho
      · exact Or.inr (Or.inl hw)
      · exact Or.inl (mem_woken.mpr (Or.inr ho))
    · exact Or.inr (Or.inr hx)

theorem Awake.fewer {queue : Queue} (hs : queue.Sound) (hlen : queue.order.length ≤ e.queue.order.length)
    (hd : queue.shutDown = e.queue.shutDown) : ({ e with queue } : Engine P).Awake acting where
  queue := hs
  bell := h.bell
  covers hw := Nat.le_trans hlen (h.covers hw)
  shut hshut := h.shut (hd ▸ hshut)
  rung := h.rung
  waiting := h.waiting
  idle := h.idle
  owned := h.owned.congr fun _ => rfl

theorem Awake.enqueue (id : DocumentId) : (e.enqueue id).1.Awake acting := by
  have hs := h.queue.enqueue id
  have ho := e.queue.enqueue_order id
  have hd := e.queue.enqueue_shutDown id
  unfold Engine.enqueue
  dsimp only
  split
  · rename_i ha
    rw [if_pos ha] at ho
    exact h.rings hs (by simp [ho]) hd
  · rename_i ha
    rw [if_neg ha] at ho
    exact h.fewer hs (Nat.le_of_eq (congrArg List.length ho)) hd

theorem Awake.shutQueue : e.shutQueue.Awake acting := by
  have hr := e.bell.ringAll.1.rings
  simp only [Engine.shutQueue, wakeAll_eq]
  refine ⟨Queue.sound_shut e.queue, h.bell.ringAll, fun _ => Nat.zero_le _, ?_, ?_, ?_, ?_,
    h.owned.congr fun _ => rfl⟩
  · exact fun _ => List.eq_nil_iff_forall_not_mem.mpr fun u hu => List.not_mem_nil (hr.waiting_of hu)
  · intro u hu
    rcases hr.rung_of hu with hu | ⟨hw,_⟩
    · obtain ⟨hc,hx⟩ := h.rung u hu
      exact ⟨hc, hx.imp_left fun hx => mem_woken.mpr (Or.inl hx)⟩
    · exact absurd hw List.not_mem_nil
  · exact fun u hu => absurd (hr.waiting_of hu) List.not_mem_nil
  · intro u hu
    rcases h.idle u hu with hx | hw | hx
    · exact Or.inl (mem_woken.mpr (Or.inl hx))
    · exact Or.inl (mem_woken.mpr (Or.inr hw))
    · exact Or.inr (Or.inr hx)

theorem Awake.start (a : Activity P)
    (ha : ∀ owner s c, a = .analysis owner s c → ¬ e.Owns owner ∧ ∃ b, e.activity? owner = some b ∧ b.begins s) :
    (e.start a).Awake acting := by
  have hkept : ∀ u, e.Consumes u → (e.start a).Consumes u := by
    intro u hu
    rcases hu with hu | hu
    · exact Or.inl (by rw [activity?_start, hu]; rfl)
    · exact Or.inr (by rw [activity?_start, hu]; rfl)
  refine ⟨h.queue, h.bell, h.covers, h.shut, ?_, ?_, ?_, h.owned.start ha⟩
  · intro u hu
    obtain ⟨hc,hr⟩ := h.rung u hu
    exact ⟨hkept u hc, hr.imp_left (List.mem_append_left _)⟩
  · exact fun u hu => hkept u (h.waiting u hu)
  · intro u hu
    by_cases hut : u = e.tickets
    · exact Or.inl (hut ▸ List.mem_append_right _ List.mem_cons_self)
    · have hold : e.Consumes u := by
        simpa only [Consumes, activity?_start, if_neg hut, Option.or_none] using hu
      exact (h.idle u hold).imp_left (List.mem_append_left _)

theorem Awake.remove {t : Ticket} (hp : e.Apart t) (hn : ¬ e.Owns t) (ha : acting = some t) :
    (e.remove t).Awake none := by
  have hc : ∀ u, (e.remove t).Consumes u ↔ u ≠ t ∧ e.Consumes u := by
    intro u
    by_cases hut : u = t <;> simp [Consumes, activity?_remove, hut]
  refine ⟨h.queue, h.bell, h.covers, h.shut, ?_, ?_, ?_, h.owned.remove hn⟩
  · intro u hu
    have hne : u ≠ t := fun he => hp.1 (he ▸ hu)
    obtain ⟨hu,hr | hr⟩ := h.rung u hu
    · exact ⟨(hc u).mpr ⟨hne,hu⟩, Or.inl hr⟩
    · exact absurd (Option.some.inj (ha.symm.trans hr)).symm hne
  · intro u hu
    exact (hc u).mpr ⟨fun he => hp.2 (he ▸ hu), h.waiting u hu⟩
  · intro u hu
    obtain ⟨hne,hu⟩ := (hc u).mp hu
    rcases h.idle u hu with hr | hw | hr
    · exact Or.inl hr
    · exact Or.inr (Or.inl hw)
    · exact absurd (Option.some.inj (ha.symm.trans hr)).symm hne

theorem Awake.finish {t : Ticket} (hp : e.Apart t) (hn : ¬ e.Owns t) (ha : acting = some t) (x : Ending P) :
    (e.finish t x).Awake none :=
  (h.remove hp hn ha).calm (fun _ => rfl) rfl rfl fun _ hu => hu

theorem Awake.set {t : Ticket} {a b : Activity P} (ht : e.activity? t = some a) (hp : e.Apart t)
    (hn : ¬ e.Owns t) (ha : acting = some t)
    (hb : ∀ owner s c, b = .analysis owner s c → ∃ c', a = .analysis owner s c') : (e.set t b).Awake acting := by
  have hc : ∀ u, u ≠ t → ((e.set t b).Consumes u ↔ e.Consumes u) := by
    intro u hut
    simp only [Consumes, activity?_set, if_neg hut]
  refine ⟨h.queue, h.bell, h.covers, h.shut, ?_, ?_, ?_, h.owned.set ht hn hb⟩
  · intro u hu
    obtain ⟨hu',hr⟩ := h.rung u hu
    exact ⟨(hc u fun he => hp.1 (he ▸ hu)).mpr hu', hr⟩
  · exact fun u hu => (hc u fun he => hp.2 (he ▸ hu)).mpr (h.waiting u hu)
  · intro u hu
    by_cases hut : u = t
    · exact Or.inr (Or.inr (hut ▸ ha))
    · exact h.idle u ((hc u hut).mp hu)

theorem Awake.answers {t : Ticket} {queue : Queue} (hs : queue.Sound) (hd : queue.shutDown = e.queue.shutDown)
    (hlen : queue.order.length = 0 ∨ queue.order.length + 1 ≤ e.queue.order.length) (ha : acting = some t) :
    ({ e with queue, bell := e.bell.answer t } : Engine P).Awake acting ∧
      ({ e with queue, bell := e.bell.answer t } : Engine P).Apart t := by
  refine ⟨⟨hs, h.bell.answer t, Bell.covers_answer h.covers t hlen, ?_, ?_, ?_, ?_,
    h.owned.congr fun _ => rfl⟩, ?_, ?_⟩
  · intro hshut
    have hw := h.shut (hd ▸ hshut)
    simp [Bell.answer, hw]
  · exact fun u hu => h.rung u (h.bell.rung_answer.mp hu).2
  · exact fun u hu => h.waiting u (h.bell.waiting_answer.mp hu).2
  · intro u hu
    rcases h.idle u hu with hr | hw | hr
    · exact Or.inl hr
    · by_cases hut : u = t
      · exact Or.inr (Or.inr (hut ▸ ha))
      · exact Or.inr (Or.inl (h.bell.waiting_answer.mpr ⟨hut,hw⟩))
    · exact Or.inr (Or.inr hr)
  · exact fun hu => (h.bell.rung_answer.mp hu).1 rfl
  · exact fun hu => (h.bell.waiting_answer.mp hu).1 rfl

theorem Awake.waits {t : Ticket} (ht : e.Consumes t) (hp : e.Apart t) (hq : e.queue.order = [])
    (hr : e.queue.shutDown = false) (ha : acting = some t) :
    ({ e with bell := e.bell.wait t } : Engine P).Awake none := by
  refine ⟨h.queue, h.bell.wait hp.1 hp.2, fun _ => by simp [hq], fun hs => by simp [hr] at hs, ?_, ?_, ?_,
    h.owned.congr fun _ => rfl⟩
  · intro u hu
    obtain ⟨hc,hx | hx⟩ := h.rung u hu
    · exact ⟨hc, Or.inl hx⟩
    · cases ha.symm.trans hx
      exact absurd hu hp.1
  · intro u hu
    rcases List.mem_append.mp hu with hu | hu
    · exact h.waiting u hu
    · exact List.mem_singleton.mp hu ▸ ht
  · intro u hu
    rcases h.idle u hu with hx | hw | hx
    · exact Or.inl hx
    · exact Or.inr (Or.inl (List.mem_append_left _ hw))
    · cases ha.symm.trans hx
      exact Or.inr (Or.inl (List.mem_append_right _ List.mem_cons_self))

end Awake

theorem consumes_iff {e : Engine P} {t : Ticket} {a : Activity P} (ht : e.activity? t = some a) :
    e.Consumes t ↔ a = .take ∨ a = .loop .idle := by
  simp [Consumes, ht]

section Turns

variable {e : Engine P} {t : Ticket} (h : e.Awake (some t))

include h

theorem Awake.turns {a b : Activity P} (ht : e.activity? t = some a) (hc : ¬ e.Consumes t) (hn : ¬ e.Owns t)
    (hb : b ≠ .take ∧ b ≠ .loop .idle)
    (hown : ∀ owner s c, b = .analysis owner s c → ∃ c', a = .analysis owner s c') : (e.set t b).Awake none := by
  refine (h.set ht (h.apart hc) hn rfl hown).rest rfl ?_
  rw [consumes_iff (activity?_set_self b ht)]
  simp [hb]

theorem Awake.begins {a b : Activity P} {s : Snapshot} (ht : e.activity? t = some a) (hp : e.Apart t)
    (hn : ¬ e.Owns t) (hb : b.begins s) : ((e.set t b).begin t s).Awake none := by
  have hset := activity?_set_self b ht
  have hnot : b ≠ .take ∧ b ≠ .loop .idle ∧ ∀ owner s c, b ≠ .analysis owner s c := by
    cases hb <;> simp
  have hn' : ¬ (e.set t b).Owns t := by
    rintro ⟨u,s,c,hu⟩
    rw [activity?_set] at hu
    split at hu
    · rename_i hut
      rw [hut, ht] at hu
      exact hnot.2.2 t s c (Option.some.inj hu)
    · exact hn ⟨u,s,c,hu⟩
  have hs := h.set ht hp hn rfl fun owner s c hx => absurd hx (hnot.2.2 owner s c)
  have hidle := hs.rest rfl (by rw [consumes_iff hset]; simp [hnot])
  refine hidle.start _ fun owner s' c hx => ?_
  cases hx
  exact ⟨hn', b, hset, hb⟩

theorem Awake.takeTurn (ht : e.activity? t = some .take) : (e.takeTurn t).Awake none := by
  have hn : ¬ e.Owns t := h.owned.free ht rfl
  unfold Engine.takeTurn
  dsimp only
  cases horder : e.queue.order with
  | nil =>
    rw [Queue.hand_empty horder]
    obtain ⟨ha,hp⟩ := h.answers h.queue rfl (Or.inl (by rw [horder]; rfl)) rfl
    cases hr : e.queue.shutDown with
    | true => exact ha.finish hp hn rfl _
    | false => exact ha.waits (Or.inl ht) hp horder hr rfl
  | cons id rest =>
    obtain ⟨hi,ho⟩ := h.queue.hand_front horder
    obtain ⟨ha,hp⟩ := h.answers h.queue.hand e.queue.hand_shutDown
      (Or.inr (by rw [ho, horder]; exact Nat.le_refl _)) rfl
    split
    · rename_i queue id' hh
      rw [hh] at ha hp
      exact ha.finish hp hn rfl _
    · rename_i hh
      rw [hh] at hi
      simp at hi
    · rename_i hh
      rw [hh] at hi
      simp at hi

theorem Awake.endLoop (hn : ¬ e.Owns t) : (e.endLoop t).Awake none := by
  have hgone : ∀ u, (e.remove t).Consumes u ↔ u ≠ t ∧ e.Consumes u := by
    intro u
    by_cases hut : u = t <;> simp [Consumes, activity?_remove, hut]
  have hleft : ((({ e with bell := (e.bell.leave t).1 } : Engine P).finish t .stopped).wakeSome
      (e.bell.leave t).2).Awake none := by
    rw [wakeSome_eq]
    refine ⟨h.queue, h.bell.leave t, Bell.covers_leave t h.covers, ?_, ?_, ?_, ?_,
      (h.owned.remove hn).congr fun _ => rfl⟩
    · intro hshut
      have hw := h.shut hshut
      refine List.eq_nil_iff_forall_not_mem.mpr fun u hu => ?_
      have := (h.bell.waiting_leave t hu).2
      simp [hw] at this
    · intro u hu
      obtain ⟨hut,hu⟩ := h.bell.rung_leave t hu
      rcases hu with hu | ⟨hw,ho⟩
      · obtain ⟨hc,hr | hr⟩ := h.rung u hu
        · exact ⟨(hgone u).mpr ⟨hut,hc⟩, Or.inl (mem_woken.mpr (Or.inl hr))⟩
        · exact absurd (Option.some.inj hr).symm hut
      · exact ⟨(hgone u).mpr ⟨hut,h.waiting u hw⟩, Or.inl (mem_woken.mpr (Or.inr ho))⟩
    · intro u hu
      obtain ⟨hut,hw⟩ := h.bell.waiting_leave t hu
      exact (hgone u).mpr ⟨hut,h.waiting u hw⟩
    · intro u hu
      obtain ⟨hut,hu⟩ := (hgone u).mp hu
      rcases h.idle u hu with hr | hw | hr
      · exact Or.inl (mem_woken.mpr (Or.inl hr))
      · rcases h.bell.still_waits_leave t hw hut with hw | ho
        · exact Or.inr (Or.inl hw)
        · exact Or.inl (mem_woken.mpr (Or.inr ho))
      · exact absurd (Option.some.inj hr).symm hut
  exact hleft.wakeAll _

theorem Awake.seek {stage : Stage P} (ht : e.activity? t = some (.loop stage)) (hn : ¬ e.Owns t) :
    (e.seek t).Awake none := by
  unfold Engine.seek
  split
  · exact h.endLoop hn
  split
  · rename_i hshut
    exact (h.answers h.queue rfl (Or.inl (by rw [h.queue.emptied hshut]; rfl)) rfl).1.endLoop hn
  rename_i hr
  dsimp only
  split
  · rename_i s rest hf
    obtain ⟨skipped,l,horder,_,rfl,_⟩ := Store.firstOpen?_some hf
    have hsub : rest.Sublist e.queue.order := by
      rw [horder]
      exact (List.sublist_cons_self _ _).trans (List.sublist_append_right _ _)
    have hlen : rest.length + 1 ≤ e.queue.order.length := by
      rw [horder, List.length_append, List.length_cons]
      omega
    obtain ⟨ha,hp⟩ := h.answers (h.queue.leave hsub) rfl (Or.inr hlen) rfl
    exact ha.begins ht hp hn (.loop)
  · obtain ⟨ha,hp⟩ := h.answers (h.queue.leave (List.nil_sublist _)) rfl (Or.inl rfl) rfl
    have hs := ha.set (b := .loop .idle) ht hp hn rfl fun _ _ _ hx => by simp at hx
    exact hs.waits (Or.inr (activity?_set_self _ ht)) hp rfl (eq_false_of_ne_true hr) rfl

end Turns

theorem publish_bell (e : Engine P) (s : Snapshot) (payload : P) : (e.publish s payload).1.bell = e.bell := by
  unfold publish
  dsimp only
  split
  · simp [wakeAll_eq]
  · rfl

theorem conclude_bell (w : Worker P) (e : Engine P) (s : Snapshot) (verdict : Verdict P) :
    (e.conclude w s verdict).1.bell = e.bell := by
  cases verdict with
  | failed reason => rfl
  | panicked => rfl
  | found payload =>
    have hp := e.publish_bell s payload
    simp only [conclude]
    split <;> exact hp

section Turns

variable (w : Worker P) {e : Engine P} {t : Ticket} (h : e.Awake (some t))

include h

theorem Awake.conclude (s : Snapshot) (verdict : Verdict P) : (e.conclude w s verdict).1.Awake (some t) :=
  h.keeps (keeps_conclude w e s verdict) (conclude_queue w e s verdict) (conclude_bell w e s verdict)

theorem Awake.loopTurn {stage : Stage P} (ht : e.activity? t = some (.loop stage)) :
    (e.loopTurn w t stage).Awake none := by
  cases stage with
  | idle => exact h.seek ht (h.owned.free ht rfl)
  | underway s => exact h.rest rfl (by simp [consumes_iff ht])
  | judged s verdict =>
    have ht' := ((keeps_conclude w e s verdict).activity? t).trans ht
    have hc := h.conclude w s verdict
    exact hc.seek ht' (hc.owned.free ht' rfl)

theorem Awake.processTurn {id : DocumentId} {stage : Stage P} (ht : e.activity? t = some (.process id stage)) :
    (e.processTurn w t id stage).Awake none := by
  have hc : ¬ e.Consumes t := by simp [consumes_iff ht]
  cases stage with
  | idle =>
    have hn := h.owned.free ht rfl
    simp only [Engine.processTurn]
    split
    · exact h.finish (h.apart hc) hn rfl _
    · exact h.begins ht (h.apart hc) hn (.process id)
  | underway s => exact h.rest rfl hc
  | judged s verdict =>
    have ht' := ((keeps_conclude w e s verdict).activity? t).trans ht
    have hk := h.conclude w s verdict
    exact hk.finish (hk.apart (by simp [consumes_iff ht'])) (hk.owned.free ht' rfl) rfl _

theorem Awake.judge {owner : Ticket} {s : Snapshot} {c : Option Nat}
    (ht : e.activity? t = some (.analysis owner s c)) (call : Nat) : (e.judge w t owner s call).Awake none := by
  have hn := h.owned.free ht rfl
  have hc : ¬ e.Consumes t := by simp [consumes_iff ht]
  have hr := h.remove (h.apart hc) hn rfl
  obtain ⟨a,ha,hs⟩ := h.owned.owner t owner s c ht
  have hne : owner ≠ t := by
    rintro rfl
    cases ht.symm.trans ha
    cases hs
  have ha' : (e.remove t).activity? owner = some a := by
    rw [activity?_remove, if_neg hne]
    exact ha
  have hfree : ¬ (e.remove t).Owns owner := by
    rintro ⟨u,s',c',hu⟩
    rw [activity?_remove] at hu
    split at hu
    · simp at hu
    · rename_i hut
      exact hut (h.owned.sole u t owner s' s c' c hu ht)
  have hact := hr.act owner rfl
  unfold Engine.judge Engine.deliver
  cases hs with
  | loop =>
    rw [ha']
    exact (hact.turns ha' (by simp [consumes_iff ha']) hfree (by simp) (by simp)).wakeAll [owner]
  | process id =>
    rw [ha']
    exact (hact.turns ha' (by simp [consumes_iff ha']) hfree (by simp) (by simp)).wakeAll [owner]

theorem Awake.analysisTurn {owner : Ticket} {s : Snapshot} {c : Option Nat}
    (ht : e.activity? t = some (.analysis owner s c)) : (e.analysisTurn w t owner s c).Awake none := by
  have hc : ¬ e.Consumes t := by simp [consumes_iff ht]
  have hg : ∀ gate, ({ e with gate, calls := e.calls + 1 } : Engine P).Awake (some t) := fun gate =>
    h.calm (fun _ => rfl) rfl rfl fun _ hu => hu
  cases c with
  | some call => exact h.judge w ht call
  | none =>
    simp only [Engine.analysisTurn]
    split
    · exact (hg e.gate).judge w ht _
    · split
      · exact (hg _).judge w ht _
      · refine (hg _).turns ht hc (h.owned.free ht rfl) (by simp) fun _ _ _ hx => ?_
        cases hx
        exact ⟨_,rfl⟩

theorem Awake.waitTurn {place : Nat} {atLeast : Version} (ht : e.activity? t = some (.wait place atLeast)) :
    (e.waitTurn t place atLeast).Awake none := by
  have hc : ¬ e.Consumes t := by simp [consumes_iff ht]
  have hl : ∀ lines, ({ e with lines } : Engine P).Awake (some t) := fun lines =>
    h.calm (fun _ => rfl) rfl rfl fun _ hu => hu
  have hf : ∀ lines x, (({ e with lines } : Engine P).finish t x).Awake none := fun lines x =>
    (hl lines).finish (h.apart hc) (h.owned.free ht rfl) rfl x
  unfold Engine.waitTurn
  split
  · exact h.rest rfl hc
  dsimp only
  split
  · exact (hl _).rest rfl hc
  · refine (hf _ _).keeps (keeps_wakeSome _ _) ?_ ?_ <;> rw [wakeSome_eq]

theorem Awake.settles {a : Activity P} {e' : Engine P} (ht : e.activity? t = some a) (ha : a.isCaller = true)
    (he : (∃ x, e' = e.finish t x) ∨ ∃ v, e' = e.set t (.watch v)) : e'.Awake none := by
  have hc : ¬ e.Consumes t := by
    rw [consumes_iff ht]
    rintro (rfl | rfl) <;> simp [Activity.isCaller] at ha
  have hn : ¬ e.Owns t := by
    refine h.owned.free ht ?_
    cases a <;> simp [Activity.isCaller] at ha <;> rfl
  rcases he with ⟨x,rfl⟩ | ⟨v,rfl⟩
  · exact h.finish (h.apart hc) hn rfl x
  · exact h.turns ht hc hn (by simp) (by simp)

theorem Awake.noted {e₁ : Engine P} (hn : e.Noted e₁) : e₁.Awake (some t) := by
  have hs : ∀ store, ({ e with store } : Engine P).Awake (some t) := fun store =>
    h.calm (fun _ => rfl) rfl rfl fun _ hu => hu
  cases hn with
  | nothing => exact h
  | opened hn =>
    obtain ⟨_,e₁,hopen,rfl⟩ := noteOpened_ok.mp hn
    obtain ⟨store,_,rfl⟩ := openDocument_ok.mp hopen
    exact ((hs store).enqueue _).keeps (keeps_emit _ _) rfl rfl
  | changed hn =>
    obtain ⟨store,_,rfl⟩ := change_ok.mp (noteChanged_ok.mp hn).2
    exact (hs store).enqueue _

theorem Awake.callTurn {c : Call} (ht : e.activity? t = some (.call c)) : (e.callTurn t c).Awake none := by
  rcases e.callTurn_cases t c with ⟨x,hx⟩ | ⟨e₁,id,atLeast,timeout,token,goal,hn,hx,_⟩
  · exact h.settles ht rfl (Or.inl ⟨x,hx⟩)
  · rw [hx]
    refine (h.noted hn).settles ((hn.keeps.activity? t).trans ht) rfl ?_
    rcases e₁.watchFrom_cases t id atLeast timeout token goal with hx | ⟨v,hv,_⟩
    · exact Or.inl hx
    · exact Or.inr ⟨v,hv⟩

theorem Awake.watchTurn {v : Watch} (ht : e.activity? t = some (.watch v)) : (e.watchTurn t v).Awake none := by
  refine h.settles ht rfl ?_
  rcases e.watchTurn_cases t v with hx | ⟨v',hv,_⟩
  · exact Or.inl hx
  · exact Or.inr ⟨v',hv⟩

theorem Awake.shutdownTurn {begun : Bool} (ht : e.activity? t = some (.shutdown begun)) :
    (e.shutdownTurn t begun).Awake none := by
  have hc : ¬ e.Consumes t := by simp [consumes_iff ht]
  have hn := h.owned.free ht rfl
  have hend : ∀ e₁ : Engine P, e₁.Awake (some t) → e₁.activity? t = some (.shutdown begun) →
      (e₁.endShutdown t).Awake none := by
    intro e₁ h₁ ht₁
    have hl := h₁.keeps (keeps_emit e₁ .down) rfl rfl
    have hc₁ : ¬ e₁.Consumes t := by simp [consumes_iff ht₁]
    exact hl.finish (h₁.apart hc₁) (h₁.owned.free ht₁ rfl) rfl _
  cases begun with
  | true => exact hend e h ht
  | false =>
    simp only [Engine.shutdownTurn]
    split
    · exact h.finish (h.apart hc) hn rfl _
    · have hstop : ({ e with stopped := true } : Engine P).Awake (some t) :=
        h.calm (fun _ => rfl) rfl rfl fun _ hu => hu
      have hs : (e.stop.wakeAll e.stop.watches).shutQueue.Awake (some t) :=
        ((hstop.wakeAll e.idleLoops).wakeAll e.stop.watches).shutQueue
      have ht' := (e.keeps_shutDown.activity? t).trans ht
      split
      · exact hs.turns ht' (by simp [consumes_iff ht']) (hs.owned.free ht' rfl) (by simp) (by simp)
      · exact hend _ hs ht'

theorem Awake.turn : (e.turn w t).Awake none := by
  unfold Engine.turn
  split
  · rename_i ht
    exact h.rest rfl (by simp [Consumes, ht])
  · exact h.takeTurn ‹_›
  · exact h.processTurn w ‹_›
  · exact h.loopTurn w ‹_›
  · exact h.analysisTurn w ‹_›
  · exact h.waitTurn ‹_›
  · exact h.callTurn ‹_›
  · exact h.watchTurn ‹_›
  · exact h.shutdownTurn ‹_›

end Turns

theorem Awake.parked {e : Engine P} (h : e.Awake none) (hr : e.ready = []) {t : Ticket} (ht : e.Consumes t) :
    e.queue.order = [] ∧ e.queue.shutDown = false := by
  have hw : t ∈ e.bell.waiting := by
    rcases h.idle t ht with hx | hw | hx
    · simp [hr] at hx
    · exact hw
    · simp at hx
  have hne : e.bell.waiting ≠ [] := List.ne_nil_of_mem hw
  have hrung : e.bell.rung = [] := by
    refine List.eq_nil_iff_forall_not_mem.mpr fun u hu => ?_
    rcases (h.rung u hu).2 with hx | hx
    · simp [hr] at hx
    · simp at hx
  refine ⟨List.length_eq_zero_iff.mp ?_, eq_false_of_ne_true fun hs => hne (h.shut hs)⟩
  have hlen := h.covers hne
  rw [hrung] at hlen
  exact Nat.le_zero.mp hlen

section Moves

variable (w : Worker P) {e : Engine P} (h : e.Awake none)

include h

theorem Awake.turning {place : Nat} {t : Ticket} (ht : e.ready[place]? = some t) :
    ({ e with ready := e.ready.eraseIdx place } : Engine P).Awake (some t) := by
  refine ⟨h.queue, h.bell, h.covers, h.shut, ?_, h.waiting, ?_, h.owned.congr fun _ => rfl⟩
  · intro u hu
    obtain ⟨hc,hx | hx⟩ := h.rung u hu
    · exact ⟨hc, ready_or_turning ht hx⟩
    · simp at hx
  · intro u hu
    rcases h.idle u hu with hx | hw | hx
    · exact (ready_or_turning ht hx).imp_right Or.inr
    · exact Or.inr (Or.inl hw)
    · simp at hx

theorem Awake.stop : e.stop.Awake none := by
  have hs : ({ e with stopped := true } : Engine P).Awake none :=
    h.calm (fun _ => rfl) rfl rfl fun _ hu => hu
  exact hs.wakeAll _

theorem Awake.hangUp : e.hangUp.Awake none := by
  rcases e.hangUp_cases with he | ⟨he,_⟩
  · rw [he]
    exact h
  · rw [he]
    exact h.stop.shutQueue

theorem Awake.close {e' : Engine P} {id : DocumentId} (hc : e.close id = .ok e') : e'.Awake none := by
  obtain ⟨store,g,_,rfl⟩ := close_ok.mp hc
  have hs : ({ e with store } : Engine P).Awake none := h.calm (fun _ => rfl) rfl rfl fun _ hu => hu
  exact (hs.fewer (h.queue.remove id) (e.queue.remove_sublist id).length_le (e.queue.remove_shutDown id)).wakeAll _

theorem Awake.requests (ids : List DocumentId) : (e.requestAnalyses ids).1.Awake none := by
  induction ids generalizing e with
  | nil => exact h
  | cons id ids ih =>
    simp only [requestAnalyses]
    split
    · rename_i e₁ _ hr
      obtain ⟨_,_,hr⟩ := requestAnalysis_ok.mp hr
      have he := h.enqueue id
      rw [hr] at he
      exact ih he
    · exact h

theorem Awake.release (permits : Nat) : (e.release permits).Awake none := by
  unfold Engine.release
  split
  · exact h
  · rename_i gate _
    have hg : ({ e with gate := some (gate.release permits).1 } : Engine P).Awake none :=
      h.calm (fun _ => rfl) rfl rfl fun _ hu => hu
    exact hg.wakeAll _

theorem Awake.ask (r : Request) : (e.move w (.ask r)).Awake none := by
  have hcalm : ∀ e' : Engine P, e'.activities = e.activities → e'.queue = e.queue → e'.bell = e.bell →
      e'.ready = e.ready → e'.Awake none := fun e' ha hq hb hr =>
    h.calm (fun u => by simp only [activity?, ha]) hq hb fun u hu => hr ▸ hu
  cases r with
  | openDocument id text =>
    simp only [Engine.move, Service.receive]
    split
    · rename_i hn
      obtain ⟨_,e₁,hopen,rfl⟩ := noteOpened_ok.mp hn
      obtain ⟨store,_,rfl⟩ := openDocument_ok.mp hopen
      exact ((hcalm { e with store } rfl rfl rfl rfl).enqueue _).keeps (keeps_emit _ _) rfl rfl
    · exact h
  | change id text =>
    simp only [Engine.move, Service.receive]
    split
    · rename_i hn
      obtain ⟨store,_,rfl⟩ := change_ok.mp (noteChanged_ok.mp hn).2
      exact (hcalm { e with store } rfl rfl rfl rfl).enqueue _
    · exact h
  | close id =>
    simp only [Engine.move, Service.receive]
    split
    · rename_i hn
      obtain ⟨_,e₁,hclose,rfl⟩ := noteClosed_ok.mp hn
      exact (h.close hclose).keeps (keeps_emit _ _) rfl rfl
    · exact h
  | analyse id =>
    simp only [Engine.move, Service.receive]
    split
    · rename_i e₁ _ hr
      obtain ⟨_,_,hr⟩ := requestAnalysis_ok.mp hr
      have he := h.enqueue id
      rw [hr] at he
      exact he
    · exact h
  | analyseAll ids =>
    have hr := h.requests ids
    simp only [Engine.move, Service.receive]
    split
    · rename_i he
      rw [he] at hr
      exact hr
    · rename_i he
      rw [he] at hr
      exact hr
  | call c => exact h.start _ (by simp)
  | cancel token => exact (hcalm { e with cancelled := token :: e.cancelled } rfl rfl rfl rfl).wakeAll _
  | shutdown => exact h.start _ (by simp)
  | abandon => exact (hcalm { e with abandoned := true } rfl rfl rfl rfl).hangUp
  | release permits => exact h.release permits
  | advance ms => exact hcalm _ rfl rfl rfl rfl

theorem Awake.move (m : Move) : (e.move w m).Awake none := by
  have hcalm : ∀ e' : Engine P, e'.activities = e.activities → e'.queue = e.queue → e'.bell = e.bell →
      e'.ready = e.ready → e'.Awake none := fun e' ha hq hb hr =>
    h.calm (fun u => by simp only [activity?, ha]) hq hb fun u hu => hr ▸ hu
  cases m with
  | ask r => exact h.ask w r
  | turn place =>
    simp only [Engine.move]
    split
    · exact h
    · exact (h.turning ‹_›).turn w
  | alarms => exact (hcalm { e with alarmed := e.clock } rfl rfl rfl rfl).wakeAll _
  | hangUp => exact h.hangUp
  | openDocument id text =>
    simp only [Engine.move]
    split
    · rename_i hn
      obtain ⟨store,_,rfl⟩ := openDocument_ok.mp hn
      exact (hcalm { e with store } rfl rfl rfl rfl).enqueue _
    · exact h
  | change id text =>
    simp only [Engine.move]
    split
    · rename_i hn
      obtain ⟨store,_,rfl⟩ := change_ok.mp hn
      exact (hcalm { e with store } rfl rfl rfl rfl).enqueue _
    · exact h
  | close id =>
    simp only [Engine.move]
    split
    · exact h.close ‹_›
    · exact h
  | enqueue id => exact h.enqueue id
  | remove id =>
    exact h.fewer (h.queue.remove id) (e.queue.remove_sublist id).length_le (e.queue.remove_shutDown id)
  | subscribe id =>
    simp only [Engine.move, Engine.subscribe]
    cases e.store.get id with
    | error why => exact h
    | ok l => exact hcalm _ rfl rfl rfl rfl
  | shutQueue => exact h.shutQueue
  | stop => exact h.stop
  | start task => exact h.start _ (by cases task <;> simp [Task.activity])

end Moves

end Engine

end LiveAnalysis
