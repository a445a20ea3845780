import LiveAnalysis.Proofs.Waits

namespace LiveAnalysis

variable {P : Type}

theorem filter_not_mem_map {α β : Type} [DecidableEq β] {l : List α} {f : α → β} (h : (l.map f).Nodup)
    (p : α → Bool) : (l.filter fun a => f a ∉ (l.filter p).map f) = l.filter fun a => !p a := by
  refine List.filter_congr fun a ha => ?_
  cases hpa : p a with
  | true =>
    have hin : f a ∈ (l.filter p).map f := List.mem_map.mpr ⟨a, List.mem_filter.mpr ⟨ha,hpa⟩, rfl⟩
    exact decide_eq_false (fun hn => hn hin)
  | false =>
    refine decide_eq_true fun hin => ?_
    obtain ⟨b,hb,hab⟩ := List.mem_map.mp hin
    obtain ⟨hm,hpb⟩ := List.mem_filter.mp hb
    rw [List.inj_on_of_nodup_map h hm ha hab, hpa] at hpb
    simp at hpb

namespace Store

theorem Valid.find?_iff {s : Store P} (h : s.Valid) {id : DocumentId} {l : Lifetime P} :
    s.find? id = some l ↔ l ∈ s.lifetimes ∧ l.id = id ∧ l.isOpen = true :=
  ⟨find?_spec, fun ⟨hm,hid,ho⟩ => hid ▸ h.find?_eq hm ho⟩

theorem Valid.find?_updated {s : Store P} (h : s.Valid) {id : DocumentId} {l : Lifetime P}
    (hl : s.find? id = some l) {f : Lifetime P → Lifetime P}
    (hf : ∀ x, (f x).generation = x.generation) (he : l.Evolves (f l)) (id' : DocumentId) :
    (s.update l.generation f).find? id' =
      if id' = id then (if (f l).isOpen then some (f l) else none) else s.find? id' := by
  obtain ⟨hm,hid,ho⟩ := find?_spec hl
  have hlid : (f l).id = id := he.id.trans hid
  ext k
  rw [(h.update hm hf he).find?_iff, h.mem_update hm]
  by_cases hk : id' = id
  · rw [if_pos hk, hk]
    constructor
    · rintro ⟨rfl | ⟨hkm,hne⟩,hkid,hko⟩
      · rw [if_pos hko]
      · exact absurd (congrArg Lifetime.generation (h.single k hkm l hm hko ho (hkid.trans hid.symm))) hne
    · intro hx
      split at hx
      · rename_i hfo
        cases hx
        exact ⟨Or.inl rfl,hlid,hfo⟩
      · simp at hx
  · rw [if_neg hk, h.find?_iff]
    constructor
    · rintro ⟨rfl | ⟨hkm,_⟩,hkid,hko⟩
      · exact absurd (hkid.symm.trans hlid) hk
      · exact ⟨hkm,hkid,hko⟩
    · rintro ⟨hkm,hkid,hko⟩
      refine ⟨Or.inr ⟨hkm, ?_⟩,hkid,hko⟩
      intro hg
      have hkl := h.eq_of_generation hkm hm hg
      exact hk (hkid.symm.trans ((congrArg Lifetime.id hkl).trans hid))

theorem Valid.find?_changed {s : Store P} (h : s.Valid) {id : DocumentId} {l : Lifetime P}
    (hl : s.find? id = some l) (text : String) (id' : DocumentId) :
    (s.update l.generation fun x => { x with text, version := l.version.next }).find? id' =
      if id' = id then some { l with text, version := l.version.next } else s.find? id' := by
  have ho := (find?_spec hl).2.2
  have hupdated := h.find?_updated hl (f := fun x => { x with text, version := l.version.next })
    (fun _ => rfl) (l.evolves_change text ho) id'
  rwa [if_pos (show Lifetime.isOpen { l with text, version := l.version.next } = true from ho)] at hupdated

theorem Valid.find?_closed {s : Store P} (h : s.Valid) {id : DocumentId} {l : Lifetime P}
    (hl : s.find? id = some l) (id' : DocumentId) :
    (s.update l.generation fun x => { x with slot := x.slot.close }).find? id' =
      if id' = id then none else s.find? id' :=
  h.find?_updated hl (f := fun x => { x with slot := x.slot.close }) (fun _ => rfl)
    (l.evolves_close (find?_spec hl).2.2) id'

theorem Valid.publish_current {s : Store P} (h : s.Valid) {id : DocumentId} {l : Lifetime P}
    (hl : s.find? id = some l) (hf : ∀ f, l.slot.latest = some f → f.version ≤ l.version) (payload : P) :
    s.publish l.snapshot payload = (s.update l.generation fun x =>
      { x with slot := { l.slot with latest := some ⟨l.id, l.version, payload⟩ } }, .stored) := by
  have hid := (find?_spec hl).2.1
  have hl' : s.find? l.snapshot.id = some l := by rwa [Lifetime.snapshot, hid]
  rcases h.publish_cases l.snapshot payload with ⟨_,_,hold⟩ | ⟨k,hk,_,_,hp⟩
  · obtain ⟨f,hlatest,hlt⟩ := hold l hl' rfl
    exact absurd (hf f hlatest) (Version.not_le_of_lt hlt)
  · cases hl'.symm.trans hk
    exact hp

theorem Valid.find?_published {s : Store P} (h : s.Valid) {id : DocumentId} {l : Lifetime P}
    (hl : s.find? id = some l) (hf : ∀ f, l.slot.latest = some f → f.version ≤ l.version) (payload : P)
    (id' : DocumentId) : (s.publish l.snapshot payload).1.find? id' =
      if id' = id then some { l with slot := { l.slot with latest := some ⟨l.id, l.version, payload⟩ } }
      else s.find? id' := by
  have ho := (find?_spec hl).2.2
  let slot : Slot P := { l.slot with latest := some ⟨l.id, l.version, payload⟩ }
  have he : l.Evolves { l with slot } := l.evolves_store _ ho hf
  have hopen : ({ l with slot } : Lifetime P).isOpen = true := ho
  rw [h.publish_current hl hf, h.find?_updated hl (f := fun x => { x with slot }) (fun _ => rfl) he, hopen]
  rfl

theorem Valid.published {s : Store P} (h : s.Valid) (snap : Snapshot) (payload : P) :
    (s.publish snap payload).1.Valid :=
  (h.publish_change (p := fun _ _ => True) trivial).valid h

theorem find?_opened (s : Store P) (id : DocumentId) (l : Lifetime P) (ho : l.isOpen = true) :
    (⟨l :: s.lifetimes⟩ : Store P).find? id = if id = l.id then some l else s.find? id := by
  by_cases h : id = l.id
  · simp [find?, h, ho]
  · simp [find?, h, Ne.symm h]

end Store

namespace Engine

section Run

variable (w : Worker P) {e e' : Engine P}

theorem run_settled (h : e.isSettled = true) (n : Nat) : e.run w n = e := by
  cases n with
  | zero => rfl
  | succ n => rw [run, if_pos h]

theorem run_succ (h : e.isSettled = false) (n : Nat) : e.run w (n + 1) = (e.step w).run w n := by
  rw [run, if_neg (by simp [h])]

theorem run_add (e : Engine P) (m n : Nat) : e.run w (m + n) = (e.run w m).run w n := by
  induction m generalizing e with
  | zero => rw [Nat.zero_add, run]
  | succ m ih =>
    rw [Nat.add_right_comm]
    cases h : e.isSettled with
    | true => rw [run_settled w h, run_settled w h, run_settled w h]
    | false => rw [run_succ w h, run_succ w h, ih]

theorem settle_eq {n : Nat} (hn : n ≤ e.energy) (h : e.run w n = e') (hs : e'.isSettled = true) :
    e.settle w = e' := by
  obtain ⟨k,hk⟩ := Nat.exists_eq_add_of_le hn
  rw [settle, hk, run_add, h, run_settled w hs]

end Run

theorem ready_le_energy (e : Engine P) : e.ready.length ≤ e.energy := by
  simp only [energy]
  omega

theorem woken_fresh {ready ts : List Ticket} (h : (ready ++ ts).Nodup) : woken ready ts = ready ++ ts := by
  induction ts generalizing ready with
  | nil => exact (List.append_nil _).symm
  | cons t ts ih =>
    have ht : t ∉ ready := fun hr => (List.nodup_append.mp h).2.2 t hr t List.mem_cons_self rfl
    rw [List.append_cons] at h ⊢
    rw [← ih h, woken, List.foldl_cons, if_neg ht]
    rfl

theorem wakeAll_fresh {e : Engine P} (hr : e.ready = []) {ts : List Ticket} (h : ts.Nodup) :
    e.wakeAll ts = { e with ready := ts } := by
  have hw : woken [] ts = ts := woken_fresh h
  rw [wakeAll_eq, hr, hw]

end Engine

/-! An engine at rest: its worker waits for documents, and besides there are watches only. -/

structure Resting (P : Type) where
  store : Store P := {}
  calls : Nat := 0
  tickets : Nat := 1
  watches : List (Ticket × Watch) := []
  clock : Nat := 0
  events : List Event := []

namespace Resting

def crew (r : Resting P) (stage : Stage P) : List (Ticket × Activity P) :=
  (0, .loop stage) :: r.watches.map fun p => (p.1, .watch p.2)

def roused (r : Resting P) (ready : List Ticket) (ended : List (Ticket × Ending P)) : Engine P where
  store := r.store
  bell := { waiting := [0] }
  calls := r.calls
  activities := r.crew .idle
  tickets := r.tickets
  ready
  clock := r.clock
  alarmed := r.clock
  events := r.events
  ended

def engine (r : Resting P) : Engine P :=
  r.roused [] []

def rung (r : Resting P) (id : DocumentId) : Engine P :=
  { r.engine with queue := { order := [id], pending := [id] }, bell := { rung := [0] }, ready := [0] }

structure Sound (r : Resting P) : Prop where
  valid : r.store.Valid
  clock : r.clock ≤ Engine.lastMoment
  begun : 0 < r.tickets
  numbered : ∀ p ∈ r.watches, 0 < p.1 ∧ p.1 < r.tickets
  rising : r.watches.Pairwise fun p q => p.1 < q.1 ∧ p.2.deadline ≤ q.2.deadline

def without (r : Resting P) (ts : List Ticket) : Resting P :=
  { r with watches := r.watches.filter fun p => p.1 ∉ ts }

def onlookers (r : Resting P) (generation : Nat) : List (Ticket × Watch) :=
  r.watches.filter fun p => p.2.generation = generation

variable {r : Resting P}

theorem Sound.nodup (h : r.Sound) : (r.watches.map (·.1)).Nodup :=
  List.pairwise_map.mpr (h.rising.imp fun hlt => Nat.ne_of_lt hlt.1)

theorem Sound.filter (h : r.Sound) (p : Ticket × Watch → Bool) :
    ({ r with watches := r.watches.filter p } : Resting P).Sound where
  valid := h.valid
  clock := h.clock
  begun := h.begun
  numbered q hq := h.numbered q (List.mem_of_mem_filter hq)
  rising := h.rising.filter p

theorem Sound.crew_lt (h : r.Sound) {stage : Stage P} {t : Ticket} {a : Activity P}
    (ha : (t,a) ∈ r.crew stage) : t < r.tickets := by
  rcases List.mem_cons.mp ha with hp | hp
  · exact (Prod.mk.inj hp).1 ▸ h.begun
  · obtain ⟨q,hq,hqt⟩ := List.mem_map.mp hp
    exact (Prod.mk.inj hqt).1 ▸ (h.numbered q hq).2

theorem Sound.crew_nodup (h : r.Sound) (stage : Stage P) : ((r.crew stage).map (·.1)).Nodup := by
  rw [crew, List.map_cons, List.map_map, List.nodup_cons]
  refine ⟨?_, h.nodup⟩
  intro hzero
  obtain ⟨p,hp,hp0⟩ := List.mem_map.mp hzero
  exact Nat.ne_of_gt (h.numbered p hp).1 hp0

theorem crew_count (r : Resting P) (stage : Stage P) :
    (r.crew stage).countP (!·.2.isAnalysis) = r.watches.length + 1 := by
  rw [List.countP_eq_length.mpr]
  · simp [crew]
  · intro p hp
    rcases List.mem_cons.mp hp with rfl | hp
    · rfl
    · obtain ⟨q,_,rfl⟩ := List.mem_map.mp hp
      rfl

theorem Sound.crew_set (h : r.Sound) (stage stage' : Stage P) :
    (r.crew stage).map (fun p => if p.1 = 0 then (0, .loop stage') else p) = r.crew stage' := by
  rw [crew, List.map_cons, if_pos rfl, List.map_map, crew]
  congr 1
  refine List.map_congr_left fun p hp => ?_
  exact if_neg (Nat.ne_of_gt (h.numbered p hp).1)

theorem Sound.crew_set_last (h : r.Sound) (stage : Stage P) (a b : Activity P) :
    (r.crew stage ++ [(r.tickets,a)]).map (fun p => if p.1 = r.tickets then (r.tickets,b) else p) =
      r.crew stage ++ [(r.tickets,b)] := by
  have hcrew : ∀ p ∈ r.crew stage, (if p.1 = r.tickets then (r.tickets,b) else p) = p :=
    fun p hp => if_neg (Nat.ne_of_lt (h.crew_lt hp))
  rw [List.map_append, List.map_congr_left hcrew, List.map_id', List.map_singleton, if_pos rfl]

theorem Sound.crew_drop_last (h : r.Sound) (stage : Stage P) (a : Activity P) :
    (r.crew stage ++ [(r.tickets,a)]).filter (fun p => p.1 ≠ r.tickets) = r.crew stage := by
  have hcrew : ∀ p ∈ r.crew stage, decide (p.1 ≠ r.tickets) = true :=
    fun p hp => decide_eq_true (Nat.ne_of_lt (h.crew_lt hp))
  rw [List.filter_append, List.filter_eq_self.mpr hcrew, List.filter_cons_of_neg (by simp),
    List.filter_nil, List.append_nil]

theorem Sound.crew_last (h : r.Sound) {e : Engine P} {stage : Stage P} {a : Activity P}
    (he : e.activities = r.crew stage ++ [(r.tickets,a)]) : e.activity? r.tickets = some a := by
  refine Engine.activity?_of_mem ?_ (he ▸ List.mem_append_right _ (List.mem_singleton.mpr rfl))
  rw [he, List.map_append, List.nodup_append]
  refine ⟨h.crew_nodup stage, by simp, ?_⟩
  intro t ht u hu
  obtain ⟨p,hp,rfl⟩ := List.mem_map.mp ht
  obtain rfl : u = r.tickets := by simpa using hu
  exact Nat.ne_of_lt (h.crew_lt hp)

theorem Sound.of_store (h : r.Sound) {store : Store P} (hv : store.Valid) (events : List Event) :
    ({ r with store, events } : Resting P).Sound :=
  ⟨hv, h.clock, h.begun, h.numbered, h.rising⟩

theorem roused_settled (r : Resting P) (ended : List (Ticket × Ending P)) :
    (r.roused [] ended).isSettled = true := by
  simp [roused, Engine.isSettled]

theorem Sound.watching (h : r.Sound) (ready : List Ticket) (ended : List (Ticket × Ending P))
    {t : Ticket} {v : Watch} (hv : (t,v) ∈ r.watches) :
    (r.roused ready ended).activity? t = some (.watch v) :=
  Engine.activity?_of_mem (h.crew_nodup .idle) (List.mem_cons_of_mem _ (List.mem_map.mpr ⟨_,hv,rfl⟩))

theorem roused_finish (ready : List Ticket) (ended : List (Ticket × Ending P)) {t : Ticket} (ht : 0 < t)
    (x : Ending P) : (r.roused ready ended).finish t x = (r.without [t]).roused ready (ended ++ [(t,x)]) := by
  have hne : 0 ≠ t := Nat.ne_of_lt ht
  simp [Engine.finish, Engine.remove, roused, crew, without, List.filter_map, hne, Function.comp_def]

end Resting

namespace Engine

inductive Leaves (e : Engine P) (v : Watch) : Ending P → Prop where
  | refused {why} (h : e.outcome? v = some (.error why)) : Leaves e v (.refused why)
  | paired {f l text n} (h : e.outcome? v = some (.ok f)) (hg : v.goal = .paired text n)
    (hn : f.version ≠ v.atLeast) (hl : e.store.find? v.id = some l) (hv : f.version = l.version) :
    Leaves e v (.paired f l.text)

theorem outcome?_of_answer {e : Engine P} {v : Watch} {l : Lifetime P}
    {answer : Except Refusal (Finding P)} (hl : e.store.ofGeneration? v.generation = some l)
    (ha : l.slot.answer? v.id v.atLeast = some answer) : e.outcome? v = some answer := by
  simp only [outcome?, slot, hl, ha]

theorem outcome?_waiting {e : Engine P} {v : Watch} {l : Lifetime P}
    (hl : e.store.ofGeneration? v.generation = some l) (ha : l.slot.answer? v.id v.atLeast = none)
    (hc : e.cancelled = []) (hs : e.stopped = false) :
    e.outcome? v =
      if v.deadline ≤ e.alarmed then some (.error (.timedOut v.id v.atLeast v.timeout)) else none := by
  have hcancel : e.isCancelled v = false := by
    unfold isCancelled
    cases v.token <;> simp [hc]
  simp [outcome?, slot, hl, ha, hcancel, hs]

theorem pair_same (e : Engine P) (t : Ticket) {v : Watch} {f : Finding P} (hv : f.version = v.atLeast)
    (text : String) (n : Nat) : e.pair t v text n f = e.finish t (.paired f text) := by
  unfold pair
  simp only [if_pos hv]

theorem Leaves.watchTurn {e : Engine P} {v : Watch} {x : Ending P} (h : e.Leaves v x) (t : Ticket) :
    e.watchTurn t v = e.finish t x := by
  cases h with
  | refused h => simp only [Engine.watchTurn, h]
  | @paired f l text n h hg hn hl hv =>
    simp only [Engine.watchTurn, h, hg]
    unfold pair
    simp only [if_neg hn, Store.get, hl, Except.map, if_pos hv]

end Engine

namespace Resting

variable {r : Resting P}

theorem without_cons (r : Resting P) (t : Ticket) (ts : List Ticket) :
    (r.without [t]).without ts = r.without (t :: ts) := by
  have hp : ∀ p : Ticket × Watch,
      (decide (p.1 ∉ ts) && decide (p.1 ∉ [t])) = decide (p.1 ∉ t :: ts) := by
    intro p
    by_cases ht : p.1 = t <;> simp [ht]
  simp only [without, List.filter_filter, hp]

theorem leaves_roused {v : Watch} {x : Ending P} (h : r.engine.Leaves v x) (r' : Resting P)
    (hs : r'.store = r.store) (hc : r'.clock = r.clock) (ready : List Ticket)
    (ended : List (Ticket × Ending P)) : (r'.roused ready ended).Leaves v x := by
  obtain ⟨store,calls,tickets,watches,clock,events⟩ := r'
  subst hs hc
  cases h with
  | refused ho => exact .refused ho
  | paired ho hg hne hfind hver => exact .paired ho hg hne hfind hver

theorem Sound.dismissed (w : Worker P) {xs : List (Ticket × Ending P)} (h : r.Sound)
    (hn : (xs.map (·.1)).Nodup)
    (hx : ∀ t x, (t,x) ∈ xs → ∃ v, (t,v) ∈ r.watches ∧ r.engine.Leaves v x)
    (ended : List (Ticket × Ending P)) :
    (r.roused (xs.map (·.1)) ended).run w xs.length =
      (r.without (xs.map (·.1))).roused [] (ended ++ xs) := by
  induction xs generalizing r ended with
  | nil => simp [Engine.run, without]
  | cons p xs ih =>
    obtain ⟨t,x⟩ := p
    obtain ⟨v,hv,hl⟩ := hx t x List.mem_cons_self
    have hstep : (r.roused (t :: xs.map (·.1)) ended).step w =
        (r.without [t]).roused (xs.map (·.1)) (ended ++ [(t,x)]) := by
      have hturn : (r.roused (xs.map (·.1)) ended).turn w t =
          (r.without [t]).roused (xs.map (·.1)) (ended ++ [(t,x)]) := by
        have hl' := leaves_roused hl r rfl rfl (xs.map (·.1)) ended
        simp only [Engine.turn, h.watching _ _ hv, hl'.watchTurn]
        exact roused_finish _ _ (h.numbered _ hv).1 x
      change ((r.roused (xs.map (·.1)) ended).turn w t).hangUp = _
      rw [hturn]
      rfl
    obtain ⟨hnt,hn⟩ := List.nodup_cons.mp hn
    have hs : (r.without [t]).Sound := h.filter _
    rw [List.map_cons, List.length_cons, Engine.run_succ w rfl, hstep, ih hs hn]
    · rw [without_cons, List.append_assoc, List.singleton_append]
    · intro t' x' hx'
      obtain ⟨v',hv',hl'⟩ := hx t' x' (List.mem_cons_of_mem _ hx')
      refine ⟨v', List.mem_filter.mpr ⟨hv', ?_⟩, ?_⟩
      · have hne : t' ≠ t := fun he => hnt (he ▸ List.mem_map.mpr ⟨_,hx',rfl⟩)
        simpa using hne
      · exact leaves_roused hl' (r.without [t]) rfl rfl [] []

theorem Sound.without_filter (h : r.Sound) (p : Ticket × Watch → Bool) :
    r.without ((r.watches.filter p).map (·.1)) = { r with watches := r.watches.filter fun q => !p q } := by
  rw [without, filter_not_mem_map h.nodup]

theorem Sound.run_leaving (w : Worker P) (h : r.Sound) (p : Ticket × Watch → Bool)
    {x : Ticket × Watch → Ending P} (hx : ∀ q ∈ r.watches, p q = true → r.engine.Leaves q.2 (x q)) :
    (r.roused ((r.watches.filter p).map (·.1)) []).run w (r.watches.filter p).length =
      ({ r with watches := r.watches.filter fun q => !p q } : Resting P).roused []
        ((r.watches.filter p).map fun q => (q.1, x q)) := by
  let xs : List (Ticket × Ending P) := (r.watches.filter p).map fun q => (q.1, x q)
  have htickets : xs.map (·.1) = (r.watches.filter p).map (·.1) := by
    simp only [xs, List.map_map]
    rfl
  have hn : (xs.map (·.1)).Nodup := htickets ▸ h.nodup.sublist ((List.filter_sublist).map _)
  have hleave : ∀ t y, (t,y) ∈ xs → ∃ v, (t,v) ∈ r.watches ∧ r.engine.Leaves v y := by
    intro t y hy
    obtain ⟨q,hq,hqy⟩ := List.mem_map.mp hy
    obtain ⟨rfl,rfl⟩ := Prod.mk.inj hqy
    obtain ⟨hm,hp⟩ := List.mem_filter.mp hq
    exact ⟨q.2, hm, hx q hm hp⟩
  have hrun := h.dismissed w hn hleave []
  rwa [htickets, h.without_filter, List.length_map, List.nil_append] at hrun

def working (r : Resting P) (stage : Stage P) (ready : List Ticket) : Engine P :=
  { r.engine with
    bell := {}
    activities := r.crew stage
    ready }

theorem Sound.step_rung (w : Worker P) (h : r.Sound) {id : DocumentId} {l : Lifetime P}
    (hl : r.store.find? id = some l) :
    (r.rung id).step w = (r.working (.underway l.snapshot) []).begin 0 l.snapshot := by
  have hturn : ({ r.rung id with ready := [] } : Engine P).turn w 0 =
      (r.working (.underway l.snapshot) []).begin 0 l.snapshot := by
    change ({ r.rung id with ready := [] } : Engine P).seek 0 = _
    simp only [Engine.seek, rung, engine, roused, Bell.answer, Store.firstOpen?, hl, Engine.set,
      h.crew_set]
    rfl
  change (({ r.rung id with ready := [] } : Engine P).turn w 0).hangUp = _
  rw [hturn]
  rfl

theorem Sound.set_working (h : r.Sound) (stage stage' : Stage P) (ready : List Ticket) :
    (r.working stage ready).set 0 (.loop stage') = r.working stage' ready := by
  simp only [Engine.set, working, h.crew_set]

theorem Sound.counted (h : r.Sound) :
    ({ r with calls := r.calls + 1, tickets := r.tickets + 1 } : Resting P).Sound where
  valid := h.valid
  clock := h.clock
  begun := Nat.succ_pos _
  numbered p hp := ⟨(h.numbered p hp).1, Nat.lt_succ_of_lt (h.numbered p hp).2⟩
  rising := h.rising

theorem Sound.step_analysis (w : Worker P) (h : r.Sound) (s : Snapshot) :
    ((r.working (.underway s) []).begin 0 s).step w =
      ({ r with calls := r.calls + 1, tickets := r.tickets + 1 } : Resting P).working
        (.judged s (w.analyzer (r.calls + 1) s.text s.version)) [0] := by
  let r' : Resting P := { r with calls := r.calls + 1, tickets := r.tickets + 1 }
  let e : Engine P := { (r.working (.underway s) []).begin 0 s with ready := [] }
  have hact : e.activity? r.tickets = some (.analysis 0 s none) := h.crew_last rfl
  have hremove : ({ e with calls := r.calls + 1 } : Engine P).remove r.tickets =
      r'.working (.underway s) [] := by
    have hdrop := h.crew_drop_last (.underway s) (.analysis 0 s none)
    simp only [Engine.remove, e, Engine.begin, Engine.start, working]
    rw [show r.engine.tickets = r.tickets from rfl, hdrop]
    rfl
  have hturn : e.turn w r.tickets =
      r'.working (.judged s (w.analyzer (r.calls + 1) s.text s.version)) [0] := by
    simp only [Engine.turn, hact]
    change Engine.judge w { e with calls := r.calls + 1 } r.tickets 0 s (r.calls + 1) = _
    rw [Engine.judge, hremove]
    change ((r'.working (.underway s) []).set 0 _).wake 0 = _
    rw [h.counted.set_working]
    rfl
  change (e.turn w r.tickets).hangUp = _
  rw [hturn]
  rfl

theorem Sound.seek_working (h : r.Sound) (stage : Stage P) (ready : List Ticket) :
    (r.working stage ready).seek 0 = r.roused ready [] := by
  simp only [Engine.seek, working, engine, roused, Bell.answer, Bell.wait, Store.firstOpen?, Engine.set,
    h.crew_set]
  rfl

theorem watchers_eq (r : Resting P) {e : Engine P} {stage : Stage P} (hl : e.lines = [])
    (ha : e.activities = r.crew stage) (g : Nat) :
    e.watchers g = (r.onlookers g).map (·.1) := by
  have hfilter : ∀ ps : List (Ticket × Watch),
      ps.filterMap (fun p => if p.2.generation = g then some p.1 else none) =
        (ps.filter fun p => p.2.generation = g).map (·.1) := by
    intro ps
    induction ps with
    | nil => rfl
    | cons p ps ih => by_cases hg : p.2.generation = g <;> simp [hg, ih]
  simp only [Engine.watchers, hl, ha, crew, List.filter_nil, List.filterMap_nil, List.nil_append,
    List.filterMap_cons, List.filterMap_map]
  exact hfilter r.watches

theorem Sound.onlookers_nodup (h : r.Sound) (g : Nat) : ((r.onlookers g).map (·.1)).Nodup :=
  h.nodup.sublist ((List.filter_sublist).map _)

theorem Sound.step_found (w : Worker P) (h : r.Sound) {s : Snapshot} {payload : P}
    (hp : (r.store.publish s payload).2 = .stored) :
    ∃ events, (r.working (.judged s (.found payload)) [0]).step w =
      ({ r with store := (r.store.publish s payload).1, events } : Resting P).roused
        ((r.onlookers s.generation).map (·.1)) [] := by
  let r' : Resting P := { r with store := (r.store.publish s payload).1 }
  let stage : Stage P := .judged s (.found payload)
  let woken := (r.onlookers s.generation).map (·.1)
  have hpub : (r.working stage []).publish s payload = (r'.working stage woken, .stored) := by
    have hstore : (r.working stage []).store.publish s payload = (r'.store, .stored) := Prod.ext rfl hp
    simp only [Engine.publish, hstore, if_true]
    change ((r'.working stage []).wakeAll ((r'.working stage []).watchers s.generation), _) = _
    rw [r'.watchers_eq rfl rfl, Engine.wakeAll_fresh]
    · rfl
    · rfl
    · exact h.onlookers_nodup _
  obtain ⟨events,hcon⟩ : ∃ events, ((r.working stage []).conclude w s (.found payload)).1 =
      ({ r' with events } : Resting P).working stage woken := by
    simp only [Engine.conclude, hpub]
    split
    · exact ⟨((r'.working stage woken).emit _).events, rfl⟩
    · exact ⟨r'.events, rfl⟩
  refine ⟨events, ?_⟩
  change (((r.working stage []).conclude w s (.found payload)).1.seek 0).hangUp = _
  rw [hcon, (h.of_store (h.valid.published s payload) events).seek_working]
  rfl

theorem Sound.step_failed (w : Worker P) (h : r.Sound) {s : Snapshot} {verdict : Verdict P}
    (hv : ∀ payload, verdict ≠ .found payload) :
    ∃ events, (r.working (.judged s verdict) [0]).step w = ({ r with events } : Resting P).engine := by
  have hcon : ∃ events, ((r.working (.judged s verdict) []).conclude w s verdict).1 =
      ({ r with events } : Resting P).working (.judged s verdict) [] := by
    cases verdict with
    | found payload => exact absurd rfl (hv payload)
    | failed reason => exact ⟨((r.working _ []).conclude w s (.failed reason)).1.events, rfl⟩
    | panicked tail => exact ⟨((r.working _ []).conclude w s (.panicked tail)).1.events, rfl⟩
  obtain ⟨events,hcon⟩ := hcon
  refine ⟨events, ?_⟩
  change (((r.working (.judged s verdict) []).conclude w s verdict).1.seek 0).hangUp = _
  rw [hcon, (h.of_store h.valid events).seek_working]
  rfl

theorem rung_energy (r : Resting P) (id : DocumentId) : r.watches.length + 3 ≤ (r.rung id).energy := by
  have hcount : (r.rung id).activities.countP (!·.2.isAnalysis) = r.watches.length + 1 := r.crew_count _
  have hqueue : (r.rung id).queue.order.length = 1 := rfl
  simp only [Engine.energy, hcount, hqueue]
  omega

theorem Sound.run_rung (w : Worker P) (h : r.Sound) {id : DocumentId} {l : Lifetime P}
    (hl : r.store.find? id = some l) :
    (r.rung id).run w 2 = ({ r with calls := r.calls + 1, tickets := r.tickets + 1 } : Resting P).working
      (.judged l.snapshot (w.analyzer (r.calls + 1) l.text l.version)) [0] := by
  rw [Engine.run_succ w rfl, h.step_rung w hl, Engine.run_succ w rfl, h.step_analysis]
  rfl

theorem Sound.settle_failed (w : Worker P) (h : r.Sound) {id : DocumentId} {l : Lifetime P}
    (hl : r.store.find? id = some l)
    (hv : ∀ payload, w.analyzer (r.calls + 1) l.text l.version ≠ .found payload) :
    ∃ events, (r.rung id).settle w =
      ({ r with calls := r.calls + 1, tickets := r.tickets + 1, events } : Resting P).engine := by
  obtain ⟨events,hstep⟩ := h.counted.step_failed w (s := l.snapshot) hv
  refine ⟨events, Engine.settle_eq w (n := 2 + 1) ?_ ?_ (roused_settled _ _)⟩
  · have := r.rung_energy id
    omega
  · rw [Engine.run_add, h.run_rung w hl, Engine.run_succ w rfl, hstep]
    rfl

theorem Sound.leaves_found (h : r.Sound) {id : DocumentId} {l : Lifetime P} (payload : P)
    (hl : r.store.find? id = some l) (hf : ∀ f, l.slot.latest = some f → f.version ≤ l.version)
    {v : Watch} (hid : v.id = id) (hg : v.generation = l.generation) (hv : v.atLeast < l.version)
    {text : String} {n : Nat} (hgoal : v.goal = .paired text n) :
    ({ r with store := (r.store.publish l.snapshot payload).1 } : Resting P).engine.Leaves v
      (.paired ⟨l.id, l.version, payload⟩ l.text) := by
  let k : Lifetime P := { l with slot := { l.slot with latest := some ⟨l.id, l.version, payload⟩ } }
  have hfind : (r.store.publish l.snapshot payload).1.find? id = some k :=
    (h.valid.find?_published hl hf payload id).trans (if_pos rfl)
  have hgen : (r.store.publish l.snapshot payload).1.ofGeneration? v.generation = some k := by
    rw [hg]
    exact (h.valid.published _ _).ofGeneration?_eq (Store.find?_spec hfind).1
  have hanswer : k.slot.answer? v.id v.atLeast = some (.ok ⟨l.id, l.version, payload⟩) :=
    Slot.answer?_found rfl (Nat.le_of_lt hv)
  have hne : l.version ≠ v.atLeast := fun he => Version.not_le_of_lt hv (he ▸ Version.le_refl _)
  exact .paired (l := k) (Engine.outcome?_of_answer hgen hanswer) hgoal hne (hid ▸ hfind) rfl

theorem Sound.settle_found (w : Worker P) (h : r.Sound) {id : DocumentId} {l : Lifetime P} {payload : P}
    (hl : r.store.find? id = some l)
    (hv : w.analyzer (r.calls + 1) l.text l.version = .found payload)
    (hf : ∀ f, l.slot.latest = some f → f.version ≤ l.version)
    (hw : ∀ p ∈ r.onlookers l.generation, p.2.id = id ∧ p.2.atLeast < l.version ∧
      ∃ text n, p.2.goal = .paired text n) :
    ∃ events, (r.rung id).settle w = ({ r with
        store := (r.store.publish l.snapshot payload).1
        calls := r.calls + 1
        tickets := r.tickets + 1
        watches := r.watches.filter fun p => !decide (p.2.generation = l.generation)
        events } : Resting P).roused []
      ((r.onlookers l.generation).map fun p => (p.1, .paired ⟨l.id, l.version, payload⟩ l.text)) := by
  have hstored : (r.store.publish l.snapshot payload).2 = .stored := by
    rw [h.valid.publish_current hl hf]
  obtain ⟨events,hstep⟩ := h.counted.step_found w hstored
  let r' : Resting P :=
    { r with store := (r.store.publish l.snapshot payload).1, calls := r.calls + 1,
             tickets := r.tickets + 1, events }
  have hr' : r'.Sound := h.counted.of_store (h.valid.published _ _) events
  have hrun : (r.rung id).run w 3 = r'.roused ((r.onlookers l.generation).map (·.1)) [] := by
    rw [Engine.run_add w _ 2 1, h.run_rung w hl, hv, Engine.run_succ w rfl, hstep]
    rfl
  refine ⟨events, Engine.settle_eq w (n := 3 + (r.onlookers l.generation).length) ?_ ?_
    (roused_settled _ _)⟩
  · have hlen : (r.onlookers l.generation).length ≤ r.watches.length := List.length_filter_le _ _
    have := r.rung_energy id
    omega
  · rw [Engine.run_add, hrun]
    refine hr'.run_leaving w _ fun q hq hg => ?_
    obtain ⟨hid,hlt,text,n,hgoal⟩ := hw q (List.mem_filter.mpr ⟨hq,hg⟩)
    have hleaves := h.leaves_found payload hl hf hid (of_decide_eq_true hg) hlt hgoal
    exact leaves_roused hleaves r' rfl rfl [] []

theorem noteOpened_resting (r : Resting P) {id : DocumentId} {text : String} {store : Store P}
    (h : r.store.openDocument id text = .ok store) :
    ∃ events, r.engine.noteOpened id text = .ok (({ r with store, events } : Resting P).rung id) := by
  refine ⟨(r.engine.emit (.opened id)).events, Engine.noteOpened_ok.mpr ⟨rfl, ?_⟩⟩
  exact ⟨_, Engine.openDocument_ok.mpr ⟨store,h,rfl⟩, rfl⟩

theorem noteOpened_again (r : Resting P) {id : DocumentId} {l : Lifetime P}
    (h : r.store.find? id = some l) (text : String) :
    r.engine.noteOpened id text = .error (.alreadyOpen id) :=
  Engine.noteOpened_refuses text rfl h

theorem noteChanged_resting (r : Resting P) {id : DocumentId} {text : String} {store : Store P}
    {version : Version} (h : r.store.change id text = .ok (store,version)) :
    r.engine.noteChanged id text = .ok (({ r with store } : Resting P).rung id, version) :=
  Engine.noteChanged_ok.mpr ⟨rfl, Engine.change_ok.mpr ⟨store,h,rfl⟩⟩

theorem noteChanged_unknown (r : Resting P) {id : DocumentId} (h : r.store.find? id = none)
    (text : String) : r.engine.noteChanged id text = .error (.notOpen id) := by
  simp [Engine.noteChanged, Engine.ensureRunning, engine, roused, Engine.change, Store.change,
    Store.get, h, bind, Except.bind]

theorem Sound.noteClosed_resting (h : r.Sound) {id : DocumentId} {store : Store P} {g : Nat}
    (hs : r.store.close id = .ok (store,g)) :
    ∃ events, r.engine.noteClosed id =
      .ok (({ r with store, events } : Resting P).roused ((r.onlookers g).map (·.1)) []) := by
  let r' : Resting P := { r with store }
  refine ⟨(r'.engine.emit (.closed id)).events, Engine.noteClosed_ok.mpr ⟨rfl, ?_⟩⟩
  refine ⟨_, Engine.close_ok.mpr ⟨store,g,hs,rfl⟩, ?_⟩
  change _ = ((r'.engine.wakeAll (r'.engine.watchers g)).emit _)
  rw [r'.watchers_eq rfl rfl, Engine.wakeAll_fresh]
  · rfl
  · rfl
  · exact h.onlookers_nodup g

theorem noteClosed_unknown (r : Resting P) {id : DocumentId} (h : r.store.find? id = none) :
    r.engine.noteClosed id = .error (.notOpen id) := by
  simp [Engine.noteClosed, Engine.ensureRunning, engine, roused, Engine.close, Store.close,
    Store.get, h, bind, Except.bind]

theorem Sound.settle_closed (w : Worker P) (h : r.Sound) {id : DocumentId} {l : Lifetime P}
    (hl : r.store.find? id = some l)
    (hw : ∀ p ∈ r.onlookers l.generation, ∀ f, l.slot.latest = some f → f.version < p.2.atLeast)
    (events : List Event) :
    let store := r.store.update l.generation fun x => { x with slot := x.slot.close }
    (({ r with store, events } : Resting P).roused ((r.onlookers l.generation).map (·.1)) []).settle w =
      ({ r with
          store
          watches := r.watches.filter fun p => !decide (p.2.generation = l.generation)
          events } : Resting P).roused []
        ((r.onlookers l.generation).map fun p => (p.1, .refused (.documentClosed p.2.id))) := by
  intro store
  obtain ⟨hm,_,ho⟩ := Store.find?_spec hl
  have hvalid : store.Valid := h.valid.update hm (fun _ => rfl) (l.evolves_close ho)
  let r' : Resting P := { r with store, events }
  have hr' : r'.Sound := h.of_store hvalid events
  have hgen : store.ofGeneration? l.generation = some { l with slot := l.slot.close } := by
    have hmem := (h.valid.mem_update hm (f := fun x => { x with slot := x.slot.close })).mpr (Or.inl rfl)
    exact hvalid.ofGeneration?_eq hmem
  refine Engine.settle_eq w (n := (r.onlookers l.generation).length) ?_ ?_ (roused_settled _ _)
  · have := Engine.ready_le_energy (r'.roused ((r.onlookers l.generation).map (·.1)) [])
    rwa [roused, List.length_map] at this
  · refine hr'.run_leaving w _ fun q hq hg => ?_
    refine .refused (Engine.outcome?_of_answer (l := { l with slot := l.slot.close }) ?_ ?_)
    · rw [of_decide_eq_true hg]
      exact hgen
    · exact Slot.answer?_closed rfl q.2.id (hw q (List.mem_filter.mpr ⟨hq,hg⟩))

def answered (r : Resting P) (x : Ending P) : Engine P :=
  ({ r with tickets := r.tickets + 1 } : Resting P).roused [] [(r.tickets,x)]

def watched (r : Resting P) (v : Watch) : Resting P :=
  { r with tickets := r.tickets + 1, watches := r.watches ++ [(r.tickets,v)] }

theorem Sound.watched (h : r.Sound) {v : Watch} (hv : ∀ p ∈ r.watches, p.2.deadline ≤ v.deadline) :
    (r.watched v).Sound where
  valid := h.valid
  clock := h.clock
  begun := Nat.succ_pos _
  numbered p hp := by
    rcases List.mem_append.mp hp with hp | hp
    · exact h.counted.numbered p hp
    · obtain rfl := List.mem_singleton.mp hp
      exact ⟨h.begun, Nat.lt_succ_self _⟩
  rising := by
    refine List.pairwise_append.mpr ⟨h.rising, List.pairwise_singleton _ _, ?_⟩
    intro p hp q hq
    obtain rfl := List.mem_singleton.mp hq
    exact ⟨(h.numbered p hp).2, hv p hp⟩

def query (r : Resting P) (l : Lifetime P) (timeout : Nat) : Watch where
  id := l.id
  generation := l.generation
  atLeast := l.version
  timeout
  deadline := r.engine.alarmIn timeout
  token := none
  goal := .paired l.text Engine.furtherAttempts

def calling (r : Resting P) (c : Call) : Engine P :=
  { r.engine.start (.call c) with ready := [] }

theorem Sound.calling_finish (h : r.Sound) (c : Call) (x : Ending P) :
    (r.calling c).finish r.tickets x = r.answered x := by
  have hdrop := h.crew_drop_last .idle (.call c)
  simp only [Engine.finish, Engine.remove, calling, Engine.start, engine, roused]
  rw [hdrop]
  rfl

theorem Sound.calling_set (h : r.Sound) (c : Call) (v : Watch) :
    (r.calling c).set r.tickets (.watch v) = (r.watched v).engine := by
  have hset := h.crew_set_last .idle (.call c) (.watch v)
  simp only [Engine.set, calling, Engine.start, engine, roused]
  rw [hset]
  simp [Resting.watched, crew]

theorem Sound.query_unknown (w : Worker P) (h : r.Sound) {id : DocumentId} (timeout : Nat)
    (hl : r.store.find? id = none) :
    (r.calling (.query id timeout)).turn w r.tickets = r.answered (.refused (.notOpen id)) := by
  have hact : (r.calling (.query id timeout)).activity? r.tickets = some (.call (.query id timeout)) :=
    h.crew_last rfl
  have hl' : (r.calling (.query id timeout)).store.find? id = none := hl
  simp only [Engine.turn, hact, Engine.callTurn, Store.get, hl']
  exact h.calling_finish _ _

theorem Sound.query_known (w : Worker P) (h : r.Sound) {id : DocumentId} (timeout : Nat)
    {l : Lifetime P} (hl : r.store.find? id = some l) :
    (r.calling (.query id timeout)).turn w r.tickets =
      (r.calling (.query id timeout)).watchTurn r.tickets (r.query l timeout) := by
  have hact : (r.calling (.query id timeout)).activity? r.tickets = some (.call (.query id timeout)) :=
    h.crew_last rfl
  have hl' : (r.calling (.query id timeout)).store.find? id = some l := hl
  have hid := (Store.find?_spec hl).2.1
  have hnew : (r.calling (.query id timeout)).newWatch id (some l.version) timeout none
      (.paired l.text Engine.furtherAttempts) = .ok (r.query l timeout) := by
    subst hid
    have hrun : (r.calling (.query l.id timeout)).ensureRunning = .ok () := rfl
    simp only [Engine.newWatch, hrun, Store.get, hl', query]
    rfl
  simp only [Engine.turn, hact, Engine.callTurn, Store.get, hl', Engine.watchFrom, hnew]

section Query

variable (w : Worker P) (h : r.Sound) {id : DocumentId} {l : Lifetime P}
  (hl : r.store.find? id = some l) (timeout : Nat)

include h hl

theorem Sound.query_generation :
    (r.calling (.query id timeout)).store.ofGeneration? (r.query l timeout).generation = some l :=
  h.valid.ofGeneration?_eq (Store.find?_spec hl).1

theorem Sound.query_found {f : Finding P} (hf : l.slot.latest = some f) (hv : f.version = l.version) :
    (r.calling (.query id timeout)).turn w r.tickets = r.answered (.paired f l.text) := by
  have hanswer : l.slot.answer? l.id l.version = some (.ok f) :=
    Slot.answer?_found hf (hv ▸ Version.le_refl _)
  have ho := Engine.outcome?_of_answer (h.query_generation hl timeout) hanswer
  rw [h.query_known w timeout hl, Engine.watchTurn, ho]
  exact (Engine.pair_same _ _ hv _ _).trans (h.calling_finish _ _)

variable (hf : ∀ f, l.slot.latest = some f → f.version < l.version)

include hf

theorem Sound.query_outcome? : (r.calling (.query id timeout)).outcome? (r.query l timeout) =
    if (r.query l timeout).deadline ≤ r.clock then some (.error (.timedOut l.id l.version timeout))
    else none := by
  have hopen : l.slot.closed = false := by simpa [Lifetime.isOpen] using (Store.find?_spec hl).2.2
  exact Engine.outcome?_waiting (h.query_generation hl timeout) (Slot.answer?_open hopen l.id hf) rfl rfl

theorem Sound.query_waits (hd : r.clock < (r.query l timeout).deadline) :
    (r.calling (.query id timeout)).turn w r.tickets = (r.watched (r.query l timeout)).engine := by
  have ho := h.query_outcome? hl timeout hf
  rw [if_neg (Nat.not_le_of_lt hd)] at ho
  rw [h.query_known w timeout hl, Engine.watchTurn, ho]
  exact h.calling_set _ _

theorem Sound.query_late (hd : (r.query l timeout).deadline ≤ r.clock) :
    (r.calling (.query id timeout)).turn w r.tickets =
      r.answered (.refused (.timedOut l.id l.version timeout)) := by
  have ho := h.query_outcome? hl timeout hf
  rw [if_pos hd] at ho
  rw [h.query_known w timeout hl, Engine.watchTurn, ho]
  exact h.calling_finish _ _

end Query

def due (r : Resting P) (clock : Nat) : List (Ticket × Watch) :=
  r.watches.filter fun p => p.2.deadline ≤ clock

theorem Sound.overdue_roused (h : r.Sound) :
    r.engine.overdue = (r.due r.clock).map (·.1) := by
  have hdue : ∀ ps : List (Ticket × Watch),
      (ps.filterMap fun p => if p.2.deadline ≤ r.clock then some (p.2.deadline,p.1) else none) =
        (ps.filter fun p => p.2.deadline ≤ r.clock).map fun p => (p.2.deadline,p.1) := by
    intro ps
    induction ps with
    | nil => rfl
    | cons p ps ih => by_cases hd : p.2.deadline ≤ r.clock <;> simp [hd, ih]
  change (((r.crew .idle).filterMap _).mergeSort _).map _ = _
  rw [crew, List.filterMap_cons, List.filterMap_map]
  refine (congrArg (fun ps => (ps.mergeSort fun a b => a.1 ≤ b.1).map (·.2)) (hdue r.watches)).trans ?_
  rw [List.mergeSort_of_pairwise, List.map_map]
  · rfl
  · rw [List.pairwise_map]
    exact (h.rising.filter _).imp fun hle => decide_eq_true hle.2

theorem Sound.settle_advanced (w : Worker P) (h : r.Sound) (ms : Nat)
    (hw : ∀ p ∈ r.watches, r.clock < p.2.deadline ∧ ∃ l, r.store.ofGeneration? p.2.generation = some l ∧
      l.slot.closed = false ∧ ∀ f, l.slot.latest = some f → f.version < p.2.atLeast) :
    let clock := min (r.clock + ms) Engine.lastMoment
    (r.engine.advance ms).settle w =
      ({ r with clock, watches := r.watches.filter fun p => !decide (p.2.deadline ≤ clock) } :
          Resting P).roused []
        ((r.due clock).map fun p => (p.1, .refused (.timedOut p.2.id p.2.atLeast p.2.timeout))) := by
  intro clock
  have hle : r.clock ≤ clock := Nat.le_min.mpr ⟨Nat.le_add_right _ _, h.clock⟩
  let r' : Resting P := { r with clock }
  have hr' : r'.Sound := ⟨h.valid, Nat.min_le_right _ _, h.begun, h.numbered, h.rising⟩
  rcases Nat.eq_or_lt_of_le hle with heq | hlt
  · -- The clock has stopped, so no alarm goes off.
    have hnone : r.due clock = [] :=
      List.filter_eq_nil_iff.mpr fun p hp => by simpa [← heq] using (hw p hp).1
    have hall : (r.watches.filter fun p => !decide (p.2.deadline ≤ clock)) = r.watches :=
      List.filter_eq_self.mpr fun p hp => by simpa [← heq] using (hw p hp).1
    have hstill : r.engine.advance ms = r.engine := by
      change ({ r.engine with clock } : Engine P) = r.engine
      rw [← heq]
      rfl
    rw [hnone, hall, hstill, ← heq]
    exact Engine.run_settled w (r.roused_settled []) _
  · have hstep : (r.engine.advance ms).step w = r'.roused ((r'.due clock).map (·.1)) [] := by
      change (r'.engine.wakeAll r'.engine.overdue) = _
      rw [hr'.overdue_roused, Engine.wakeAll_fresh]
      · rfl
      · rfl
      · exact h.nodup.sublist ((List.filter_sublist).map _)
    have hunsettled : (r.engine.advance ms).isSettled = false := by
      have hc : ¬ min (r.clock + ms) Engine.lastMoment ≤ r.clock := Nat.not_le_of_lt hlt
      simp [Engine.isSettled, Engine.advance, engine, roused, hc]
    refine Engine.settle_eq w (n := (r.due clock).length + 1) ?_ ?_ (roused_settled _ _)
    · have hlen : (r.due clock).length ≤ r.watches.length := List.length_filter_le _ _
      have hcount : (r.engine.advance ms).activities.countP (!·.2.isAnalysis) = r.watches.length + 1 :=
        r.crew_count _
      have hclock : ¬ (r.engine.advance ms).clock ≤ (r.engine.advance ms).alarmed := Nat.not_le_of_lt hlt
      simp only [Engine.energy, hcount, if_neg hclock]
      omega
    · rw [Engine.run_succ w hunsettled, hstep]
      refine hr'.run_leaving w _ fun q hq hd => ?_
      obtain ⟨_,l,hl,hopen,hf⟩ := hw q hq
      refine .refused ((Engine.outcome?_waiting hl (Slot.answer?_open hopen _ hf) rfl rfl).trans ?_)
      exact if_pos (of_decide_eq_true hd)

theorem settle_start (analyzer : Analyzer P) (config : Config) :
    ∃ events, (Service.start analyzer config none).engine.settle ⟨analyzer, config.updates⟩ =
      ({ events } : Resting P).engine :=
  ⟨(Service.start analyzer config none).engine.events, rfl⟩

theorem sound_start (events : List Event) : ({ events } : Resting P).Sound where
  valid := Store.valid_empty
  clock := Nat.zero_le _
  begun := Nat.zero_lt_one
  numbered := by simp
  rising := List.Pairwise.nil

end Resting

end LiveAnalysis
