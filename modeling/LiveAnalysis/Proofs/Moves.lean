import LiveAnalysis.Proofs.Runs

namespace LiveAnalysis

variable {P : Type}

def Activity.isFresh : Activity P → Bool
  | .take => true
  | .process _ .idle => true
  | .loop .idle => true
  | .wait _ _ => true
  | .call _ => true
  | .shutdown false => true
  | _ => false

theorem Task.isFresh (task : Task) : (task.activity : Activity P).isFresh = true := by
  cases task <;> rfl

namespace Engine

/-! What holds in every run: tickets are given out once, and the alarms follow the clock. -/

structure Orderly (e : Engine P) : Prop where
  valid : e.store.Valid
  clock : e.clock ≤ lastMoment
  alarmed : e.alarmed ≤ e.clock
  numbered : ∀ u a, e.activity? u = some a → u < e.tickets
  ended : ∀ u x, (u,x) ∈ e.ended → u < e.tickets ∧ e.activity? u = none
  once : (e.ended.map (·.1)).Nodup
  watched : ∀ u v, e.activity? u = some (.watch v) →
    ∃ l, e.store.ofGeneration? v.generation = some l ∧ l.id = v.id

theorem Orderly.free {e : Engine P} (ho : e.Orderly) : e.activity? e.tickets = none := by
  cases hu : e.activity? e.tickets with
  | none => rfl
  | some a => exact absurd (ho.numbered _ a hu) (Nat.lt_irrefl _)

inductive Comes (w : Worker P) (e : Engine P) (m : Move) (e' : Engine P) :
    Ticket → Activity P → Prop where
  | stays {u a} (h : e.activity? u = some a) : Comes w e m e' u a
  | starts {a} (h : a.isFresh = true) (hm : a.isCaller = true ∨ ∃ task, m = .start task)
    (hn : e.tickets < e'.tickets) : Comes w e m e' e.tickets a
  | arises {t u a} (ht : e.turning? m = some t) (h : Arises w e e' t u a) : Comes w e m e' u a

def Publishes (e : Engine P) (m : Move) (s : Snapshot) (payload : P) : Prop :=
  ∃ t, e.turning? m = some t ∧ e.Concludes t s (.found payload)

structure Moved (w : Worker P) (e : Engine P) (m : Move) (e' : Engine P) : Prop where
  change : e.store.Change (e.Publishes m) e'.store
  comes : ∀ u a, e'.activity? u = some a → Comes w e m e' u a
  others : ∀ u a, e.activity? u = some a → e'.activity? u = some a ∨ e.turning? m = some u ∨
    a.isWorker = true ∧ ∃ t s c, e.turning? m = some t ∧ e.activity? t = some (.analysis u s c)
  alert : m ≠ .stop → ∀ u v l, e.activity? u = some (.watch v) →
    e.store.ofGeneration? v.generation = some l →
    e.turning? m = some u ∨ u ∈ e'.ready ∨ e'.outcome? v = e.outcome? v
  ended : e'.ended = e.ended ∨ ∃ t a x, e.turning? m = some t ∧ e.activity? t = some a ∧
    e'.ended = e.ended ++ [(t,x)] ∧ e'.activity? t = none
  tickets : e.tickets ≤ e'.tickets
  ready : ∀ u ∈ e.ready, u ∈ e'.ready ∨ e.turning? m = some u
  stopped : e.stopped = true → e'.stopped = true
  cancelled : ∀ k ∈ e.cancelled, k ∈ e'.cancelled
  clock : e.clock ≤ e'.clock ∧ e'.clock ≤ lastMoment
  alarmed : e.alarmed ≤ e'.alarmed ∧ e'.alarmed ≤ e'.clock
  calls : e.calls ≤ e'.calls

theorem outcome?_eq {e e' : Engine P} {v : Watch} {l l' : Lifetime P}
    (hl : e.store.ofGeneration? v.generation = some l)
    (hl' : e'.store.ofGeneration? v.generation = some l') (hs : l'.slot = l.slot)
    (hc : e'.isCancelled v = e.isCancelled v) (ht : e'.stopped = e.stopped)
    (ha : v.deadline ≤ e'.alarmed ↔ v.deadline ≤ e.alarmed) : e'.outcome? v = e.outcome? v := by
  simp only [outcome?, slot, hl, hl', hs, hc, ht, ha]

theorem Alert.outcome? {e e' : Engine P} {u : Ticket} {v : Watch} {l : Lifetime P}
    (h : e.Alert u v e') (hl : e.store.ofGeneration? v.generation = some l)
    (hc : e'.cancelled = e.cancelled) (ha : e'.alarmed = e.alarmed) :
    u ∈ e'.ready ∨ e'.outcome? v = e.outcome? v := by
  rcases h l hl with hr | ⟨ht,l',hl',hs⟩
  · exact Or.inl hr
  · exact Or.inr (outcome?_eq hl hl' hs (by simp [isCancelled, hc]) ht (by rw [ha]))

theorem Arises.of_activities {w : Worker P} {e e₁ e' : Engine P} {t u : Ticket} {a : Activity P}
    (h : Arises w e₁ e' t u a) (ha : ∀ x, e₁.activity? x = e.activity? x)
    (hn : e₁.tickets = e.tickets) (hc : e₁.calls = e.calls) : Arises w e e' t u a := by
  cases h with
  | kept h => exact .kept (ha _ ▸ h)
  | parked h => exact .parked (ha _ ▸ h)
  | taken h hl => exact .taken (ha _ ▸ h) hl
  | opened h hl => exact .opened (ha _ ▸ h) hl
  | begun h hw hf hl hb hs hlt => exact hn ▸ .begun (ha _ ▸ h) hw hf hl hb hs (hn ▸ hlt)
  | asked h => exact hc ▸ .asked (ha _ ▸ h)
  | judgedLoop h ho => exact hc ▸ .judgedLoop (ha _ ▸ h) (ha _ ▸ ho)
  | judgedProcess h ho => exact hc ▸ .judgedProcess (ha _ ▸ h) (ha _ ▸ ho)
  | watching h hw hl hg hp => exact .watching (ha _ ▸ h) hw hl hg hp
  | closing h => exact .closing (ha _ ▸ h)

theorem Arises.numbered {w : Worker P} {e e' : Engine P} {t u : Ticket} {a : Activity P}
    (h : Arises w e e' t u a) (ho : ∀ x b, e.activity? x = some b → x < e.tickets)
    (hn : e.tickets ≤ e'.tickets) : u < e'.tickets := by
  cases h with
  | begun h hw hf hl hb hs hlt => exact hlt
  | kept h => exact Nat.lt_of_lt_of_le (ho _ _ h) hn
  | parked h => exact Nat.lt_of_lt_of_le (ho _ _ h) hn
  | taken h hl => exact Nat.lt_of_lt_of_le (ho _ _ h) hn
  | opened h hl => exact Nat.lt_of_lt_of_le (ho _ _ h) hn
  | asked h => exact Nat.lt_of_lt_of_le (ho _ _ h) hn
  | judgedLoop h hw => exact Nat.lt_of_lt_of_le (ho _ _ hw) hn
  | judgedProcess h hw => exact Nat.lt_of_lt_of_le (ho _ _ hw) hn
  | watching h hw hl hg hp => exact Nat.lt_of_lt_of_le (ho _ _ h) hn
  | closing h => exact Nat.lt_of_lt_of_le (ho _ _ h) hn

namespace Moved

variable {w : Worker P} {e e₁ : Engine P} {m : Move}

theorem of_change (ho : e.Orderly) (k : e.Keeps e₁) (hc : e.store.Change (e.Publishes m) e₁.store)
    (ha : ∀ u v, e.activity? u = some (.watch v) → e.Alert u v e₁) : Moved w e m e₁ where
  change := hc
  comes u a hu := .stays (k.activity? u ▸ hu)
  others u a hu := Or.inl (by rw [k.activity? u]; exact hu)
  alert _ u v _ hu hl := Or.inr ((ha u v hu).outcome? hl k.cancelled k.alarmed)
  ended := Or.inl k.ended
  tickets := Nat.le_of_eq k.tickets.symm
  ready u hu := Or.inl (k.ready u hu)
  stopped hs := k.stopped.trans hs
  cancelled _ hk := k.cancelled ▸ hk
  clock := ⟨Nat.le_of_eq k.clock.symm, k.clock ▸ ho.clock⟩
  alarmed := ⟨Nat.le_of_eq k.alarmed.symm, k.alarmed ▸ k.clock ▸ ho.alarmed⟩
  calls := Nat.le_of_eq k.calls.symm

theorem of_keeps (ho : e.Orderly) (k : e.Keeps e₁) (hs : e₁.store = e.store) : Moved w e m e₁ :=
  .of_change ho k (hs ▸ .same) fun u v _ => (Alert.refl e u v).keeps k hs

theorem of_settings (ho : e.Orderly) {cancelled : List Token} {alarmed : Nat}
    {stopped abandoned : Bool} (hs : e₁.store = e.store)
    (k : ({ e with cancelled, alarmed, stopped, abandoned } : Engine P).Keeps e₁)
    (hc : ∀ c ∈ e.cancelled, c ∈ cancelled) (ha : e.alarmed ≤ alarmed ∧ alarmed ≤ e.clock)
    (ht : e.stopped = true → stopped = true)
    (hw : m ≠ .stop → ∀ u v l, e.activity? u = some (.watch v) →
      e.store.ofGeneration? v.generation = some l → u ∈ e₁.ready ∨ e₁.outcome? v = e.outcome? v) :
    Moved w e m e₁ where
  change := hs ▸ .same
  comes u _ hu := .stays (k.activity? u ▸ hu)
  others u _ hu := Or.inl ((k.activity? u).trans hu)
  alert hm u v l hu hl := Or.inr (hw hm u v l hu hl)
  ended := Or.inl k.ended
  tickets := Nat.le_of_eq k.tickets.symm
  ready u hu := Or.inl (k.ready u hu)
  stopped h := k.stopped.trans (ht h)
  cancelled c h := k.cancelled ▸ hc c h
  clock := ⟨Nat.le_of_eq k.clock.symm, k.clock ▸ ho.clock⟩
  alarmed := ⟨k.alarmed ▸ ha.1, k.alarmed ▸ k.clock ▸ ha.2⟩
  calls := Nat.le_of_eq k.calls.symm

end Moved

variable (w : Worker P)

theorem moved_start {e : Engine P} (ho : e.Orderly) {m : Move} {a : Activity P}
    (ha : a.isFresh = true) (hm : a.isCaller = true ∨ ∃ task, m = .start task) :
    Moved w e m (e.start a) where
  change := .same
  comes u b hu := by
    rw [activity?_start, Option.or_eq_some_iff] at hu
    rcases hu with hu | ⟨_,hu⟩
    · exact .stays hu
    · split at hu
      · rename_i hut
        rw [hut, ← Option.some.inj hu]
        exact .starts ha hm (Nat.lt_succ_self _)
      · simp at hu
  others u b hb := by
    left
    rw [activity?_start, hb]
    rfl
  alert _ u v _ _ _ := Or.inr (Or.inr rfl)
  ended := Or.inl rfl
  tickets := Nat.le_succ _
  ready u hu := Or.inl (List.mem_append_left _ hu)
  stopped hs := hs
  cancelled _ hk := hk
  clock := ⟨Nat.le_refl _, ho.clock⟩
  alarmed := ⟨Nat.le_refl _, ho.alarmed⟩
  calls := Nat.le_refl _

theorem mem_holders {e : Engine P} {u : Ticket} {v : Watch} {token : Token}
    (h : e.activity? u = some (.watch v)) (ht : v.token = some token) : u ∈ e.holders token :=
  List.mem_filterMap.mpr ⟨(u, .watch v), mem_of_activity? h, by simp [ht]⟩

theorem moved_cancel {e : Engine P} (ho : e.Orderly) (m : Move) (token : Token) :
    Moved w e m (e.cancel token) := by
  have hk : ({ e with cancelled := token :: e.cancelled } : Engine P).Keeps (e.cancel token) :=
    keeps_wakeAll _ _
  have hs : (e.cancel token).store = e.store := wakeAll_store _ _
  refine .of_settings ho hs hk (fun c hc => List.mem_cons_of_mem _ hc) ⟨Nat.le_refl _, ho.alarmed⟩
    (fun h => h) ?_
  intro _ u v l hu hl
  by_cases ht : v.token = some token
  · left
    rw [cancel, wakeAll_eq]
    exact mem_woken.mpr (Or.inr (mem_holders (e := { e with cancelled := token :: e.cancelled }) hu ht))
  · right
    refine outcome?_eq hl (hs ▸ hl) rfl ?_ hk.stopped (by rw [hk.alarmed])
    rw [isCancelled, isCancelled, hk.cancelled]
    cases hv : v.token with
    | none => rfl
    | some k =>
      have hne : k ≠ token := fun h => ht (h ▸ hv)
      simp [hne]

theorem mem_overdue {e : Engine P} {u : Ticket} {v : Watch} (h : e.activity? u = some (.watch v))
    (hd : v.deadline ≤ e.alarmed) : u ∈ e.overdue := by
  refine List.mem_map.mpr ⟨(v.deadline,u), List.mem_mergeSort.mpr ?_, rfl⟩
  exact List.mem_filterMap.mpr ⟨(u, .watch v), mem_of_activity? h, by simp [hd]⟩

theorem moved_alarms {e : Engine P} (ho : e.Orderly) (m : Move) : Moved w e m e.soundAlarms := by
  have hk : ({ e with alarmed := e.clock } : Engine P).Keeps e.soundAlarms := keeps_wakeAll _ _
  have hs : e.soundAlarms.store = e.store := wakeAll_store _ _
  refine .of_settings ho hs hk (fun c hc => hc) ⟨ho.alarmed, Nat.le_refl _⟩ (fun h => h) ?_
  intro _ u v l hu hl
  by_cases hd : v.deadline ≤ e.clock
  · left
    rw [soundAlarms, wakeAll_eq]
    exact mem_woken.mpr (Or.inr (mem_overdue (e := { e with alarmed := e.clock }) hu hd))
  · right
    refine outcome?_eq hl (hs ▸ hl) rfl (by rw [isCancelled, isCancelled, hk.cancelled]) hk.stopped ?_
    have ha := ho.alarmed
    rw [hk.alarmed]
    dsimp only
    omega

theorem moved_advance {e : Engine P} (ho : e.Orderly) (m : Move) (ms : Nat) :
    Moved w e m (e.advance ms) where
  change := .same
  comes _ _ hu := .stays hu
  others _ _ hu := Or.inl hu
  alert _ _ _ _ _ _ := Or.inr (Or.inr rfl)
  ended := Or.inl rfl
  tickets := Nat.le_refl _
  ready _ hu := Or.inl hu
  stopped hs := hs
  cancelled _ hk := hk
  clock := ⟨Nat.le_min.mpr ⟨Nat.le_add_right _ _, ho.clock⟩, Nat.min_le_right _ _⟩
  alarmed := ⟨Nat.le_refl _, Nat.le_trans ho.alarmed (Nat.le_min.mpr ⟨Nat.le_add_right _ _, ho.clock⟩)⟩
  calls := Nat.le_refl _

theorem moved_stopped {e e₁ : Engine P} (ho : e.Orderly) {m : Move} (stopped abandoned : Bool)
    (k : ({ e with stopped, abandoned } : Engine P).Keeps e₁) (hs : e₁.store = e.store)
    (ht : e.stopped = true → stopped = true)
    (hm : m = .stop ∨ stopped = e.stopped ∨ ∀ u v, e.activity? u ≠ some (.watch v)) :
    Moved w e m e₁ := by
  refine .of_settings ho hs k (fun c hc => hc) ⟨Nat.le_refl _, ho.alarmed⟩ ht ?_
  intro hne u v l hu hl
  rcases hm with hm | hm | hm
  · exact absurd hm hne
  · refine Or.inr (outcome?_eq hl (hs ▸ hl) rfl ?_ (k.stopped.trans hm) (by rw [k.alarmed]))
    rw [isCancelled, isCancelled, k.cancelled]
  · exact absurd hu (hm u v)

theorem stop_store (e : Engine P) : e.stop.store = e.store :=
  wakeAll_store _ _

theorem hangUp_cases (e : Engine P) : e.hangUp = e ∨ e.hangUp = e.stop.shutQueue ∧
    e.stopped = false ∧ ∀ u v, e.activity? u ≠ some (.watch v) := by
  unfold hangUp
  split
  · rename_i h
    simp only [Bool.and_eq_true, Bool.not_eq_true', List.any_eq_false] at h
    refine Or.inr ⟨rfl, h.1.2, ?_⟩
    intro u v hu
    exact h.2 _ (mem_of_activity? hu) rfl
  · exact Or.inl rfl

theorem hangUp_held {e : Engine P} (h : e.abandoned = false) : e.hangUp = e := by
  simp [hangUp, h]

theorem step_turn {e : Engine P} {t : Ticket} {rest : List Ticket} (hr : e.ready = t :: rest) :
    e.step w = (e.move w (.turn 0)).hangUp := by
  simp [step, move, hr]

theorem moved_hangUp {e : Engine P} (ho : e.Orderly) (m : Move) (abandoned : Bool) :
    Moved w e m ({ e with abandoned } : Engine P).hangUp := by
  rcases ({ e with abandoned } : Engine P).hangUp_cases with h | ⟨h,_,hn⟩
  · rw [h]
    exact moved_stopped w ho e.stopped abandoned (.refl { e with abandoned }) rfl (fun h => h)
      (Or.inr (Or.inl rfl))
  · rw [h]
    refine moved_stopped w ho true abandoned ?_ ?_ (fun _ => rfl)
      (Or.inr (Or.inr hn))
    · exact (keeps_wakeAll _ _).trans (keeps_shutQueue _)
    · exact (shutQueue_store _).trans (stop_store _)

theorem keeps_release (e : Engine P) (permits : Nat) : e.Keeps (e.release permits) := by
  unfold release
  split
  · exact .refl e
  · rename_i gate _
    have hg : e.Keeps { e with gate := some (gate.release permits).1 } :=
      ⟨rfl,rfl,rfl,rfl,rfl,rfl,rfl,rfl,rfl,fun _ h => h⟩
    exact hg.trans (keeps_wakeAll _ _)

theorem release_store (e : Engine P) (permits : Nat) : (e.release permits).store = e.store := by
  unfold release
  split
  · rfl
  · exact wakeAll_store _ _

theorem keeps_requestAnalysis {e e' : Engine P} {id : DocumentId} {outcome : Enqueued}
    (h : e.requestAnalysis id = .ok (e',outcome)) : e.Keeps e' ∧ e'.store = e.store := by
  obtain ⟨_,_,h⟩ := requestAnalysis_ok.mp h
  have he : e' = (e.enqueue id).1 := by rw [h]
  rw [he]
  exact ⟨keeps_enqueue e id, enqueue_store e id⟩

theorem keeps_requestAnalyses (e : Engine P) (ids : List DocumentId) :
    e.Keeps (e.requestAnalyses ids).1 ∧ (e.requestAnalyses ids).1.store = e.store := by
  induction ids generalizing e with
  | nil => exact ⟨.refl e, rfl⟩
  | cons id ids ih =>
    simp only [requestAnalyses]
    split
    · rename_i e₁ _ h
      obtain ⟨hk,hs⟩ := keeps_requestAnalysis h
      obtain ⟨hk',hs'⟩ := ih e₁
      exact ⟨hk.trans hk', hs'.trans hs⟩
    · exact ⟨.refl e, rfl⟩

theorem moved_close {e e' : Engine P} (ho : e.Orderly) {m : Move} {id : DocumentId}
    (h : e.close id = .ok e') : Moved w e m e' := by
  refine .of_change ho (keeps_close h) ?_ (alert_close h)
  obtain ⟨store,g,hs,rfl⟩ := close_ok.mp h
  rw [wakeAll_store]
  exact Store.close_change hs

theorem moved_ask {e : Engine P} (ho : e.Orderly) (r : Request) :
    Moved w e (.ask r) (e.move w (.ask r)) := by
  have hr : Moved w e (.ask r) e := .of_keeps ho (.refl e) rfl
  cases r with
  | openDocument id text =>
    simp only [move, Service.receive]
    split
    · rename_i e₁ h
      exact .of_change ho (keeps_noteOpened h) (Store.openDocument_change (noteOpened_store h))
        (alert_noteOpened ho.valid h)
    · exact hr
  | change id text =>
    simp only [move, Service.receive]
    split
    · rename_i e₁ v h
      exact .of_change ho (keeps_noteChanged h) (Store.change_change (noteChanged_store h))
        (alert_noteChanged h)
    · exact hr
  | close id =>
    simp only [move, Service.receive]
    split
    · rename_i e₁ h
      obtain ⟨_,e₂,h₂,rfl⟩ := noteClosed_ok.mp h
      obtain ⟨g,hs⟩ := noteClosed_store h
      exact .of_change ho (keeps_noteClosed h) (Store.close_change hs)
        fun u v hu => (alert_close h₂ u v hu).keeps (keeps_emit _ _) rfl
    · exact hr
  | analyse id =>
    simp only [move, Service.receive]
    split
    · rename_i e₁ _ h
      obtain ⟨hk,hs⟩ := keeps_requestAnalysis h
      exact .of_keeps ho hk hs
    · exact hr
  | analyseAll ids =>
    obtain ⟨hk,hs⟩ := e.keeps_requestAnalyses ids
    simp only [move, Service.receive]
    split
    · rename_i e₁ h
      rw [h] at hk hs
      exact .of_keeps ho hk hs
    · rename_i e₁ _ h
      rw [h] at hk hs
      exact .of_keeps ho hk hs
  | call c => exact moved_start w ho rfl (Or.inl rfl)
  | cancel token => exact moved_cancel w ho _ token
  | shutdown => exact moved_start w ho rfl (Or.inl rfl)
  | abandon => exact moved_hangUp w ho _ true
  | release permits => exact .of_keeps ho (e.keeps_release permits) (e.release_store permits)
  | advance ms => exact moved_advance w ho _ ms

theorem turn_of_none {e : Engine P} {t : Ticket} (h : e.activity? t = none) : e.turn w t = e := by
  unfold turn
  rw [h]

theorem ready_or_turning {e : Engine P} {place : Nat} {t u : Ticket} (ht : e.ready[place]? = some t)
    (hu : u ∈ e.ready) : u ∈ e.ready.eraseIdx place ∨ some t = some u := by
  obtain ⟨i,hi⟩ := List.mem_iff_getElem?.mp hu
  by_cases hp : i = place
  · exact Or.inr (ht.symm.trans (hp ▸ hi))
  · exact Or.inl (List.mem_eraseIdx_iff_getElem?.mpr ⟨i,hp,hi⟩)

theorem Turned.moved {w : Worker P} {e e' : Engine P} (ho : e.Orderly) {place : Nat} {t : Ticket}
    (ht : e.ready[place]? = some t) (h : Turned w { e with ready := e.ready.eraseIdx place } t e')
    (hn : e.activity? t = none → e'.ended = e.ended) : Moved w e (.turn place) e' := by
  have hm : e.turning? (.turn place) = some t := ht
  refine { change := ?_, comes := ?_, others := ?_, alert := ?_, ended := ?_, tickets := h.tickets,
           ready := ?_, stopped := h.stopped, cancelled := ?_, clock := ?_, alarmed := ?_,
           calls := h.calls }
  · refine h.change.mono ?_
    exact fun s payload hc => ⟨t,hm,hc⟩
  · exact fun u a hu => .arises hm ((h.arises u a hu).of_activities (fun _ => rfl) rfl rfl)
  · intro u a hu
    by_cases hut : u = t
    · exact Or.inr (Or.inl (hut ▸ hm))
    · rcases h.others u a hut hu with hs | ⟨ha,s,c,hc⟩
      · exact Or.inl hs
      · exact Or.inr (Or.inr ⟨ha,t,s,c,hm,hc⟩)
  · intro _ u v l hu hl
    by_cases hut : u = t
    · exact Or.inl (hut ▸ hm)
    · exact Or.inr ((h.alert u v hut hu).outcome? hl h.cancelled h.alarmed)
  · cases ha : e.activity? t with
    | none => exact Or.inl (hn ha)
    | some a =>
      rcases h.ended with he | ⟨x,he,hn⟩
      · exact Or.inl he
      · exact Or.inr ⟨t,a,x,hm,ha,he,hn⟩
  · exact fun u hu => (ready_or_turning ht hu).imp (h.ready u) hm.trans
  · rw [h.cancelled]
    exact fun k hk => hk
  · rw [h.clock]
    exact ⟨Nat.le_refl _, ho.clock⟩
  · rw [h.clock, h.alarmed]
    exact ⟨Nat.le_refl _, ho.alarmed⟩

theorem moved_turn {e : Engine P} (ho : e.Orderly) (place : Nat) :
    Moved w e (.turn place) (e.move w (.turn place)) := by
  simp only [move]
  split
  · exact .of_keeps ho (.refl e) rfl
  · rename_i t ht
    refine (turned w { e with ready := e.ready.eraseIdx place } ho.valid t).moved ho ht fun hn => ?_
    rw [turn_of_none w (e := { e with ready := e.ready.eraseIdx place }) hn]

theorem moved {e : Engine P} (ho : e.Orderly) (m : Move) : Moved w e m (e.move w m) := by
  have hr : Moved w e m e := .of_keeps ho (.refl e) rfl
  cases m with
  | ask r => exact moved_ask w ho r
  | turn place => exact moved_turn w ho place
  | alarms => exact moved_alarms w ho _
  | hangUp => exact moved_hangUp w ho _ e.abandoned
  | openDocument id text =>
    simp only [move]
    split
    · rename_i e₁ h
      refine .of_change ho (keeps_openDocument h) ?_ (fun u v _ => alert_openDocument ho.valid h u v)
      obtain ⟨store,hs,rfl⟩ := openDocument_ok.mp h
      rw [enqueue_store]
      exact Store.openDocument_change hs
    · exact hr
  | change id text =>
    simp only [move]
    split
    · rename_i e₁ v h
      refine .of_change ho (keeps_change h) ?_ (fun u v _ => alert_change h u v)
      obtain ⟨store,hs,rfl⟩ := change_ok.mp h
      rw [enqueue_store]
      exact Store.change_change hs
    · exact hr
  | close id =>
    simp only [move]
    split
    · exact moved_close w ho ‹_›
    · exact hr
  | enqueue id => exact .of_keeps ho (keeps_enqueue e id) (enqueue_store e id)
  | remove id => exact .of_keeps ho (e.keeps_queue _) rfl
  | subscribe id =>
    simp only [move, subscribe]
    cases e.store.get id with
    | error why => exact hr
    | ok l => exact .of_keeps ho ⟨rfl,rfl,rfl,rfl,rfl,rfl,rfl,rfl,rfl,fun _ h => h⟩ rfl
  | shutQueue => exact .of_keeps ho (keeps_shutQueue e) (shutQueue_store e)
  | stop =>
    exact moved_stopped w ho true e.abandoned (keeps_wakeAll _ _)
      (stop_store e) (fun _ => rfl) (Or.inl rfl)
  | start task => exact moved_start w ho task.isFresh (Or.inr ⟨task,rfl⟩)

theorem Comes.numbered {w : Worker P} {e e' : Engine P} {m : Move} {u : Ticket} {a : Activity P}
    (h : Comes w e m e' u a) (ho : e.Orderly) (hn : e.tickets ≤ e'.tickets) : u < e'.tickets := by
  cases h with
  | stays h => exact Nat.lt_of_lt_of_le (ho.numbered _ _ h) hn
  | starts ha hm hlt => exact hlt
  | arises ht h => exact h.numbered ho.numbered hn

theorem Comes.before {w : Worker P} {e e' : Engine P} {m : Move} {u : Ticket} {a : Activity P}
    (h : Comes w e m e' u a) : (∃ b, e.activity? u = some b) ∨ u = e.tickets := by
  cases h with
  | stays h => exact Or.inl ⟨_,h⟩
  | starts ha hm hlt => exact Or.inr rfl
  | arises ht h =>
    cases h with
    | begun h hw hf hl hb hs hlt => exact Or.inr rfl
    | kept h => exact Or.inl ⟨_,h⟩
    | parked h => exact Or.inl ⟨_,h⟩
    | taken h hl => exact Or.inl ⟨_,h⟩
    | opened h hl => exact Or.inl ⟨_,h⟩
    | asked h => exact Or.inl ⟨_,h⟩
    | judgedLoop h hw => exact Or.inl ⟨_,hw⟩
    | judgedProcess h hw => exact Or.inl ⟨_,hw⟩
    | watching h hw hl hg hp => exact Or.inl ⟨_,h⟩
    | closing h => exact Or.inl ⟨_,h⟩

theorem Moved.stays_ended {w : Worker P} {e e' : Engine P} {m : Move} (h : Moved w e m e')
    {u : Ticket} (hu : u < e.tickets) (hn : e.activity? u = none) :
    e'.activity? u = none := by
  cases ha : e'.activity? u with
  | none => rfl
  | some a =>
    rcases (h.comes u a ha).before with ⟨b,hb⟩ | hb
    · rw [hn] at hb
      simp at hb
    · exact absurd hu (hb ▸ Nat.lt_irrefl _)

theorem Moved.still_ended {w : Worker P} {e e' : Engine P} {m : Move} (h : Moved w e m e')
    (ho : e.Orderly) {u : Ticket} {x : Ending P} (hx : (u,x) ∈ e.ended) :
    e'.activity? u = none ∧ (u,x) ∈ e'.ended := by
  obtain ⟨hu,hn⟩ := ho.ended u x hx
  refine ⟨h.stays_ended hu hn, ?_⟩
  rcases h.ended with he | ⟨_,_,_,_,_,he,_⟩
  · exact he ▸ hx
  · rw [he]
    exact List.mem_append_left _ hx

theorem Moved.still_waits {w : Worker P} {e e' : Engine P} {m : Move} (h : Moved w e m e')
    {u : Ticket} {a : Activity P} (hu : e.activity? u = some a) (ha : a.isWorker = false)
    (ht : e.turning? m ≠ some u) : e'.activity? u = some a := by
  rcases h.others u a hu with hx | hx | ⟨hx,_⟩
  · exact hx
  · exact absurd hx ht
  · simp [ha] at hx

theorem Moved.watched {w : Worker P} {e e' : Engine P} {m : Move} (h : Moved w e m e')
    (ho : e.Orderly) {u : Ticket} {v : Watch} (hu : e'.activity? u = some (.watch v)) :
    ∃ l, e'.store.ofGeneration? v.generation = some l ∧ l.id = v.id := by
  have hv' := h.change.valid ho.valid
  have hold : ∀ x, e.activity? x = some (.watch v) →
      ∃ l, e'.store.ofGeneration? v.generation = some l ∧ l.id = v.id := by
    intro x hx
    obtain ⟨l,hl,hid⟩ := ho.watched x v hx
    obtain ⟨l',hl',he⟩ := (h.change.step ho.valid).toGrows.ofGeneration? hv' hl
    exact ⟨l',hl',he.id.trans hid⟩
  cases h.comes u _ hu with
  | stays h => exact hold u h
  | starts ha hm hlt => simp [Activity.isFresh] at ha
  | arises ht h =>
    cases h with
    | kept h => exact hold u h
    | watching h hw hl hg hp =>
      obtain ⟨hm,hid,_⟩ := Store.find?_spec hl
      exact ⟨_, hg ▸ hv'.ofGeneration?_eq hm, hid⟩

theorem Moved.orderly {w : Worker P} {e e' : Engine P} {m : Move} (h : Moved w e m e')
    (ho : e.Orderly) : e'.Orderly where
  valid := h.change.valid ho.valid
  clock := h.clock.2
  alarmed := h.alarmed.2
  numbered u a hu := (h.comes u a hu).numbered ho h.tickets
  ended u x hx := by
    have hold : (u,x) ∈ e.ended → u < e'.tickets ∧ e'.activity? u = none := by
      intro hx
      obtain ⟨hu,hn⟩ := ho.ended u x hx
      exact ⟨Nat.lt_of_lt_of_le hu h.tickets, h.stays_ended hu hn⟩
    rcases h.ended with he | ⟨t,a,y,_,ha,he,hn⟩
    · exact hold (he ▸ hx)
    · rw [he, List.mem_append] at hx
      rcases hx with hx | hx
      · exact hold hx
      · cases List.mem_singleton.mp hx
        exact ⟨Nat.lt_of_lt_of_le (ho.numbered u a ha) h.tickets, hn⟩
  once := by
    rcases h.ended with he | ⟨t,a,y,_,ha,he,_⟩
    · rw [he]
      exact ho.once
    · rw [he, List.map_append, List.nodup_append]
      refine ⟨ho.once, by simp, ?_⟩
      intro u hu u' hu' huu
      obtain ⟨⟨v,x⟩,hx,rfl⟩ := List.mem_map.mp hu
      have hv : v = t := huu.trans (by simpa using hu')
      have hn := (ho.ended v x hx).2
      rw [hv, ha] at hn
      simp at hn
  watched u v hu := h.watched ho hu

theorem Orderly.move {e : Engine P} (ho : e.Orderly) (m : Move) : (e.move w m).Orderly :=
  (moved w ho m).orderly ho

theorem Orderly.after {e : Engine P} (ho : e.Orderly) (moves : List Move) :
    (e.after w moves).Orderly := by
  induction moves generalizing e with
  | nil => exact ho
  | cons m moves ih => exact ih (ho.move w m)

structure Later (e e' : Engine P) : Prop where
  store : e.store.Grows e'.store
  stopped : e.stopped = true → e'.stopped = true
  cancelled : ∀ k ∈ e.cancelled, k ∈ e'.cancelled
  clock : e.clock ≤ e'.clock

theorem Later.refl (e : Engine P) : e.Later e :=
  ⟨.refl _, fun h => h, fun _ h => h, Nat.le_refl _⟩

theorem Later.trans {e₁ e₂ e₃ : Engine P} (h : e₁.Later e₂) (k : e₂.Later e₃) : e₁.Later e₃ where
  store := h.store.trans k.store
  stopped hs := k.stopped (h.stopped hs)
  cancelled c hc := k.cancelled c (h.cancelled c hc)
  clock := Nat.le_trans h.clock k.clock

theorem Moved.later {w : Worker P} {e e' : Engine P} {m : Move} (h : Moved w e m e')
    (ho : e.Orderly) : e.Later e' :=
  ⟨(h.change.step ho.valid).toGrows, h.stopped, h.cancelled, h.clock.1⟩

theorem Orderly.later {e : Engine P} (ho : e.Orderly) (moves : List Move) :
    e.Later (e.after w moves) := by
  induction moves generalizing e with
  | nil => exact .refl e
  | cons m moves ih => exact ((moved w ho m).later ho).trans (ih (ho.move w m))

theorem orderly_new (gate : Option Gate) : ({ gate } : Engine P).Orderly where
  valid := Store.valid_empty
  clock := Nat.zero_le _
  alarmed := Nat.le_refl _
  numbered := by simp [activity?]
  ended := by simp
  once := by simp
  watched := by simp [activity?]

theorem Keeps.orderly {e e' : Engine P} (k : e.Keeps e') (ho : e.Orderly)
    (hs : e'.store = e.store) : e'.Orderly :=
  (Moved.of_keeps (m := .hangUp) (w := ⟨fun _ _ _ => .panicked, false⟩) ho k hs).orderly ho

end Engine

namespace Service

variable (analyzer : Analyzer P) (config : Config) (gate : Option Gate)

theorem orderly_start : (Service.start analyzer config gate).engine.Orderly :=
  (Engine.keeps_emit _ _).orderly
    ((Engine.orderly_new gate).move ⟨analyzer, config.updates⟩ (.start .loop)) rfl

theorem orderly_reached (moves : List Move) : (reached analyzer config gate moves).Orderly := by
  rw [reached_eq]
  exact (orderly_start analyzer config gate).after _ _

theorem later_reached (moves more : List Move) :
    (reached analyzer config gate moves).Later (reached analyzer config gate (moves ++ more)) := by
  have ho := orderly_reached analyzer config gate moves
  rw [reached_eq] at ho ⊢
  rw [reached_eq analyzer config gate (moves ++ more), List.map_append,
    Engine.after_append]
  exact ho.later _ _

end Service

end LiveAnalysis
