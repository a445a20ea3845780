import Mathlib.Data.List.Nodup
import LiveAnalysis.Engine.Turn
import LiveAnalysis.Proofs.Lifetimes

namespace LiveAnalysis.Engine

variable {P : Type}

def woken (ready ts : List Ticket) : List Ticket :=
  ts.foldl (fun r t => if t ∈ r then r else r ++ [t]) ready

theorem mem_woken {ready ts : List Ticket} {t : Ticket} :
    t ∈ woken ready ts ↔ t ∈ ready ∨ t ∈ ts := by
  induction ts generalizing ready with
  | nil => simp [woken]
  | cons u ts ih =>
    have hu : t ∈ woken ready (u :: ts) ↔ t ∈ (if u ∈ ready then ready else ready ++ [u]) ∨ t ∈ ts := ih
    rw [hu]
    by_cases hr : u ∈ ready
    · simp only [hr, if_true, List.mem_cons]
      constructor
      · rintro (h | h)
        · exact Or.inl h
        · exact Or.inr (Or.inr h)
      · rintro (h | rfl | h)
        · exact Or.inl h
        · exact Or.inl hr
        · exact Or.inr h
    · simp [hr, or_assoc]

theorem wakeAll_eq (e : Engine P) (ts : List Ticket) :
    e.wakeAll ts = { e with ready := woken e.ready ts } := by
  induction ts generalizing e with
  | nil => rfl
  | cons u ts ih =>
    change (e.wake u).wakeAll ts = _
    rw [ih]
    by_cases hu : u ∈ e.ready <;> simp [wake, woken, hu]

theorem wake_eq (e : Engine P) (t : Ticket) : e.wake t = { e with ready := woken e.ready [t] } :=
  e.wakeAll_eq [t]

theorem wakeSome_eq (e : Engine P) (t : Option Ticket) :
    e.wakeSome t = { e with ready := woken e.ready t.toList } := by
  cases t with
  | none => rfl
  | some t => exact e.wakeAll_eq [t]

theorem wakeAll_store (e : Engine P) (ts : List Ticket) : (e.wakeAll ts).store = e.store := by
  rw [wakeAll_eq]

theorem wakeSome_store (e : Engine P) (t : Option Ticket) : (e.wakeSome t).store = e.store := by
  rw [wakeSome_eq]

structure Keeps (e e' : Engine P) : Prop where
  activities : e'.activities = e.activities
  tickets : e'.tickets = e.tickets
  ended : e'.ended = e.ended
  stopped : e'.stopped = e.stopped
  abandoned : e'.abandoned = e.abandoned
  cancelled : e'.cancelled = e.cancelled
  clock : e'.clock = e.clock
  alarmed : e'.alarmed = e.alarmed
  calls : e'.calls = e.calls
  ready : ∀ t ∈ e.ready, t ∈ e'.ready

namespace Keeps

theorem refl (e : Engine P) : e.Keeps e :=
  ⟨rfl,rfl,rfl,rfl,rfl,rfl,rfl,rfl,rfl,fun _ h => h⟩

theorem trans {e₁ e₂ e₃ : Engine P} (h : e₁.Keeps e₂) (k : e₂.Keeps e₃) : e₁.Keeps e₃ where
  activities := k.activities.trans h.activities
  tickets := k.tickets.trans h.tickets
  ended := k.ended.trans h.ended
  stopped := k.stopped.trans h.stopped
  abandoned := k.abandoned.trans h.abandoned
  cancelled := k.cancelled.trans h.cancelled
  clock := k.clock.trans h.clock
  alarmed := k.alarmed.trans h.alarmed
  calls := k.calls.trans h.calls
  ready t ht := k.ready t (h.ready t ht)

theorem activity? {e e' : Engine P} (h : e.Keeps e') (t : Ticket) :
    e'.activity? t = e.activity? t := by
  simp [Engine.activity?, h.activities]

end Keeps

theorem keeps_wakeAll (e : Engine P) (ts : List Ticket) : e.Keeps (e.wakeAll ts) := by
  rw [wakeAll_eq]
  exact ⟨rfl,rfl,rfl,rfl,rfl,rfl,rfl,rfl,rfl,fun _ h => mem_woken.mpr (Or.inl h)⟩

theorem keeps_wakeSome (e : Engine P) (t : Option Ticket) : e.Keeps (e.wakeSome t) := by
  rw [wakeSome_eq]
  exact ⟨rfl,rfl,rfl,rfl,rfl,rfl,rfl,rfl,rfl,fun _ h => mem_woken.mpr (Or.inl h)⟩

theorem keeps_store (e : Engine P) (store : Store P) : e.Keeps { e with store } :=
  ⟨rfl,rfl,rfl,rfl,rfl,rfl,rfl,rfl,rfl,fun _ h => h⟩

theorem keeps_queue (e : Engine P) (queue : Queue) : e.Keeps { e with queue } :=
  ⟨rfl,rfl,rfl,rfl,rfl,rfl,rfl,rfl,rfl,fun _ h => h⟩

theorem keeps_bell (e : Engine P) (bell : Bell) : e.Keeps { e with bell } :=
  ⟨rfl,rfl,rfl,rfl,rfl,rfl,rfl,rfl,rfl,fun _ h => h⟩

theorem keeps_emit (e : Engine P) (n : Notice) : e.Keeps (e.emit n) :=
  ⟨rfl,rfl,rfl,rfl,rfl,rfl,rfl,rfl,rfl,fun _ h => h⟩

theorem keeps_ring (e : Engine P) : e.Keeps e.ring :=
  (e.keeps_bell _).trans (keeps_wakeSome _ _)

theorem keeps_enqueue (e : Engine P) (id : DocumentId) : e.Keeps (e.enqueue id).1 := by
  unfold enqueue
  dsimp only
  split
  · exact (e.keeps_queue _).trans (keeps_ring _)
  · exact e.keeps_queue _

theorem keeps_shutQueue (e : Engine P) : e.Keeps e.shutQueue := by
  simp only [shutQueue, wakeAll_eq]
  exact ⟨rfl,rfl,rfl,rfl,rfl,rfl,rfl,rfl,rfl,fun _ h => mem_woken.mpr (Or.inl h)⟩

theorem keeps_publish (e : Engine P) (s : Snapshot) (payload : P) : e.Keeps (e.publish s payload).1 := by
  unfold publish
  dsimp only
  split
  · exact (e.keeps_store _).trans (keeps_wakeAll _ _)
  · exact e.keeps_store _

theorem keeps_conclude (w : Worker P) (e : Engine P) (s : Snapshot) (verdict : Verdict P) :
    e.Keeps (conclude w e s verdict).1 := by
  cases verdict with
  | failed reason => exact e.keeps_emit _
  | panicked => exact e.keeps_emit _
  | found payload =>
    simp only [conclude]
    split
    · exact (e.keeps_publish s payload).trans (keeps_emit _ _)
    · exact e.keeps_publish s payload

theorem ring_store (e : Engine P) : e.ring.store = e.store := by simp [ring, wakeSome_eq]

theorem ring_queue (e : Engine P) : e.ring.queue = e.queue := by simp [ring, wakeSome_eq]

theorem enqueue_store (e : Engine P) (id : DocumentId) : (e.enqueue id).1.store = e.store := by
  unfold enqueue
  dsimp only
  split
  · exact ring_store _
  · rfl

theorem enqueue_queue (e : Engine P) (id : DocumentId) :
    (e.enqueue id).1.queue = (e.queue.enqueue id).1 := by
  unfold enqueue
  dsimp only
  split
  · exact ring_queue _
  · rfl

theorem publish_store (e : Engine P) (s : Snapshot) (payload : P) :
    (e.publish s payload).1.store = (e.store.publish s payload).1 := by
  unfold publish
  dsimp only
  split
  · simp [wakeAll_eq]
  · rfl

theorem publish_queue (e : Engine P) (s : Snapshot) (payload : P) :
    (e.publish s payload).1.queue = e.queue := by
  unfold publish
  dsimp only
  split
  · simp [wakeAll_eq]
  · rfl

theorem openDocument_ok {e e' : Engine P} {id : DocumentId} {text : String} :
    e.openDocument id text = .ok e' ↔ ∃ store, e.store.openDocument id text = .ok store ∧
      e' = ({ e with store }.enqueue id).1 := by
  unfold openDocument
  cases e.store.openDocument id text <;> simp [bind, Except.bind, pure, Except.pure, eq_comm]

theorem change_ok {e e' : Engine P} {id : DocumentId} {text : String} {v : Version} :
    e.change id text = .ok (e',v) ↔ ∃ store, e.store.change id text = .ok (store,v) ∧
      e' = ({ e with store }.enqueue id).1 := by
  unfold change
  cases hc : e.store.change id text with
  | error why => simp [bind, Except.bind]
  | ok r =>
    obtain ⟨store,v'⟩ := r
    simp only [bind, Except.bind, pure, Except.pure, Except.ok.injEq, Prod.mk.injEq]
    constructor
    · rintro ⟨rfl,rfl⟩
      exact ⟨store,⟨rfl,rfl⟩,rfl⟩
    · rintro ⟨_,⟨rfl,rfl⟩,rfl⟩
      exact ⟨rfl,rfl⟩

theorem close_ok {e e' : Engine P} {id : DocumentId} :
    e.close id = .ok e' ↔ ∃ store g, e.store.close id = .ok (store,g) ∧
      e' = ({ e with store, queue := (e.queue.remove id).1 } : Engine P).wakeAll
        (({ e with store, queue := (e.queue.remove id).1 } : Engine P).watchers g) := by
  unfold close
  cases hc : e.store.close id with
  | error why => simp [bind, Except.bind]
  | ok r =>
    obtain ⟨store,g⟩ := r
    simp only [bind, Except.bind, pure, Except.pure, Except.ok.injEq, Prod.mk.injEq]
    constructor
    · rintro rfl
      exact ⟨store,g,⟨rfl,rfl⟩,rfl⟩
    · rintro ⟨_,_,⟨rfl,rfl⟩,rfl⟩
      rfl

theorem keeps_openDocument {e e' : Engine P} {id : DocumentId} {text : String}
    (h : e.openDocument id text = .ok e') : e.Keeps e' := by
  obtain ⟨store,_,rfl⟩ := openDocument_ok.mp h
  exact (e.keeps_store store).trans (keeps_enqueue _ id)

theorem keeps_change {e e' : Engine P} {id : DocumentId} {text : String} {v : Version}
    (h : e.change id text = .ok (e',v)) : e.Keeps e' := by
  obtain ⟨store,_,rfl⟩ := change_ok.mp h
  exact (e.keeps_store store).trans (keeps_enqueue _ id)

theorem keeps_close {e e' : Engine P} {id : DocumentId} (h : e.close id = .ok e') : e.Keeps e' := by
  obtain ⟨store,g,_,rfl⟩ := close_ok.mp h
  exact ((e.keeps_store store).trans (keeps_queue _ _)).trans (keeps_wakeAll _ _)

theorem activity?_set (e : Engine P) (t u : Ticket) (a : Activity P) :
    (e.set t a).activity? u = if u = t then (e.activity? u).map fun _ => a else e.activity? u := by
  have hp : ((fun p : Ticket × Activity P => decide (p.1 = u)) ∘
      fun p => if p.1 = t then (t,a) else p) = fun p => decide (p.1 = u) := by
    funext p
    by_cases hp : p.1 = t <;> simp [hp]
  simp only [activity?, set, List.find?_map, hp]
  cases hf : e.activities.find? (fun p => decide (p.1 = u)) with
  | none => simp
  | some p =>
    have hu : p.1 = u := by simpa using List.find?_some hf
    by_cases ht : u = t <;> simp [hu, ht]

theorem activity?_remove (e : Engine P) (t u : Ticket) :
    (e.remove t).activity? u = if u = t then none else e.activity? u := by
  simp only [activity?, remove, List.find?_filter]
  by_cases hu : u = t
  · simp [hu]
  · have hp : (fun p : Ticket × Activity P =>
        decide (decide (p.1 ≠ t) = true ∧ decide (p.1 = u) = true)) =
        fun p => decide (p.1 = u) := by
      funext p
      by_cases hp : p.1 = u <;> simp [hp, hu]
    simp only [hp, hu, if_false]

theorem activity?_finish (e : Engine P) (t u : Ticket) (x : Ending P) :
    (e.finish t x).activity? u = if u = t then none else e.activity? u :=
  e.activity?_remove t u

theorem activity?_start (e : Engine P) (a : Activity P) (u : Ticket) :
    (e.start a).activity? u = (e.activity? u).or (if u = e.tickets then some a else none) := by
  simp only [activity?, start, List.find?_append]
  cases e.activities.find? (fun p => decide (p.1 = u)) with
  | none =>
    by_cases hu : e.tickets = u
    · simp [hu]
    · simp [hu, Ne.symm hu]
  | some p => simp

theorem mem_of_activity? {e : Engine P} {t : Ticket} {a : Activity P} (h : e.activity? t = some a) :
    (t,a) ∈ e.activities := by
  obtain ⟨p,hp,rfl⟩ := Option.map_eq_some_iff.mp h
  have ht : p.1 = t := by simpa using List.find?_some hp
  rw [← ht]
  exact List.mem_of_find?_eq_some hp

theorem find?_of_nodup {α β : Type} [DecidableEq β] {l : List α} {f : α → β} (h : (l.map f).Nodup)
    {a : α} (ha : a ∈ l) : l.find? (fun b => f b = f a) = some a := by
  cases hf : l.find? fun b => f b = f a with
  | none =>
    rw [List.find?_eq_none] at hf
    simpa using hf a ha
  | some b =>
    have hab : f b = f a := by simpa using List.find?_some hf
    rw [List.inj_on_of_nodup_map h (List.mem_of_find?_eq_some hf) ha hab]

theorem activity?_of_mem {e : Engine P} (h : (e.activities.map (·.1)).Nodup) {t : Ticket}
    {a : Activity P} (ha : (t,a) ∈ e.activities) : e.activity? t = some a := by
  rw [activity?, find?_of_nodup h ha]
  rfl

/-! A watch is woken when its slot changes or the service stops. -/

def Alert (e : Engine P) (u : Ticket) (v : Watch) (e' : Engine P) : Prop :=
  ∀ l, e.store.ofGeneration? v.generation = some l → u ∈ e'.ready ∨
    (e'.stopped = e.stopped ∧ ∃ l', e'.store.ofGeneration? v.generation = some l' ∧ l'.slot = l.slot)

theorem Alert.refl (e : Engine P) (u : Ticket) (v : Watch) : e.Alert u v e :=
  fun l hl => Or.inr ⟨rfl,l,hl,rfl⟩

theorem Alert.keeps {e e₁ e₂ : Engine P} {u : Ticket} {v : Watch} (h : e.Alert u v e₁)
    (k : e₁.Keeps e₂) (hs : e₂.store = e₁.store) : e.Alert u v e₂ := by
  intro l hl
  rcases h l hl with hr | ⟨ht,l',hl',he⟩
  · exact Or.inl (k.ready u hr)
  · exact Or.inr ⟨k.stopped.trans ht,l',hs ▸ hl',he⟩

theorem mem_watchers {e : Engine P} {u : Ticket} {v : Watch} (h : e.activity? u = some (.watch v)) :
    u ∈ e.watchers v.generation := by
  refine List.mem_append_right _ (List.mem_filterMap.mpr ⟨(u, .watch v), mem_of_activity? h, ?_⟩)
  simp

theorem alert_update {e e₁ : Engine P} (l : Lifetime P) (f : Lifetime P → Lifetime P)
    (hf : ∀ x, (f x).generation = x.generation) (k : e.Keeps e₁)
    (hs : e₁.store = e.store.update l.generation f) {u : Ticket} {v : Watch}
    (hu : e.activity? u = some (.watch v)) :
    e.Alert u v (e₁.wakeAll (e₁.watchers l.generation)) := by
  intro x hx
  rw [wakeAll_eq]
  by_cases hg : v.generation = l.generation
  · left
    rw [← k.activity? u] at hu
    exact mem_woken.mpr (Or.inr (hg ▸ mem_watchers hu))
  · right
    refine ⟨k.stopped,x,?_,rfl⟩
    simp [hs, Store.ofGeneration?_update _ _ _ _ hf, hx, (Store.ofGeneration?_spec hx).2, hg]

theorem alert_publish {e : Engine P} (hv : e.store.Valid) (s : Snapshot) (payload : P) (u : Ticket)
    (v : Watch) (hu : e.activity? u = some (.watch v)) : e.Alert u v (e.publish s payload).1 := by
  unfold publish
  dsimp only
  rcases hv.publish_cases s payload with ⟨he,hn,_⟩ | ⟨l,_,hg,_,he⟩
  · rw [he, if_neg hn]
    exact .refl e u v
  · rw [he, if_pos rfl, ← hg]
    exact alert_update l
      (fun x => { x with slot := { l.slot with latest := some ⟨s.id, s.version, payload⟩ } })
      (fun _ => rfl) (e.keeps_store _) rfl hu

theorem alert_conclude (w : Worker P) {e : Engine P} (hv : e.store.Valid) (s : Snapshot)
    (verdict : Verdict P) (u : Ticket) (v : Watch) (hu : e.activity? u = some (.watch v)) :
    e.Alert u v (conclude w e s verdict).1 := by
  cases verdict with
  | failed reason => exact (Alert.refl e u v).keeps (keeps_emit _ _) rfl
  | panicked => exact (Alert.refl e u v).keeps (keeps_emit _ _) rfl
  | found payload =>
    have hp := alert_publish hv s payload u v hu
    simp only [conclude]
    split
    · exact hp.keeps (keeps_emit _ _) rfl
    · exact hp

theorem alert_openDocument {e e' : Engine P} (hv : e.store.Valid) {id : DocumentId} {text : String}
    (h : e.openDocument id text = .ok e') (u : Ticket) (v : Watch) : e.Alert u v e' := by
  obtain ⟨store,hs,rfl⟩ := openDocument_ok.mp h
  obtain ⟨_,rfl⟩ := Store.openDocument_ok.mp hs
  have ha : e.Alert u v
      { e with store := ⟨{ id, generation := e.store.lifetimes.length + 1, text } :: e.store.lifetimes⟩ } := by
    intro l hl
    obtain ⟨hm,hg⟩ := Store.ofGeneration?_spec hl
    have := (hv.bounded l hm).2
    have hne : ¬ e.store.lifetimes.length + 1 = v.generation := by omega
    refine Or.inr ⟨rfl,l,?_,rfl⟩
    simpa [Store.ofGeneration?, hne] using hl
  exact ha.keeps (keeps_enqueue _ id) (enqueue_store _ id)

theorem alert_change {e e' : Engine P} {id : DocumentId} {text : String} {version : Version}
    (h : e.change id text = .ok (e',version)) (u : Ticket) (v : Watch) : e.Alert u v e' := by
  obtain ⟨store,hs,rfl⟩ := change_ok.mp h
  obtain ⟨k,_,_,rfl⟩ := Store.change_ok.mp hs
  have ha : e.Alert u v { e with store := e.store.update k.generation fun x =>
      { x with text, version := k.version.next } } := by
    intro l hl
    have hl' := e.store.ofGeneration?_update k.generation v.generation
      (fun x => { x with text, version := k.version.next }) (fun _ => rfl)
    rw [hl] at hl'
    refine Or.inr ⟨rfl,_,hl',?_⟩
    dsimp only
    split <;> rfl
  exact ha.keeps (keeps_enqueue _ id) (enqueue_store _ id)

theorem alert_close {e e' : Engine P} {id : DocumentId} (h : e.close id = .ok e') (u : Ticket)
    (v : Watch) (hu : e.activity? u = some (.watch v)) : e.Alert u v e' := by
  obtain ⟨store,g,hs,rfl⟩ := close_ok.mp h
  obtain ⟨l,_,rfl,rfl⟩ := Store.close_ok.mp hs
  exact alert_update l (fun x => { x with slot := x.slot.close }) (fun _ => rfl)
    ((e.keeps_store _).trans (keeps_queue _ _)) rfl hu

end LiveAnalysis.Engine
