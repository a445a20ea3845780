import LiveAnalysis.Proofs.Consumers

namespace LiveAnalysis

variable {P : Type}

namespace Queue

def gone (q q' : Queue) : List DocumentId :=
  q.order.filter (· ∉ q'.order)

def come (q q' : Queue) : List DocumentId :=
  q'.order.filter (· ∉ q.order)

/-- What is done to a queue by those who take nothing from it. -/
inductive Shift (q q' : Queue) : Prop where
  | adds (ids : List DocumentId) (hq : q' = q.enqueueAll ids)
  | removes (id : DocumentId) (hq : q' = (q.remove id).1)
  | shuts (hq : q' = q.shut)

structure Hands (q q' : Queue) (taken : List DocumentId) : Prop where
  order : q.order = taken ++ q'.order
  running : taken ≠ [] → q.shutDown = false
  shutDown : q'.shutDown = q.shutDown

theorem Shift.refl (q : Queue) : Shift q q :=
  .adds [] rfl

theorem Hands.refl (q : Queue) : Hands q q [] :=
  ⟨rfl, fun h => absurd rfl h, rfl⟩

theorem enqueueAll_order (q : Queue) (ids : List DocumentId) :
    ∃ new, (q.enqueueAll ids).order = q.order ++ new := by
  induction ids generalizing q with
  | nil => exact ⟨[], (List.append_nil _).symm⟩
  | cons id ids ih =>
    obtain ⟨new,hnew⟩ := ih (q.enqueue id).1
    have hid := q.enqueue_order id
    split at hid
    · exact ⟨id :: new, hnew.trans (by rw [hid]; simp)⟩
    · exact ⟨new, hnew.trans (by rw [hid])⟩

theorem gone_of_append {q q' : Queue} {new : List DocumentId} (h : q'.order = q.order ++ new)
    (hn : q'.order.Nodup) : q.gone q' = [] ∧ q.come q' = new := by
  rw [h] at hn
  have hapart := (List.nodup_append.mp hn).2.2
  constructor
  · refine List.filter_eq_nil_iff.mpr fun x hx => ?_
    simp [h, hx]
  · rw [come, h, List.filter_append]
    have hold : q.order.filter (· ∉ q.order) = [] := List.filter_eq_nil_iff.mpr fun x hx => by simp [hx]
    have hnew : new.filter (· ∉ q.order) = new := by
      refine List.filter_eq_self.mpr fun x hx => decide_eq_true fun hm => ?_
      exact hapart x hm x hx rfl
    rw [hold, hnew, List.nil_append]

theorem gone_of_filter {q q' : Queue} {p : DocumentId → Bool} (h : q'.order = q.order.filter p) :
    q'.order = q.order.filter (· ∉ q.gone q') ∧ q.come q' = [] := by
  constructor
  · rw [h]
    refine List.filter_congr fun x hx => ?_
    by_cases hp : p x = true <;> simp [gone, h, hx, hp]
  · refine List.filter_eq_nil_iff.mpr fun x hx => ?_
    rw [h] at hx
    simp [List.mem_of_mem_filter hx]

theorem Shift.order {q q' : Queue} (h : Shift q q') (hs : q.Sound) :
    q'.order = q.order.filter (· ∉ q.gone q') ++ q.come q' := by
  have hfilter : ∀ p, q'.order = q.order.filter p → q'.order = q.order.filter (· ∉ q.gone q') ++ q.come q' := by
    intro p hp
    obtain ⟨ho,hc⟩ := gone_of_filter hp
    rw [hc, List.append_nil]
    exact ho
  cases h with
  | adds ids hq =>
    obtain ⟨new,hnew⟩ := q.enqueueAll_order ids
    rw [← hq] at hnew
    obtain ⟨hg,hc⟩ := gone_of_append hnew (hq ▸ (hs.enqueueAll ids).nodup)
    rw [hg, hc, hnew]
    simp
  | removes id hq => exact hfilter _ (hq ▸ hs.remove_order id)
  | shuts hq => exact hfilter (fun _ => false) (by simp [hq, shut])

theorem Shift.shutDown {q q' : Queue} (h : Shift q q') (hs : q.shutDown = true) : q'.shutDown = true := by
  cases h with
  | adds ids hq => rw [hq, enqueueAll_shutDown, hs]
  | removes id hq => rw [hq, remove_shutDown, hs]
  | shuts hq => rw [hq]; rfl

theorem Hands.gone {q q' : Queue} {taken : List DocumentId} (h : Hands q q' taken) (hn : q.order.Nodup) :
    q.gone q' = taken ∧ q.come q' = [] := by
  have hn' := h.order ▸ hn
  have hapart := (List.nodup_append.mp hn').2.2
  constructor
  · rw [Queue.gone, h.order, List.filter_append]
    have htaken : taken.filter (· ∉ q'.order) = taken :=
      List.filter_eq_self.mpr fun x hx => decide_eq_true fun hm => hapart x hx x hm rfl
    have hrest : q'.order.filter (· ∉ q'.order) = [] := List.filter_eq_nil_iff.mpr fun x hx => by simp [hx]
    rw [htaken, hrest, List.append_nil]
  · refine List.filter_eq_nil_iff.mpr fun x hx => ?_
    simp [h.order, hx]

section Served

variable {ps : List Passage} {order : List DocumentId}

theorem Served.joins (h : Served ps order) (ids : List DocumentId) :
    Served (ps ++ ids.map .added) (order ++ ids) := by
  induction ids generalizing ps order with
  | nil => simpa using h
  | cons id ids ih => simpa using ih (h.added id)

theorem Served.loses (h : Served ps order) (ids : List DocumentId) :
    Served (ps ++ ids.map .removed) (order.filter (· ∉ ids)) := by
  induction ids generalizing ps order with
  | nil => simpa using h
  | cons id ids ih =>
    have hrest : (order.filter (· ≠ id)).filter (· ∉ ids) = order.filter (· ∉ id :: ids) := by
      rw [List.filter_filter]
      refine List.filter_congr fun x _ => ?_
      by_cases hx : x = id <;> simp [hx]
    have hids := ih (h.removed id)
    rw [hrest, List.append_assoc] at hids
    exact hids

theorem Served.serves {taken : List DocumentId} (h : Served ps (taken ++ order)) (hn : (taken ++ order).Nodup) :
    Served (ps ++ taken.map .handed) order := by
  induction taken generalizing ps with
  | nil => simpa using h
  | cons id taken ih =>
    obtain ⟨hid,hn⟩ := List.nodup_cons.mp hn
    simpa using ih (Served.handed h hid) hn

end Served

end Queue

namespace Engine

variable (w : Worker P)

def isConsumer : Activity P → Bool
  | .take => true
  | .loop _ => true
  | _ => false

theorem takeTurn_cases {e : Engine P} (t : Ticket) (h : e.queue.Sound) :
    (∃ id, Queue.Hands e.queue (e.takeTurn t).queue [id] ∧ (t,.taken id) ∈ (e.takeTurn t).ended) ∨
    ((e.takeTurn t).queue = e.queue ∧ e.queue.shutDown = true ∧
      (t,.refused .shutDown) ∈ (e.takeTurn t).ended) ∨
    ((e.takeTurn t).queue = e.queue ∧ (e.takeTurn t).activity? t = e.activity? t) := by
  unfold takeTurn
  dsimp only
  cases horder : e.queue.order with
  | nil =>
    rw [Queue.hand_empty horder]
    cases hd : e.queue.shutDown with
    | true =>
      refine Or.inr (Or.inl ⟨rfl, rfl, ?_⟩)
      exact List.mem_append_right _ List.mem_cons_self
    | false => exact Or.inr (Or.inr ⟨rfl,rfl⟩)
  | cons id rest =>
    obtain ⟨hi,ho⟩ := h.hand_front horder
    split
    · rename_i queue id' hh
      have hd := e.queue.hand_shutDown
      rw [hh] at hi ho hd
      cases hi
      refine Or.inl ⟨id, ⟨?_, fun _ => h.still_open horder, hd⟩, List.mem_append_right _ List.mem_cons_self⟩
      rw [horder, ← ho]
      rfl
    · rename_i hh
      simp [hh] at hi
    · rename_i hh
      simp [hh] at hi

theorem takeTurn_hands {e : Engine P} (t : Ticket) (h : e.queue.Sound) :
    ∃ taken, Queue.Hands e.queue (e.takeTurn t).queue taken := by
  rcases takeTurn_cases t h with ⟨id,hh,_⟩ | ⟨hq,_⟩ | ⟨hq,_⟩
  · exact ⟨[id],hh⟩
  · exact ⟨[], hq ▸ .refl _⟩
  · exact ⟨[], hq ▸ .refl _⟩

theorem seek_hands (e : Engine P) (t : Ticket) : ∃ taken, Queue.Hands e.queue (e.seek t).queue taken := by
  unfold seek
  split
  · exact ⟨[], (e.endLoop_queue t).symm ▸ .refl _⟩
  split
  · exact ⟨[], (endLoop_queue _ t).symm ▸ .refl _⟩
  rename_i hr
  dsimp only
  split
  · rename_i s rest hf
    obtain ⟨skipped,l,horder,_,rfl,_⟩ := Store.firstOpen?_some hf
    refine ⟨skipped ++ [l.id], ?_, fun _ => eq_false_of_ne_true hr, rfl⟩
    exact horder.trans (List.append_assoc skipped [l.id] rest).symm
  · exact ⟨e.queue.order, (List.append_nil _).symm, fun _ => eq_false_of_ne_true hr, rfl⟩

theorem consumer_hands {e : Engine P} {t : Ticket} {a : Activity P} (ht : e.activity? t = some a)
    (ha : isConsumer a = true) (h : e.queue.Sound) :
    ∃ taken, Queue.Hands e.queue (e.turn w t).queue taken := by
  unfold turn
  rw [ht]
  cases a with
  | take => exact takeTurn_hands t h
  | loop stage =>
    cases stage with
    | idle => exact e.seek_hands t
    | underway s => exact ⟨[], .refl _⟩
    | judged s verdict =>
      have hs := (e.conclude w s verdict).1.seek_hands t
      rw [conclude_queue] at hs
      exact hs
  | _ => simp [isConsumer] at ha

theorem watchTurn_queue (e : Engine P) (t : Ticket) (v : Watch) : (e.watchTurn t v).queue = e.queue := by
  rcases e.watchTurn_cases t v with ⟨x,hx⟩ | ⟨v',hx,_⟩ <;> rw [hx] <;> rfl

theorem callTurn_shifts (e : Engine P) (t : Ticket) (c : Call) :
    Queue.Shift e.queue (e.callTurn t c).queue := by
  rcases e.callTurn_cases t c with ⟨x,hx⟩ | ⟨e₁,id,atLeast,timeout,token,goal,hn,hx,_⟩
  · rw [hx]
    exact .refl _
  · have hq : (e₁.watchFrom t id atLeast timeout token goal).queue = e₁.queue := by
      rcases e₁.watchFrom_cases t id atLeast timeout token goal with ⟨x,hx⟩ | ⟨v,hx,_⟩ <;> rw [hx] <;> rfl
    rw [hx, hq]
    cases hn with
    | nothing => exact .refl _
    | opened h => exact .adds [_] (noteOpened_queue h)
    | changed h => exact .adds [_] (noteChanged_queue h)

theorem turn_shifts {e : Engine P} {t : Ticket} (ha : ∀ a, e.activity? t = some a → isConsumer a = false) :
    Queue.Shift e.queue (e.turn w t).queue := by
  unfold turn
  cases ht : e.activity? t with
  | none => exact .refl _
  | some a =>
    have hc := ha a ht
    cases a with
    | take => simp [isConsumer] at hc
    | loop stage => simp [isConsumer] at hc
    | process id stage =>
      cases stage with
      | idle =>
        simp only [processTurn]
        split <;> exact .refl _
      | underway s => exact .refl _
      | judged s verdict => exact (conclude_queue w e s verdict).symm ▸ .refl _
    | analysis owner s c => exact (analysisTurn_queue w e t owner s c).symm ▸ .refl _
    | wait place atLeast =>
      simp only [waitTurn]
      split
      · exact .refl _
      · split
        · exact .refl _
        · rw [wakeSome_eq]
          exact .refl _
    | call c => exact e.callTurn_shifts t c
    | watch v => exact (e.watchTurn_queue t v).symm ▸ .refl _
    | shutdown begun =>
      cases begun with
      | true => exact .refl _
      | false =>
        simp only [shutdownTurn]
        split
        · exact .refl _
        · split <;> exact .shuts e.shutDown_queue

theorem hangUp_shifts (e : Engine P) : Queue.Shift e.queue e.hangUp.queue := by
  rcases e.hangUp_cases with he | ⟨he,_⟩ <;> rw [he]
  · exact .refl _
  · exact .shuts (by rw [shutQueue_queue, stop_queue])

theorem ask_shifts (e : Engine P) (r : Request) : Queue.Shift e.queue (e.move w (.ask r)).queue := by
  cases r with
  | openDocument id text =>
    simp only [move, Service.receive]
    split
    · exact .adds [id] (noteOpened_queue ‹_›)
    · exact .refl _
  | change id text =>
    simp only [move, Service.receive]
    split
    · exact .adds [id] (noteChanged_queue ‹_›)
    · exact .refl _
  | close id =>
    simp only [move, Service.receive]
    split
    · exact .removes id (noteClosed_queue ‹_›)
    · exact .refl _
  | analyse id =>
    simp only [move, Service.receive]
    split
    · exact .adds [id] (requestAnalysis_queue ‹_›)
    · exact .refl _
  | analyseAll ids =>
    have hq := e.requestAnalyses_queue ids
    simp only [move, Service.receive]
    split
    · rename_i h
      rw [h] at hq
      exact .adds _ hq
    · rename_i h
      rw [h] at hq
      exact .adds _ hq
  | call c => exact .refl _
  | cancel token => exact (wakeAll_queue _ _).symm ▸ .refl _
  | shutdown => exact .refl _
  | abandon => exact hangUp_shifts { e with abandoned := true }
  | release permits => exact (e.release_queue permits).symm ▸ .refl _
  | advance ms => exact .refl _

theorem move_shifts {e : Engine P} {m : Move}
    (ha : ∀ t a, e.turning? m = some t → e.activity? t = some a → isConsumer a = false) :
    Queue.Shift e.queue (e.move w m).queue := by
  cases m with
  | turn place =>
    simp only [move]
    split
    · exact .refl _
    · rename_i t ht
      exact turn_shifts w (e := { e with ready := e.ready.eraseIdx place }) fun a h => ha t a ht h
  | alarms => exact (wakeAll_queue _ _).symm ▸ .refl _
  | hangUp => exact e.hangUp_shifts
  | openDocument id text =>
    simp only [move]
    split
    · exact .adds [id] (openDocument_queue ‹_›)
    · exact .refl _
  | change id text =>
    simp only [move]
    split
    · exact .adds [id] (change_queue ‹_›)
    · exact .refl _
  | close id =>
    simp only [move]
    split
    · exact .removes id (close_queue ‹_›)
    · exact .refl _
  | enqueue id => exact .adds [id] (enqueue_queue e id)
  | remove id => exact .removes id rfl
  | subscribe id =>
    simp only [move, subscribe]
    cases e.store.get id <;> exact .refl _
  | shutQueue => exact .shuts e.shutQueue_queue
  | stop => exact e.stop_queue.symm ▸ .refl _
  | start task => exact .refl _
  | ask r => exact e.ask_shifts w r

end Engine

end LiveAnalysis
