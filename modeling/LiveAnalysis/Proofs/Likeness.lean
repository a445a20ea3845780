import LiveAnalysis.Proofs.Outlines

namespace LiveAnalysis

variable {P : Type}

namespace Engine

variable {d : DocumentId} {e e₁ e₂ : Engine P} {t : Ticket} {x x₁ x₂ : Option Ticket}

namespace Alike

variable (h : e₁.Alike d e₂)

include h

theorem ensureRunning : Agree (fun _ _ => True) e₁.ensureRunning e₂.ensureRunning := by
  unfold Engine.ensureRunning
  rw [h.stopped]
  split
  · exact .error _ _
  · exact .ok trivial

theorem openDocument (id : DocumentId) (text : String) :
    Agree (Alike d) (e₁.openDocument id text) (e₂.openDocument id text) := by
  refine (Store.openDocument_alike h.store id text).bind fun s₁ s₂ hs => .ok (Alike.enqueue ?_ id)
  exact { h with store := hs }

theorem change (id : DocumentId) (text : String) :
    Agree (fun r₁ r₂ : Engine P × Version => r₁.1.Alike d r₂.1 ∧ r₁.2 = r₂.2) (e₁.change id text)
      (e₂.change id text) := by
  refine (Store.change_alike h.store id text).bind fun r₁ r₂ hr => .ok ⟨Alike.enqueue ?_ id, hr.2⟩
  exact { h with store := hr.1 }

theorem noteOpened (id : DocumentId) (text : String) :
    Agree (Alike d) (e₁.noteOpened id text) (e₂.noteOpened id text) :=
  h.ensureRunning.bind fun _ _ _ => (h.openDocument id text).bind fun _ _ ha => .ok { ha with }

theorem noteChanged (id : DocumentId) (text : String) :
    Agree (fun r₁ r₂ : Engine P × Version => r₁.1.Alike d r₂.1 ∧ r₁.2 = r₂.2) (e₁.noteChanged id text)
      (e₂.noteChanged id text) :=
  h.ensureRunning.bind fun _ _ _ => h.change id text

theorem requestAnalysis (id : DocumentId) :
    Agree (fun r₁ r₂ : Engine P × Enqueued => r₁.1.Alike d r₂.1) (e₁.requestAnalysis id)
      (e₂.requestAnalysis id) :=
  h.ensureRunning.bind fun _ _ _ => (Store.get_alike h.store id).bind fun _ _ _ => .ok (h.enqueue id)

theorem requestAnalyses (ids : List DocumentId) :
    (e₁.requestAnalyses ids).1.Alike d (e₂.requestAnalyses ids).1 := by
  induction ids generalizing e₁ e₂ with
  | nil => exact h
  | cons id ids ih =>
    have ha := h.requestAnalysis id
    simp only [Engine.requestAnalyses]
    generalize e₁.requestAnalysis id = r₁ at ha ⊢
    generalize e₂.requestAnalysis id = r₂ at ha ⊢
    cases ha with
    | ok ha => exact ih ha
    | error => exact h

section Watched

variable (t₁ : e₁.Tidy x₁) (t₂ : e₂.Tidy x₂)

include t₁ t₂

theorem close (id : DocumentId) : Agree (Alike d) (e₁.close id) (e₂.close id) := by
  refine (Store.close_alike h.store id).bind fun r₁ r₂ hr => .ok (wakeUnseen ?_ ?_ ?_)
  · exact { h with store := hr.1, queue := by rw [h.queue] }
  · exact Tidy.unseen_watchers (e := { e₁ with store := r₁.1, queue := (e₁.queue.remove id).1 }) { t₁ with } _
  · exact Tidy.unseen_watchers (e := { e₂ with store := r₂.1, queue := (e₂.queue.remove id).1 }) { t₂ with } _

theorem noteClosed (id : DocumentId) : Agree (Alike d) (e₁.noteClosed id) (e₂.noteClosed id) :=
  h.ensureRunning.bind fun _ _ _ => (h.close t₁ t₂ id).bind fun _ _ ha => .ok { ha with }

theorem publish (hv₁ : e₁.store.Valid) (hv₂ : e₂.store.Valid) {s : Snapshot} (hs : s.id ≠ d)
    (payload : P) : (e₁.publish s payload).1.Alike d (e₂.publish s payload).1 := by
  obtain ⟨hp,ho⟩ := Store.publish_alike hv₁ hv₂ h.store hs payload
  unfold Engine.publish
  dsimp only
  rw [ho]
  split
  · refine wakeUnseen ?_ ?_ ?_
    · exact { h with store := hp }
    · exact Tidy.unseen_watchers (e := { e₁ with store := (e₁.store.publish s payload).1 }) { t₁ with } _
    · exact Tidy.unseen_watchers (e := { e₂ with store := (e₂.store.publish s payload).1 }) { t₂ with } _
  · exact { h with store := hp }

end Watched

omit h in
theorem wakeLeft (h : e₁.Alike d e₂) {ts : List Ticket} (h₁ : ∀ t ∈ ts, e₁.seen? d t = none) :
    (e₁.wakeAll ts).Alike d e₂ := by
  have hn : (e₁.wakeAll ts).Alike d (e₂.wakeAll []) := h.wakeUnseen h₁ (by simp)
  exact hn

end Alike

theorem Tidy.publish_alike (ht : e.Tidy x) (hv : e.store.Valid) {s : Snapshot} (hs : s.id = d)
    (payload : P) : (e.publish s payload).1.Alike d e := by
  have hp : ({ e with store := (e.store.publish s payload).1 } : Engine P).Alike d e :=
    { Alike.refl d e with store := hv.blur_publish hs payload }
  unfold Engine.publish
  dsimp only
  split
  · exact hp.wakeLeft
      (Tidy.unseen_watchers (e := { e with store := (e.store.publish s payload).1 }) { ht with } _)
  · exact hp

theorem conclude_found (w : Worker P) (e : Engine P) (s : Snapshot) (payload : P) :
    (conclude w e s (.found payload)).1.Alike d (e.publish s payload).1 := by
  simp only [conclude]
  split
  · exact { Alike.refl d (e.publish s payload).1 with }
  · exact .refl d _

theorem Tidy.conclude_alike (w : Worker P) (ht : e.Tidy x) (hv : e.store.Valid) {s : Snapshot}
    (hs : s.id = d) (verdict : Verdict P) : (Engine.conclude w e s verdict).1.Alike d e := by
  cases verdict with
  | found payload => exact (conclude_found w e s payload).trans (ht.publish_alike hv hs payload)
  | _ => exact { Alike.refl d e with }

namespace Alike

variable (h : e₁.Alike d e₂) (w₁ w₂ : Worker P) {s : Snapshot} {v₁ v₂ : Verdict P}
  (hv : s.id ≠ d → v₁ = v₂)

include h

include hv in
theorem conclude (t₁ : e₁.Tidy x₁) (t₂ : e₂.Tidy x₂) (hv₁ : e₁.store.Valid) (hv₂ : e₂.store.Valid) :
    (Engine.conclude w₁ e₁ s v₁).1.Alike d (Engine.conclude w₂ e₂ s v₂).1 := by
  by_cases hs : s.id = d
  · exact ((t₁.conclude_alike w₁ hv₁ hs v₁).trans h).trans (t₂.conclude_alike w₂ hv₂ hs v₂).symm
  · obtain rfl := hv hs
    cases v₁ with
    | found payload =>
      exact ((conclude_found w₁ e₁ s payload).trans (h.publish t₁ t₂ hv₁ hv₂ hs payload)).trans
        (conclude_found w₂ e₂ s payload).symm
    | _ => exact { h with }

include hv in
theorem deliver {owner : Ticket} {stage₁ stage₂ : Stage P}
    (h₁ : e₁.activity? owner = some (.loop stage₁)) (h₂ : e₂.activity? owner = some (.loop stage₂)) :
    (e₁.deliver owner s v₁).Alike d (e₂.deliver owner s v₂) := by
  have hs : (Activity.loop (.judged s v₁)).seen? d = (Activity.loop (.judged s v₂)).seen? d := by
    by_cases hs : s.id = d
    · simp [Activity.seen?, Activity.isBystander, Activity.blur, Stage.blur, hs]
    · rw [hv hs]
  have hb : e₁.seen? d owner = some (.loop (stage₁.blur d)) := by
    rw [seen?, h₁]
    rfl
  unfold Engine.deliver
  rw [h₁, h₂]
  exact (h.set hb hs).wakeSome (some owner)

theorem endLoop (hn₁ : (e₁.activities.map (·.1)).Nodup) (hn₂ : (e₂.activities.map (·.1)).Nodup)
    (t : Ticket) : (e₁.endLoop t).Alike d (e₂.endLoop t) := by
  have hn : ∀ (e : Engine P) bell woken, (e.activities.map (·.1)).Nodup →
      (((({ e with bell } : Engine P).finish t .stopped).wakeSome woken).activities.map (·.1)).Nodup := by
    intro e bell woken hn
    rw [(keeps_wakeSome _ _).activities]
    exact hn.sublist (List.filter_sublist.map _)
  unfold Engine.endLoop
  rw [h.bell]
  refine wakeUnseen (wakeSome (finish ?_ t _ _) _) ?_ ?_
  · exact { h with bell := rfl }
  · exact unseen_closers (hn e₁ _ _ hn₁)
  · exact unseen_closers (hn e₂ _ _ hn₂)

theorem seek (t₁ : e₁.Tidy x₁) (t₂ : e₂.Tidy x₂) {b : Activity P} (hb : e₁.seen? d t = some b) :
    (e₁.seek t).Alike d (e₂.seek t) := by
  have hset : ∀ queue bell (a : Activity P), (({ e₁ with bell, queue } : Engine P).set t a).Alike d
      (({ e₂ with bell, queue } : Engine P).set t a) := by
    intro queue bell a
    refine Alike.set (b := b) ?_ hb rfl
    exact { h with queue := rfl, bell := rfl }
  unfold Engine.seek
  by_cases hs : e₂.stopped = true
  · rw [if_pos (h.stopped.trans hs), if_pos hs]
    exact h.endLoop t₁.once t₂.once t
  rw [if_neg (h.stopped ▸ hs), if_neg hs, h.queue, h.bell]
  split
  · refine endLoop ?_ ?_ ?_ t
    · exact { h with bell := rfl, queue := rfl }
    · exact t₁.once
    · exact t₂.once
  · dsimp only
    rw [Store.firstOpen?_alike h.store]
    split
    · refine (hset _ _ _).start ?_ ?_ _
      · exact free_set t₁.free _ _
      · exact free_set t₂.free _ _
    · exact hset _ _ _

omit h in
theorem loop (h : e₁.Alike d e₂) {stage₁ : Stage P} (h₁ : e₁.activity? t = some (.loop stage₁)) :
    ∃ stage₂, e₂.activity? t = some (.loop stage₂) ∧ stage₁.blur d = stage₂.blur d := by
  have hs : e₁.seen? d t = some (.loop (stage₁.blur d)) := by
    rw [seen?, h₁]
    rfl
  obtain ⟨a,ha,hb⟩ := activity?_of_seen ((h.seen t).symm.trans hs)
  unfold Activity.seen? at hb
  split at hb
  · simp at hb
  · cases a <;> simp [Activity.blur] at hb
    exact ⟨_,ha,hb.symm⟩

omit h in
theorem same (h : e₁.Alike d e₂) {a : Activity P} (h₁ : e₁.activity? t = some a) (ha : a.isBystander = false)
    (hl : ∀ stage, a ≠ .loop stage) : e₂.activity? t = some a := by
  have hblur : a.blur d = a := by
    cases a with
    | loop stage => exact absurd rfl (hl stage)
    | _ => rfl
  have hs : e₁.seen? d t = some a := by
    rw [seen?, h₁, Option.bind_some, Activity.seen?, ha, hblur]
    rfl
  obtain ⟨a₂,ha₂,hb⟩ := activity?_of_seen ((h.seen t).symm.trans hs)
  unfold Activity.seen? at hb
  split at hb
  · simp at hb
  · rw [ha₂]
    cases a₂ with
    | loop stage => exact absurd (Option.some.inj hb).symm (hl _)
    | _ => exact hb

theorem loopTurn (t₁ : e₁.Tidy x₁) (t₂ : e₂.Tidy x₂) (hv₁ : e₁.store.Valid) (hv₂ : e₂.store.Valid)
    {stage₁ stage₂ : Stage P} (h₁ : e₁.activity? t = some (.loop stage₁))
    (hb : stage₁.blur d = stage₂.blur d) :
    (e₁.loopTurn w₁ t stage₁).Alike d (e₂.loopTurn w₂ t stage₂) := by
  have hs : e₁.seen? d t = some (.loop (stage₁.blur d)) := by
    rw [seen?, h₁]
    rfl
  rcases Stage.blur_cases hb with ⟨rfl,hn⟩ | ⟨s,v₁,v₂,rfl,rfl,hv⟩
  · cases stage₁ with
    | idle => exact h.seek t₁ t₂ hs
    | underway s => exact h
    | judged s v => simp [Stage.verdict?] at hn
  · rw [seen?, ← (keeps_conclude w₁ e₁ s v₁).activity? t] at hs
    exact (h.conclude w₁ w₂ hv t₁ t₂ hv₁ hv₂).seek (t₁.conclude w₁ s v₁) (t₂.conclude w₂ s v₂) hs

theorem judge {stage : Stage P} (ht : t ≠ 0) (h₁ : e₁.activity? 0 = some (.loop stage)) (call : Nat)
    (hw : s.id ≠ d → w₁.analyzer call s.text s.version = w₂.analyzer call s.text s.version) :
    (e₁.judge w₁ t 0 s call).Alike d (e₂.judge w₂ t 0 s call) := by
  obtain ⟨stage₂,h₂,_⟩ := h.loop h₁
  have k₁ : (e₁.remove t).activity? 0 = some (.loop stage) := by
    rw [activity?_remove, if_neg (Ne.symm ht), h₁]
  have k₂ : (e₂.remove t).activity? 0 = some (.loop stage₂) := by
    rw [activity?_remove, if_neg (Ne.symm ht), h₂]
  exact (h.remove t).deliver hw k₁ k₂

theorem analysisTurn {stage : Stage P} {c : Option Nat} (ht : t ≠ 0)
    (h₁ : e₁.activity? 0 = some (.loop stage)) (hu : e₁.activity? t = some (.analysis 0 s c))
    (hw : s.id ≠ d → w₁.analyzer (c.getD (e₁.calls + 1)) s.text s.version =
      w₂.analyzer (c.getD (e₁.calls + 1)) s.text s.version) :
    (e₁.analysisTurn w₁ t 0 s c).Alike d (e₂.analysisTurn w₂ t 0 s c) := by
  have hgate : ∀ gate calls, ({ e₁ with gate, calls } : Engine P).Alike d { e₂ with gate, calls } :=
    fun gate calls => { h with gate := rfl, calls := rfl }
  cases c with
  | some call => exact h.judge w₁ w₂ ht h₁ call hw
  | none =>
    have hs : e₁.seen? d t = some (.analysis 0 s none) := by
      rw [seen?, hu]
      rfl
    rw [Option.getD_none, h.calls] at hw
    simp only [Engine.analysisTurn, h.calls]
    cases hg : e₂.gate with
    | none =>
      rw [h.gate.trans hg]
      exact (hgate none (e₂.calls + 1)).judge w₁ w₂ ht h₁ _ hw
    | some gate =>
      rw [h.gate.trans hg]
      dsimp only
      split
      · rename_i gate' _
        exact (hgate (some gate') (e₂.calls + 1)).judge w₁ w₂ ht h₁ _ hw
      · rename_i gate' _
        exact (hgate (some gate') (e₂.calls + 1)).set hs rfl

end Alike

theorem alike_finish (e : Engine P) (t : Ticket) (x : Ending P) : (e.finish t x).Alike d (e.remove t) :=
  { Alike.refl d (e.remove t) with }

theorem alike_set (e : Engine P) (t : Ticket) {a : Activity P} (ha : a.isBystander = true) :
    (e.set t a).Alike d (e.remove t) := by
  have hs : ∀ u, (e.set t a).seen? d u = (e.remove t).seen? d u := by
    intro u
    rw [seen?_remove, seen?, activity?_set]
    split
    · cases e.activity? u with
      | none => rfl
      | some b => exact if_pos ha
    · rfl
  exact { Alike.refl d (e.remove t) with seen := hs, ready := fun _ _ _ => Iff.rfl }

theorem alike_watchTurn (e : Engine P) (t : Ticket) (v : Watch) :
    (e.watchTurn t v).Alike d (e.remove t) := by
  rcases e.watchTurn_cases t v with ⟨x,hx⟩ | ⟨v',hx,_⟩ <;> rw [hx]
  · exact e.alike_finish t x
  · exact e.alike_set t rfl

theorem alike_watchFrom (e : Engine P) (t : Ticket) (id : DocumentId) (atLeast : Option Version)
    (timeout : Nat) (token : Option Token) (goal : Goal) :
    (e.watchFrom t id atLeast timeout token goal).Alike d (e.remove t) := by
  rcases e.watchFrom_cases t id atLeast timeout token goal with ⟨x,hx⟩ | ⟨v,hx,_⟩ <;> rw [hx]
  · exact e.alike_finish t x
  · exact e.alike_set t rfl

theorem Alike.unseen (h : e.seen? d t = none) : (e.remove t).Alike d e := by
  have hs : ∀ u, (e.remove t).seen? d u = e.seen? d u := by
    intro u
    rw [seen?_remove]
    split
    · rename_i hu
      rw [hu, h]
    · rfl
  exact { Alike.refl d e with seen := hs, ready := fun _ _ _ => Iff.rfl }

section Calls

variable (h : e₁.Alike d e₂)

include h

theorem Alike.watchFrom (t : Ticket) (id : DocumentId) (atLeast₁ atLeast₂ : Option Version)
    (timeout : Nat) (token : Option Token) (goal₁ goal₂ : Goal) :
    (e₁.watchFrom t id atLeast₁ timeout token goal₁).Alike d
      (e₂.watchFrom t id atLeast₂ timeout token goal₂) :=
  ((e₁.alike_watchFrom t _ _ _ _ _).trans (h.remove t)).trans (e₂.alike_watchFrom t _ _ _ _ _).symm

theorem Alike.callTurn (t : Ticket) (c : Call) : (e₁.callTurn t c).Alike d (e₂.callTurn t c) := by
  cases c with
  | wait id atLeast timeout token => exact h.watchFrom t _ _ _ _ _ _ _
  | openAndWait id text timeout =>
    have ha := h.noteOpened id text
    simp only [Engine.callTurn]
    generalize e₁.noteOpened id text = r₁ at ha ⊢
    generalize e₂.noteOpened id text = r₂ at ha ⊢
    cases ha with
    | ok ha => exact ha.watchFrom t _ _ _ _ _ _ _
    | error => exact h.finish t _ _
  | changeAndWait id text timeout =>
    have ha := h.noteChanged id text
    simp only [Engine.callTurn]
    generalize e₁.noteChanged id text = r₁ at ha ⊢
    generalize e₂.noteChanged id text = r₂ at ha ⊢
    cases ha with
    | ok ha => exact ha.1.watchFrom t _ _ _ _ _ _ _
    | error => exact h.finish t _ _
  | query id timeout =>
    simp only [Engine.callTurn]
    have hl := Store.get_alike h.store id
    generalize e₁.store.get id = r₁ at hl ⊢
    generalize e₂.store.get id = r₂ at hl ⊢
    cases hl with
    | ok hl => exact h.watchFrom t _ _ _ _ _ _ _
    | error => exact h.finish t _ _

theorem Alike.shutQueue : e₁.shutQueue.Alike d e₂.shutQueue := by
  unfold Engine.shutQueue
  rw [h.bell, h.queue]
  refine Alike.wakeAll ?_ fun _ _ _ => Iff.rfl
  exact { h with queue := rfl, bell := rfl }

end Calls

theorem mem_idleLoops (hn : (e.activities.map (·.1)).Nodup) :
    t ∈ e.idleLoops ↔ e.seen? d t = some (.loop .idle) := by
  constructor
  · intro ht
    obtain ⟨⟨u,a⟩,hm,ha⟩ := List.mem_filterMap.mp ht
    cases a with
    | loop stage =>
      cases stage <;> simp at ha
      subst ha
      rw [seen?, activity?_of_mem hn hm]
      rfl
    | _ => simp at ha
  · intro ht
    obtain ⟨a,hu,ha⟩ := activity?_of_seen ht
    unfold Activity.seen? at ha
    split at ha
    · simp at ha
    · cases a with
      | loop stage =>
        cases stage <;> simp [Activity.blur, Stage.blur] at ha
        exact List.mem_filterMap.mpr ⟨_, mem_of_activity? hu, rfl⟩
      | _ => simp [Activity.blur] at ha

theorem hasLoop_iff (hn : (e.activities.map (·.1)).Nodup) :
    e.hasLoop = true ↔ ∃ t stage, e.activity? t = some (.loop stage) := by
  unfold hasLoop
  rw [List.any_eq_true]
  constructor
  · rintro ⟨⟨t,a⟩,hm,ha⟩
    cases a with
    | loop stage => exact ⟨t, stage, activity?_of_mem hn hm⟩
    | _ => simp at ha
  · rintro ⟨t,stage,hu⟩
    exact ⟨_, mem_of_activity? hu, rfl⟩

section Shutdown

variable (h : e₁.Alike d e₂) (hn₁ : (e₁.activities.map (·.1)).Nodup)
  (hn₂ : (e₂.activities.map (·.1)).Nodup)

include h hn₁ hn₂

theorem Alike.stop : e₁.stop.Alike d e₂.stop := by
  have hs : ({ e₁ with stopped := true } : Engine P).Alike d { e₂ with stopped := true } :=
    { h with stopped := rfl }
  refine hs.wakeAll fun t a _ => ?_
  exact (mem_idleLoops hn₁).trans ((h.seen t) ▸ (mem_idleLoops hn₂).symm)

theorem Alike.hasLoop : e₁.hasLoop = e₂.hasLoop := by
  rw [Bool.eq_iff_iff, hasLoop_iff hn₁, hasLoop_iff hn₂]
  constructor
  · rintro ⟨t,stage,hu⟩
    obtain ⟨stage',hu',_⟩ := h.loop hu
    exact ⟨t,stage',hu'⟩
  · rintro ⟨t,stage,hu⟩
    obtain ⟨stage',hu',_⟩ := h.symm.loop hu
    exact ⟨t,stage',hu'⟩

theorem Alike.shutDown : (e₁.stop.wakeAll e₁.stop.watches).shutQueue.Alike d
    (e₂.stop.wakeAll e₂.stop.watches).shutQueue := by
  have hk : ∀ e : Engine P, e.stop.activities = e.activities := fun e =>
    (keeps_wakeAll { e with stopped := true } e.idleLoops).activities
  refine ((h.stop hn₁ hn₂).wakeUnseen ?_ ?_).shutQueue
  · exact unseen_watches (hk e₁ ▸ hn₁)
  · exact unseen_watches (hk e₂ ▸ hn₂)

theorem Alike.shutdownTurn {b : Activity P} (hb : e₁.seen? d t = some b) :
    (e₁.shutdownTurn t false).Alike d (e₂.shutdownTurn t false) := by
  have hs := h.shutDown hn₁ hn₂
  have hk := e₁.keeps_shutDown
  have hl := hs.hasLoop (hk.activities ▸ hn₁) (e₂.keeps_shutDown.activities ▸ hn₂)
  unfold Engine.shutdownTurn
  dsimp only
  rw [h.stopped, hl]
  split
  · exact h.finish t _ _
  · split
    · refine hs.set (b := b) ?_ rfl
      rw [seen?, hk.activity? t]
      exact hb
    · exact { hs.finish t .down .down with }

end Shutdown

theorem Alike.release (h : e₁.Alike d e₂) (permits : Nat) :
    (e₁.release permits).Alike d (e₂.release permits) := by
  unfold Engine.release
  rw [h.gate]
  split
  · exact h
  · refine Alike.wakeAll ?_ fun _ _ _ => Iff.rfl
    exact { h with gate := rfl }

section Moves

variable {x₁ x₂ : Option Ticket} (h : e₁.Alike d e₂) (t₁ : e₁.Tidy x₁) (t₂ : e₂.Tidy x₂)
  (w₁ w₂ : Worker P)

include h t₁ t₂

theorem Alike.turn (hst : e₁.Staffed) (hv₁ : e₁.store.Valid) (hv₂ : e₂.store.Valid) {b : Activity P}
    (hb : e₁.seen? d t = some b)
    (hw : ∀ s c, e₁.activity? t = some (.analysis 0 s c) → s.id ≠ d →
      w₁.analyzer (c.getD (e₁.calls + 1)) s.text s.version =
        w₂.analyzer (c.getD (e₁.calls + 1)) s.text s.version) :
    (e₁.turn w₁ t).Alike d (e₂.turn w₂ t) := by
  obtain ⟨a,hu,ha⟩ := activity?_of_seen hb
  have hne := hst.ticket_ne hu
  cases a with
  | loop stage =>
    obtain ⟨stage₂,hu₂,hstage⟩ := h.loop hu
    simp only [Engine.turn, hu, hu₂]
    exact h.loopTurn w₁ w₂ t₁ t₂ hv₁ hv₂ hu hstage
  | analysis owner s c =>
    obtain ⟨rfl,hg⟩ := hst.of_analysis hu
    simp only [Engine.turn, hu, h.same hu rfl (by simp)]
    exact h.analysisTurn w₁ w₂ (hne (by simp)) (stage?_eq.mp hg) hu (hw s c hu)
  | call c =>
    simp only [Engine.turn, hu, h.same hu rfl (by simp)]
    exact h.callTurn t c
  | shutdown begun =>
    cases begun with
    | true => simp [Activity.seen?, Activity.isBystander] at ha
    | false =>
      simp only [Engine.turn, hu, h.same hu rfl (by simp)]
      exact h.shutdownTurn t₁.once t₂.once hb
  | wait place atLeast => simp [Activity.seen?, Activity.isBystander] at ha
  | watch v => simp [Activity.seen?, Activity.isBystander] at ha
  | _ =>
    rcases hst.others t _ (hne (by simp)) hu with hc | ⟨s,c,hc,_⟩
    · simp [Activity.isCaller] at hc
    · simp at hc

theorem Alike.ask {r : Request} (hr : r ≠ .abandon) :
    (e₁.move w₁ (.ask r)).Alike d (e₂.move w₂ (.ask r)) := by
  cases r with
  | openDocument id text =>
    have ha := h.noteOpened id text
    simp only [Engine.move, Service.receive]
    generalize e₁.noteOpened id text = r₁ at ha ⊢
    generalize e₂.noteOpened id text = r₂ at ha ⊢
    cases ha with
    | ok ha => exact ha
    | error => exact h
  | change id text =>
    have ha := h.noteChanged id text
    simp only [Engine.move, Service.receive]
    generalize e₁.noteChanged id text = r₁ at ha ⊢
    generalize e₂.noteChanged id text = r₂ at ha ⊢
    cases ha with
    | ok ha => exact ha.1
    | error => exact h
  | close id =>
    have ha := h.noteClosed t₁ t₂ id
    simp only [Engine.move, Service.receive]
    generalize e₁.noteClosed id = r₁ at ha ⊢
    generalize e₂.noteClosed id = r₂ at ha ⊢
    cases ha with
    | ok ha => exact ha
    | error => exact h
  | analyse id =>
    have ha := h.requestAnalysis id
    simp only [Engine.move, Service.receive]
    generalize e₁.requestAnalysis id = r₁ at ha ⊢
    generalize e₂.requestAnalysis id = r₂ at ha ⊢
    cases ha with
    | ok ha => exact ha
    | error => exact h
  | analyseAll ids =>
    have hall : ∀ (w : Worker P) (e : Engine P),
        e.move w (.ask (.analyseAll ids)) = (e.requestAnalyses ids).1 := by
      intro w e
      simp only [Engine.move, Service.receive]
      split <;> rename_i hr <;> rw [hr]
    rw [hall, hall]
    exact h.requestAnalyses ids
  | call c => exact h.start t₁.free t₂.free _
  | cancel token =>
    refine Alike.wakeUnseen ?_ ?_ ?_
    · exact { h with }
    · exact unseen_holders (e := { e₁ with cancelled := token :: e₁.cancelled }) t₁.once token
    · exact unseen_holders (e := { e₂ with cancelled := token :: e₂.cancelled }) t₂.once token
  | shutdown => exact h.start t₁.free t₂.free _
  | abandon => exact absurd rfl hr
  | release permits => exact h.release permits
  | advance ms => exact { h with }

end Moves

end Engine

end LiveAnalysis
