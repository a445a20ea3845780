import LiveAnalysis.Proofs.Moves
import LiveAnalysis.Proofs.Queueing

namespace LiveAnalysis

variable {P : Type}

def Stage.snapshot? : Stage P → Option Snapshot
  | .idle => none
  | .underway s => some s
  | .judged s _ => some s

def Stage.verdict? : Stage P → Option (Snapshot × Verdict P)
  | .judged s verdict => some (s, verdict)
  | _ => none

def Verdict.failure? (s : Snapshot) : Verdict P → Option Notice
  | .found _ => none
  | .failed reason => some (.failed s reason)
  | .panicked tail => some (.panicked s tail)

def Store.absorb (s : Store P) : Option (Snapshot × Verdict P) → Store P
  | some (snap, .found payload) => (s.publish snap payload).1
  | _ => s

namespace Engine

def stage? (e : Engine P) : Option (Stage P) :=
  match e.activity? 0 with
  | some (.loop stage) => some stage
  | _ => none

def attempt? (e : Engine P) (m : Move) : Option (Snapshot × Verdict P) :=
  (e.turning? m).bind fun t => (e.activity? t).bind Activity.verdict?

/-- Those of these documents that a request for them all reaches: it ends at the first that is not open. -/
def accepted (e : Engine P) (ids : List DocumentId) : List DocumentId :=
  if e.stopped then [] else ids.takeWhile e.store.contains

def requested (e : Engine P) : Service.Move → List DocumentId
  | .ask (.analyse id) => e.accepted [id]
  | .ask (.analyseAll ids) => e.accepted ids
  | _ => []

structure Staffed (e : Engine P) : Prop where
  begun : 0 < e.tickets
  first : ∀ a, e.activity? 0 = some a → ∃ stage, a = .loop stage
  others : ∀ u a, u ≠ 0 → e.activity? u = some a → a.isCaller = true ∨
    ∃ s c, a = .analysis 0 s c ∧ e.stage? = some (.underway s)
  sole : ∀ u u' s s' c c', e.activity? u = some (.analysis 0 s c) →
    e.activity? u' = some (.analysis 0 s' c') → u = u'
  shut : e.queue.shutDown = e.stopped

inductive Acts (w : Worker P) (e e' : Engine P) :
    List DocumentId → Option (Snapshot × Verdict P) → Prop where
  | rests (hs : e'.store = e.store) (hq : e'.queue = e.queue) (ht : e'.stopped = e.stopped)
    (hg : e'.stage? = e.stage?) : Acts w e e' [] none
  | opens {id text} (hs : e.store.openDocument id text = .ok e'.store)
    (hq : e'.queue = (e.queue.enqueue id).1) (ht : e'.stopped = e.stopped)
    (hg : e'.stage? = e.stage?) (hr : e.stopped = false) : Acts w e e' [] none
  | changes {id text v} (hs : e.store.change id text = .ok (e'.store,v))
    (hq : e'.queue = (e.queue.enqueue id).1) (ht : e'.stopped = e.stopped)
    (hg : e'.stage? = e.stage?) (hr : e.stopped = false) : Acts w e e' [] none
  | closes {id g} (hs : e.store.close id = .ok (e'.store,g)) (hq : e'.queue = (e.queue.remove id).1)
    (ht : e'.stopped = e.stopped) (hg : e'.stage? = e.stage?) (hr : e.stopped = false) :
    Acts w e e' [] none
  | requests (ids : List DocumentId) (hi : ∀ id ∈ ids, e.store.contains id = true)
    (hs : e'.store = e.store) (hq : e'.queue = e.queue.enqueueAll ids)
    (ht : e'.stopped = e.stopped) (hg : e'.stage? = e.stage?) : Acts w e e' ids none
  | judges {t s c call} (hu : e.activity? t = some (.analysis 0 s c)) (hu' : e'.activity? t = none)
    (hs : e'.store = e.store) (hq : e'.queue = e.queue) (ht : e'.stopped = e.stopped)
    (hg : e.stage? = some (.underway s))
    (hg' : e'.stage? = some (.judged s (w.analyzer call s.text s.version))) : Acts w e e' [] none
  | takes {stage snap rest} (hg : e.stage? = some stage) (hn : ∀ s, stage ≠ .underway s)
    (hs : e'.store = e.store.absorb stage.verdict?) (hr : e.stopped = false)
    (hf : e'.store.firstOpen? e.queue.order = some (snap,rest))
    (hq : e'.queue = e.queue.leave rest) (ht : e'.stopped = e.stopped)
    (hg' : e'.stage? = some (.underway snap))
    (hb : e.activity? e.tickets = none → e'.activity? e.tickets = some (.analysis 0 snap none)) :
    Acts w e e' [] stage.verdict?
  | parks {stage} (hg : e.stage? = some stage) (hn : ∀ s, stage ≠ .underway s)
    (hs : e'.store = e.store.absorb stage.verdict?) (hr : e.stopped = false)
    (hf : e'.store.firstOpen? e.queue.order = none) (hq : e'.queue = e.queue.leave [])
    (ht : e'.stopped = e.stopped) (hg' : e'.stage? = some .idle) : Acts w e e' [] stage.verdict?
  | leaves {stage} (hg : e.stage? = some stage) (hn : ∀ s, stage ≠ .underway s)
    (hs : e'.store = e.store.absorb stage.verdict?)
    (hr : e.stopped = true ∨ e.queue.shutDown = true) (hq : e'.queue = e.queue)
    (ht : e'.stopped = e.stopped) (hg' : e'.stage? = none) : Acts w e e' [] stage.verdict?
  | shuts (hr : e.stopped = false) (hs : e'.store = e.store) (hq : e'.queue = e.queue.shut)
    (ht : e'.stopped = true) (hg : e'.stage? = e.stage?) : Acts w e e' [] none

theorem stage?_eq {e : Engine P} {stage : Stage P} :
    e.stage? = some stage ↔ e.activity? 0 = some (.loop stage) := by
  unfold stage?
  split
  · rename_i h
    simp [h]
  · rename_i h
    simp only [reduceCtorEq, false_iff]
    exact h stage

theorem stage?_congr {e e' : Engine P} (h : e'.activity? 0 = e.activity? 0) : e'.stage? = e.stage? := by
  simp only [stage?, h]

theorem Keeps.stage? {e e' : Engine P} (k : e.Keeps e') : e'.stage? = e.stage? :=
  stage?_congr (k.activity? 0)

theorem stage?_start {e : Engine P} (h : 0 < e.tickets) (a : Activity P) :
    (e.start a).stage? = e.stage? := by
  apply stage?_congr
  rw [activity?_start, if_neg (Nat.ne_of_lt h), Option.or_none]

theorem stage?_set {e : Engine P} {t : Ticket} (h : t ≠ 0) (a : Activity P) :
    (e.set t a).stage? = e.stage? := by
  apply stage?_congr
  rw [activity?_set, if_neg (Ne.symm h)]

theorem stage?_finish {e : Engine P} {t : Ticket} (h : t ≠ 0) (x : Ending P) :
    (e.finish t x).stage? = e.stage? := by
  apply stage?_congr
  rw [activity?_finish, if_neg (Ne.symm h)]

theorem emit_queue (e : Engine P) (n : Notice) : (e.emit n).queue = e.queue := rfl

theorem wakeAll_queue (e : Engine P) (ts : List Ticket) : (e.wakeAll ts).queue = e.queue := by
  rw [wakeAll_eq]

theorem stop_queue (e : Engine P) : e.stop.queue = e.queue :=
  wakeAll_queue _ _

theorem shutQueue_queue (e : Engine P) : e.shutQueue.queue = e.queue.shut :=
  wakeAll_queue _ _

theorem openDocument_queue {e e' : Engine P} {id : DocumentId} {text : String}
    (h : e.openDocument id text = .ok e') : e'.queue = (e.queue.enqueue id).1 := by
  obtain ⟨store,_,rfl⟩ := openDocument_ok.mp h
  exact enqueue_queue _ id

theorem change_queue {e e' : Engine P} {id : DocumentId} {text : String} {v : Version}
    (h : e.change id text = .ok (e',v)) : e'.queue = (e.queue.enqueue id).1 := by
  obtain ⟨store,_,rfl⟩ := change_ok.mp h
  exact enqueue_queue _ id

theorem close_queue {e e' : Engine P} {id : DocumentId} (h : e.close id = .ok e') :
    e'.queue = (e.queue.remove id).1 := by
  obtain ⟨store,_,_,rfl⟩ := close_ok.mp h
  exact wakeAll_queue _ _

theorem noteOpened_queue {e e' : Engine P} {id : DocumentId} {text : String}
    (h : e.noteOpened id text = .ok e') : e'.queue = (e.queue.enqueue id).1 := by
  obtain ⟨_,e₁,h₁,rfl⟩ := noteOpened_ok.mp h
  rw [emit_queue, openDocument_queue h₁]

theorem noteChanged_queue {e e' : Engine P} {id : DocumentId} {text : String} {v : Version}
    (h : e.noteChanged id text = .ok (e',v)) : e'.queue = (e.queue.enqueue id).1 :=
  change_queue (noteChanged_ok.mp h).2

theorem noteClosed_queue {e e' : Engine P} {id : DocumentId} (h : e.noteClosed id = .ok e') :
    e'.queue = (e.queue.remove id).1 := by
  obtain ⟨_,e₁,h₁,rfl⟩ := noteClosed_ok.mp h
  rw [emit_queue, close_queue h₁]

theorem requestAnalysis_queue {e e' : Engine P} {id : DocumentId} {outcome : Enqueued}
    (h : e.requestAnalysis id = .ok (e',outcome)) : e'.queue = (e.queue.enqueue id).1 := by
  rw [← enqueue_queue, (requestAnalysis_ok.mp h).2.2]

theorem accepted_contains {e : Engine P} {ids : List DocumentId} {id : DocumentId}
    (h : id ∈ e.accepted ids) : e.store.contains id = true := by
  unfold accepted at h
  split at h
  · simp at h
  · exact (List.all_eq_true.mp (List.all_takeWhile (p := e.store.contains))) id h

theorem accepted_cons_ok {e e₁ : Engine P} {id : DocumentId} {outcome : Enqueued}
    (h : e.requestAnalysis id = .ok (e₁,outcome)) (ids : List DocumentId) :
    e.accepted (id :: ids) = id :: e₁.accepted ids := by
  obtain ⟨hk,hs⟩ := keeps_requestAnalysis h
  obtain ⟨hr,hl,_⟩ := requestAnalysis_ok.mp h
  simp [accepted, hk.stopped, hs, hr, Store.contains_iff.mpr hl]

theorem accepted_cons_error {e : Engine P} {id : DocumentId} {why : Refusal}
    (h : e.requestAnalysis id = .error why) (ids : List DocumentId) : e.accepted (id :: ids) = [] := by
  unfold accepted
  by_cases hr : e.stopped = true
  · rw [if_pos hr]
  · rw [if_neg hr, List.takeWhile_cons_of_neg]
    intro hid
    have hok := requestAnalysis_ok.mpr ⟨by simpa using hr, Store.contains_iff.mp hid, rfl⟩
    simp [h] at hok

theorem requestAnalyses_queue (e : Engine P) (ids : List DocumentId) :
    (e.requestAnalyses ids).1.queue = e.queue.enqueueAll (e.accepted ids) := by
  induction ids generalizing e with
  | nil =>
    unfold accepted
    split <;> rfl
  | cons id ids ih =>
    cases h : e.requestAnalysis id with
    | ok r =>
      obtain ⟨e₁,outcome⟩ := r
      simp only [requestAnalyses, h]
      rw [ih, accepted_cons_ok h, requestAnalysis_queue h]
      rfl
    | error why =>
      simp only [requestAnalyses, h, accepted_cons_error h]
      rfl

variable (w : Worker P)

theorem acts_hangUp {e : Engine P} (abandoned : Bool) :
    Acts w e ({ e with abandoned } : Engine P).hangUp [] none := by
  rcases ({ e with abandoned } : Engine P).hangUp_cases with h | ⟨h,hs,_⟩
  · rw [h]
    exact .rests rfl rfl rfl rfl
  · rw [h]
    have hk : ({ e with stopped := true, abandoned } : Engine P).Keeps
        ({ e with abandoned } : Engine P).stop.shutQueue :=
      (keeps_wakeAll _ _).trans (keeps_shutQueue _)
    refine .shuts hs ((shutQueue_store _).trans (stop_store _)) ?_ hk.stopped hk.stage?
    rw [shutQueue_queue, stop_queue]

theorem release_queue (e : Engine P) (permits : Nat) : (e.release permits).queue = e.queue := by
  unfold release
  split
  · rfl
  · exact wakeAll_queue _ _

theorem acts_requests (e : Engine P) (ids : List DocumentId) :
    Acts w e (e.requestAnalyses ids).1 (e.accepted ids) none := by
  obtain ⟨hk,hs⟩ := e.keeps_requestAnalyses ids
  exact .requests _ (fun _ => accepted_contains) hs (e.requestAnalyses_queue ids) hk.stopped hk.stage?

theorem acts_ask {e : Engine P} (h : 0 < e.tickets) (r : Request) :
    Acts w e (e.move w (.ask r)) (e.requested (.ask r)) none := by
  have hr : Acts w e e [] none := .rests rfl rfl rfl rfl
  cases r with
  | openDocument id text =>
    simp only [move, Service.receive]
    split
    · rename_i h₁
      have hk := keeps_noteOpened h₁
      exact .opens (noteOpened_store h₁) (noteOpened_queue h₁) hk.stopped hk.stage? (noteOpened_ok.mp h₁).1
    · exact hr
  | change id text =>
    simp only [move, Service.receive]
    split
    · rename_i h₁
      have hk := keeps_noteChanged h₁
      exact .changes (noteChanged_store h₁) (noteChanged_queue h₁) hk.stopped hk.stage?
        (noteChanged_ok.mp h₁).1
    · exact hr
  | close id =>
    simp only [move, Service.receive]
    split
    · rename_i h₁
      have hk := keeps_noteClosed h₁
      obtain ⟨g,hs⟩ := noteClosed_store h₁
      exact .closes hs (noteClosed_queue h₁) hk.stopped hk.stage? (noteClosed_ok.mp h₁).1
    · exact hr
  | analyse id =>
    have ha := acts_requests w e [id]
    simp only [move, Service.receive]
    cases hid : e.requestAnalysis id <;> simp only [requestAnalyses, hid] at ha <;> exact ha
  | analyseAll ids =>
    have ha := acts_requests w e ids
    simp only [move, Service.receive]
    split <;> rename_i hids <;> rw [hids] at ha <;> exact ha
  | call c => exact .rests rfl rfl rfl (stage?_start h _)
  | cancel token =>
    have hk : ({ e with cancelled := token :: e.cancelled } : Engine P).Keeps (e.cancel token) :=
      keeps_wakeAll _ _
    exact .rests (wakeAll_store _ _) (wakeAll_queue _ _) hk.stopped hk.stage?
  | shutdown => exact .rests rfl rfl rfl (stage?_start h _)
  | abandon => exact acts_hangUp w true
  | release permits =>
    have hk := e.keeps_release permits
    exact .rests (e.release_store permits) (e.release_queue permits) hk.stopped hk.stage?
  | advance ms => exact .rests rfl rfl rfl rfl

structure Calm (e e' : Engine P) : Prop where
  store : e'.store = e.store
  queue : e'.queue = e.queue
  stopped : e'.stopped = e.stopped
  stage : e'.stage? = e.stage?

theorem calm_finish {e : Engine P} {t : Ticket} (h : t ≠ 0) (x : Ending P) : e.Calm (e.finish t x) :=
  ⟨rfl,rfl,rfl,stage?_finish h x⟩

theorem calm_set {e : Engine P} {t : Ticket} (h : t ≠ 0) (a : Activity P) : e.Calm (e.set t a) :=
  ⟨rfl,rfl,rfl,stage?_set h a⟩

theorem calm_endShutdown {e : Engine P} {t : Ticket} (h : t ≠ 0) : e.Calm (e.endShutdown t) :=
  ⟨rfl,rfl,rfl,stage?_finish h _⟩

section Waiting

variable {t : Ticket} (h : t ≠ 0)

include h

theorem calm_watchTurn (e : Engine P) (v : Watch) : e.Calm (e.watchTurn t v) := by
  rcases e.watchTurn_cases t v with ⟨x,hx⟩ | ⟨v',hx,_⟩ <;> rw [hx]
  · exact calm_finish h x
  · exact calm_set h _

theorem calm_watchFrom (e : Engine P) (id : DocumentId) (atLeast : Option Version) (timeout : Nat)
    (token : Option Token) (goal : Goal) : e.Calm (e.watchFrom t id atLeast timeout token goal) := by
  rcases e.watchFrom_cases t id atLeast timeout token goal with ⟨x,hx⟩ | ⟨v,hx,_⟩ <;> rw [hx]
  · exact calm_finish h x
  · exact calm_set h _

end Waiting

theorem acts_callTurn {e : Engine P} {t : Ticket} (h : t ≠ 0) (c : Call) :
    Acts w e (e.callTurn t c) [] none := by
  have hfrom : ∀ id atLeast timeout token goal,
      Acts w e (e.watchFrom t id atLeast timeout token goal) [] none := by
    intro id atLeast timeout token goal
    obtain ⟨hs,hq,ht,hg⟩ := calm_watchFrom h e id atLeast timeout token goal
    exact .rests hs hq ht hg
  have hfinish : ∀ why, Acts w e (e.finish t (.refused why)) [] none :=
    fun _ => .rests rfl rfl rfl (stage?_finish h _)
  cases c with
  | wait id atLeast timeout token => exact hfrom _ _ _ _ _
  | openAndWait id text timeout =>
    simp only [callTurn]
    split
    · exact hfinish _
    · rename_i e₁ h₁
      have hk := keeps_noteOpened h₁
      obtain ⟨hs,hq,ht,hg⟩ := calm_watchFrom h e₁ id (some .baseline) timeout none .finding
      refine .opens (hs ▸ noteOpened_store h₁) ?_ (ht.trans hk.stopped) (hg.trans hk.stage?)
        (noteOpened_ok.mp h₁).1
      rw [hq, noteOpened_queue h₁]
  | changeAndWait id text timeout =>
    simp only [callTurn]
    split
    · exact hfinish _
    · rename_i e₁ v h₁
      have hk := keeps_noteChanged h₁
      obtain ⟨hs,hq,ht,hg⟩ := calm_watchFrom h e₁ id (some v) timeout none .finding
      refine .changes (hs ▸ noteChanged_store h₁) ?_ (ht.trans hk.stopped) (hg.trans hk.stage?)
        (noteChanged_ok.mp h₁).1
      rw [hq, noteChanged_queue h₁]
  | query id timeout =>
    simp only [callTurn]
    split
    · exact hfinish _
    · exact hfrom _ _ _ _ _

theorem keeps_shutDown (e : Engine P) :
    ({ e with stopped := true } : Engine P).Keeps (e.stop.wakeAll e.stop.watches).shutQueue :=
  ((keeps_wakeAll _ _).trans (keeps_wakeAll _ _)).trans (keeps_shutQueue _)

theorem shutDown_store (e : Engine P) : (e.stop.wakeAll e.stop.watches).shutQueue.store = e.store := by
  rw [shutQueue_store, wakeAll_store, stop_store]

theorem shutDown_queue (e : Engine P) :
    (e.stop.wakeAll e.stop.watches).shutQueue.queue = e.queue.shut := by
  rw [shutQueue_queue, wakeAll_queue, stop_queue]

theorem acts_shutdownTurn {e : Engine P} {t : Ticket} (h : t ≠ 0) (begun : Bool) :
    Acts w e (e.shutdownTurn t begun) [] none := by
  cases begun with
  | true => exact .rests rfl rfl rfl (stage?_finish h _)
  | false =>
    simp only [shutdownTurn]
    split
    · exact .rests rfl rfl rfl (stage?_finish h _)
    · rename_i hs
      have hk := e.keeps_shutDown
      have hshut : ∀ e₂, (e.stop.wakeAll e.stop.watches).shutQueue.Calm e₂ → Acts w e e₂ [] none := by
        intro e₂ hc
        exact .shuts (Bool.eq_false_iff.mpr hs) (hc.store.trans e.shutDown_store)
          (hc.queue.trans e.shutDown_queue) (hc.stopped.trans hk.stopped) (hc.stage.trans hk.stage?)
      split
      · exact hshut _ (calm_set h _)
      · exact hshut _ (calm_endShutdown h)

theorem conclude_queue (e : Engine P) (s : Snapshot) (verdict : Verdict P) :
    (conclude w e s verdict).1.queue = e.queue := by
  cases verdict with
  | failed reason => rfl
  | panicked => rfl
  | found payload =>
    have hp := e.publish_queue s payload
    simp only [conclude]
    split <;> exact hp

theorem conclude_store (e : Engine P) (s : Snapshot) (verdict : Verdict P) :
    (conclude w e s verdict).1.store = e.store.absorb (some (s,verdict)) := by
  cases verdict with
  | failed reason => rfl
  | panicked => rfl
  | found payload =>
    have hp := e.publish_store s payload
    simp only [conclude]
    split <;> exact hp

theorem analysisTurn_queue (e : Engine P) (t owner : Ticket) (s : Snapshot) (c : Option Nat) :
    (e.analysisTurn w t owner s c).queue = e.queue := by
  have hj : ∀ (e' : Engine P) call, (e'.judge w t owner s call).queue = e'.queue := by
    intro e' call
    obtain ⟨_,_,hd,_⟩ := (e'.remove t).deliver_eq owner s (w.analyzer call s.text s.version)
    rw [judge, hd]
    rfl
  cases c with
  | some call => exact hj e call
  | none =>
    simp only [analysisTurn]
    split
    · exact hj _ _
    · split
      · exact hj _ _
      · rfl

theorem endLoop_ended (e : Engine P) (t : Ticket) : (t,.stopped) ∈ (e.endLoop t).ended := by
  have hk : (({ e with bell := (e.bell.leave t).1 } : Engine P).finish t .stopped).Keeps (e.endLoop t) :=
    (keeps_wakeSome _ _).trans (keeps_wakeAll _ _)
  rw [hk.ended]
  exact List.mem_append_right _ (List.mem_singleton.mpr rfl)

theorem endLoop_queue (e : Engine P) (t : Ticket) : (e.endLoop t).queue = e.queue := by
  simp only [endLoop, wakeAll_eq, wakeSome_eq]
  rfl

theorem endLoop_spec (e : Engine P) : (e.endLoop 0).store = e.store ∧ (e.endLoop 0).queue = e.queue ∧
    (e.endLoop 0).stopped = e.stopped ∧ (e.endLoop 0).stage? = none := by
  have hk : (({ e with bell := (e.bell.leave 0).1 } : Engine P).finish 0 .stopped).Keeps (e.endLoop 0) :=
    (keeps_wakeSome _ _).trans (keeps_wakeAll _ _)
  refine ⟨?_, e.endLoop_queue 0, hk.stopped, ?_⟩
  · exact (wakeAll_store _ _).trans (wakeSome_store _ _)
  · rw [hk.stage?]
    simp [Engine.stage?, activity?_finish]

theorem acts_seek {e e₁ : Engine P} {stage : Stage P} (hg : e.stage? = some stage)
    (hn : ∀ s, stage ≠ .underway s) (h : 0 < e.tickets) (k : e.Keeps e₁) (hq : e₁.queue = e.queue)
    (hs : e₁.store = e.store.absorb stage.verdict?) :
    Acts w e (e₁.seek 0) [] stage.verdict? := by
  have hset : ∀ (e₂ : Engine P) a u, e₂.activities = e₁.activities →
      (e₂.set 0 (.loop a)).activity? u = if u = 0 then some (.loop a) else e.activity? u := by
    intro e₂ a u ha
    have he₂ : e₂.activity? u = e.activity? u := by
      rw [← k.activity? u]
      simp only [activity?, ha]
    rw [activity?_set, he₂]
    split
    · rename_i hu
      rw [hu, stage?_eq.mp hg]
      rfl
    · rfl
  unfold seek
  split
  · rename_i hstop
    obtain ⟨h₁,h₂,h₃,h₄⟩ := e₁.endLoop_spec
    exact .leaves hg hn (h₁.trans hs) (Or.inl (k.stopped ▸ hstop)) (h₂.trans hq) (h₃.trans k.stopped) h₄
  rename_i hstop
  have hrun : e.stopped = false := by
    rw [← k.stopped]
    simpa using hstop
  split
  · rename_i hshut
    obtain ⟨h₁,h₂,h₃,h₄⟩ := ({ e₁ with bell := e₁.bell.answer 0 } : Engine P).endLoop_spec
    exact .leaves hg hn (h₁.trans hs) (Or.inr (hq ▸ hshut)) (h₂.trans hq) (h₃.trans k.stopped) h₄
  dsimp only
  split
  · rename_i snap rest hf
    have h₁ : 0 < e₁.tickets := k.tickets ▸ h
    refine .takes hg hn hs hrun (hq ▸ hf) (by rw [← hq]; rfl) k.stopped ?_ ?_
    · rw [begin, stage?_start (by exact h₁), stage?_eq]
      exact hset _ _ 0 rfl
    · intro hfree
      have hnone := hset { e₁ with bell := e₁.bell.answer 0, queue := e₁.queue.leave rest }
        (.underway snap) e.tickets rfl
      rw [if_neg (Nat.ne_of_gt h), hfree] at hnone
      rw [begin, activity?_start, hnone, ← k.tickets]
      exact if_pos rfl
  · rename_i hf
    exact .parks hg hn hs hrun (hq ▸ hf) (by rw [← hq]; rfl) k.stopped
      (stage?_eq.mpr (hset _ _ 0 rfl))

theorem acts_loopTurn {e : Engine P} {stage : Stage P} (h : 0 < e.tickets)
    (hg : e.stage? = some stage) : Acts w e (e.loopTurn w 0 stage) [] stage.verdict? := by
  cases stage with
  | idle => exact acts_seek w hg (by simp) h (.refl e) rfl rfl
  | underway s => exact .rests rfl rfl rfl rfl
  | judged s verdict =>
    exact acts_seek w hg (by simp) h (keeps_conclude w e s verdict) (conclude_queue w e s verdict)
      (conclude_store w e s verdict)

theorem acts_judge {e e₁ : Engine P} {t : Ticket} {s : Snapshot} {c : Option Nat} (ht : t ≠ 0)
    (hu : e.activity? t = some (.analysis 0 s c)) (hg : e.stage? = some (.underway s))
    (ha : e₁.activities = e.activities) (hs : e₁.store = e.store) (hq : e₁.queue = e.queue)
    (hst : e₁.stopped = e.stopped) (call : Nat) : Acts w e (e₁.judge w t 0 s call) [] none := by
  have hact : ∀ u, e₁.activity? u = e.activity? u := by
    intro u
    simp only [activity?, ha]
  have hu' := fun u => (e₁.remove t).activity?_deliver 0 u s (w.analyzer call s.text s.version)
  simp only [activity?_remove, hact, if_neg (Ne.symm ht), stage?_eq.mp hg] at hu'
  obtain ⟨activities,ready,hd,_⟩ := (e₁.remove t).deliver_eq 0 s (w.analyzer call s.text s.version)
  have hg' : (e₁.judge w t 0 s call).stage? = some (.judged s (w.analyzer call s.text s.version)) :=
    stage?_eq.mpr ((hu' 0).trans (if_pos rfl))
  refine .judges hu ?_ ?_ ?_ ?_ hg hg'
  · exact (hu' t).trans (by rw [if_neg ht, if_pos rfl])
  · rw [judge, hd]
    exact hs
  · rw [judge, hd]
    exact hq
  · rw [judge, hd]
    exact hst

theorem acts_analysisTurn {e : Engine P} {t : Ticket} {s : Snapshot} {c : Option Nat} (ht : t ≠ 0)
    (hu : e.activity? t = some (.analysis 0 s c)) (hg : e.stage? = some (.underway s)) :
    Acts w e (e.analysisTurn w t 0 s c) [] none := by
  cases c with
  | some call => exact acts_judge w ht hu hg rfl rfl rfl rfl call
  | none =>
    simp only [analysisTurn]
    split
    · refine acts_judge w ht hu hg ?_ ?_ ?_ ?_ _ <;> rfl
    · split
      · refine acts_judge w ht hu hg ?_ ?_ ?_ ?_ _ <;> rfl
      · exact .rests rfl rfl rfl (stage?_set ht _)

theorem Staffed.ticket_ne {e : Engine P} (hst : e.Staffed) {t : Ticket} {a : Activity P}
    (hu : e.activity? t = some a) (ha : ∀ stage, a ≠ .loop stage) : t ≠ 0 := by
  rintro rfl
  obtain ⟨stage,rfl⟩ := hst.first a hu
  exact ha stage rfl

theorem acts_turn {e : Engine P} (hst : e.Staffed) (t : Ticket) :
    Acts w e (e.turn w t) [] ((e.activity? t).bind Activity.verdict?) := by
  unfold turn
  cases hu : e.activity? t with
  | none => exact .rests rfl rfl rfl rfl
  | some a =>
    have hne := hst.ticket_ne hu
    cases a with
    | loop stage =>
      have ht : t = 0 := by
        by_cases ht : t = 0
        · exact ht
        · rcases hst.others t _ ht hu with hc | ⟨s,c,hc,_⟩
          · simp [Activity.isCaller] at hc
          · simp at hc
      subst ht
      have hacts := acts_loopTurn w hst.begun (stage?_eq.mpr hu)
      cases stage <;> exact hacts
    | analysis owner s c =>
      have ht := hne (by simp)
      rcases hst.others t _ ht hu with hc | ⟨s',c',hc,hg⟩
      · simp [Activity.isCaller] at hc
      · cases hc
        exact acts_analysisTurn w ht hu hg
    | call c => exact acts_callTurn w (hne (by simp)) c
    | watch v =>
      obtain ⟨hs,hq,ht,hg⟩ := calm_watchTurn (hne (by simp)) e v
      exact .rests hs hq ht hg
    | shutdown begun => exact acts_shutdownTurn w (hne (by simp)) begun
    | _ =>
      rcases hst.others t _ (hne (by simp)) hu with hc | ⟨s,c,hc,_⟩
      · simp [Activity.isCaller] at hc
      · simp at hc

theorem Acts.of_ready {w : Worker P} {e e' : Engine P} {ready : List Ticket}
    {ids : List DocumentId} {o : Option (Snapshot × Verdict P)} (h : Acts w { e with ready } e' ids o) :
    Acts w e e' ids o := by
  cases h with
  | rests hs hq ht hg => exact .rests hs hq ht hg
  | opens hs hq ht hg hr => exact .opens hs hq ht hg hr
  | changes hs hq ht hg hr => exact .changes hs hq ht hg hr
  | closes hs hq ht hg hr => exact .closes hs hq ht hg hr
  | requests ids hi hs hq ht hg => exact .requests ids hi hs hq ht hg
  | judges hu hu' hs hq ht hg hg' => exact .judges hu hu' hs hq ht hg hg'
  | takes hg hn hs hr hf hq ht hg' hb => exact .takes hg hn hs hr hf hq ht hg' hb
  | parks hg hn hs hr hf hq ht hg' => exact .parks hg hn hs hr hf hq ht hg'
  | leaves hg hn hs hr hq ht hg' => exact .leaves hg hn hs hr hq ht hg'
  | shuts hr hs hq ht hg => exact .shuts hr hs hq ht hg

theorem acts {e : Engine P} (hst : e.Staffed) (m : Service.Move) :
    Acts w e (e.move w m.engine) (e.requested m) (e.attempt? m.engine) := by
  cases m with
  | ask r => exact acts_ask w hst.begun r
  | turn place =>
    simp only [Service.Move.engine, move, attempt?, turning?]
    cases e.ready[place]? with
    | none => exact .rests rfl rfl rfl rfl
    | some t =>
      have hst' : ({ e with ready := e.ready.eraseIdx place } : Engine P).Staffed :=
        ⟨hst.begun,hst.first,hst.others,hst.sole,hst.shut⟩
      exact (acts_turn w hst' t).of_ready
  | alarms =>
    have hk : ({ e with alarmed := e.clock } : Engine P).Keeps e.soundAlarms := keeps_wakeAll _ _
    exact .rests (wakeAll_store _ _) (wakeAll_queue _ _) hk.stopped hk.stage?
  | hangUp => exact acts_hangUp w e.abandoned

theorem Acts.shut {w : Worker P} {e e' : Engine P} {ids : List DocumentId}
    {o : Option (Snapshot × Verdict P)} (h : Acts w e e' ids o)
    (hst : e.queue.shutDown = e.stopped) : e'.queue.shutDown = e'.stopped := by
  cases h with
  | rests _ hq ht => rw [hq, ht, hst]
  | opens _ hq ht => rw [hq, ht, Queue.enqueue_shutDown, hst]
  | changes _ hq ht => rw [hq, ht, Queue.enqueue_shutDown, hst]
  | closes _ hq ht => rw [hq, ht, Queue.remove_shutDown, hst]
  | requests ids _ _ hq ht => rw [hq, ht, Queue.enqueueAll_shutDown, hst]
  | judges _ _ _ hq ht => rw [hq, ht, hst]
  | takes _ _ _ _ _ hq ht => rw [hq, ht, Queue.leave_shutDown, hst]
  | parks _ _ _ _ _ hq ht => rw [hq, ht, Queue.leave_shutDown, hst]
  | leaves _ _ _ _ hq ht => rw [hq, ht, hst]
  | shuts _ _ hq ht =>
    rw [hq, ht]
    rfl

section Staffed

variable {w : Worker P} {e e' : Engine P} (hst : e.Staffed)

include hst

theorem Staffed.of_analysis {u owner : Ticket} {s : Snapshot} {c : Option Nat}
    (hu : e.activity? u = some (.analysis owner s c)) : owner = 0 ∧ e.stage? = some (.underway s) := by
  rcases hst.others u _ (hst.ticket_ne hu (by simp)) hu with hc | ⟨s',c',hc,hg⟩
  · simp [Activity.isCaller] at hc
  · cases hc
    exact ⟨rfl,hg⟩

theorem Staffed.no_process {u : Ticket} {id : DocumentId} {stage : Stage P} :
    e.activity? u ≠ some (.process id stage) := by
  intro hu
  rcases hst.others u _ (hst.ticket_ne hu (by simp)) hu with hc | ⟨s',c',hc,hg⟩
  · simp [Activity.isCaller] at hc
  · simp at hc

theorem Staffed.loop_ticket {u : Ticket} {stage : Stage P} (hu : e.activity? u = some (.loop stage)) :
    u = 0 := by
  by_cases h : u = 0
  · exact h
  · rcases hst.others u _ h hu with hc | ⟨s',c',hc,hg⟩
    · simp [Activity.isCaller] at hc
    · simp at hc

theorem staffed_first {m : Move} (h : Moved w e m e') (a : Activity P) (hu : e'.activity? 0 = some a) :
    ∃ stage, a = .loop stage := by
  generalize hz : (0 : Ticket) = z at hu
  cases h.comes z a hu with
  | stays hx => exact hst.first a (hz ▸ hx)
  | starts hf hc hn => exact absurd hz (Nat.ne_of_lt hst.begun)
  | arises ht har =>
    cases har with
    | kept hx => exact hst.first a (hz ▸ hx)
    | parked hx => exact ⟨_,rfl⟩
    | taken hx => exact ⟨_,rfl⟩
    | opened hx => exact absurd hx hst.no_process
    | begun hx => exact absurd hz (Nat.ne_of_lt hst.begun)
    | asked hx => exact absurd hz.symm (hst.ticket_ne hx (by simp))
    | judgedLoop hx => exact ⟨_,rfl⟩
    | judgedProcess hx ho => exact absurd ho hst.no_process
    | watching hx hc =>
      obtain ⟨stage,rfl⟩ := hst.first _ (hz ▸ hx)
      simp [Activity.isCaller] at hc
    | closing hx => exact absurd hz.symm (hst.ticket_ne hx (by simp))

theorem Staffed.worker_ticket {u : Ticket} {a : Activity P} (hu : e.activity? u = some a)
    (ha : a.isWorker = true) : u = 0 := by
  cases a with
  | loop stage => exact hst.loop_ticket hu
  | process id stage => exact absurd hu hst.no_process
  | _ => simp [Activity.isWorker] at ha

theorem staffed_underway {ids : List DocumentId} {o : Option (Snapshot × Verdict P)}
    (h : Acts w e e' ids o) {u : Ticket}
    {s : Snapshot} {c c' : Option Nat} (hu : e.activity? u = some (.analysis 0 s c))
    (hu' : e'.activity? u = some (.analysis 0 s c')) : e'.stage? = some (.underway s) := by
  have hs := (hst.of_analysis hu).2
  cases h with
  | rests _ _ _ hg => exact hg.trans hs
  | opens _ _ _ hg => exact hg.trans hs
  | changes _ _ _ hg => exact hg.trans hs
  | closes _ _ _ hg => exact hg.trans hs
  | requests _ _ _ _ _ hg => exact hg.trans hs
  | judges ht ht' =>
    rw [hst.sole _ _ _ _ _ _ hu ht, ht'] at hu'
    simp at hu'
  | takes hg hn => exact absurd (Option.some.inj (hg.symm.trans hs)) (hn s)
  | parks hg hn => exact absurd (Option.some.inj (hg.symm.trans hs)) (hn s)
  | leaves hg hn => exact absurd (Option.some.inj (hg.symm.trans hs)) (hn s)
  | shuts _ _ _ _ hg => exact hg.trans hs

theorem staffed_others {m : Service.Move} {ids : List DocumentId}
    {o : Option (Snapshot × Verdict P)} (h : Moved w e m.engine e') (ha : Acts w e e' ids o)
    (u : Ticket) (a : Activity P) (hne : u ≠ 0)
    (hu : e'.activity? u = some a) :
    a.isCaller = true ∨ ∃ s c, a = .analysis 0 s c ∧ e'.stage? = some (.underway s) := by
  have hold : e.activity? u = some a →
      a.isCaller = true ∨ ∃ s c, a = .analysis 0 s c ∧ e'.stage? = some (.underway s) := by
    intro hx
    rcases hst.others u a hne hx with hc | ⟨s,c,rfl,_⟩
    · exact Or.inl hc
    · exact Or.inr ⟨s, c, rfl, staffed_underway hst ha hx hu⟩
  cases h.comes u a hu with
  | stays hx => exact hold hx
  | starts hf hm =>
    rcases hm with hc | ⟨task,hm⟩
    · exact Or.inl hc
    · cases m <;> simp [Service.Move.engine] at hm
  | arises ht har =>
    cases har with
    | kept hx => exact hold hx
    | parked hx => exact absurd (hst.loop_ticket hx) hne
    | taken hx => exact absurd (hst.loop_ticket hx) hne
    | opened hx => exact absurd hx hst.no_process
    | begun hx hw hf hl hb hs =>
      obtain rfl := hst.worker_ticket hx hw
      refine Or.inr ⟨_, _, rfl, ?_⟩
      cases hs with
      | loop => exact stage?_eq.mpr hb
      | process id =>
        obtain ⟨stage,hstage⟩ := staffed_first hst h _ hb
        simp at hstage
    | asked hx =>
      obtain ⟨rfl,_⟩ := hst.of_analysis hx
      exact Or.inr ⟨_, _, rfl, staffed_underway hst ha hx hu⟩
    | judgedLoop hx => exact absurd (hst.of_analysis hx).1 hne
    | judgedProcess hx ho => exact absurd ho hst.no_process
    | watching => exact Or.inl rfl
    | closing => exact Or.inl rfl

omit hst in
theorem analysis_before {m : Service.Move} (h : Moved w e m.engine e') {u : Ticket} {s : Snapshot}
    {c : Option Nat} (hu : e'.activity? u = some (.analysis 0 s c)) :
    (∃ c', e.activity? u = some (.analysis 0 s c')) ∨
      u = e.tickets ∧ ∀ s', e.stage? ≠ some (.underway s') := by
  cases h.comes u _ hu with
  | stays hx => exact Or.inl ⟨c,hx⟩
  | starts hf => simp [Activity.isFresh] at hf
  | arises ht har =>
    cases har with
    | kept hx => exact Or.inl ⟨c,hx⟩
    | begun hx hw hf =>
      refine Or.inr ⟨rfl, ?_⟩
      intro s' hs'
      rw [stage?_eq, hx] at hs'
      rw [Option.some.inj hs'] at hf
      simp [Activity.isUnderway] at hf
    | asked hx => exact Or.inl ⟨_,hx⟩

theorem staffed_sole {m : Service.Move} (h : Moved w e m.engine e') (u u' : Ticket)
    (s s' : Snapshot) (c c' : Option Nat) (hu : e'.activity? u = some (.analysis 0 s c))
    (hu' : e'.activity? u' = some (.analysis 0 s' c')) : u = u' := by
  rcases analysis_before h hu with ⟨_,hx⟩ | ⟨rfl,hn⟩
  · rcases analysis_before h hu' with ⟨_,hx'⟩ | ⟨_,hn⟩
    · exact hst.sole _ _ _ _ _ _ hx hx'
    · exact absurd (hst.of_analysis hx).2 (hn _)
  · rcases analysis_before h hu' with ⟨_,hx'⟩ | ⟨rfl,_⟩
    · exact absurd (hst.of_analysis hx').2 (hn _)
    · rfl

theorem Staffed.move (ho : e.Orderly) (m : Service.Move) : (e.move w m.engine).Staffed := by
  have hm := moved w ho m.engine
  have ha := acts w hst m
  exact { begun := Nat.lt_of_lt_of_le hst.begun hm.tickets
          first := staffed_first hst hm
          others := staffed_others hst hm ha
          sole := staffed_sole hst hm
          shut := ha.shut hst.shut }

end Staffed

end Engine

end LiveAnalysis
