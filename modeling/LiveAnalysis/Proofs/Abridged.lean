import LiveAnalysis.Proofs.Omissions

namespace LiveAnalysis

variable {P : Type}

/-! What is done to an engine shows in the engine without what is left out, or leaves that as it is. -/

def Activity.observes : Activity P → Bool
  | .call (.wait ..) => true
  | .watch v => v.goal = .finding
  | _ => false

def Activity.token? : Activity P → Option Token
  | .call (.wait _ _ _ token) => token
  | .watch v => v.token
  | _ => none

namespace Omission

variable {o : Omission} {e : Engine P} {x : Option Ticket}

theorem tickets_worker (h0 : 0 ∉ o.calls) {ts : List Ticket} (h : ∀ u ∈ ts, u = 0) : o.tickets ts = ts := by
  have hid : ts.map o.rank = ts.map id := by
    refine List.map_congr_left fun u hu => ?_
    rw [h u hu]
    rfl
  rw [tickets_kept fun u hu => h u hu ▸ h0, hid, List.map_id]

theorem ring_worker (h0 : 0 ∉ o.calls) {b : Bell} (h : ∀ u ∈ b.waiting, u = 0) :
    b.ring.2.bind o.ticket? = b.ring.2 := by
  unfold Bell.ring
  split
  · rfl
  · rename_i t rest hw
    have ht : t = 0 := h t (hw ▸ List.mem_cons_self)
    rw [ht, Option.bind_some, ticket?_kept h0, rank_zero]

theorem leave_worker (h0 : 0 ∉ o.calls) {b : Bell} (h : ∀ u ∈ b.waiting, u = 0) (t : Ticket) :
    (b.leave t).2.bind o.ticket? = (b.leave t).2 := by
  unfold Bell.leave
  split
  · exact ring_worker (b := { b with rung := b.rung.erase t }) h0 h
  · rfl

section Documents

variable (h0 : 0 ∉ o.calls) (ht : e.Tidy x)

include h0 ht

theorem engine_enqueue (id : DocumentId) : o.engine (e.enqueue id).1 = ((o.engine e).enqueue id).1 := by
  unfold Engine.enqueue
  by_cases hq : (e.queue.enqueue id).2 = .added
  · simp only [engine_queue, hq, if_true, Engine.ring]
    rw [engine_wakeSome, ring_worker h0 ht.bell]
    rfl
  · simp only [engine_queue, hq, if_false]
    rfl

theorem engine_openDocument (id : DocumentId) (text : String) :
    (o.engine e).openDocument id text = (e.openDocument id text).map o.engine := by
  unfold Engine.openDocument
  rw [engine_store]
  cases e.store.openDocument id text with
  | error why => rfl
  | ok store => exact congrArg Except.ok (engine_enqueue (e := { e with store }) h0 { ht with } id).symm

theorem engine_change (id : DocumentId) (text : String) :
    (o.engine e).change id text = (e.change id text).map fun r => (o.engine r.1, r.2) := by
  unfold Engine.change
  rw [engine_store]
  cases e.store.change id text with
  | error why => rfl
  | ok r =>
    have hq := engine_enqueue (e := { e with store := r.1 }) h0 { ht with } id
    exact congrArg (fun e' => Except.ok (e', r.2)) hq.symm

omit h0 in
theorem engine_close (id : DocumentId) : (o.engine e).close id = (e.close id).map o.engine := by
  unfold Engine.close
  rw [engine_store]
  cases e.store.close id with
  | error why => rfl
  | ok r =>
    have hw := engine_wakeAll (o := o) ({ e with store := r.1, queue := (e.queue.remove id).1 } : Engine P)
    have hl := engine_watchers (o := o) (e := { e with store := r.1, queue := (e.queue.remove id).1 }) ht.lines r.2
    exact congrArg Except.ok ((hw _).trans (by rw [← hl]; rfl)).symm

theorem engine_noteOpened (id : DocumentId) (text : String) :
    (o.engine e).noteOpened id text = (e.noteOpened id text).map o.engine := by
  unfold Engine.noteOpened Engine.ensureRunning
  rw [engine_stopped, engine_openDocument h0 ht]
  cases e.stopped with
  | true => rfl
  | false => cases e.openDocument id text <;> rfl

theorem engine_noteChanged (id : DocumentId) (text : String) :
    (o.engine e).noteChanged id text = (e.noteChanged id text).map fun r => (o.engine r.1, r.2) := by
  unfold Engine.noteChanged Engine.ensureRunning
  rw [engine_stopped, engine_change h0 ht]
  cases e.stopped <;> rfl

omit h0 in
theorem engine_noteClosed (id : DocumentId) :
    (o.engine e).noteClosed id = (e.noteClosed id).map o.engine := by
  unfold Engine.noteClosed Engine.ensureRunning
  rw [engine_stopped, engine_close ht]
  cases e.stopped with
  | true => rfl
  | false => cases e.close id <;> rfl

theorem engine_requestAnalysis (id : DocumentId) :
    (o.engine e).requestAnalysis id = (e.requestAnalysis id).map fun r => (o.engine r.1, r.2) := by
  unfold Engine.requestAnalysis Engine.ensureRunning
  rw [engine_stopped, engine_store]
  cases e.stopped with
  | true => rfl
  | false =>
    cases e.store.get id with
    | error why => rfl
    | ok l => exact congrArg (fun e' => Except.ok (e', (e.enqueue id).2)) (engine_enqueue h0 ht id).symm

omit ht in
theorem engine_requestAnalyses (ids : List DocumentId) {e : Engine P} (ht : e.Tidy x) :
    (o.engine e).requestAnalyses ids = (o.engine (e.requestAnalyses ids).1, (e.requestAnalyses ids).2) := by
  induction ids generalizing e with
  | nil => rfl
  | cons id ids ih =>
    simp only [Engine.requestAnalyses, engine_requestAnalysis h0 ht]
    cases h : e.requestAnalysis id with
    | error why => rfl
    | ok r =>
      obtain ⟨_,_,he⟩ := Engine.requestAnalysis_ok.mp h
      have hr : r.1 = (e.enqueue id).1 := by rw [he]
      exact ih (hr ▸ ht.enqueue id)

omit h0 in
theorem engine_publish (s : Snapshot) (payload : P) :
    o.engine (e.publish s payload).1 = ((o.engine e).publish s payload).1 := by
  unfold Engine.publish
  have hl := engine_watchers (o := o) (e := { e with store := (e.store.publish s payload).1 }) ht.lines
    s.generation
  by_cases hp : (e.store.publish s payload).2 = .stored
  · simp only [engine_store, hp, if_true]
    rw [engine_wakeAll, ← hl]
    rfl
  · simp only [engine_store, hp, if_false]
    rfl

omit h0 in
theorem engine_conclude (w : Worker P) (s : Snapshot) (verdict : Verdict P) :
    o.engine (Engine.conclude w e s verdict).1 = (Engine.conclude w (o.engine e) s verdict).1 := by
  cases verdict with
  | found payload =>
    have hp := engine_publish (o := o) ht s payload
    have ho : ((o.engine e).publish s payload).2 = (e.publish s payload).2 := rfl
    by_cases hs : (e.publish s payload).2 = .stored ∧ w.announces = true
    · simp only [Engine.conclude, ho, hs, and_self, if_true]
      exact congrArg (fun e' : Engine P => e'.emit (.ready s)) hp
    · simp only [Engine.conclude, ho, hs, if_false]
      exact hp
  | _ => rfl

end Documents

theorem engine_stop (e : Engine P) : o.engine e.stop = (o.engine e).stop := by
  rw [Engine.stop, engine_wakeAll, ← engine_idleLoops]
  rfl

theorem engine_shutQueue (h0 : 0 ∉ o.calls) (ht : e.Tidy x) :
    o.engine e.shutQueue = (o.engine e).shutQueue := by
  simp only [Engine.shutQueue, Bell.ringAll]
  rw [engine_wakeAll, tickets_worker h0 ht.bell]
  rfl

theorem engine_soundAlarms (e : Engine P) : o.engine e.soundAlarms = (o.engine e).soundAlarms := by
  simp only [Engine.soundAlarms]
  rw [engine_wakeAll, ← engine_overdue]
  rfl

theorem engine_release (hg : ∀ g, e.gate = some g → ∀ u ∈ g.waiting, u ∉ o.calls) (permits : Nat) :
    o.engine (e.release permits) = (o.engine e).release permits := by
  unfold Engine.release
  cases h : e.gate with
  | none => simp only [engine, h, Option.map_none]
  | some g =>
    have hw := hg g h
    have hthrough : o.tickets (g.waiting.take permits) = (o.tickets g.waiting).take permits := by
      rw [tickets_kept hw, tickets_kept fun u hu => hw u (List.mem_of_mem_take hu), List.map_take]
    have hrest : o.tickets (g.waiting.drop permits) = (o.tickets g.waiting).drop permits := by
      rw [tickets_kept hw, tickets_kept fun u hu => hw u (List.mem_of_mem_drop hu), List.map_drop]
    have hlength : (o.tickets g.waiting).length = g.waiting.length := by
      rw [tickets_kept hw, List.length_map]
    rw [engine_wakeAll, Gate.release, hthrough]
    simp only [engine, h, Option.map_some, Gate.release, hrest, hlength]

theorem engine_cancel {token : Token} (hk : token ∉ o.tokens) (e : Engine P) :
    o.engine (e.cancel token) = (o.engine e).cancel token := by
  simp only [Engine.cancel]
  rw [engine_wakeAll, ← engine_holders]
  simp only [engine, List.filter_cons, hk, not_false_eq_true, decide_true, if_true]

theorem engine_cancel_gone {token : Token} (hk : token ∈ o.tokens) (ht : e.Tidy x)
    (hg : ∀ u v, e.activity? u = some (.watch v) → v.token = some token → u ∈ o.calls) :
    o.engine (e.cancel token) = o.engine e := by
  have hn : o.tickets (({ e with cancelled := token :: e.cancelled } : Engine P).holders token) = [] := by
    refine List.filterMap_eq_nil_iff.mpr fun u hu => ?_
    obtain ⟨⟨u',a⟩,hm,ha⟩ := List.mem_filterMap.mp hu
    cases a with
    | watch v =>
      simp only [Option.ite_none_right_eq_some, Option.some.injEq] at ha
      obtain ⟨hv,rfl⟩ := ha
      exact ticket?_gone (hg u' v (Engine.activity?_of_mem ht.once hm) hv)
    | _ => simp at ha
  simp only [Engine.cancel]
  rw [engine_wakeAll, hn]
  simp [Engine.wakeAll, engine, hk]

def heeds (o : Omission) (token : Option Token) : Prop :=
  ∀ k ∈ token, k ∉ o.tokens

theorem engine_outcome? {v : Watch} (hv : o.heeds v.token) (e : Engine P) :
    (o.engine e).outcome? v = e.outcome? v := by
  have hc : (o.engine e).isCancelled v = e.isCancelled v := by
    unfold Engine.isCancelled
    cases h : v.token with
    | none => rfl
    | some k => simp [engine, hv k h]
  unfold Engine.outcome?
  rw [hc]
  rfl

theorem engine_newWatch (e : Engine P) (id : DocumentId) (atLeast : Option Version) (timeout : Nat)
    (token : Option Token) (goal : Goal) :
    (o.engine e).newWatch id atLeast timeout token goal = e.newWatch id atLeast timeout token goal := rfl

section Kept

variable {t : Ticket} (hk : t ∉ o.calls)

include hk

theorem engine_pair {v : Watch} (hv : o.heeds v.token) (text : String) (n : Nat) (f : Finding P) :
    o.engine (e.pair t v text n f) = (o.engine e).pair (o.rank t) v text n f := by
  induction n generalizing v text f with
  | zero =>
    unfold Engine.pair
    rw [engine_store]
    dsimp only
    split
    · exact engine_finish hk e _
    · split <;> exact engine_finish hk e _
  | succ n ih =>
    unfold Engine.pair
    rw [engine_store]
    dsimp only
    split
    · exact engine_finish hk e _
    · split
      · exact engine_finish hk e _
      · rename_i version _ _
        rw [engine_newWatch]
        cases h : e.newWatch v.id (some version) v.timeout v.token (.paired _ n) with
        | error why => exact engine_finish hk e _
        | ok v' =>
          have hv' : o.heeds v'.token := by
            obtain ⟨_,_,_,rfl⟩ := Engine.newWatch_ok.mp h
            exact hv
          dsimp only
          rw [engine_outcome? hv']
          cases e.outcome? v' with
          | none => exact engine_set hk e _
          | some r =>
            cases r with
            | error why => exact engine_finish hk e _
            | ok f => exact ih hv' _ f

theorem engine_watchTurn {v : Watch} (hv : o.heeds v.token) :
    o.engine (e.watchTurn t v) = (o.engine e).watchTurn (o.rank t) v := by
  unfold Engine.watchTurn
  rw [engine_outcome? hv]
  cases e.outcome? v with
  | none => exact engine_set hk e _
  | some r =>
    cases r with
    | error why => exact engine_finish hk e _
    | ok f =>
      cases v.goal with
      | finding => exact engine_finish hk e _
      | paired text n => exact engine_pair hk hv text n f

theorem engine_watchFrom {token : Option Token} (hv : o.heeds token) (id : DocumentId)
    (atLeast : Option Version) (timeout : Nat) (goal : Goal) :
    o.engine (e.watchFrom t id atLeast timeout token goal) =
      (o.engine e).watchFrom (o.rank t) id atLeast timeout token goal := by
  unfold Engine.watchFrom
  rw [engine_newWatch]
  cases h : e.newWatch id atLeast timeout token goal with
  | error why => exact engine_finish hk e _
  | ok v =>
    obtain ⟨_,_,_,rfl⟩ := Engine.newWatch_ok.mp h
    exact engine_watchTurn hk hv

theorem engine_callTurn (h0 : 0 ∉ o.calls) (ht : e.Tidy x) {c : Call}
    (hc : o.heeds (Activity.call (P := P) c).token?) :
    o.engine (e.callTurn t c) = (o.engine e).callTurn (o.rank t) c := by
  have hn : o.heeds none := by simp [heeds]
  cases c with
  | wait id atLeast timeout token => exact engine_watchFrom hk hc id atLeast timeout .finding
  | openAndWait id text timeout =>
    simp only [Engine.callTurn, engine_noteOpened h0 ht]
    cases e.noteOpened id text with
    | error why => exact engine_finish hk e _
    | ok e₁ => exact engine_watchFrom hk hn id (some .baseline) timeout .finding
  | changeAndWait id text timeout =>
    simp only [Engine.callTurn, engine_noteChanged h0 ht]
    cases e.noteChanged id text with
    | error why => exact engine_finish hk e _
    | ok r => exact engine_watchFrom hk hn id (some r.2) timeout .finding
  | query id timeout =>
    simp only [Engine.callTurn, engine_store]
    cases e.store.get id with
    | error why => exact engine_finish hk e _
    | ok l => exact engine_watchFrom hk hn id (some l.version) timeout (.paired l.text Engine.furtherAttempts)

theorem engine_endShutdown : o.engine (e.endShutdown t) = (o.engine e).endShutdown (o.rank t) :=
  engine_finish hk _ _

omit hk in
theorem engine_hasLoop (h : ∀ u a, e.activity? u = some a → u ∈ o.calls → a.observes = true)
    (ht : e.Tidy x) : (o.engine e).hasLoop = e.hasLoop := by
  rw [Bool.eq_iff_iff]
  simp only [Engine.hasLoop, engine, List.any_eq_true]
  constructor
  · rintro ⟨p,hp,hl⟩
    obtain ⟨⟨u,a⟩,hm,hp⟩ := List.mem_filterMap.mp hp
    obtain ⟨_,_,rfl⟩ := Option.map_eq_some_iff.mp hp
    cases a with
    | loop stage => exact ⟨_, hm, rfl⟩
    | _ => simp at hl
  · rintro ⟨⟨u,a⟩,hm,hl⟩
    cases a with
    | loop stage =>
      have hu : u ∉ o.calls := fun hu => by
        simpa [Activity.observes] using h u _ (Engine.activity?_of_mem ht.once hm) hu
      exact ⟨(o.rank u, .loop stage), List.mem_filterMap.mpr ⟨_, hm, relabel?_kept hu _⟩, rfl⟩
    | _ => simp at hl

theorem engine_shutdownTurn (h0 : 0 ∉ o.calls) (ht : e.Tidy x)
    (hg : ∀ u a, e.activity? u = some a → u ∈ o.calls → a.observes = true) (begun : Bool) :
    o.engine (e.shutdownTurn t begun) = (o.engine e).shutdownTurn (o.rank t) begun := by
  cases begun with
  | true => exact engine_endShutdown hk
  | false =>
    have htidy : (e.stop.wakeAll e.stop.watches).Tidy x := ht.stop.rouse ht.stop.watches
    have hshut := engine_shutQueue h0 htidy
    rw [engine_wakeAll, ← engine_watches, engine_stop] at hshut
    have hloop := engine_hasLoop (o := o) (fun u a hu => hg u a (e.keeps_shutDown.activity? u ▸ hu))
      htidy.shutQueue
    simp only [Engine.shutdownTurn, engine_stopped, ← hshut, hloop]
    cases e.stopped with
    | true => exact engine_finish hk e _
    | false =>
      simp only [Bool.false_eq_true, if_false]
      cases (e.stop.wakeAll e.stop.watches).shutQueue.hasLoop with
      | true => exact engine_set hk _ _
      | false => exact engine_endShutdown hk

end Kept

section Working

variable (h0 : 0 ∉ o.calls) (ht : e.Tidy x)

include h0

include ht in
theorem engine_endLoop : o.engine (e.endLoop 0) = (o.engine e).endLoop 0 := by
  simp only [Engine.endLoop]
  rw [engine_wakeAll, ← engine_closers, engine_wakeSome, leave_worker h0 ht.bell, engine_finish h0]
  rfl

include ht in
theorem engine_seek (hn : e.tickets < (e.seek 0).tickets → e.tickets ∉ o.calls) :
    o.engine (e.seek 0) = (o.engine e).seek 0 := by
  unfold Engine.seek at hn ⊢
  by_cases hs : e.stopped = true
  · rw [if_pos hs, if_pos (c := (o.engine e).stopped = true) hs]
    exact engine_endLoop h0 ht
  rw [if_neg hs] at hn
  rw [if_neg hs, if_neg (c := (o.engine e).stopped = true) hs]
  by_cases hq : e.queue.shutDown = true
  · rw [if_pos hq, if_pos (c := (o.engine e).queue.shutDown = true) hq]
    exact engine_endLoop h0 ht.answered
  rw [if_neg hq] at hn
  rw [if_neg hq, if_neg (c := (o.engine e).queue.shutDown = true) hq]
  simp only [engine_queue, engine_store]
  cases hf : e.store.firstOpen? e.queue.order with
  | none => exact engine_set h0 _ _
  | some r =>
    simp only [hf] at hn
    have hnew : e.tickets ∉ o.calls := hn (Nat.lt_succ_self _)
    refine (engine_start (by exact hnew) _).trans ?_
    rw [engine_set h0]
    rfl

include ht in
theorem engine_loopTurn (w : Worker P) (stage : Stage P)
    (hn : e.tickets < (e.loopTurn w 0 stage).tickets → e.tickets ∉ o.calls) :
    o.engine (e.loopTurn w 0 stage) = (o.engine e).loopTurn w 0 stage := by
  cases stage with
  | idle => exact engine_seek h0 ht hn
  | underway s => rfl
  | judged s verdict =>
    have hk := Engine.keeps_conclude w e s verdict
    simp only [Engine.loopTurn, ← engine_conclude ht]
    refine engine_seek h0 (ht.conclude w s verdict) fun hlt => ?_
    rw [hk.tickets] at hlt ⊢
    exact hn hlt

theorem engine_deliver (s : Snapshot) (verdict : Verdict P) :
    o.engine (e.deliver 0 s verdict) = (o.engine e).deliver 0 s verdict := by
  have ha : (o.engine e).activity? 0 = e.activity? 0 := engine_activity? h0
  unfold Engine.deliver
  rw [ha]
  split
  · exact (engine_wake h0 _).trans (congrArg (Engine.wake · 0) (engine_set h0 e _))
  · exact (engine_wake h0 _).trans (congrArg (Engine.wake · 0) (engine_set h0 e _))
  · rfl

theorem engine_analysisTurn (w : Worker P) {t : Ticket} (hk : t ∉ o.calls) (s : Snapshot) (c : Option Nat) :
    o.engine (e.analysisTurn w t 0 s c) = (o.engine e).analysisTurn w (o.rank t) 0 s c := by
  have hj : ∀ (e : Engine P) call, o.engine (e.judge w t 0 s call) = (o.engine e).judge w (o.rank t) 0 s call := by
    intro e call
    rw [Engine.judge, engine_deliver h0, engine_remove hk]
    rfl
  cases c with
  | some call => exact hj e call
  | none =>
    simp only [Engine.analysisTurn]
    cases hg : e.gate with
    | none =>
      have hg' : (o.engine e).gate = none := by simp [engine, hg]
      rw [hg', hj]
      rfl
    | some g =>
      have hg' : (o.engine e).gate = some { g with waiting := o.tickets g.waiting } := by simp [engine, hg]
      rw [hg']
      by_cases hp : 0 < g.permits
      · simp only [Gate.arrive, hp, if_true]
        rw [hj]
        rfl
      · simp only [Gate.arrive, hp, if_false]
        rw [engine_set hk]
        simp only [engine, Option.map_some, tickets_concat hk]

end Working

section Gone

variable {t : Ticket} (hk : t ∈ o.calls)

include hk

theorem engine_watchTurn_gone {v : Watch} (hv : v.goal = .finding) :
    o.engine (e.watchTurn t v) = o.engine e := by
  unfold Engine.watchTurn
  rw [hv]
  split
  · exact engine_set_gone hk e _
  · exact engine_finish_gone hk e _
  · exact engine_finish_gone hk e _

theorem engine_turn_gone (w : Worker P) (hg : ∀ a, e.activity? t = some a → a.observes = true) :
    o.engine (e.turn w t) = o.engine e := by
  cases ha : e.activity? t with
  | none => rw [Engine.turn_of_none w ha]
  | some a =>
    have ho := hg a ha
    simp only [Engine.turn, ha]
    cases a with
    | watch v => exact engine_watchTurn_gone hk (by simpa [Activity.observes] using ho)
    | call c =>
      cases c with
      | wait id atLeast timeout token =>
        simp only [Engine.callTurn, Engine.watchFrom]
        cases h : e.newWatch id atLeast timeout token .finding with
        | error why => exact engine_finish_gone hk e _
        | ok v =>
          obtain ⟨_,_,_,rfl⟩ := Engine.newWatch_ok.mp h
          exact engine_watchTurn_gone hk rfl
      | _ => simp [Activity.observes] at ho
    | _ => simp [Activity.observes] at ho

end Gone

end Omission

end LiveAnalysis
