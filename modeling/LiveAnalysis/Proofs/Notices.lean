import LiveAnalysis.Proofs.Settling
import LiveAnalysis.Proofs.Work

namespace LiveAnalysis

variable {P : Type}

namespace Notice

def opened? : Notice → Option DocumentId
  | .opened id => some id
  | _ => none

def isFailure : Notice → Bool
  | .failed _ _ => true
  | .panicked _ _ => true
  | _ => false

def ready? : Notice → Option Snapshot
  | .ready s => some s
  | _ => none

def isAside : Notice → Bool
  | .failed _ _ => true
  | .panicked _ _ => true
  | .down => true
  | _ => false

end Notice

def Request.notice? : Request → Reply → Option Notice
  | .openDocument id _, .version _ => some (.opened id)
  | .close id, .done => some (.closed id)
  | _, _ => none

namespace Engine

def opens (e : Engine P) (id : DocumentId) : Bool :=
  !e.stopped && !e.store.contains id

def verdictNotice? (w : Worker P) (e : Engine P) (s : Snapshot) : Verdict P → Option Notice
  | .failed reason => some (.failed s reason)
  | .panicked tail => some (.panicked s tail)
  | .found payload =>
    if (e.store.publish s payload).2 = .stored ∧ w.announces then some (.ready s) else none

def turnNotice? (w : Worker P) (e : Engine P) (a : Activity P) : Option Notice :=
  match a.verdict?, a with
  | some (s, verdict), _ => e.verdictNotice? w s verdict
  | none, .call (.openAndWait id _ _) => if e.opens id then some (.opened id) else none
  | none, .shutdown begun => if begun || !(e.stopped || e.hasLoop) then some .down else none
  | none, _ => none

/-- What a move makes the service tell of, by what the move comes to. -/
def notice? (w : Worker P) (e : Engine P) : Move → Option Notice
  | .ask r => r.notice? ((⟨w, {}, e⟩ : Service P).receive r).2
  | .turn place => ((e.ready[place]?).bind e.activity?).bind (e.turnNotice? w)
  | _ => none

def stored? (e : Engine P) (m : Move) : Option (Snapshot × P) :=
  match e.attempt? m with
  | some (s, .found payload) =>
    if (e.store.publish s payload).2 = .stored then some (s, payload) else none
  | _ => none

end Engine

inductive Store.Tells (announces : Bool) (s : Store P) : Store P → Option Notice → Prop where
  | same {n} (hn : ∀ x ∈ n, x.isAside = true) : Tells announces s s n
  | opened {id text s'} (h : s.openDocument id text = .ok s') :
    Tells announces s s' (some (.opened id))
  | changed {id text s' v} (h : s.change id text = .ok (s', v)) : Tells announces s s' none
  | closed {id s' g} (h : s.close id = .ok (s', g)) : Tells announces s s' (some (.closed id))
  | published (snap : Snapshot) (payload : P) : Tells announces s (s.publish snap payload).1
    (if (s.publish snap payload).2 = .stored ∧ announces then some (.ready snap) else none)

namespace Engine

structure Told (w : Worker P) (e e' : Engine P) (n : Option Notice) : Prop where
  events : e'.events = e.events ++ n.toList.map Notice.event
  store : e.store.Tells w.announces e'.store n

structure Mute (e e' : Engine P) : Prop where
  events : e'.events = e.events
  store : e'.store = e.store

variable {w : Worker P} {e e₁ e₂ : Engine P}

theorem Mute.refl (e : Engine P) : e.Mute e := ⟨rfl,rfl⟩

theorem Mute.trans (h : e.Mute e₁) (k : e₁.Mute e₂) : e.Mute e₂ :=
  ⟨k.events.trans h.events, k.store.trans h.store⟩

theorem Mute.told (h : e.Mute e₁) {n : Option Notice} (hn : n = none) : Told w e e₁ n where
  events := by rw [hn, h.events]; exact (List.append_nil _).symm
  store := by rw [hn, h.store]; exact .same (by simp)

theorem Told.mute {n : Option Notice} (h : Told w e e₁ n) (k : e₁.Mute e₂) : Told w e e₂ n where
  events := k.events.trans h.events
  store := k.store.symm ▸ h.store

theorem told_emit (h : e.Mute e₁) {x : Notice} (hx : x.isAside = true) :
    Told w e (e₁.emit x) (some x) where
  events := congrArg (· ++ [x.event]) h.events
  store := h.store.symm ▸ .same (by simpa using hx)

theorem mute_finish (e : Engine P) (t : Ticket) (x : Ending P) : e.Mute (e.finish t x) := ⟨rfl,rfl⟩

theorem mute_wakeAll (e : Engine P) (ts : List Ticket) : e.Mute (e.wakeAll ts) := by
  rw [wakeAll_eq]
  exact ⟨rfl,rfl⟩

theorem mute_wakeSome (e : Engine P) (t : Option Ticket) : e.Mute (e.wakeSome t) := by
  rw [wakeSome_eq]
  exact ⟨rfl,rfl⟩

theorem mute_ring (e : Engine P) : e.Mute e.ring := by
  refine Mute.trans ?_ (mute_wakeSome _ _)
  exact ⟨rfl,rfl⟩

theorem mute_enqueue (e : Engine P) (id : DocumentId) : e.Mute (e.enqueue id).1 := by
  unfold enqueue
  dsimp only
  split
  · refine Mute.trans ?_ (mute_ring _)
    exact ⟨rfl,rfl⟩
  · exact ⟨rfl,rfl⟩

theorem mute_shutQueue (e : Engine P) : e.Mute e.shutQueue := by
  refine Mute.trans ?_ (mute_wakeAll _ _)
  exact ⟨rfl,rfl⟩

theorem mute_stop (e : Engine P) : e.Mute e.stop := by
  refine Mute.trans ?_ (mute_wakeAll _ _)
  exact ⟨rfl,rfl⟩

theorem mute_hangUp (e : Engine P) : e.Mute e.hangUp := by
  rcases e.hangUp_cases with h | ⟨h,_⟩
  · rw [h]
    exact .refl e
  · rw [h]
    exact e.mute_stop.trans (mute_shutQueue _)

theorem mute_requestAnalyses (e : Engine P) (ids : List DocumentId) :
    e.Mute (e.requestAnalyses ids).1 := by
  induction ids generalizing e with
  | nil => exact .refl e
  | cons id ids ih =>
    simp only [requestAnalyses]
    split
    · rename_i e₁ outcome h
      obtain ⟨_,_,he⟩ := requestAnalysis_ok.mp h
      have hid := e.mute_enqueue id
      rw [he] at hid
      exact hid.trans (ih e₁)
    · exact .refl e

theorem mute_endLoop (e : Engine P) (t : Ticket) : e.Mute (e.endLoop t) := by
  refine Mute.trans (Mute.trans ?_ (mute_wakeSome _ _)) (mute_wakeAll _ _)
  exact ⟨rfl,rfl⟩

theorem mute_seek (e : Engine P) (t : Ticket) : e.Mute (e.seek t) := by
  unfold seek
  split
  · exact e.mute_endLoop t
  · split
    · refine Mute.trans ?_ (mute_endLoop _ t)
      exact ⟨rfl,rfl⟩
    · dsimp only
      split <;> exact ⟨rfl,rfl⟩

theorem mute_judge (e : Engine P) (t owner : Ticket) (s : Snapshot) (call : Nat) :
    e.Mute (e.judge w t owner s call) := by
  obtain ⟨_,_,hd,_⟩ := (e.remove t).deliver_eq owner s (w.analyzer call s.text s.version)
  rw [judge, hd]
  exact ⟨rfl,rfl⟩

theorem mute_analysisTurn (e : Engine P) (t owner : Ticket) (s : Snapshot) (c : Option Nat) :
    e.Mute (e.analysisTurn w t owner s c) := by
  cases c with
  | some call => exact e.mute_judge t owner s call
  | none =>
    simp only [analysisTurn]
    split
    · refine Mute.trans ?_ (mute_judge _ t owner s _)
      exact ⟨rfl,rfl⟩
    · split
      · refine Mute.trans ?_ (mute_judge _ t owner s _)
        exact ⟨rfl,rfl⟩
      · exact ⟨rfl,rfl⟩

theorem mute_watchTurn (e : Engine P) (t : Ticket) (v : Watch) : e.Mute (e.watchTurn t v) := by
  rcases e.watchTurn_cases t v with ⟨x,hx⟩ | ⟨v',hx,_⟩ <;> rw [hx] <;> exact ⟨rfl,rfl⟩

theorem mute_watchFrom (e : Engine P) (t : Ticket) (id : DocumentId) (atLeast : Option Version)
    (timeout : Nat) (token : Option Token) (goal : Goal) :
    e.Mute (e.watchFrom t id atLeast timeout token goal) := by
  rcases e.watchFrom_cases t id atLeast timeout token goal with ⟨x,hx⟩ | ⟨v,hx,_⟩ <;> rw [hx] <;>
    exact ⟨rfl,rfl⟩

theorem mute_takeTurn (e : Engine P) (t : Ticket) : e.Mute (e.takeTurn t) := by
  unfold takeTurn
  dsimp only
  split <;> exact ⟨rfl,rfl⟩

theorem mute_waitTurn (e : Engine P) (t : Ticket) (place : Nat) (atLeast : Version) :
    e.Mute (e.waitTurn t place atLeast) := by
  unfold waitTurn
  split
  · exact .refl e
  · dsimp only
    split
    · exact ⟨rfl,rfl⟩
    · refine Mute.trans ?_ (mute_wakeSome _ _)
      exact ⟨rfl,rfl⟩

theorem mute_release (e : Engine P) (permits : Nat) : e.Mute (e.release permits) := by
  unfold release
  split
  · exact .refl e
  · refine Mute.trans ?_ (mute_wakeAll _ _)
    exact ⟨rfl,rfl⟩

theorem told_opened (w : Worker P) {id : DocumentId} {text : String} (h : e.noteOpened id text = .ok e₁) :
    Told w e e₁ (some (.opened id)) := by
  obtain ⟨_,e₂,h₂,rfl⟩ := noteOpened_ok.mp h
  obtain ⟨store,hopen,rfl⟩ := openDocument_ok.mp h₂
  have hm := mute_enqueue { e with store } id
  exact ⟨congrArg (· ++ [_]) hm.events, hm.store.symm ▸ .opened hopen⟩

theorem opens_iff {id : DocumentId} (text : String) :
    e.opens id = true ↔ ∃ e₁, e.noteOpened id text = .ok e₁ := by
  simp only [noteOpened_ok, openDocument_ok, Store.openDocument_ok, opens, Store.contains, Bool.and_eq_true,
    Bool.not_eq_true', Option.isSome_eq_false_iff, Option.isNone_iff_eq_none]
  constructor
  · rintro ⟨hs,hn⟩
    exact ⟨_, hs, _, ⟨_,⟨hn,rfl⟩,rfl⟩, rfl⟩
  · rintro ⟨_,hs,_,⟨_,⟨hn,_⟩,_⟩,_⟩
    exact ⟨hs,hn⟩

theorem told_closed (w : Worker P) {id : DocumentId} (h : e.noteClosed id = .ok e₁) :
    Told w e e₁ (some (.closed id)) := by
  obtain ⟨_,e₂,h₂,rfl⟩ := noteClosed_ok.mp h
  obtain ⟨store,g,hclose,rfl⟩ := close_ok.mp h₂
  have hm := mute_wakeAll ({ e with store, queue := (e.queue.remove id).1 } : Engine P)
    (({ e with store, queue := (e.queue.remove id).1 } : Engine P).watchers g)
  exact ⟨congrArg (· ++ [_]) hm.events, hm.store.symm ▸ .closed hclose⟩

theorem told_change (w : Worker P) {id : DocumentId} {text : String} {v : Version}
    (h : e.noteChanged id text = .ok (e₁,v)) : Told w e e₁ none := by
  obtain ⟨_,h⟩ := noteChanged_ok.mp h
  obtain ⟨store,hs,rfl⟩ := change_ok.mp h
  have hm := mute_enqueue { e with store } id
  exact ⟨hm.events.trans (List.append_nil _).symm, hm.store.symm ▸ .changed hs⟩

theorem told_conclude (w : Worker P) (e : Engine P) (s : Snapshot) (verdict : Verdict P) :
    Told w e (e.conclude w s verdict).1 (e.verdictNotice? w s verdict) := by
  cases verdict with
  | failed reason => exact told_emit (.refl e) rfl
  | panicked tail => exact told_emit (.refl e) rfl
  | found payload =>
    have hp : (e.publish s payload).1.events = e.events ∧
        (e.publish s payload).1.store = (e.store.publish s payload).1 ∧
        (e.publish s payload).2 = (e.store.publish s payload).2 := by
      unfold publish
      dsimp only
      split
      · exact ⟨(mute_wakeAll _ _).events, (mute_wakeAll _ _).store, rfl⟩
      · exact ⟨rfl,rfl,rfl⟩
    have ht : e.store.Tells w.announces _ _ := .published s payload
    simp only [conclude, verdictNotice?, hp.2.2]
    split
    · rename_i hn
      rw [if_pos hn] at ht
      exact ⟨congrArg (· ++ [_]) hp.1, hp.2.1 ▸ ht⟩
    · rename_i hn
      rw [if_neg hn] at ht
      exact ⟨hp.1.trans (List.append_nil _).symm, hp.2.1 ▸ ht⟩

theorem told_call (w : Worker P) (e : Engine P) (t : Ticket) (c : Call) :
    Told w e (e.callTurn t c) (e.turnNotice? w (.call c)) := by
  cases c with
  | wait id atLeast timeout token => exact (e.mute_watchFrom t _ _ _ _ _).told rfl
  | openAndWait id text timeout =>
    have hn : e.turnNotice? w (.call (.openAndWait id text timeout)) =
        if e.opens id then some (.opened id) else none := rfl
    rw [hn]
    simp only [callTurn]
    split
    · rename_i why h
      have ho : e.opens id = false := Bool.eq_false_iff.mpr fun ho => by
        obtain ⟨e₁,h₁⟩ := (opens_iff text).mp ho
        simp [h] at h₁
      exact (e.mute_finish t _).told (by simp [ho])
    · rename_i e₁ h
      rw [if_pos ((opens_iff text).mpr ⟨e₁,h⟩)]
      exact (told_opened w h).mute (e₁.mute_watchFrom t _ _ _ _ _)
  | changeAndWait id text timeout =>
    simp only [callTurn]
    split
    · exact (e.mute_finish t _).told rfl
    · rename_i e₁ v h
      exact (told_change w h).mute (e₁.mute_watchFrom t _ _ _ _ _)
  | query id timeout =>
    simp only [callTurn]
    split
    · exact (e.mute_finish t _).told rfl
    · exact (e.mute_watchFrom t _ _ _ _ _).told rfl

theorem told_shutdown (w : Worker P) (e : Engine P) (t : Ticket) (begun : Bool) :
    Told w e (e.shutdownTurn t begun) (e.turnNotice? w (.shutdown begun)) := by
  have hend : ∀ e₁, e.Mute e₁ → Told w e (e₁.endShutdown t) (some .down) := fun e₁ h =>
    (told_emit h rfl).mute ⟨rfl,rfl⟩
  cases begun with
  | true => exact hend e (.refl e)
  | false =>
    have hk := e.keeps_shutDown
    have hm : e.Mute (e.stop.wakeAll e.stop.watches).shutQueue :=
      (e.mute_stop.trans (mute_wakeAll _ _)).trans (mute_shutQueue _)
    have hloop : (e.stop.wakeAll e.stop.watches).shutQueue.hasLoop = e.hasLoop := by
      simp only [hasLoop, hk.activities]
    have hn : e.turnNotice? w (.shutdown false) =
        if !(e.stopped || e.hasLoop) then some .down else none := rfl
    rw [hn]
    simp only [shutdownTurn, hloop]
    cases hs : e.stopped with
    | true => exact (e.mute_finish t _).told rfl
    | false =>
      cases hl : e.hasLoop with
      | true =>
        have hset : e.Mute ((e.stop.wakeAll e.stop.watches).shutQueue.set t (.shutdown true)) :=
          ⟨hm.events,hm.store⟩
        exact hset.told rfl
      | false => exact hend _ hm

theorem told_turn (w : Worker P) (e : Engine P) (t : Ticket) :
    Told w e (e.turn w t) ((e.activity? t).bind (e.turnNotice? w)) := by
  unfold turn
  cases e.activity? t with
  | none => exact (Mute.refl e).told rfl
  | some a =>
    cases a with
    | take => exact (e.mute_takeTurn t).told rfl
    | process id stage =>
      cases stage with
      | idle =>
        simp only [processTurn]
        split
        · exact (e.mute_finish t _).told rfl
        · rename_i l _
          have hb : e.Mute ((e.set t (.process id (.underway l.snapshot))).begin t l.snapshot) := ⟨rfl,rfl⟩
          exact hb.told rfl
      | underway s => exact (Mute.refl e).told rfl
      | judged s verdict => exact (told_conclude w e s verdict).mute ⟨rfl,rfl⟩
    | loop stage =>
      cases stage with
      | idle => exact (e.mute_seek t).told rfl
      | underway s => exact (Mute.refl e).told rfl
      | judged s verdict => exact (told_conclude w e s verdict).mute (mute_seek _ t)
    | analysis owner s c => exact (e.mute_analysisTurn t owner s c).told rfl
    | wait place atLeast => exact (e.mute_waitTurn t place atLeast).told rfl
    | call c => exact told_call w e t c
    | watch v => exact (e.mute_watchTurn t v).told rfl
    | shutdown begun => exact told_shutdown w e t begun

theorem told_ask (w : Worker P) (e : Engine P) (r : Request) :
    Told w e (e.move w (.ask r)) (e.notice? w (.ask r)) := by
  cases r with
  | openDocument id text =>
    simp only [move, notice?, Service.receive]
    split
    · exact told_opened w ‹_›
    · exact (Mute.refl e).told rfl
  | change id text =>
    simp only [move, notice?, Service.receive]
    split
    · exact told_change w ‹_›
    · exact (Mute.refl e).told rfl
  | close id =>
    simp only [move, notice?, Service.receive]
    split
    · exact told_closed w ‹_›
    · exact (Mute.refl e).told rfl
  | analyse id =>
    have hm := e.mute_requestAnalyses [id]
    simp only [move, notice?, Service.receive]
    cases hid : e.requestAnalysis id <;> simp only [requestAnalyses, hid] at hm <;> exact hm.told rfl
  | analyseAll ids =>
    have hm := e.mute_requestAnalyses ids
    simp only [move, notice?, Service.receive]
    split <;> rename_i hids <;> rw [hids] at hm <;> exact hm.told rfl
  | call c =>
    have hm : e.Mute (e.start (.call c)) := ⟨rfl,rfl⟩
    exact hm.told rfl
  | cancel token =>
    have hm : e.Mute { e with cancelled := token :: e.cancelled } := ⟨rfl,rfl⟩
    exact (hm.trans (mute_wakeAll _ _)).told rfl
  | shutdown =>
    have hm : e.Mute (e.start (.shutdown false)) := ⟨rfl,rfl⟩
    exact hm.told rfl
  | abandon =>
    have hm : e.Mute { e with abandoned := true } := ⟨rfl,rfl⟩
    exact (hm.trans (mute_hangUp _)).told rfl
  | release permits => exact (e.mute_release permits).told rfl
  | advance ms =>
    have hm : e.Mute (e.advance ms) := ⟨rfl,rfl⟩
    exact hm.told rfl

theorem told_move (w : Worker P) (e : Engine P) (m : Service.Move) :
    Told w e (e.move w m.engine) (e.notice? w m.engine) := by
  cases m with
  | ask r => exact told_ask w e r
  | turn place =>
    simp only [Service.Move.engine, move, notice?]
    cases e.ready[place]? with
    | none => exact (Mute.refl e).told rfl
    | some t =>
      have ht := told_turn w { e with ready := e.ready.eraseIdx place } t
      exact ⟨ht.events, ht.store⟩
  | alarms =>
    have hm : e.Mute { e with alarmed := e.clock } := ⟨rfl,rfl⟩
    exact (hm.trans (mute_wakeAll _ _)).told rfl
  | hangUp => exact e.mute_hangUp.told rfl

end Engine

structure Notice.Span (log : List Notice) (id : DocumentId) (since : List Notice) : Prop where
  opened : ∃ earlier, log = earlier ++ .opened id :: since
  only : .opened id ∉ since
  unclosed : .closed id ∉ since

theorem Notice.Span.append {log since : List Notice} {id : DocumentId} (h : Span log id since)
    {more : List Notice} (ho : .opened id ∉ more) (hc : .closed id ∉ more) :
    Span (log ++ more) id (since ++ more) where
  opened := by
    obtain ⟨earlier,he⟩ := h.opened
    exact ⟨earlier, by rw [he, List.append_assoc, List.cons_append]⟩
  only hx := (List.mem_append.mp hx).elim h.only ho
  unclosed hx := (List.mem_append.mp hx).elim h.unclosed hc

namespace Store

theorem Tells.ne_started {announces : Bool} {s s' : Store P} {n : Option Notice}
    (h : s.Tells announces s' n) : n ≠ some .started := by
  cases h with
  | same hn =>
    rintro rfl
    simpa [Notice.isAside] using hn _ rfl
  | published snap payload => split <;> simp
  | _ => simp

structure Logged (s : Store P) (log : List Notice) : Prop where
  opened : log.filterMap Notice.opened? = (s.lifetimes.map (·.id)).reverse
  balance : ∀ id, log.count (.opened id) = log.count (.closed id) + if s.contains id then 1 else 0
  span : ∀ id l, s.find? id = some l → ∃ since, Notice.Span log id since ∧
    ∀ snap, .ready snap ∈ since → snap.id = id →
      ∃ f, l.slot.latest = some f ∧ snap.version ≤ f.version

theorem logged_empty : (({} : Store P)).Logged [.started] where
  opened := rfl
  balance id := rfl
  span id l hl := by simp [find?] at hl

section Logged

variable {s s' : Store P} {log : List Notice} (h : s.Logged log)

include h

theorem Logged.carried {n : Option Notice} (hn : ∀ x ∈ n, ∀ id, x ≠ .opened id ∧ x ≠ .closed id)
    (hids : s'.lifetimes.map (·.id) = s.lifetimes.map (·.id))
    (hc : ∀ id, s'.contains id = s.contains id)
    (hl : ∀ id l', s'.find? id = some l' → ∃ l, s.find? id = some l ∧ l.Evolves l')
    (hr : ∀ snap, n = some (.ready snap) → ∀ l', s'.find? snap.id = some l' →
      ∃ f, l'.slot.latest = some f ∧ snap.version ≤ f.version) : s'.Logged (log ++ n.toList) where
  opened := by
    have hnone : n.toList.filterMap Notice.opened? = [] := by
      refine List.filterMap_eq_nil_iff.mpr fun x hx => ?_
      have hx' := hn x (Option.mem_toList.mp hx)
      cases x with
      | opened id => exact absurd rfl (hx' id).1
      | _ => rfl
    rw [List.filterMap_append, hnone, List.append_nil, h.opened, hids]
  balance id := by
    have hzero : ∀ y, (∀ x ∈ n, x ≠ y) → n.toList.count y = 0 := fun y hy =>
      List.count_eq_zero.mpr fun hx => hy y (Option.mem_toList.mp hx) rfl
    rw [List.count_append, List.count_append, hzero _ fun x hx => (hn x hx id).1,
      hzero _ fun x hx => (hn x hx id).2, h.balance id, hc id]
    rfl
  span id l' hl' := by
    obtain ⟨l,hfind,he⟩ := hl id l' hl'
    obtain ⟨since,hspan,hready⟩ := h.span id l hfind
    refine ⟨since ++ n.toList, hspan.append ?_ ?_, fun snap hsnap hid => ?_⟩
    · exact fun hx => (hn _ (Option.mem_toList.mp hx) id).1 rfl
    · exact fun hx => (hn _ (Option.mem_toList.mp hx) id).2 rfl
    · rcases List.mem_append.mp hsnap with hx | hx
      · obtain ⟨f,hf,hle⟩ := hready snap hx hid
        obtain ⟨f',hf',hle'⟩ := he.latest f hf
        exact ⟨f', hf', Version.le_trans hle hle'⟩
      · exact hr snap (Option.mem_toList.mp hx) l' (hid.symm ▸ hl')

theorem Logged.updated (hv : s.Valid) {id : DocumentId} {l : Lifetime P} (hl : s.find? id = some l)
    {f : Lifetime P → Lifetime P} (hf : ∀ x, (f x).generation = x.generation)
    (hid : ∀ x, (f x).id = x.id) (he : l.Evolves (f l)) (ho : (f l).isOpen = true) {n : Option Notice}
    (hn : ∀ x ∈ n, ∀ id, x ≠ .opened id ∧ x ≠ .closed id)
    (hr : ∀ snap, n = some (.ready snap) → snap.id = id ∧
      ∃ g, (f l).slot.latest = some g ∧ snap.version ≤ g.version) :
    (s.update l.generation f).Logged (log ++ n.toList) := by
  have hfind : ∀ id', (s.update l.generation f).find? id' =
      if id' = id then some (f l) else s.find? id' := by
    intro id'
    rw [hv.find?_updated hl hf he, if_pos ho]
  refine h.carried hn ?_ ?_ ?_ ?_
  · simp only [update, List.map_map]
    refine List.map_congr_left fun x _ => ?_
    rw [Function.comp_apply]
    split
    · exact hid x
    · rfl
  · intro id'
    rw [contains, contains, hfind]
    split
    · rename_i hx
      rw [hx, hl]
      rfl
    · rfl
  · intro id' l' hl'
    rw [hfind] at hl'
    split at hl'
    · rename_i hx
      cases hl'
      exact ⟨l, hx ▸ hl, he⟩
    · exact ⟨l', hl', .refl l'⟩
  · intro snap hsnap l' hl'
    obtain ⟨hx,hg⟩ := hr snap hsnap
    rw [hfind, if_pos hx] at hl'
    cases hl'
    exact hg

theorem Logged.opens {id : DocumentId} {text : String} (hs : s.openDocument id text = .ok s') :
    s'.Logged (log ++ [.opened id]) := by
  obtain ⟨hn,rfl⟩ := openDocument_ok.mp hs
  let new : Lifetime P := { id, generation := s.lifetimes.length + 1, text }
  have hfind : ∀ id', (⟨new :: s.lifetimes⟩ : Store P).find? id' =
      if id' = id then some new else s.find? id' := fun id' => s.find?_opened id' new rfl
  refine ⟨?_, fun id' => ?_, fun id' l hl => ?_⟩
  · rw [List.filterMap_append, h.opened]
    simp [Notice.opened?]
  · have hc : (⟨new :: s.lifetimes⟩ : Store P).contains id' = if id' = id then true else s.contains id' := by
      rw [contains, hfind]
      split <;> rfl
    rw [hc, List.count_append, List.count_append, h.balance id']
    by_cases hid : id' = id
    · subst hid
      simp [contains, hn]
    · simp [hid, Ne.symm hid]
  · rw [hfind] at hl
    split at hl
    · rename_i hid
      subst hid
      exact ⟨[], ⟨⟨log,rfl⟩, List.not_mem_nil, List.not_mem_nil⟩, fun _ hx => absurd hx List.not_mem_nil⟩
    · rename_i hid
      obtain ⟨since,hspan,hready⟩ := h.span id' l hl
      refine ⟨since ++ [.opened id], hspan.append (by simpa using hid) (by simp), ?_⟩
      intro snap hsnap
      refine hready snap ?_
      simpa using hsnap

theorem Logged.closes (hv : s.Valid) {id : DocumentId} {g : Nat} (hs : s.close id = .ok (s',g)) :
    s'.Logged (log ++ [.closed id]) := by
  obtain ⟨l,hl,_,rfl⟩ := close_ok.mp hs
  have hfind := hv.find?_closed hl
  refine ⟨?_, fun id' => ?_, fun id' l' hl' => ?_⟩
  · rw [List.filterMap_append, h.opened]
    simp only [update, List.map_map]
    simp only [List.filterMap_cons, Notice.opened?, List.filterMap_nil, List.append_nil]
    refine congrArg List.reverse (List.map_congr_left fun x _ => ?_)
    rw [Function.comp_apply]
    split <;> rfl
  · have hc : (s.update l.generation fun x => { x with slot := x.slot.close }).contains id' =
        if id' = id then false else s.contains id' := by
      rw [contains, hfind]
      split <;> rfl
    rw [hc, List.count_append, List.count_append, h.balance id']
    by_cases hid : id' = id
    · subst hid
      simp [contains, hl]
    · simp [hid, Ne.symm hid]
  · rw [hfind] at hl'
    split at hl'
    · simp at hl'
    · rename_i hid
      obtain ⟨since,hspan,hready⟩ := h.span id' l' hl'
      refine ⟨since ++ [.closed id], hspan.append (by simp) (by simpa using hid), ?_⟩
      intro snap hsnap
      refine hready snap ?_
      simpa using hsnap

theorem Logged.tells (hv : s.Valid) {announces : Bool} {n : Option Notice}
    (ht : s.Tells announces s' n) : s'.Logged (log ++ n.toList) := by
  cases ht with
  | same hn =>
    refine h.carried (fun x hx id => ?_) rfl (fun _ => rfl) (fun id l' hl' => ⟨l', hl', .refl l'⟩) ?_
    · constructor <;> rintro rfl <;> simpa [Notice.isAside] using hn _ hx
    · rintro snap rfl
      simpa [Notice.isAside] using hn _ rfl
  | opened hs => exact h.opens hs
  | @changed id text _ _ hs =>
    obtain ⟨l,hl,_,rfl⟩ := change_ok.mp hs
    have ho := (find?_spec hl).2.2
    exact h.updated (f := fun x => { x with text, version := l.version.next }) (n := none) hv hl
      (fun _ => rfl) (fun _ => rfl) (l.evolves_change text ho) ho (by simp) (by simp)
  | closed hs => exact h.closes hv hs
  | published snap payload =>
    rcases hv.publish_cases snap payload with ⟨hs,hout,_⟩ | ⟨l,hl,_,hle,hp⟩
    · rw [hs, if_neg fun hx => hout hx.1]
      exact h.carried (n := none) (by simp) rfl (fun _ => rfl) (fun id l' hl' => ⟨l', hl', .refl l'⟩)
        (by simp)
    · have ho := (find?_spec hl).2.2
      have he := l.evolves_store ⟨snap.id, snap.version, payload⟩ ho hle
      rw [hp]
      refine h.updated (f := fun x =>
        { x with slot := { l.slot with latest := some ⟨snap.id, snap.version, payload⟩ } }) hv hl
        (fun _ => rfl) (fun _ => rfl) he ho ?_ ?_
      · intro x hx id
        split at hx
        · cases hx
          simp
        · simp at hx
      · intro snap' hsnap
        split at hsnap
        · cases hsnap
          exact ⟨rfl, _, rfl, Version.le_refl _⟩
        · simp at hsnap

end Logged

end Store

end LiveAnalysis
