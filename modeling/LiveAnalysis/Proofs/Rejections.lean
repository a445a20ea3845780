import LiveAnalysis.Proofs.Settling
import LiveAnalysis.Proofs.Work

namespace LiveAnalysis

variable {P : Type}

def Refusal.isRejection : Refusal → Bool
  | .alreadyOpen _ => true
  | .notOpen _ => true
  | .shutDown => true
  | _ => false

def Ending.isRejection : Ending P → Bool
  | .refused why => why.isRejection
  | _ => false

namespace Engine

/-- Why a document cannot be opened now. The shutdown counts before the document does. -/
def cannotOpen? (e : Engine P) (id : DocumentId) : Option Refusal :=
  if e.stopped then some .shutDown
  else if e.store.contains id then some (.alreadyOpen id)
  else none

def cannotUse? (e : Engine P) (id : DocumentId) : Option Refusal :=
  if e.stopped then some .shutDown
  else if e.store.contains id then none
  else some (.notOpen id)

theorem isRejection_of_cannotOpen? {e : Engine P} {id : DocumentId} {why : Refusal}
    (h : e.cannotOpen? id = some why) : why.isRejection = true := by
  unfold cannotOpen? at h
  split at h
  · cases h; rfl
  · split at h <;> cases h
    rfl

theorem isRejection_of_cannotUse? {e : Engine P} {id : DocumentId} {why : Refusal}
    (h : e.cannotUse? id = some why) : why.isRejection = true := by
  unfold cannotUse? at h
  split at h
  · cases h; rfl
  · split at h <;> cases h
    rfl

theorem cannotUse?_eq_none {e : Engine P} {id : DocumentId} :
    e.cannotUse? id = none ↔ e.stopped = false ∧ e.store.contains id = true := by
  unfold cannotUse?
  cases e.stopped <;> cases e.store.contains id <;> simp

theorem cannotUse?_congr {e e' : Engine P} (hr : e'.stopped = e.stopped) (hs : e'.store = e.store) (id : DocumentId) :
    e'.cannotUse? id = e.cannotUse? id := by
  simp only [cannotUse?, hr, hs]

section Refuses

variable {e : Engine P} {id : DocumentId} {why : Refusal}

theorem noteOpened_refuses_iff (text : String) :
    e.noteOpened id text = .error why ↔ e.cannotOpen? id = some why := by
  unfold noteOpened ensureRunning openDocument Store.openDocument cannotOpen? Store.contains
  cases e.stopped <;> cases e.store.find? id <;> simp [bind, Except.bind, pure, Except.pure]

theorem use_refuses_iff {α : Type} {f : Lifetime P → Except Refusal α} (hf : ∀ l, f l ≠ .error why) :
    (do e.ensureRunning; let l ← e.store.get id; f l) = .error why ↔ e.cannotUse? id = some why := by
  unfold ensureRunning Store.get cannotUse? Store.contains
  cases e.stopped <;> cases e.store.find? id <;> simp [bind, Except.bind, hf]

theorem noteChanged_refuses_iff (text : String) :
    e.noteChanged id text = .error why ↔ e.cannotUse? id = some why := by
  simp only [noteChanged, change, Store.change, bind_assoc]
  exact use_refuses_iff fun _ h => by cases h

theorem noteClosed_refuses_iff : e.noteClosed id = .error why ↔ e.cannotUse? id = some why := by
  simp only [noteClosed, close, Store.close, bind_assoc]
  exact use_refuses_iff fun _ h => by cases h

theorem requestAnalysis_refuses_iff : e.requestAnalysis id = .error why ↔ e.cannotUse? id = some why :=
  use_refuses_iff fun _ h => by cases h

theorem newWatch_refuses_iff {atLeast : Option Version} {timeout : Nat} {token : Option Token} {goal : Goal} :
    e.newWatch id atLeast timeout token goal = .error why ↔ e.cannotUse? id = some why :=
  use_refuses_iff fun _ h => by cases h

theorem requestAnalyses_refuses_iff {ids : List DocumentId} :
    (e.requestAnalyses ids).2 = .error why ↔ ids.findSome? e.cannotUse? = some why := by
  induction ids generalizing e with
  | nil => simp [requestAnalyses]
  | cons id ids ih =>
    cases h : e.requestAnalysis id with
    | error why' => simp [requestAnalyses, h, requestAnalysis_refuses_iff.mp h]
    | ok r =>
      obtain ⟨e₁,outcome⟩ := r
      obtain ⟨hk,hs⟩ := keeps_requestAnalysis h
      obtain ⟨hr,hl,_⟩ := requestAnalysis_ok.mp h
      -- A request that is let in changes neither the store nor whether the service runs: the rest fares as before.
      have hsame : e₁.cannotUse? = e.cannotUse? := funext (cannotUse?_congr hk.stopped hs)
      simp only [requestAnalyses, h, List.findSome?_cons, cannotUse?_eq_none.mpr ⟨hr, Store.contains_iff.mpr hl⟩]
      rw [ih, hsame]

end Refuses

theorem enqueue_eq (e : Engine P) (id : DocumentId) :
    ∃ bell ready, (e.enqueue id).1 = { e with queue := (e.queue.enqueue id).1, bell, ready } := by
  unfold enqueue
  dsimp only
  split
  · simp only [ring, wakeSome_eq]
    exact ⟨_, _, rfl⟩
  · exact ⟨_, _, rfl⟩

theorem requestAnalyses_eq (e : Engine P) (ids : List DocumentId) :
    ∃ bell ready, (e.requestAnalyses ids).1 =
      { e with queue := e.queue.enqueueAll (e.accepted ids), bell, ready } := by
  suffices h : ∃ queue bell ready, (e.requestAnalyses ids).1 = { e with queue, bell, ready } by
    obtain ⟨queue,bell,ready,h⟩ := h
    have hq := e.requestAnalyses_queue ids
    rw [h] at hq ⊢
    exact ⟨bell, ready, by rw [← hq]⟩
  induction ids generalizing e with
  | nil => exact ⟨_, _, _, rfl⟩
  | cons id ids ih =>
    simp only [requestAnalyses]
    split
    · rename_i e₁ outcome h
      obtain ⟨bell,ready,he⟩ := e.enqueue_eq id
      rw [(requestAnalysis_ok.mp h).2.2] at he
      change e₁ = _ at he
      subst he
      exact ih _
    · exact ⟨_, _, _, rfl⟩

def turnsAway? (e : Engine P) : Call → Option Refusal
  | .wait id _ _ _ => e.cannotUse? id
  | .openAndWait id _ _ => e.cannotOpen? id
  | .changeAndWait id _ _ => e.cannotUse? id
  | .query id _ => if e.store.contains id then e.cannotUse? id else some (.notOpen id)

inductive Admitted (e : Engine P) (t : Ticket) : Engine P → Prop where
  | waits (v : Watch) : Admitted e t (e.set t (.watch v))
  | ends {x : Ending P} (hx : x.isRejection = false) : Admitted e t (e.finish t x)

theorem watchFrom_refuses {e : Engine P} {id : DocumentId} {why : Refusal} (h : e.cannotUse? id = some why)
    (t : Ticket) (atLeast : Option Version) (timeout : Nat) (token : Option Token) (goal : Goal) :
    e.watchFrom t id atLeast timeout token goal = e.finish t (.refused why) := by
  simp only [watchFrom, newWatch_refuses_iff.mpr h]

theorem callTurn_turned_away {e : Engine P} {c : Call} {why : Refusal} (h : e.turnsAway? c = some why) (t : Ticket) :
    e.callTurn t c = e.finish t (.refused why) := by
  cases c with
  | wait id atLeast timeout token => exact watchFrom_refuses h t _ _ _ _
  | openAndWait id text timeout => simp only [callTurn, (noteOpened_refuses_iff text).mpr h]
  | changeAndWait id text timeout => simp only [callTurn, (noteChanged_refuses_iff text).mpr h]
  | query id timeout =>
    simp only [turnsAway?, Store.contains] at h
    simp only [callTurn, Store.get]
    cases hl : e.store.find? id with
    | none =>
      simp only [hl, Option.isSome_none, Bool.false_eq_true, if_false, Option.some.injEq] at h
      rw [← h]
    | some l =>
      simp only [hl, Option.isSome_some, if_true] at h
      exact watchFrom_refuses h t _ _ _ _

section Running

variable {e : Engine P} (hr : e.stopped = false)

include hr

theorem not_isRejection_of_outcome? {v : Watch} {why : Refusal} (h : e.outcome? v = some (.error why)) :
    why.isRejection = false := by
  unfold outcome? at h
  split at h
  · rename_i answer ha
    rcases (e.slot v.generation).answer?_cases v.id v.atLeast with ⟨_,_,_,hx⟩ | ⟨_,_,hx⟩ | ⟨_,_,hx⟩ <;>
      rw [ha] at hx <;> cases hx <;> cases h
    rfl
  · rw [hr] at h
    split at h
    · cases h; rfl
    · simp only [Bool.false_eq_true, if_false] at h
      split at h <;> cases h
      rfl

omit hr in
theorem current_error {v : Watch} {f : Finding P} {text : String} {why : Refusal}
    (h : (if f.version = v.atLeast then .ok (text,v.atLeast)
      else (e.store.get v.id).map fun l => (l.text,l.version) : Except Refusal (String × Version)) = .error why) :
    e.store.find? v.id = none := by
  split at h
  · cases h
  · unfold Store.get at h
    cases hl : e.store.find? v.id with
    | none => rfl
    | some l => simp [hl, Except.map] at h

-- The service runs and the document is open throughout the turn, so that a query that looks again is let in again.

theorem admitted_pair {v : Watch} {l : Lifetime P} (hl : e.store.find? v.id = some l) (t : Ticket) (text : String)
    (n : Nat) (f : Finding P) : e.Admitted t (e.pair t v text n f) := by
  induction n generalizing v l text f with
  | zero =>
    unfold pair
    dsimp only
    split
    · rename_i hc
      simp [current_error hc] at hl
    · split <;> exact .ends rfl
  | succ n ih =>
    unfold pair
    dsimp only
    split
    · rename_i hc
      simp [current_error hc] at hl
    · split
      · exact .ends rfl
      · split
        · rename_i hw
          have hn := cannotUse?_eq_none.mpr ⟨hr, Store.contains_iff.mpr ⟨l,hl⟩⟩
          simp [newWatch_refuses_iff.mp hw] at hn
        · rename_i v' hv
          obtain ⟨_,l',hl',hv'⟩ := newWatch_ok.mp hv
          split
          · exact .waits v'
          · rename_i ho
            exact .ends (not_isRejection_of_outcome? hr ho)
          · exact ih (v := v') (l := l') (by rw [hv']; exact hl') _ _

theorem admitted_watchTurn {v : Watch} {l : Lifetime P} (hl : e.store.find? v.id = some l) (t : Ticket) :
    e.Admitted t (e.watchTurn t v) := by
  unfold watchTurn
  split
  · exact .waits v
  · rename_i ho
    exact .ends (not_isRejection_of_outcome? hr ho)
  · split
    · exact .ends rfl
    · exact admitted_pair hr hl t _ _ _

omit hr in
theorem admitted_watchFrom {id : DocumentId} (h : e.cannotUse? id = none) (t : Ticket) (atLeast : Option Version)
    (timeout : Nat) (token : Option Token) (goal : Goal) :
    e.Admitted t (e.watchFrom t id atLeast timeout token goal) := by
  unfold watchFrom
  split
  · rename_i hw
    simp [newWatch_refuses_iff.mp hw] at h
  · rename_i v hv
    obtain ⟨hr,l,hl,rfl⟩ := newWatch_ok.mp hv
    exact admitted_watchTurn hr hl t

end Running

theorem usable_opened {e e₁ : Engine P} {id : DocumentId} {text : String} (h : e.noteOpened id text = .ok e₁) :
    e₁.cannotUse? id = none := by
  obtain ⟨_,hs⟩ := Store.openDocument_ok.mp (noteOpened_store h)
  refine cannotUse?_eq_none.mpr ⟨(keeps_noteOpened h).stopped.trans (noteOpened_ok.mp h).1, ?_⟩
  have hf := e.store.find?_opened id { id, generation := e.store.lifetimes.length + 1, text } rfl
  simp [Store.contains, hs, hf]

theorem usable_changed {e e₁ : Engine P} (hv : e.store.Valid) {id : DocumentId} {text : String} {version : Version}
    (h : e.noteChanged id text = .ok (e₁,version)) : e₁.cannotUse? id = none := by
  obtain ⟨l,hl,_,hs⟩ := Store.change_ok.mp (noteChanged_store h)
  refine cannotUse?_eq_none.mpr ⟨(keeps_noteChanged h).stopped.trans (noteChanged_ok.mp h).1, ?_⟩
  simp [Store.contains, hs, hv.find?_changed hl]

-- A call opens or changes its document before it waits, and then waits for a document that it can use.
theorem callTurn_admitted {e : Engine P} (hv : e.store.Valid) {c : Call} (h : e.turnsAway? c = none) (t : Ticket) :
    ∃ e₁, e.Noted e₁ ∧ e₁.Admitted t (e.callTurn t c) := by
  cases c with
  | wait id atLeast timeout token => exact ⟨e, .nothing, admitted_watchFrom h t _ _ _ _⟩
  | openAndWait id text timeout =>
    simp only [callTurn]
    split
    · rename_i hn
      simp [(noteOpened_refuses_iff text).mp hn, turnsAway?] at h
    · rename_i e₁ hn
      exact ⟨e₁, .opened hn, admitted_watchFrom (usable_opened hn) t _ _ _ _⟩
  | changeAndWait id text timeout =>
    simp only [callTurn]
    split
    · rename_i hn
      simp [(noteChanged_refuses_iff text).mp hn, turnsAway?] at h
    · rename_i e₁ v hn
      exact ⟨e₁, .changed hn, admitted_watchFrom (usable_changed hv hn) t _ _ _ _⟩
  | query id timeout =>
    simp only [turnsAway?, Store.contains] at h
    simp only [callTurn, Store.get]
    cases hl : e.store.find? id with
    | none => simp [hl] at h
    | some l =>
      simp only [hl, Option.isSome_some, if_true] at h
      exact ⟨e, .nothing, admitted_watchFrom h t _ _ _ _⟩

theorem Admitted.not_rejected {e e' : Engine P} {t : Ticket} (h : e.Admitted t e') {why : Refusal}
    (hn : (t,.refused why) ∉ e.ended) (hx : (t,.refused why) ∈ e'.ended) : why.isRejection = false := by
  cases h with
  | waits v => exact absurd hx hn
  | ends hr =>
    rcases List.mem_append.mp hx with hx | hx
    · exact absurd hx hn
    · cases List.mem_singleton.mp hx
      exact hr

theorem isRejection_of_turnsAway? {e : Engine P} {c : Call} {why : Refusal} (h : e.turnsAway? c = some why) :
    why.isRejection = true := by
  cases c with
  | wait => exact isRejection_of_cannotUse? h
  | openAndWait => exact isRejection_of_cannotOpen? h
  | changeAndWait => exact isRejection_of_cannotUse? h
  | query id timeout =>
    simp only [turnsAway?] at h
    split at h
    · exact isRejection_of_cannotUse? h
    · cases h
      rfl

theorem callTurn_rejected_iff {e : Engine P} (hv : e.store.Valid) {t : Ticket} {c : Call} {why : Refusal}
    (hn : ∀ x, (t,x) ∉ e.ended) :
    (t,.refused why) ∈ (e.callTurn t c).ended ∧ why.isRejection = true ↔ e.turnsAway? c = some why := by
  cases h : e.turnsAway? c with
  | none =>
    obtain ⟨e₁,hnoted,hadmitted⟩ := callTurn_admitted hv h t
    have hn₁ : (t,.refused why) ∉ e₁.ended := hnoted.keeps.ended ▸ hn _
    simp only [reduceCtorEq, iff_false, not_and, Bool.not_eq_true]
    exact hadmitted.not_rejected hn₁
  | some why' =>
    have hmem : (t,.refused why) ∈ (e.finish t (.refused why')).ended ↔ why = why' := by
      simp [finish, remove, hn]
    rw [callTurn_turned_away h, hmem, Option.some.injEq, eq_comm (a := why')]
    exact and_iff_left_of_imp fun hw => hw ▸ isRejection_of_turnsAway? h

theorem turn_turned_away (w : Worker P) {e : Engine P} (hv : e.store.Valid) {t : Ticket} {c : Call} {why : Refusal}
    (hc : e.activity? t = some (.call c)) (hn : ∀ x, (t,x) ∉ e.ended) (hwhy : why.isRejection = true)
    (hx : (t,.refused why) ∈ (e.turn w t).ended) : e.turn w t = e.finish t (.refused why) := by
  have hturn : e.turn w t = e.callTurn t c := by simp only [turn, hc]
  rw [hturn] at hx ⊢
  exact callTurn_turned_away ((callTurn_rejected_iff hv hn).mp ⟨hx,hwhy⟩) t

theorem filter_start {e : Engine P} (h : e.activity? e.tickets = none) (a : Activity P) :
    (e.start a).activities.filter (·.1 ≠ e.tickets) = e.activities := by
  have hother : ∀ p ∈ e.activities, decide (p.1 ≠ e.tickets) = true := fun p hp => by
    have := List.find?_eq_none.mp (Option.map_eq_none_iff.mp h) p hp
    simpa using this
  rw [start, List.filter_append, List.filter_eq_self.mpr hother]
  simp

end Engine

namespace Service

open Engine

def rejection? (s : Service P) : Request → Option Refusal
  | .openDocument id _ => s.engine.cannotOpen? id
  | .change id _ => s.engine.cannotUse? id
  | .close id => s.engine.cannotUse? id
  | .analyse id => s.engine.cannotUse? id
  | .analyseAll ids => ids.findSome? s.engine.cannotUse?
  | _ => none

theorem receive_refuses_iff (s : Service P) (r : Request) (why : Refusal) :
    (s.receive r).2 = .refused why ↔ s.rejection? r = some why := by
  cases r with
  | openDocument id text =>
    rw [rejection?, ← noteOpened_refuses_iff text]
    cases h : s.engine.noteOpened id text <;> simp [receive, h]
  | change id text =>
    rw [rejection?, ← noteChanged_refuses_iff text]
    cases h : s.engine.noteChanged id text <;> simp [receive, h]
  | close id =>
    rw [rejection?, ← noteClosed_refuses_iff]
    cases h : s.engine.noteClosed id <;> simp [receive, h]
  | analyse id =>
    rw [rejection?, ← requestAnalysis_refuses_iff]
    cases h : s.engine.requestAnalysis id <;> simp [receive, h]
  | analyseAll ids =>
    rw [rejection?, ← requestAnalyses_refuses_iff]
    rcases h : s.engine.requestAnalyses ids with ⟨e,_ | _⟩ <;> simp [receive, h]
  | _ => simp [receive, rejection?, begin]

theorem isRejection_of_refused {s : Service P} {r : Request} {why : Refusal} (h : (s.receive r).2 = .refused why) :
    why.isRejection = true := by
  rw [receive_refuses_iff] at h
  cases r with
  | openDocument => exact isRejection_of_cannotOpen? h
  | change => exact isRejection_of_cannotUse? h
  | close => exact isRejection_of_cannotUse? h
  | analyse => exact isRejection_of_cannotUse? h
  | analyseAll ids =>
    obtain ⟨id,_,hid⟩ := List.exists_of_findSome?_eq_some h
    exact isRejection_of_cannotUse? hid
  | _ => simp [rejection?] at h

theorem receive_refused {s : Service P} {r : Request} {why : Refusal} (h : (s.receive r).2 = .refused why)
    (hr : ∀ ids, r ≠ .analyseAll ids) : (s.receive r).1 = s := by
  cases r with
  | openDocument id text => cases hn : s.engine.noteOpened id text <;> simp [receive, hn] at h ⊢
  | change id text => cases hn : s.engine.noteChanged id text <;> simp [receive, hn] at h ⊢
  | close id => cases hn : s.engine.noteClosed id <;> simp [receive, hn] at h ⊢
  | analyse id => cases hn : s.engine.requestAnalysis id <;> simp [receive, hn] at h ⊢
  | analyseAll ids => exact absurd rfl (hr ids)
  | _ => simp [receive, begin] at h

theorem receive_analyseAll (s : Service P) (ids : List DocumentId) :
    (s.receive (.analyseAll ids)).1 = { s with engine := (s.engine.requestAnalyses ids).1 } := by
  rcases h : s.engine.requestAnalyses ids with ⟨e,_ | _⟩ <;> simp [receive, h]

theorem receive_analyse_ok {s : Service P} {id : DocumentId} {e : Engine P} {outcome : Enqueued}
    (h : s.engine.requestAnalysis id = .ok (e,outcome)) : (s.receive (.analyse id)).1 = { s with engine := e } := by
  simp [receive, h]

theorem analyseAll_one_by_one (s : Service P) (ids : List DocumentId) :
    (s.receive (.analyseAll ids)).1 = (s.engine.accepted ids).foldl (fun s id => (s.receive (.analyse id)).1) s := by
  induction ids generalizing s with
  | nil => simp [receive_analyseAll, requestAnalyses, accepted]
  | cons id ids ih =>
    rw [receive_analyseAll]
    cases h : s.engine.requestAnalysis id with
    | ok r =>
      obtain ⟨e,outcome⟩ := r
      rw [accepted_cons_ok h, List.foldl_cons, receive_analyse_ok h, ← ih, receive_analyseAll]
      simp only [requestAnalyses, h]
    | error why =>
      rw [accepted_cons_error h]
      simp only [requestAnalyses, h, List.foldl_nil]

theorem analyseAll_refused {s : Service P} {ids : List DocumentId} {why : Refusal}
    (h : (s.receive (.analyseAll ids)).2 = .refused why) :
    s.isShutDown = true ∧ why = .shutDown ∧ s.engine.accepted ids = [] ∨
    s.isShutDown = false ∧ ∃ before id more, ids = before ++ id :: more ∧ why = .notOpen id ∧
      (∀ x ∈ before, s.engine.store.contains x = true) ∧ s.engine.store.contains id = false ∧
      s.engine.accepted ids = before := by
  rw [receive_refuses_iff] at h
  -- After the shutdown the first document of all is refused, before it the first that is not open.
  obtain ⟨before,id,more,rfl,hid,hbefore⟩ := List.findSome?_eq_some_iff.mp h
  unfold cannotUse? at hid
  unfold isShutDown accepted
  split at hid
  · rename_i hr
    cases hid
    exact Or.inl ⟨hr, rfl, if_pos hr⟩
  · rename_i hr
    split at hid
    · cases hid
    · rename_i hopen
      cases hid
      have hall : ∀ x ∈ before, s.engine.store.contains x = true := fun x hx =>
        (cannotUse?_eq_none.mp (hbefore x hx)).2
      refine Or.inr ⟨by simpa using hr, before, id, more, rfl, rfl, hall, by simpa using hopen, ?_⟩
      rw [if_neg hr, List.takeWhile_append_of_pos hall, List.takeWhile_cons_of_neg hopen, List.append_nil]

theorem move_turned_away {s : Service P} {i : Nat} {t : Ticket} {c : Call} {why : Refusal} (ho : s.engine.Orderly)
    (hi : s.engine.ready[i]? = some t) (hc : s.engine.activity? t = some (.call c)) (hwhy : why.isRejection = true)
    (hx : (t,.refused why) ∈ (s.move (.turn i)).engine.ended) :
    s.move (.turn i) = { s with
      engine := ({ s.engine with ready := s.engine.ready.eraseIdx i } : Engine P).finish t (.refused why) } := by
  have hn : ∀ x, (t,x) ∉ s.engine.ended := fun x hx => by simp [(ho.ended t x hx).2] at hc
  simp only [move, Engine.move, hi] at hx ⊢
  rw [turn_turned_away s.worker (e := { s.engine with ready := s.engine.ready.eraseIdx i }) ho.valid hc hn hwhy hx]

theorem startNow_turned_away {s : Service P} {c : Call} {why : Refusal} (ho : s.engine.Orderly)
    (hwhy : why.isRejection = true)
    (hx : (s.engine.tickets,.refused why) ∈ ((s.receive (.call c)).1.startNow).engine.ended) :
    (s.receive (.call c)).1.startNow = { s with
      engine := { s.engine with
        tickets := s.engine.tickets + 1
        ended := s.engine.ended ++ [(s.engine.tickets,.refused why)] } } := by
  have hready : (s.receive (.call c)).1.engine.ready = s.engine.ready ++ [s.engine.tickets] := rfl
  have ho' : (s.receive (.call c)).1.engine.Orderly := ho.move s.worker (.ask (.call c))
  have hc : (s.receive (.call c)).1.engine.activity? s.engine.tickets = some (.call c) := by
    rw [show (s.receive (.call c)).1.engine = s.engine.start (.call c) from rfl, activity?_start, ho.free, if_pos rfl,
      Option.none_or]
  have hi : (s.receive (.call c)).1.engine.ready[s.engine.ready.length]? = some s.engine.tickets := by
    simp [hready]
  rw [startNow_eq hready] at hx ⊢
  rw [move_turned_away ho' hi hc hwhy hx]
  have hactivities : (s.receive (.call c)).1.engine.activities.filter (·.1 ≠ s.engine.tickets) =
      s.engine.activities := filter_start ho.free (.call c)
  simp only [finish, remove, hactivities, hready, List.eraseIdx_append_of_length_le (Nat.le_refl _)]
  simp [receive, begin, Engine.start]

theorem rejections_leave_no_trace (analyzer : Analyzer P) (config : Config) (gate : Option Gate) (moves : List Move) :
    let s := (Service.start analyzer config gate).after moves
    (∀ r why, (s.receive r).2 = .refused why ↔ s.rejection? r = some why) ∧
    (∀ r why, (s.receive r).2 = .refused why → why.isRejection = true ∧
      ((∀ ids, r ≠ .analyseAll ids) → (s.receive r).1 = s)) ∧
    (∀ ids why, (s.receive (.analyseAll ids)).2 = .refused why →
      s.isShutDown = true ∧ why = .shutDown ∧ (s.receive (.analyseAll ids)).1 = s ∨
      s.isShutDown = false ∧ ∃ before id more, ids = before ++ id :: more ∧ why = .notOpen id ∧
        (∀ x ∈ before, s.engine.store.contains x = true) ∧ s.engine.store.contains id = false ∧
        (s.receive (.analyseAll ids)).1 = before.foldl (fun s x => (s.receive (.analyse x)).1) s ∧
        ∃ bell ready, (s.receive (.analyseAll ids)).1 =
          { s with engine := { s.engine with queue := s.engine.queue.enqueueAll before, bell, ready } }) ∧
    (∀ i t c why, s.engine.ready[i]? = some t → s.engine.activity? t = some (.call c) → why.isRejection = true →
      (t,.refused why) ∈ (s.move (.turn i)).engine.ended →
      s.move (.turn i) = { s with
        engine := { s.engine with
          ready := s.engine.ready.eraseIdx i
          activities := s.engine.activities.filter (·.1 ≠ t)
          ended := s.engine.ended ++ [(t,.refused why)] } }) ∧
    (∀ c why, why.isRejection = true →
      (s.engine.tickets,.refused why) ∈ ((s.receive (.call c)).1.startNow).engine.ended →
      (s.receive (.call c)).1.startNow = { s with
        engine := { s.engine with
          tickets := s.engine.tickets + 1
          ended := s.engine.ended ++ [(s.engine.tickets,.refused why)] } }) ∧
    (∀ id, (s.receive (.analyse id)).1.engine.store = s.engine.store) ∧
    (∀ ids, (s.receive (.analyseAll ids)).1.engine.store = s.engine.store) ∧
    (s.isShutDown = true → ∀ id text, s.receive (.change id text) = (s,.refused .shutDown)) := by
  intro s
  have ho : s.engine.Orderly := orderly_reached analyzer config gate moves
  refine ⟨receive_refuses_iff s, fun r why h => ⟨isRejection_of_refused h, receive_refused h⟩,
    fun ids why h => ?_, fun i t c why => move_turned_away ho, fun c why => startNow_turned_away ho, fun id => ?_,
    fun ids => ?_, fun hr id text => ?_⟩
  · have hone := s.analyseAll_one_by_one ids
    obtain ⟨bell,ready,hframe⟩ := s.engine.requestAnalyses_eq ids
    rcases analyseAll_refused h with ⟨hr,hwhy,haccepted⟩ | ⟨hr,before,id,more,hids,hwhy,hall,hid,haccepted⟩
    · rw [haccepted] at hone
      exact Or.inl ⟨hr, hwhy, hone⟩
    · rw [haccepted] at hone hframe
      refine Or.inr ⟨hr, before, id, more, hids, hwhy, hall, hid, hone, bell, ready, ?_⟩
      rw [receive_analyseAll, hframe]
  · cases h : s.engine.requestAnalysis id with
    | ok r =>
      rw [receive_analyse_ok h]
      exact (keeps_requestAnalysis h).2
    | error why => simp [receive, h]
  · rw [receive_analyseAll]
    exact (s.engine.keeps_requestAnalyses ids).2
  · have hwhy : s.rejection? (.change id text) = some .shutDown := if_pos hr
    have h := (receive_refuses_iff s (.change id text) .shutDown).mpr hwhy
    exact Prod.ext (receive_refused h (by simp)) h

-- Two open documents and an unknown one, before and after the shutdown; ticket 2 is the wait of a caller.
theorem rejections_leave_no_trace_unknown :
    let analyzer : Analyzer Nat := fun _ _ _ => .found 5
    let a : DocumentId := ⟨"file:///a"⟩
    let b : DocumentId := ⟨"file:///b"⟩
    let c : DocumentId := ⟨"file:///c"⟩
    let moves : List Move := [.ask (.openDocument a "x"), .turn 0, .ask (.openDocument b "y"),
      .ask (.call (.wait c none 100 none))]
    let s := (Service.start analyzer {} none).after moves
    let s' := (Service.start analyzer {} none).after (moves ++ [.ask .shutdown, .turn 2])
    s.receive (.openDocument a "z") = (s,.refused (.alreadyOpen a)) ∧
    (s.receive (.analyseAll [a,c,b])).2 = .refused (.notOpen c) ∧
    (s.receive (.analyseAll [a,c,b])).1 = (s.receive (.analyse a)).1 ∧
    (s.receive (.analyse a)).1.engine.queue.order = [b,a] ∧
    (2,.refused (.notOpen c)) ∈ (s.move (.turn 1)).engine.ended ∧
    (s.move (.turn 1)).engine.activities = s.engine.activities.filter (·.1 ≠ 2) ∧
    ((s.receive (.call (.openAndWait a "z" 100))).1.startNow).engine =
      { s.engine with tickets := 4, ended := [(3,.refused (.alreadyOpen a))] } ∧
    s'.isShutDown = true ∧ s'.receive (.change c "z") = (s',.refused .shutDown) := by
  intro analyzer a b c moves s s'
  obtain ⟨_,hsingle,hseveral,hturn,hnow,_⟩ := rejections_leave_no_trace analyzer {} none moves
  have hshut := (rejections_leave_no_trace analyzer {} none (moves ++ [.ask .shutdown, .turn 2])).2.2.2.2.2.2.2
  have hopen : (s.receive (.openDocument a "z")).2 = .refused (.alreadyOpen a) := by decide +kernel
  have hmany : (s.receive (.analyseAll [a,c,b])).2 = .refused (.notOpen c) := by decide +kernel
  have hone : (s.receive (.analyseAll [a,c,b])).1 = (s.receive (.analyse a)).1 := by
    rcases hseveral _ _ hmany with ⟨_,hx,_⟩ | ⟨_,before,id,more,hids,hx,_,_,hs,_⟩
    · cases hx
    · cases hx
      have hbefore : before = [a] := by
        rcases before with _ | ⟨x, _ | ⟨y, _ | ⟨z, rest⟩⟩⟩ <;> simp [a, b, c] at hids ⊢
        exact hids.1.symm
      rw [hs, hbefore]
      rfl
  have hwaits : s.engine.ready[1]? = some 2 ∧ s.engine.activity? 2 = some (.call (.wait c none 100 none)) := by
    decide +kernel
  have hended : (2,.refused (.notOpen c)) ∈ (s.move (.turn 1)).engine.ended := by decide +kernel
  have hcalled : (s.engine.tickets,.refused (.alreadyOpen a)) ∈
      ((s.receive (.call (.openAndWait a "z" 100))).1.startNow).engine.ended := by decide +kernel
  have hcall : ((s.receive (.call (.openAndWait a "z" 100))).1.startNow).engine =
      { s.engine with tickets := 4, ended := [(3,.refused (.alreadyOpen a))] } := by
    rw [hnow _ _ rfl hcalled]
    rfl
  have hdown : s'.isShutDown = true := by decide +kernel
  exact ⟨Prod.ext ((hsingle _ _ hopen).2 (by simp)) hopen, hmany, hone, by decide +kernel, hended,
    congrArg (·.engine.activities) (hturn 1 2 _ _ hwaits.1 hwaits.2 rfl hended), hcall, hdown, hshut hdown c "z"⟩

end Service

end LiveAnalysis
