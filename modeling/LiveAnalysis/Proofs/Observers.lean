import LiveAnalysis.Proofs.Abridged
import LiveAnalysis.Proofs.Gates

namespace LiveAnalysis

variable {P : Type}

def Activity.consults? (call : Nat) : Activity P → Option (Nat × Snapshot)
  | .analysis _ s none => some (call, s)
  | _ => none

def Store.stores? (s : Store P) : Snapshot × Verdict P → Option (Snapshot × P)
  | (snapshot, .found payload) =>
    if (s.publish snapshot payload).2 = .stored then some (snapshot, payload) else none
  | _ => none

namespace Engine

variable {w : Worker P} {e : Engine P} {t : Ticket}

def Carries (e : Engine P) (t : Ticket) (token : Option Token) (observes : Bool) : Prop :=
  ∀ a, e.activity? t = some a → a.token? = token ∧ (observes = true → a.observes = true)

variable {token : Option Token} {observes : Bool}

theorem carries_finish (e : Engine P) (t : Ticket) (x : Ending P) : (e.finish t x).Carries t token observes := by
  intro a ha
  simp [activity?_finish] at ha

theorem carries_set (e : Engine P) (t : Ticket) {b : Activity P}
    (h : b.token? = token ∧ (observes = true → b.observes = true)) : (e.set t b).Carries t token observes := by
  intro a ha
  rw [activity?_set, if_pos rfl] at ha
  obtain ⟨_,_,rfl⟩ := Option.map_eq_some_iff.mp ha
  exact h

theorem carries_watchTurn (e : Engine P) (t : Ticket) (v : Watch) :
    (e.watchTurn t v).Carries t v.token (Activity.watch (P := P) v).observes := by
  rcases e.watchTurn_cases t v with ⟨x,hx⟩ | ⟨v',hx,_,rfl | ⟨hg,hr⟩⟩ <;> rw [hx]
  · exact carries_finish e t x
  · exact carries_set e t ⟨rfl, fun h => h⟩
  · exact carries_set e t ⟨hr.token, fun h => absurd (of_decide_eq_true h) hg⟩

theorem carries_watchFrom (e : Engine P) (t : Ticket) (id : DocumentId) (atLeast : Option Version)
    (timeout : Nat) (token : Option Token) {goal : Goal} (ho : observes = true → goal = .finding) :
    (e.watchFrom t id atLeast timeout token goal).Carries t token observes := by
  rcases e.watchFrom_cases t id atLeast timeout token goal with ⟨x,hx⟩ | ⟨v,hx,_,ht,hg⟩ <;> rw [hx]
  · exact carries_finish e t x
  · exact carries_set e t ⟨ht, fun h => decide_eq_true (hg (ho h))⟩

theorem carries_callTurn (e : Engine P) (t : Ticket) (c : Call) :
    (e.callTurn t c).Carries t (Activity.call (P := P) c).token? (Activity.call (P := P) c).observes := by
  rcases e.callTurn_cases t c with ⟨x,hx⟩ | ⟨e₁,_,_,_,_,_,_,hx,⟨rfl,rfl⟩ | ⟨rfl,hc⟩⟩
  · rw [hx]
    exact carries_finish e t x
  · exact carries_watchFrom e t _ _ _ _ fun _ => rfl
  · rw [hx]
    cases c with
    | wait id atLeast timeout token => exact absurd rfl (hc _ _ _ _)
    | _ => exact carries_watchFrom e₁ t _ _ _ none fun h => by simp [Activity.observes] at h

theorem carries_turn (w : Worker P) {a : Activity P} (ha : e.activity? t = some a) (hc : a.isCaller = true) :
    (e.turn w t).Carries t a.token? a.observes := by
  simp only [turn, ha]
  cases a with
  | call c => exact carries_callTurn e t c
  | watch v => exact carries_watchTurn e t v
  | shutdown begun =>
    intro b hb
    rw [shutdownTurn_activity? e t begun b hb]
    exact ⟨rfl, fun h => h⟩
  | _ => simp [Activity.isCaller] at hc

def wait? (e : Engine P) : Move → Option (Ticket × Option Token)
  | .ask (.call (.wait _ _ _ token)) => some (e.tickets, token)
  | _ => none

def exchange? (w : Worker P) (e : Engine P) : Move → Option (Request × Reply)
  | .ask r => some (r, ((⟨w, {}, e⟩ : Service P).receive r).2)
  | _ => none

theorem consulted?_eq (e : Engine P) (m : Move) : e.consulted? m =
    (e.turning? m).bind fun t => (e.activity? t).bind (Activity.consults? (e.calls + 1)) := by
  unfold consulted?
  cases e.turning? m with
  | none => rfl
  | some t =>
    simp only [Option.bind_some]
    rcases e.activity? t with _ | a
    · rfl
    · cases a with
      | analysis owner s call => cases call <;> rfl
      | _ => rfl

theorem stored?_eq (e : Engine P) (m : Move) : e.stored? m =
    (e.turning? m).bind fun t => (e.activity? t).bind fun a => a.verdict?.bind e.store.stores? := by
  have hs : e.stored? m = (e.attempt? m).bind e.store.stores? := by
    unfold stored?
    rcases e.attempt? m with _ | ⟨s,verdict⟩
    · rfl
    · cases verdict <;> rfl
  rw [hs, attempt?, Option.bind_assoc]
  simp only [Option.bind_assoc]

end Engine

namespace Omission

variable {o : Omission} {e e' : Engine P} {t : Ticket}

/-- The calls that are left out are waits, and no other wait heeds a token whose cancelling is left out. -/
structure Spares (o : Omission) (e : Engine P) : Prop where
  worker : 0 ∉ o.calls
  gone : ∀ t a, e.activity? t = some a → t ∈ o.calls → a.observes = true
  heeded : ∀ t a, e.activity? t = some a → t ∉ o.calls → o.heeds a.token?
  gate : ∀ t ∈ e.atGate, t ∉ o.calls
  held : e.abandoned = false

theorem heeds_none : o.heeds none := by simp [heeds]

theorem Spares.keeps (h : o.Spares e) (k : e.Keeps e') (hg : ∀ t ∈ e'.atGate, t ∈ e.atGate) :
    o.Spares e' where
  worker := h.worker
  gone t a ha := h.gone t a (k.activity? t ▸ ha)
  heeded t a ha := h.heeded t a (k.activity? t ▸ ha)
  gate t ht := h.gate t (hg t ht)
  held := k.abandoned.trans h.held

theorem Spares.still (h : o.Spares e) (k : e.Keeps e') (hg : e'.gate = e.gate) : o.Spares e' :=
  h.keeps k fun _ ht => Engine.atGate_congr hg ▸ ht

theorem Spares.start (h : o.Spares e) {a : Activity P}
    (hg : e.tickets ∈ o.calls → a.observes = true) (hh : e.tickets ∉ o.calls → o.heeds a.token?) :
    o.Spares (e.start a) := by
  have hnew : ∀ t b, (e.start a).activity? t = some b → e.activity? t = some b ∨ t = e.tickets ∧ b = a := by
    intro t b hb
    rw [Engine.activity?_start, Option.or_eq_some_iff] at hb
    rcases hb with hb | ⟨_,hb⟩
    · exact Or.inl hb
    · split at hb
      · rename_i ht
        exact Or.inr ⟨ht, (Option.some.inj hb).symm⟩
      · simp at hb
  refine ⟨h.worker, fun t b hb ht => ?_, fun t b hb ht => ?_, h.gate, h.held⟩
  · rcases hnew t b hb with hb | ⟨rfl,rfl⟩
    · exact h.gone t b hb ht
    · exact hg ht
  · rcases hnew t b hb with hb | ⟨rfl,rfl⟩
    · exact h.heeded t b hb ht
    · exact hh ht

theorem Spares.turn (h : o.Spares e) (w : Worker P) (hv : e.store.Valid) (hst : e.Staffed) (t : Ticket)
    (hn : e.tickets < (e.turn w t).tickets → e.tickets ∉ o.calls) : o.Spares (e.turn w t) := by
  have hturned := Engine.turned w e hv t
  refine ⟨h.worker, fun u a hu hc => ?_, fun u a hu hc => ?_, fun u hu => ?_, hturned.abandoned.trans h.held⟩
  · cases hturned.arises u a hu with
    | kept hx => exact h.gone u a hx hc
    | begun hx _ _ _ _ _ hlt => exact absurd hc (hn hlt)
    | watching hx ha => exact (Engine.carries_turn w hx ha _ hu).2 (h.gone _ _ hx hc)
    | judgedLoop _ hx => simpa [Activity.observes] using h.gone _ _ hx hc
    | judgedProcess _ hx => simpa [Activity.observes] using h.gone _ _ hx hc
    | _ hx => simpa [Activity.observes] using h.gone _ _ hx hc
  · cases hturned.arises u a hu with
    | kept hx => exact h.heeded u a hx hc
    | watching hx ha =>
      rw [(Engine.carries_turn w hx ha _ hu).1]
      exact h.heeded _ _ hx hc
    | _ => exact heeds_none
  · rcases Engine.turn_gate w hst t hu with hu | ⟨rfl,s,c,hx⟩
    · exact h.gate u hu
    · exact fun hc => by simpa [Activity.observes] using h.gone _ _ hx hc

structure Admits (o : Omission) (w : Worker P) (e : Engine P) (m : Service.Move) : Prop where
  held : m ≠ .ask .abandon
  waits : e.tickets ∈ o.calls → e.tickets < (e.move w m.engine).tickets →
    ∃ token, e.wait? m.engine = some (e.tickets, token)
  heeds : ∀ token, e.wait? m.engine = some (e.tickets, token) → e.tickets ∉ o.calls → o.heeds token

variable {w : Worker P} {m : Service.Move}

theorem Spares.ask (h : o.Spares e) {r : Request} (hm : o.Admits w e (.ask r)) : o.Spares (e.move w (.ask r)) := by
  simp only [Engine.move]
  cases r with
  | openDocument id text =>
    simp only [Service.receive]
    split
    · rename_i hr
      exact h.still (Engine.keeps_noteOpened hr) (Engine.noteOpened_gate hr)
    · exact h
  | change id text =>
    simp only [Service.receive]
    split
    · rename_i hr
      exact h.still (Engine.keeps_noteChanged hr) (Engine.noteChanged_gate hr)
    · exact h
  | close id =>
    simp only [Service.receive]
    split
    · rename_i hr
      exact h.still (Engine.keeps_noteClosed hr) (Engine.noteClosed_gate hr)
    · exact h
  | analyse id =>
    simp only [Service.receive]
    split
    · rename_i hr
      exact h.still (Engine.keeps_requestAnalysis hr).1 (Engine.requestAnalysis_gate hr)
    · exact h
  | analyseAll ids =>
    have hk := h.still (e.keeps_requestAnalyses ids).1 (e.requestAnalyses_gate ids)
    simp only [Service.receive]
    split <;> rename_i hr <;> rw [hr] at hk <;> exact hk
  | call c =>
    refine h.start (fun hc => ?_) fun hc => ?_
    · obtain ⟨token,hw⟩ := hm.waits hc (Nat.lt_succ_self _)
      cases c <;> simp [Engine.wait?, Service.Move.engine] at hw
      rfl
    · cases c with
      | wait id atLeast timeout token => exact hm.heeds token rfl hc
      | _ => exact heeds_none
  | cancel token =>
    have hc : o.Spares ({ e with cancelled := token :: e.cancelled } : Engine P) := { h with }
    exact hc.still (Engine.keeps_wakeAll _ _) (Engine.wakeAll_gate _ _)
  | shutdown =>
    refine h.start (fun hc => ?_) fun _ => heeds_none
    obtain ⟨token,hw⟩ := hm.waits hc (Nat.lt_succ_self _)
    simp [Engine.wait?, Service.Move.engine] at hw
  | abandon => exact absurd rfl hm.held
  | release permits => exact h.keeps (e.keeps_release permits) fun t => e.release_gate permits
  | advance ms => exact { h with }

theorem Spares.move (h : o.Spares e) (hs : e.Steady) (hm : o.Admits w e m) : o.Spares (e.move w m.engine) := by
  cases m with
  | ask r => exact h.ask hm
  | turn place =>
    have hn := hm.waits
    simp only [Service.Move.engine, Engine.move] at hn ⊢
    split at hn
    · exact h
    · rename_i t ht
      have hr : o.Spares ({ e with ready := e.ready.eraseIdx place } : Engine P) := { h with }
      refine hr.turn w hs.orderly.valid { hs.staffed with } t fun hlt hc => ?_
      obtain ⟨token,hw⟩ := hn hc hlt
      simp [Engine.wait?] at hw
  | alarms =>
    have hc : o.Spares ({ e with alarmed := e.clock } : Engine P) := { h with }
    exact hc.still (Engine.keeps_wakeAll _ _) (Engine.wakeAll_gate _ _)
  | hangUp =>
    simp only [Service.Move.engine, Engine.move, Engine.hangUp_held h.held]
    exact h

theorem engine_turn (h : o.Spares e) {x : Option Ticket} (ht : e.Tidy x) (hst : e.Staffed) (hk : t ∉ o.calls)
    (hn : e.tickets < (e.turn w t).tickets → e.tickets ∉ o.calls) :
    o.engine (e.turn w t) = (o.engine e).turn w (o.rank t) := by
  cases ha : e.activity? t with
  | none =>
    rw [Engine.turn_of_none w ha, Engine.turn_of_none w ((engine_activity? hk).trans ha)]
  | some a =>
    simp only [Engine.turn, ha, (engine_activity? hk).trans ha] at hn ⊢
    by_cases h0 : t = 0
    · subst h0
      obtain ⟨stage,rfl⟩ := hst.first a ha
      exact engine_loopTurn h.worker ht w stage hn
    rcases hst.others t a h0 ha with hc | ⟨s,c,rfl,_⟩
    · cases a with
      | call c => exact engine_callTurn hk h.worker ht (h.heeded t _ ha hk)
      | watch v => exact engine_watchTurn hk (h.heeded t _ ha hk)
      | shutdown begun => exact engine_shutdownTurn hk h.worker ht h.gone begun
      | _ => simp [Activity.isCaller] at hc
    · exact engine_analysisTurn h.worker w hk s c

def leavesOut (o : Omission) (e : Engine P) : Request → Bool
  | .call _ => e.tickets ∈ o.calls
  | .cancel token => token ∈ o.tokens
  | _ => false

def move? (o : Omission) (e : Engine P) : Engine.Move → Option Service.Move
  | .ask r => if o.leavesOut e r then none else some (.ask r)
  | .turn place =>
    ((e.ready[place]?).bind o.ticket?).map fun _ => .turn (o.tickets (e.ready.take place)).length
  | .alarms => some .alarms
  | .hangUp => some .hangUp
  | _ => none

def reply (o : Omission) : Reply → Reply
  | .started t => .started (o.rank t)
  | r => r

theorem engine_receive (h : o.Spares e) {x : Option Ticket} (ht : e.Tidy x) {r : Request}
    (hm : o.Admits w e (.ask r)) (hk : o.leavesOut e r = false) :
    (⟨w, {}, o.engine e⟩ : Service P).receive r =
      (⟨w, {}, o.engine ((⟨w, {}, e⟩ : Service P).receive r).1.engine⟩,
        o.reply ((⟨w, {}, e⟩ : Service P).receive r).2) := by
  have h0 := h.worker
  cases r with
  | openDocument id text =>
    simp only [Service.receive, engine_noteOpened h0 ht]
    cases e.noteOpened id text <;> rfl
  | change id text =>
    simp only [Service.receive, engine_noteChanged h0 ht]
    cases e.noteChanged id text <;> rfl
  | close id =>
    simp only [Service.receive, engine_noteClosed ht]
    cases e.noteClosed id <;> rfl
  | analyse id =>
    simp only [Service.receive, engine_requestAnalysis h0 ht]
    cases e.requestAnalysis id <;> rfl
  | analyseAll ids =>
    simp only [Service.receive, engine_requestAnalyses h0 ids ht]
    rcases e.requestAnalyses ids with ⟨e',_ | _⟩ <;> rfl
  | call c =>
    have hc : e.tickets ∉ o.calls := by simpa [leavesOut] using hk
    simp only [Service.receive, Service.begin, engine_start hc]
    rfl
  | cancel token =>
    have hc : token ∉ o.tokens := by simpa [leavesOut] using hk
    simp only [Service.receive, engine_cancel hc]
    rfl
  | shutdown =>
    have hc : e.tickets ∉ o.calls := by
      intro hc
      obtain ⟨token,hw⟩ := hm.waits hc (Nat.lt_succ_self _)
      simp [Engine.wait?, Service.Move.engine] at hw
    simp only [Service.receive, Service.begin, engine_start hc]
    rfl
  | abandon => exact absurd rfl hm.held
  | release permits =>
    have hg : ∀ g, e.gate = some g → ∀ u ∈ g.waiting, u ∉ o.calls := by
      intro g hg u hu
      refine h.gate u ?_
      rw [Engine.atGate, hg]
      exact hu
    simp only [Service.receive, engine_release hg]
    rfl
  | advance ms => rfl

theorem engine_receive_gone (h : o.Spares e) {x : Option Ticket} (ht : e.Tidy x) {r : Request}
    (hk : o.leavesOut e r = true) :
    o.engine ((⟨w, {}, e⟩ : Service P).receive r).1.engine = o.engine e := by
  cases r with
  | call c => exact engine_start_gone (by simpa [leavesOut] using hk) _
  | cancel token =>
    have hc : token ∈ o.tokens := by simpa [leavesOut] using hk
    refine engine_cancel_gone hc ht fun u v hu hv => ?_
    by_contra hn
    exact h.heeded u _ hu hn token hv hc
  | _ => simp [leavesOut] at hk

theorem engine_move (h : o.Spares e) (hs : e.Steady) (hm : o.Admits w e m) :
    o.engine (e.move w m.engine) =
      (o.engine e).after w ((o.move? e m.engine).toList.map Service.Move.engine) := by
  cases m with
  | ask r =>
    simp only [Service.Move.engine, move?, Engine.move]
    cases hk : o.leavesOut e r with
    | true => exact engine_receive_gone h hs.tidy hk
    | false =>
      have hreceive := engine_receive h hs.tidy hm hk
      simp [Engine.after, Engine.move, Service.Move.engine, hreceive]
  | turn place =>
    have hn := hm.waits
    simp only [Service.Move.engine, move?, Engine.move] at hn ⊢
    cases ht : e.ready[place]? with
    | none => rfl
    | some t =>
      simp only [ht, Option.bind_some] at hn ⊢
      have hr : o.Spares ({ e with ready := e.ready.eraseIdx place } : Engine P) := { h with }
      by_cases hk : t ∈ o.calls
      · rw [ticket?_gone hk, engine_turn_gone hk w fun a ha => hr.gone t a ha hk]
        simp only [engine, tickets_eraseIdx_gone ht hk]
        rfl
      · obtain ⟨hget,herase⟩ := tickets_eraseIdx ht hk
        have hturn := engine_turn hr (hs.tidy.taking ht) { hs.staffed with } hk fun hlt hc => by
          obtain ⟨token,hw⟩ := hn hc hlt
          simp [Engine.wait?] at hw
        rw [ticket?_kept hk, hturn]
        simp only [Option.map_some, Option.toList_some, List.map_cons, List.map_nil, Engine.after,
          List.foldl_cons, List.foldl_nil, Service.Move.engine, Engine.move]
        have hready : (o.engine e).ready = o.tickets e.ready := rfl
        rw [hready, hget]
        simp only [engine, herase]
  | alarms => exact engine_soundAlarms e
  | hangUp =>
    have hh : (o.engine e).abandoned = false := h.held
    simp only [Service.Move.engine, move?, Engine.move, Engine.hangUp_held h.held]
    exact (Engine.hangUp_held hh).symm

theorem engine_turning (h : o.Spares e) {β : Type} {g : Activity P → Option β}
    (hg : ∀ a, a.observes = true → g a = none) (m : Service.Move) :
    ((o.move? e m.engine).bind fun m' => ((o.engine e).turning? m'.engine).bind fun t =>
      ((o.engine e).activity? t).bind g) =
      (e.turning? m.engine).bind fun t => (e.activity? t).bind g := by
  cases m with
  | ask r =>
    simp only [Service.Move.engine, move?]
    cases o.leavesOut e r <;> rfl
  | turn place =>
    simp only [Service.Move.engine, move?, Engine.turning?]
    cases ht : e.ready[place]? with
    | none => rfl
    | some t =>
      by_cases hk : t ∈ o.calls
      · have hn : (e.activity? t).bind g = none := by
          cases ha : e.activity? t with
          | none => rfl
          | some a => exact hg a (h.gone t a ha hk)
        simp [ticket?_gone hk, hn]
      · have hget : (o.engine e).ready[(o.tickets (e.ready.take place)).length]? = some (o.rank t) :=
          (tickets_eraseIdx ht hk).1
        simp [ticket?_kept hk, hget, engine_activity? hk]
  | alarms => rfl
  | hangUp => rfl

theorem engine_consulted? (h : o.Spares e) (m : Service.Move) :
    ((o.move? e m.engine).bind fun m' => (o.engine e).consulted? m'.engine) = e.consulted? m.engine := by
  have hg : ∀ a : Activity P, a.observes = true → a.consults? (e.calls + 1) = none := by
    intro a ha
    cases a <;> simp [Activity.observes] at ha <;> rfl
  simp only [Engine.consulted?_eq]
  exact engine_turning h hg m

theorem engine_stored? (h : o.Spares e) (m : Service.Move) :
    ((o.move? e m.engine).bind fun m' => (o.engine e).stored? m'.engine) = e.stored? m.engine := by
  have hg : ∀ a : Activity P, a.observes = true → a.verdict?.bind e.store.stores? = none := by
    intro a ha
    cases a <;> simp [Activity.observes] at ha <;> rfl
  simp only [Engine.stored?_eq]
  exact engine_turning h hg m

def exchange? (o : Omission) : Request × Reply → Option (Request × Reply)
  | (.call c, .started t) => (o.ticket? t).map fun t => (.call c, .started t)
  | (.cancel token, reply) => if token ∈ o.tokens then none else some (.cancel token, reply)
  | (r, reply) => some (r, o.reply reply)

theorem engine_exchange? (h : o.Spares e) (hs : e.Steady) (hm : o.Admits w e m) :
    ((o.move? e m.engine).bind fun m' => (o.engine e).exchange? w m'.engine) =
      (e.exchange? w m.engine).bind o.exchange? := by
  cases m with
  | ask r =>
    simp only [Service.Move.engine, move?, Engine.exchange?, Option.bind_some]
    cases hk : o.leavesOut e r with
    | true =>
      cases r with
      | call c =>
        have hc : e.tickets ∈ o.calls := by simpa [leavesOut] using hk
        simp [exchange?, Service.receive, Service.begin, ticket?_gone hc]
      | cancel token =>
        have hc : token ∈ o.tokens := by simpa [leavesOut] using hk
        simp [exchange?, hc]
      | _ => simp [leavesOut] at hk
    | false =>
      simp only [Bool.false_eq_true, if_false, Option.bind_some, engine_receive h hs.tidy hm hk]
      cases r with
      | call c =>
        have hc : e.tickets ∉ o.calls := by simpa [leavesOut] using hk
        simp [exchange?, Service.receive, Service.begin, ticket?_kept hc, reply]
      | cancel token =>
        have hc : token ∉ o.tokens := by simpa [leavesOut] using hk
        simp [exchange?, Service.receive, hc, reply]
      | _ => rfl
  | turn place =>
    simp only [Service.Move.engine, move?, Engine.exchange?]
    cases (e.ready[place]?).bind o.ticket? <;> rfl
  | alarms => rfl
  | hangUp => rfl

theorem engine_isSettled (h : e.isSettled = true) : (o.engine e).isSettled = true := by
  simp only [Engine.isSettled, Bool.and_eq_true, List.isEmpty_iff, decide_eq_true_eq] at h ⊢
  refine ⟨?_, h.2⟩
  rw [engine, h.1]
  rfl

theorem admits_quiet (hp : ∀ t ∈ o.calls, t < e.tickets) (hw : e.wait? m.engine = none)
    (hm : m ≠ .ask .abandon) : o.Admits w e m := by
  refine ⟨hm, fun hc => absurd (hp _ hc) (Nat.lt_irrefl _), fun token ht => ?_⟩
  rw [hw] at ht
  simp at ht

inductive Stepped (o : Omission) (w : Worker P) (e : Engine P) : Prop where
  | seen (hs : (o.engine e).step w = o.engine (e.step w)) (hu : (o.engine e).isSettled = false)
  | unseen (hs : o.engine (e.step w) = o.engine e)

theorem stepped (h : o.Spares e) (hs : e.Steady) (hp : ∀ t ∈ o.calls, t < e.tickets)
    (hu : e.isSettled = false) (w : Worker P) :
    o.Stepped w e ∧ ∃ m, o.Admits w e m ∧ e.step w = e.move w m.engine := by
  cases hr : e.ready with
  | nil =>
    have hr' : (o.engine e).ready = [] := by
      rw [engine, hr]
      rfl
    refine ⟨.seen ?_ ?_, .alarms, admits_quiet hp rfl (by simp), by rw [Engine.step, hr]; rfl⟩
    · rw [Engine.step, Engine.step, hr, hr']
      exact (engine_soundAlarms e).symm
    · simp only [Engine.isSettled, hr, hr'] at hu ⊢
      exact hu
  | cons t rest =>
    have hm : o.Admits w e (.turn 0) := admits_quiet hp rfl (by simp)
    have hheld := (h.move hs hm).held
    have hstep : e.step w = e.move w (.turn 0) := (Engine.step_turn w hr).trans (Engine.hangUp_held hheld)
    have hengine : o.engine (e.step w) =
        (o.engine e).after w ((o.move? e (.turn 0)).toList.map Service.Move.engine) := by
      rw [hstep]
      exact engine_move h hs hm
    refine ⟨?_, .turn 0, hm, hstep⟩
    by_cases hk : t ∈ o.calls
    · refine .unseen ?_
      simpa [move?, hr, ticket?_gone hk, Engine.after] using hengine
    · have hready : (o.engine e).ready = o.rank t :: o.tickets rest := by
        simp [engine, hr, tickets, ticket?_kept hk]
      have hturn : (o.engine e).move w (.turn 0) = o.engine (e.step w) := by
        simpa [Service.Move.engine, move?, hr, ticket?_kept hk, Engine.after, tickets] using hengine.symm
      refine .seen ?_ (by simp [Engine.isSettled, hready])
      rw [Engine.step_turn w hready, hturn]
      exact Engine.hangUp_held (by rw [hstep]; exact hheld)

theorem engine_run (w : Worker P) (n : Nat) (h : o.Spares e) (hs : e.Steady)
    (hp : ∀ t ∈ o.calls, t < e.tickets) : ∃ k ≤ n, (o.engine e).run w k = o.engine (e.run w n) := by
  induction n generalizing e with
  | zero => exact ⟨0, Nat.le_refl _, rfl⟩
  | succ n ih =>
    cases hu : e.isSettled with
    | true =>
      refine ⟨0, Nat.zero_le _, ?_⟩
      rw [Engine.run_settled w hu]
      rfl
    | false =>
      obtain ⟨hstepped,m,hm,hstep⟩ := stepped h hs hp hu w
      rw [Engine.run_succ w hu]
      have hle := (Engine.moved w hs.orderly m.engine).tickets
      obtain ⟨k,hk,hrun⟩ := ih (e := e.step w) (hstep ▸ h.move hs hm) (hstep ▸ hs.move w m)
        fun t ht => hstep ▸ Nat.lt_of_lt_of_le (hp t ht) hle
      cases hstepped with
      | seen hseen hu' =>
        refine ⟨k + 1, Nat.succ_le_succ hk, ?_⟩
        rw [Engine.run_succ w hu', hseen, hrun]
      | unseen hseen => exact ⟨k, Nat.le_succ_of_le hk, by rw [← hseen, hrun]⟩

end Omission

end LiveAnalysis
