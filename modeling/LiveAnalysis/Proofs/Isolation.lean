import LiveAnalysis.Proofs.Parallel

namespace LiveAnalysis

variable {P : Type}

def Verdict.alarm? (s : Snapshot) (verdict : Verdict P) : Option Event :=
  (verdict.failure? s).map Notice.event

namespace Engine

def working (store : Store P) (order : List DocumentId) (gate : Option Gate) : Engine P :=
  ({ store, queue := { order, pending := order }, gate } : Engine P).start (.loop .idle)

section Loop

variable (w : Worker P) {e e₁ : Engine P} {t : Ticket} {stage : Stage P}

inductive Lasts (e e₁ : Engine P) (t : Ticket) : Prop where
  | goes (hu : ∃ stage, e₁.activity? t = some (.loop stage))
  | ends (hs : e.stopped = true ∨ e.queue.shutDown = true) (hx : (t,.stopped) ∈ e₁.ended)

theorem lasts_seek (hu : e.activity? t = some (.loop stage)) : Lasts e (e.seek t) t := by
  unfold seek
  split
  · rename_i hs
    exact .ends (Or.inl hs) (endLoop_ended e t)
  split
  · rename_i hq
    exact .ends (Or.inr hq) (endLoop_ended _ t)
  dsimp only
  split
  · rename_i s rest _
    refine .goes ⟨.underway s, ?_⟩
    rw [begin, activity?_start, activity?_set_self _ (by exact hu)]
    rfl
  · exact .goes ⟨.idle, activity?_set_self _ (by exact hu)⟩

theorem lasts_loopTurn (hu : e.activity? t = some (.loop stage)) : Lasts e (e.loopTurn w t stage) t := by
  cases stage with
  | idle => exact lasts_seek hu
  | underway s => exact .goes ⟨_,hu⟩
  | judged s verdict =>
    have hk := keeps_conclude w e s verdict
    rcases lasts_seek ((hk.activity? t).trans hu) with hu' | ⟨hs,hx⟩
    · exact .goes hu'
    · rw [hk.stopped, conclude_queue] at hs
      exact .ends hs hx

theorem judge_owner {u : Ticket} (ht : t ≠ u) (hu : e.activity? t = some (.loop stage)) (s : Snapshot)
    (call : Nat) : ∃ stage', (e.judge w u t s call).activity? t = some (.loop stage') := by
  refine ⟨.judged s (w.analyzer call s.text s.version), ?_⟩
  rw [judge, activity?_deliver, if_pos rfl, activity?_remove, if_neg ht, hu]

theorem analysisTurn_owner {u : Ticket} (ht : t ≠ u) (hu : e.activity? t = some (.loop stage)) (s : Snapshot)
    (c : Option Nat) : ∃ stage', (e.analysisTurn w u t s c).activity? t = some (.loop stage') := by
  cases c with
  | some call => exact judge_owner w ht hu s call
  | none =>
    simp only [analysisTurn]
    split
    · exact judge_owner w ht (by exact hu) s _
    · split
      · exact judge_owner w ht (by exact hu) s _
      · refine ⟨stage, ?_⟩
        rw [activity?_set, if_neg ht]
        exact hu

theorem loop_move (ho : e.Orderly) (hu : e.activity? t = some (.loop stage)) (m : Move) :
    (∃ stage', (e.move w m).activity? t = some (.loop stage')) ∨ e.turning? m = some t ∧
      (e.stopped = true ∨ e.queue.shutDown = true) ∧ (t,.stopped) ∈ (e.move w m).ended := by
  rcases (moved w ho m).others t _ hu with hk | ht | ⟨_,u,s,c,ht,ha⟩
  · exact Or.inl ⟨_,hk⟩
  · obtain ⟨ready,he⟩ := move_turning w ht
    have hl : Lasts ({ e with ready } : Engine P) (e.move w m) t := by
      have hu' : ({ e with ready } : Engine P).activity? t = some (.loop stage) := hu
      rw [he, turn, hu']
      exact lasts_loopTurn w hu'
    cases hl with
    | goes hg => exact Or.inl hg
    | ends hs hx => exact Or.inr ⟨ht,hs,hx⟩
  · obtain ⟨ready,he⟩ := move_turning w ht
    have hne : t ≠ u := by
      rintro rfl
      simp [hu] at ha
    have hu' : ({ e with ready } : Engine P).activity? u = some (.analysis t s c) := ha
    left
    rw [he, turn, hu']
    exact analysisTurn_owner w hne (by exact hu) s c

theorem loop_after (ho : e.Orderly) (hu : e.activity? t = some (.loop stage)) (run : List Move) :
    (∃ stage', (e.after w run).activity? t = some (.loop stage')) ∨
      (t,.stopped) ∈ (e.after w run).ended ∧ ∃ before m after, run = before ++ m :: after ∧
        (e.after w before).turning? m = some t ∧
        ((e.after w before).stopped = true ∨ (e.after w before).queue.shutDown = true) := by
  induction run using List.reverseRecOn with
  | nil => exact Or.inl ⟨stage,hu⟩
  | append_singleton run m ih =>
    have ho' := ho.after w run
    rw [after_concat]
    rcases ih with ⟨stage',hu'⟩ | ⟨hx,before,m',after,rfl,ht,hs⟩
    · rcases loop_move w ho' hu' m with hg | ⟨ht,hs,hx⟩
      · exact Or.inl hg
      · exact Or.inr ⟨hx, run, m, [], rfl, ht, hs⟩
    · refine Or.inr ⟨?_, before, m', after ++ [m], by simp, ht, hs⟩
      rcases (moved w ho' m).ended with he | ⟨_,_,_,_,_,he,_⟩
      · rwa [he]
      · rw [he]
        exact List.mem_append_left _ hx

end Loop

theorem conclude_alarm (w : Worker P) (e : Engine P) {s : Snapshot} {verdict : Verdict P} {alarm : Event}
    (h : verdict.alarm? s = some alarm) :
    e.conclude w s verdict = ({ e with events := e.events ++ [alarm] }, .failed) := by
  cases verdict with
  | found payload => simp [Verdict.alarm?, Verdict.failure?] at h
  | failed reason =>
    cases h
    rfl
  | panicked =>
    cases h
    rfl

/-- Who made an attempt that failed goes on: a loop as if it had had nothing to do. -/
def failing (w : Worker P) (e : Engine P) (t : Ticket) : Engine P :=
  match e.activity? t with
  | some (.loop _) => e.loopTurn w t .idle
  | _ => e.finish t (.treated .failed)

theorem mute_failing (w : Worker P) (e : Engine P) (t : Ticket) : e.Mute (e.failing w t) := by
  unfold failing
  split
  · exact e.mute_seek t
  · exact e.mute_finish t _

theorem failed_attempt (w : Worker P) {e : Engine P} {m : Move} {s : Snapshot} {verdict : Verdict P}
    {alarm : Event} (h : e.attempt? m = some (s,verdict)) (ha : verdict.alarm? s = some alarm) :
    ∃ t ready, e.turning? m = some t ∧
      e.move w m = ({ e with ready, events := e.events ++ [alarm] } : Engine P).failing w t := by
  obtain ⟨t,ht,h⟩ := Option.bind_eq_some_iff.mp h
  obtain ⟨a,hu,hv⟩ := Option.bind_eq_some_iff.mp h
  obtain ⟨ready,he⟩ := move_turning w ht
  refine ⟨t, ready, ht, ?_⟩
  have hu₁ : ({ e with ready } : Engine P).activity? t = some a := hu
  have hu₂ : ({ e with ready, events := e.events ++ [alarm] } : Engine P).activity? t = some a := hu
  rw [he, turn, hu₁, failing, hu₂]
  cases a with
  | loop stage =>
    cases stage with
    | judged s' verdict' =>
      cases hv
      simp only [loopTurn, conclude_alarm w _ ha]
    | _ => simp [Activity.verdict?] at hv
  | process id stage =>
    cases stage with
    | judged s' verdict' =>
      cases hv
      simp only [processTurn, conclude_alarm w _ ha]
    | _ => simp [Activity.verdict?] at hv
  | _ => simp [Activity.verdict?] at hv

section Working

variable {store : Store P} (hv : store.Valid) (order : List DocumentId) {gate : Option Gate}

theorem working_activity? (store : Store P) (order : List DocumentId) (gate : Option Gate) (u : Ticket) :
    (working store order gate).activity? u = if u = 0 then some (.loop .idle) else none := by
  rw [working, activity?_start]
  rfl

include hv

theorem working_orderly : (working store order gate).Orderly := by
  have ho : ({ store, queue := { order, pending := order }, gate } : Engine P).Orderly :=
    { valid := hv
      clock := Nat.zero_le _
      alarmed := Nat.le_refl _
      numbered := by simp [activity?]
      ended := by simp
      once := by simp
      watched := by simp [activity?] }
  exact ho.move ⟨fun _ _ _ => .panicked, false⟩ (.start .loop)

theorem working_steady (hg : ∀ g, gate = some g → g.waiting = []) : (working store order gate).Steady where
  orderly := working_orderly hv order
  staffed :=
    { begun := Nat.zero_lt_one
      first := fun a ha => by
        rw [working_activity?, if_pos rfl] at ha
        exact ⟨.idle, (Option.some.inj ha).symm⟩
      others := fun u a hne hu => by simp [working_activity?, hne] at hu
      sole := fun u u' s s' c c' hu => by
        rw [working_activity?] at hu
        split at hu <;> simp at hu
      shut := rfl }
  tidy :=
    { once := List.nodup_singleton _
      numbered := (working_orderly hv order).numbered
      begun := Nat.zero_lt_one
      ready := List.nodup_singleton _
      known := fun u hu => List.mem_singleton.mp hu ▸ Nat.zero_lt_one
      lines := rfl
      bell := fun u hu => absurd hu List.not_mem_nil
      gate := fun g hgate u hu => by
        rw [hg g hgate] at hu
        exact absurd hu List.not_mem_nil
      worker := fun a ha => by
        rw [working_activity?, if_pos rfl] at ha
        exact ⟨.idle, (Option.some.inj ha).symm⟩
      held := fun u hu => by
        rw [working_activity?] at hu
        split at hu <;> simp at hu
      eager := fun u a hu hf hc => by
        rw [working_activity?] at hu
        split at hu
        · cases hu
          simp [Activity.isCaller] at hc
        · simp at hu }

end Working

/-!
The second worker may differ from the first in what it finds for one document, and in when it fails there.
That one of the two runs is there when the other is holds as long as nobody lets go of the service: a call
that still waits for that document would hold it for as long as its analyses fail.
-/

theorem failures_isolated (w : Worker P) {store : Store P} (hv : store.Valid) (order : List DocumentId)
    {gate : Option Gate} (hg : ∀ g, gate = some g → g.waiting = []) :
    let first := working store order gate
    (∀ run : List Move,
      (∃ stage, (first.after w run).activity? 0 = some (.loop stage)) ∨
      (0,.stopped) ∈ (first.after w run).ended ∧ ∃ before m after, run = before ++ m :: after ∧
        (first.after w before).turning? m = some 0 ∧
        ((first.after w before).stopped = true ∨ (first.after w before).queue.shutDown = true)) ∧
    (∀ (run : List Move) m t owner s c, (first.after w run).turning? m = some t →
      (first.after w run).activity? t = some (.analysis owner s c) →
      (first.after w (run ++ [m])).store = (first.after w run).store ∧
      (first.after w (run ++ [m])).queue = (first.after w run).queue ∧
      (first.after w (run ++ [m])).events = (first.after w run).events) ∧
    (∀ (run : List Move) m s verdict alarm, (first.after w run).attempt? m = some (s,verdict) →
      verdict.alarm? s = some alarm →
      (first.after w (run ++ [m])).store = (first.after w run).store ∧
      (first.after w (run ++ [m])).events = (first.after w run).events ++ [alarm] ∧
      ∃ t ready, (first.after w run).turning? m = some t ∧ first.after w (run ++ [m]) =
        ({ first.after w run with ready, events := (first.after w run).events ++ [alarm] } :
          Engine P).failing w t) ∧
    ∀ (d : DocumentId) (w' : Worker P) (moves : List Service.Move),
      (∀ c ∈ first.consulted w (moves.map Service.Move.engine), Agreeing d w w' c) →
      (.ask .abandon ∉ moves → ∃ moves', first.deeds w moves = first.deeds w' moves') ∧
      ∀ moves', first.deeds w moves = first.deeds w' moves' →
        first.consulted w (moves.map Service.Move.engine) =
          first.consulted w' (moves'.map Service.Move.engine) ∧
        first.storedApart d w moves = first.storedApart d w' moves' := by
  intro first
  have hfirst : first.Steady := working_steady hv order hg
  have hloop : first.activity? 0 = some (.loop .idle) := by rw [working_activity?, if_pos rfl]
  refine ⟨loop_after w hfirst.orderly hloop, ?_, ?_, ?_⟩
  · intro run m t owner s c ht hu
    obtain ⟨ready,he⟩ := move_turning w ht
    have hu' : ({ first.after w run with ready } : Engine P).activity? t = some (.analysis owner s c) := hu
    rw [after_concat, he, turn, hu']
    have hm := mute_analysisTurn (w := w) ({ first.after w run with ready } : Engine P) t owner s c
    exact ⟨hm.store, analysisTurn_queue w _ t owner s c, hm.events⟩
  · intro run m s verdict alarm h ha
    obtain ⟨t,ready,ht,he⟩ := failed_attempt w h ha
    have hm := mute_failing w
      ({ first.after w run with ready, events := (first.after w run).events ++ [alarm] } : Engine P) t
    rw [after_concat, he]
    exact ⟨hm.store, hm.events, t, ready, ht, rfl⟩
  · intro d w' moves hw
    have hp : Parallel d w w' first first :=
      { alike := .refl d first
        left := hfirst
        right := hfirst
        numbered := fun t owner s call hu => by
          rw [working_activity?] at hu
          split at hu <;> simp at hu }
    exact ⟨fun hm => hp.matched rfl hm hw, fun moves' hd => hp.run moves moves' hd hw⟩

theorem failures_isolated_panicked :
    let a : DocumentId := ⟨"file:///a"⟩
    let b : DocumentId := ⟨"file:///b"⟩
    let store : Store String := ⟨[⟨b,2,"let y = 2",⟨0⟩,{}⟩, ⟨a,1,"let x = 1",⟨0⟩,{}⟩]⟩
    let panics : Worker String := ⟨fun call text _ => if call = 1 then .panicked else .found text, true⟩
    let finds : Worker String := ⟨fun _ text _ => .found text, true⟩
    let first := working store [a,b] none
    let moves : List Service.Move := [.ask (.call (.wait a none 1000 none)), .turn 0, .turn 0, .turn 0,
      .turn 0, .turn 0, .turn 0]
    let moves' : List Service.Move := [.ask (.call (.wait a none 1000 none)), .turn 0, .turn 0, .turn 0,
      .turn 0, .turn 0, .turn 0, .turn 0]
    store.Valid ∧ (∀ g, (none : Option Gate) = some g → g.waiting = []) ∧
    (∀ c ∈ first.consulted panics (moves.map Service.Move.engine), Agreeing a panics finds c) ∧
    first.deeds panics moves = first.deeds finds moves' ∧
    first.storedApart a panics moves = [(⟨b,"let y = 2",⟨0⟩,2⟩,"let y = 2")] ∧
    first.storedApart a finds moves' = [(⟨b,"let y = 2",⟨0⟩,2⟩,"let y = 2")] := by
  intro a b store panics finds first moves moves'
  have hv : store.Valid := ⟨by decide, by decide, by decide⟩
  have hg : ∀ g, (none : Option Gate) = some g → g.waiting = [] := by simp
  have hw : ∀ c ∈ first.consulted panics (moves.map Service.Move.engine), Agreeing a panics finds c := by
    have hc : first.consulted panics (moves.map Service.Move.engine) =
        [(1,⟨a,"let x = 1",⟨0⟩,1⟩), (2,⟨b,"let y = 2",⟨0⟩,2⟩)] := by
      decide +kernel
    rw [hc]
    intro c hin
    rcases List.mem_cons.mp hin with rfl | hin
    · exact fun hd => absurd rfl hd
    · obtain rfl := List.mem_singleton.mp hin
      exact fun _ => rfl
  have hd : first.deeds panics moves = first.deeds finds moves' := by decide +kernel
  have hs : first.storedApart a panics moves = [(⟨b,"let y = 2",⟨0⟩,2⟩,"let y = 2")] := by decide +kernel
  obtain ⟨_,_,_,hruns⟩ := failures_isolated panics hv [a,b] hg
  exact ⟨hv, hg, hw, hd, hs, ((hruns a finds moves hw).2 moves' hd).2 ▸ hs⟩

end Engine

end LiveAnalysis
